import WeatherTables.Proofs.Adapter.CallSite
import WeatherTables.Proofs.Bundle.Connectives
import WeatherTables.Proofs.Filter.Shape

/-!
# Only the shape of a filter can fail a pushdown

A pushdown is read, resolved, arranged as a bundle and rendered as a statement. Once the request has
properties, a log and a table, of all these steps only the first can fail: `value_handle_pushdown` gives
the answer in terms of the bundle of the filter, and `value_bundleFor_some` says that there is a bundle
whenever the filter can be read. What can be read is a matter of shape (`Filter.succeeds_ofJson_iff`).
-/

set_option autoImplicit false

namespace WeatherTables

namespace Adapter

/-- A filter that is not null has a bundle if it can be read, and otherwise the error of reading it. -/
theorem value_bundleFor_some {filter : Json} (there : filter ≠ .null) :
    (bundleFor (some filter)).value =
      ((Filter.ofJson filter).mapError AdapterFailure.data).map (Filter.bundle .standard) := by
  have kept : (some filter).filter (fun v => !v.isNull) = some filter := by
    cases filter with
    | null => exact absurd rfl there
    | bool | number | string | array | object => rfl
  simp only [bundleFor, kept]
  cases Filter.ofJson filter <;> rfl

/-- There is a bundle unless there is a filter of the wrong shape. -/
theorem succeeds_bundleFor_iff (filter : Option Json) :
    Succeeds (bundleFor filter).value ↔
      ∀ v, filter = some v → v = .null ∨ Filter.WellShaped v := by
  cases filter with
  | none => exact iff_of_true ⟨.empty, rfl⟩ nofun
  | some v =>
    simp only [Option.some.injEq, forall_eq']
    by_cases hnull : v = .null
    · subst hnull
      exact iff_of_true ⟨.empty, rfl⟩ (.inl rfl)
    · rw [value_bundleFor_some hnull, succeeds_map_iff, succeeds_mapError_iff,
        Filter.succeeds_ofJson_iff, or_iff_right hnull]

/-- If there is no bundle, then because the filter cannot be read. -/
theorem exists_of_bundleFor_error {filter : Option Json} {failure : AdapterFailure}
    (h : (bundleFor filter).value = .error failure) :
    ∃ v e, filter = some v ∧ Filter.ofJson v = .error e ∧ failure = .data e := by
  cases filter with
  | none => cases h
  | some v =>
    by_cases hnull : v = .null
    · subst hnull
      cases h
    · rw [value_bundleFor_some hnull] at h
      cases he : Filter.ofJson v with
      | ok f =>
        rw [he] at h
        cases h
      | error e =>
        rw [he] at h
        cases h
        exact ⟨v, e, rfl, he, rfl⟩

section Answer

variable (settings : Settings) {request : String} {v : Json} {properties : Properties} {log : Logging}
  {table : String} {method : Method}

/-- For a table with a method, a pushdown fails only where its filter does, and is otherwise the
statement with the bundle of that filter. -/
theorem value_pushdown (htable : queriedMethod (query v) = .ok (table, method)) :
    (pushdown settings v properties log).value =
      (bundleFor ((query v).member? "filter")).value.map fun filters =>
        (handlerCall settings properties log method filters).statement settings.scriptSchema := by
  simp only [pushdown, htable, Traced.value_bind]
  cases (bundleFor ((query v).member? "filter")).value <;> rfl

variable (read : Json.read? request = some v)
  (kind : (v.member? "type").bind Json.string? = some "pushdown")
  (hproperties : Properties.ofRequest v = .ok properties) (hlog : properties.logging = .ok log)
  (htable : queriedMethod (query v) = .ok (table, method))
include read kind hproperties hlog htable

/-- A pushdown with properties, a log and a table is answered with the statement for the bundle of its
filter, and has no answer only if there is no bundle. -/
theorem value_handle_pushdown :
    (handle settings request).value =
      (bundleFor ((query v).member? "filter")).value.map fun filters =>
        (answer ((handlerCall settings properties log method filters).statement
          settings.scriptSchema)).text := by
  have hread : readRequest v = .ok ("pushdown", properties, log) :=
    (readRequest_eq_ok_iff kind _).2 ⟨properties, log, hproperties, hlog, rfl⟩
  simp only [handle, read, hread, Traced.value_bind, value_response, value_pushdown settings htable]
  cases (bundleFor ((query v).member? "filter")).value <;> rfl

/-- A pushdown with valid properties, a valid log and a known table is answered if it has no filter, or
null for one, or a filter of the right shape, whatever the filter says. Otherwise its error is that of
reading the filter. And exactly the filters of the right shape can be read. -/
theorem answered_iff_wellShaped :
    ((∃ response, (handle settings request).value = .ok response) ↔
      ∀ filter, (query v).member? "filter" = some filter →
        filter = .null ∨ Filter.WellShaped filter) ∧
    ((¬ ∃ response, (handle settings request).value = .ok response) →
      ∃ filter e, (query v).member? "filter" = some filter ∧ Filter.ofJson filter = .error e ∧
        (handle settings request).value = .error (.data e)) ∧
    ∀ filter, (∃ f, Filter.ofJson filter = .ok f) ↔ Filter.WellShaped filter := by
  have answer := value_handle_pushdown settings read kind hproperties hlog htable
  have answered : (∃ response, (handle settings request).value = .ok response) ↔
      Succeeds (bundleFor ((query v).member? "filter")).value := by
    rw [answer]
    exact succeeds_map_iff _ _
  refine ⟨answered.trans (succeeds_bundleFor_iff _), ?_, Filter.succeeds_ofJson_iff⟩
  rw [answered, not_succeeds_iff]
  rintro ⟨failure, hfailure⟩
  obtain ⟨filter, e, there, unread, rfl⟩ := exists_of_bundleFor_error hfailure
  refine ⟨filter, e, there, unread, ?_⟩
  rw [answer, hfailure]
  rfl

end Answer

/-- A pushdown request with the given filter. -/
def requestWith (filter : Json) : Json :=
  .object [("filter", filter), ("from", .object [("name", .string "FORECAST")]),
    ("schemaMetadataInfo", .object [("properties", .object [("API_KEY", .string "k")])]),
    ("type", .string "pushdown")]

/-- A request is read back from its text if its filter is regular and leaves room for what is around it. -/
theorem read?_requestWith {filter : Json} (h : Json.Regular 126 filter) :
    Json.read? (requestWith filter).text = some (requestWith filter) := by
  apply Json.read?_text
  simp only [requestWith, Json.depthLimit, Json.regular_object_iff, Json.Regular.string,
    List.pairwise_cons, List.forall_mem_cons, List.not_mem_nil, List.Pairwise.nil,
    false_implies, implies_true, and_true, h]
  decide

/-- A filter in the array form, of an unknown kind and with an unknown column, an argument in the array
form and one without any field. -/
def looseFilter : Json :=
  .array [.string "predicate_not", .null, .object [("name", .string "WIND"), ("unit", .bool true)],
    .array [.array [.null, .null, .bool true], .object []]]

/-- A filter that is right but for a null among its children. -/
def brokenFilter : Json :=
  .object [("expressions", .array [.null])]

/-- The loose filter is regular and leaves room for the request around it. -/
theorem regular_looseFilter : Json.Regular 126 looseFilter := by
  simp only [looseFilter, Json.regular_array_iff, Json.regular_object_iff, Json.Regular.string,
    Json.Regular.null, Json.Regular.bool, List.pairwise_cons, List.forall_mem_cons, List.not_mem_nil,
    List.Pairwise.nil, false_implies, implies_true, and_true, true_and]
  decide

/-- The one is answered, and the other refused because of its shape. -/
theorem answered_of_looseFilter :
    Json.read? (requestWith looseFilter).text = some (requestWith looseFilter) ∧
      Json.read? (requestWith brokenFilter).text = some (requestWith brokenFilter) ∧
      Filter.WellShaped looseFilter ∧ ¬ Filter.WellShaped brokenFilter ∧
      (∃ response, (handle .standard (requestWith looseFilter).text).value = .ok response) ∧
      ∃ e, (handle .standard (requestWith brokenFilter).text).value = .error (.data e) := by
  have readLoose := read?_requestWith regular_looseFilter
  have broken : Json.Regular 126 brokenFilter := by
    simp [brokenFilter, Json.regular_object_iff, Json.regular_array_iff, Json.Regular.null]
  have readBroken := read?_requestWith broken
  obtain ⟨loose, -, shape⟩ := answered_iff_wellShaped .standard readLoose rfl rfl rfl rfl
  obtain ⟨refused, failure, -⟩ :=
    answered_iff_wellShaped .standard readBroken rfl rfl rfl rfl
  have looseShaped : Filter.WellShaped looseFilter := (shape looseFilter).1 ⟨_, rfl⟩
  have brokenShape : ¬ Filter.WellShaped brokenFilter := by
    rw [← shape]
    exact nofun
  refine ⟨readLoose, readBroken, looseShaped, brokenShape, loose.2 ?_, ?_⟩
  · rintro filter found
    obtain rfl : looseFilter = filter := Option.some.inj found
    exact .inr looseShaped
  · have notAnswered : ¬ ∃ response, (handle .standard (requestWith brokenFilter).text).value =
        .ok response := by
      rw [refused]
      intro shaped
      rcases shaped brokenFilter rfl with null | isShaped
      · cases null
      · exact brokenShape isShaped
    obtain ⟨_, e, -, -, he⟩ := failure notAnswered
    exact ⟨e, he⟩

end Adapter

end WeatherTables
