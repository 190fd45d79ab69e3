import WeatherTables.Proofs.Adapter.CallSite
import WeatherTables.Proofs.Filter.Leaves

/-!
# What a pushdown reports does not depend on the key

The key of the weather service goes into one argument of the statement and nowhere else. Two pushdowns
that differ only in the key are compared: `pushdown_withKey` shows that neither what they report nor
whether they fail looks at the key, because the statement is reported with the key hidden, and
`HandlerCall.readStatement_statement` finds the key again in the fourth literal of the statement itself.
-/

set_option autoImplicit false

namespace WeatherTables

namespace HandlerCall

/-- The literals of a statement that calls the script in the given schema, and what follows them. -/
def readStatement (schema sql : String) : Option (List String × String) := do
  let rest ← sql.toList.dropPrefix? (statementStart schema).toList
  let (literals, after) ← Sql.readList rest
  return (literals, String.ofList after)

/-- A statement is read as the arguments of its call and the columns of its table. -/
theorem readStatement_statement (c : HandlerCall) (schema : String) :
    readStatement schema (c.statement schema) =
      some (c.arguments, " EMITS (" ++ emits c.method.table ++ ")") := by
  have list : (Sql.list c.arguments).toList = Sql.listChars c.arguments := String.toList_ofList
  unfold readStatement
  rw [statement_eq, String.toList_append, String.toList_append, list,
    List.dropPrefix?_append_of_beq _ (beq_self_eq_true _), Option.bind_eq_bind, Option.bind_some,
    Sql.readList_append]
  exact congrArg (fun after => some (c.arguments, after)) (String.ofList_toList)

end HandlerCall

/-! ## How records begin -/

/-- What the record of a pushdown's statement begins with. -/
def statementNotice : String :=
  "Adapter SQL: "

/-- The record is not that of a statement. -/
def Record.Unrelated (r : Record) : Prop :=
  ∀ text, r.message ≠ statementNotice ++ text

/-- A text still starts the same when another is put behind it. -/
theorem prefix_toList_append {cs : List Char} {s : String} (h : cs <+: s.toList) (t : String) :
    cs <+: (s ++ t).toList := by
  rw [String.toList_append]
  exact h.trans (List.prefix_append _ _)

/-- Two letters are enough to tell a record from that of a statement. -/
theorem Record.unrelated_of_prefix {r : Record} {a b : Char} (h : [a, b] <+: r.message.toList)
    (differ : [a, b] ≠ ['A', 'd']) : r.Unrelated := by
  intro text same
  have notice : ['A', 'd'] <+: (statementNotice ++ text).toList :=
    prefix_toList_append (by decide) text
  rw [same] at h
  exact differ ((List.prefix_of_prefix_length_le h notice (Nat.le_refl 2)).eq_of_length rfl)

/-- No warning about a leaf is the record of a statement. -/
theorem LeafError.unrelated_message (e : LeafError) : (Record.warning e.message).Unrelated := by
  cases e with
  | unknownColumn column =>
    refine Record.unrelated_of_prefix (a := 'E') (b := '-') ?_ (by decide)
    exact prefix_toList_append (prefix_toList_append (by decide) _) _
  | looksNumeric column value | notNumeric column value | notWhole column value =>
    refine Record.unrelated_of_prefix (a := 'E') (b := '-') ?_ (by decide)
    exact prefix_toList_append (prefix_toList_append (prefix_toList_append
      (prefix_toList_append (by decide) _) _) _) _
  | noColumnWithLiteral found =>
    refine Record.unrelated_of_prefix (a := 'E') (b := 'q') ?_ (by decide)
    exact prefix_toList_append (by decide) _
  | unknownPredicate kind =>
    refine Record.unrelated_of_prefix (a := 'P') (b := 'r') ?_ (by decide)
    exact prefix_toList_append (prefix_toList_append (by decide) _) _

/-- Nor is the record of a leaf, be it translated or dropped. -/
theorem Leaf.unrelated_record (rules : RuleTable) (leaf : Leaf) : (leaf.record rules).Unrelated := by
  unfold record
  split
  · refine Record.unrelated_of_prefix (a := 'F') (b := 'i') ?_ (by decide)
    exact prefix_toList_append (prefix_toList_append (prefix_toList_append
      (prefix_toList_append (by decide) _) _) _) _
  · exact LeafError.unrelated_message _

namespace Adapter

/-- Translating a filter never writes the record of a statement. -/
theorem unrelated_of_mem_bundleOf {rules : RuleTable} {filter : Filter} {r : Record}
    (h : r ∈ (bundleOf rules filter).records) : r.Unrelated := by
  have records : (bundleOf rules filter).records = (filter.resolve rules).records :=
    List.append_nil _
  rw [records, Filter.records_resolve] at h
  obtain ⟨leaf, -, rfl⟩ := List.mem_map.1 h
  exact leaf.unrelated_record rules

/-- Nor does reading the filter of a request and translating it. -/
theorem unrelated_of_mem_bundleFor {filter : Option Json} {r : Record}
    (h : r ∈ (bundleFor filter).records) : r.Unrelated := by
  unfold bundleFor at h
  split at h
  · obtain rfl : r = _ := List.mem_singleton.1 h
    exact Record.unrelated_of_prefix (a := 'P') (b := 'u') (by decide) (by decide)
  · split at h
    · cases h
    · next f _ =>
      simp only [Traced.records_bind, Traced.records_report, Traced.records_pure, List.append_nil,
        List.mem_append, List.mem_singleton] at h
      rcases h with rfl | h | rfl
      · exact Record.unrelated_of_prefix (a := 'F') (b := 'i') (prefix_toList_append (by decide) _)
          (by decide)
      · exact unrelated_of_mem_bundleOf h
      · exact Record.unrelated_of_prefix (a := 'A') (b := 'P') (prefix_toList_append (by decide) _)
          (by decide)

/-- The first record of a pushdown on a known table. -/
def tableNotice (table : String) (method : Method) : Record :=
  .info ("Pushdown on table " ++ table ++ " via '" ++ method.name ++ "'")

/-- The notice of the table is not the record of a statement. -/
theorem unrelated_tableNotice (table : String) (method : Method) :
    (tableNotice table method).Unrelated := by
  refine Record.unrelated_of_prefix (a := 'P') (b := 'u') ?_ (by decide)
  exact prefix_toList_append (prefix_toList_append (prefix_toList_append
    (prefix_toList_append (by decide) _) _) _) _

section Runs

variable (settings : Settings) (request : Json) (properties : Properties) (log : Logging)

/-- A pushdown either fails or answers with the statement of a call. The records, the failure and the
call are those of every key, but for the key of the call. -/
theorem pushdown_withKey :
    (∃ failure records, ∀ key,
      pushdown settings request { properties with apiKey := key } log = ⟨.error failure, records⟩) ∨
    ∃ (call : HandlerCall) (earlier : List Record), (∀ r ∈ earlier, r.Unrelated) ∧ ∀ key,
      pushdown settings request { properties with apiKey := key } log =
        ⟨.ok (HandlerCall.statement { call with apiKey := key } settings.scriptSchema),
          earlier ++
            [.info (statementNotice ++ call.withHiddenKey.statement settings.scriptSchema)]⟩ := by
  cases hmethod : queriedMethod (query request) with
  | error e =>
    refine .inl ⟨e, [], fun key => ?_⟩
    simp only [pushdown, hmethod]
    rfl
  | ok found =>
    obtain ⟨table, method⟩ := found
    have ofBundle : ∀ r ∈ (bundleFor ((query request).member? "filter")).records, r.Unrelated :=
      fun r h => unrelated_of_mem_bundleFor h
    -- The bundle is found before the key is looked at, so it can be named once for all keys.
    obtain ⟨⟨value, records⟩, hfilters⟩ :
        ∃ found, bundleFor ((query request).member? "filter") = found := ⟨_, rfl⟩
    cases value with
    | error e =>
      refine .inl ⟨e, tableNotice table method :: (records ++ []), fun key => ?_⟩
      simp only [pushdown, hmethod, hfilters]
      rfl
    | ok filters =>
      refine .inr ⟨handlerCall settings properties log method filters,
        tableNotice table method :: records, ?_, fun key => ?_⟩
      · rw [hfilters] at ofBundle
        exact List.forall_mem_cons.2 ⟨unrelated_tableNotice table method, ofBundle⟩
      · simp only [pushdown, hmethod, hfilters]
        rfl

/-- Two pushdowns that differ in the key alone report the same and fail alike. Where they succeed, their
statements and the one that is reported are read as the same seven literals with the same columns,
except for the fourth literal: it is the key in each statement, and hidden in the report. -/
theorem pushdown_hides_key (key other : String) :
    let run := fun key => pushdown settings request { properties with apiKey := key } log
    let read := HandlerCall.readStatement settings.scriptSchema
    (run key).records = (run other).records ∧
    ((∃ failure, (run key).value = .error failure ∧ (run other).value = .error failure) ∨
      ∃ sql otherSql logged earlier, (run key).value = .ok sql ∧ (run other).value = .ok otherSql ∧
        (run key).records = earlier ++ [.info (statementNotice ++ logged)] ∧
        (∀ r ∈ earlier, r.Unrelated) ∧
        ∃ host method bundle logHost logNumber logLevel columns,
          let literals := fun key => [host, method, bundle, key, logHost, logNumber, logLevel]
          let clause := " EMITS (" ++ columns ++ ")"
          read sql = some (literals key, clause) ∧ read otherSql = some (literals other, clause) ∧
          read logged = some (literals HandlerCall.hiddenKey, clause)) := by
  intro run read
  rcases pushdown_withKey settings request properties log with
    ⟨failure, records, fails⟩ | ⟨call, earlier, unrelated, succeeds⟩
  · have failed : ∀ key, run key = ⟨.error failure, records⟩ := fails
    rw [failed, failed]
    exact ⟨rfl, .inl ⟨failure, rfl, rfl⟩⟩
  · have answered : ∀ key, run key = _ := succeeds
    rw [answered, answered]
    exact ⟨rfl, .inr ⟨_, _, _, earlier, rfl, rfl, rfl, unrelated, _, _, _, _, _, _, _,
      HandlerCall.readStatement_statement _ _, HandlerCall.readStatement_statement _ _,
      HandlerCall.readStatement_statement _ _⟩⟩

end Runs

end Adapter

end WeatherTables
