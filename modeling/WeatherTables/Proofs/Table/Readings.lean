import WeatherTables.Proofs.Json.Readings
import WeatherTables.Proofs.Table.ForecastRows

/-!
# Rows depend on what the sources read

A cell depends on nothing but the string or number that its source reads, so payloads in which all sources
read the same have the same rows (`rows_eq_of_sameReadings`). That makes no difference between what is null,
absent or of a kind that is never read. `rows_depend_on_readings` says what can be done to a payload without
any effect: null members can be left out anywhere, and members can be put anywhere but on the paths of the
method.
-/

set_option autoImplicit false

namespace WeatherTables

/-! ## Cells -/

/-- What is neither a string nor a number makes an empty cell. -/
theorem Cell.ofValue_of_not_scalar {v : Json} (h : v.scalar? = none) (type : ColumnType)
    (i : Interpretation) : Cell.ofValue type i v = .null := by
  cases v with
  | number | string => cases h
  | null | bool | array | object => cases i <;> cases type <;> rfl

/-- What the source reads: the string or number that it leads to. -/
def Source.reading? (s : Source) (record city : Json) : Option Json :=
  (s.value? record city).bind Json.scalar?

/-- A source in the record reads what its path leads to there. -/
theorem Source.reading?_of_record {s : Source} (h : s.part = .record) (record city : Json) :
    s.reading? record city = record.reading? s.path := by
  rw [reading?, value?, h]
  rfl

/-- A source in the city reads what its path leads to there. -/
theorem Source.reading?_of_city {s : Source} (h : s.part = .city) (record city : Json) :
    s.reading? record city = city.reading? s.path := by
  rw [reading?, value?, h]
  rfl

/-- A cell is determined by what its source reads. -/
theorem Column.cell_eq (c : Column) (s : Source) (record city : Json) :
    c.cell s record city =
      ((s.reading? record city).map (Cell.ofValue c.type s.interpretation)).getD .null := by
  rw [cell, Source.reading?]
  cases s.value? record city with
  | none => rfl
  | some v =>
    cases v with
    | number | string => rfl
    | null | bool | array | object => exact Cell.ofValue_of_not_scalar rfl _ _

/-- A row is determined by what the sources read. -/
theorem Row.ofRecord_congr {table : Table} {sources : List Source} {record city record' city' : Json}
    (h : ∀ s ∈ sources, s.reading? record' city' = s.reading? record city) :
    ofRecord table sources record' city' = ofRecord table sources record city := by
  rw [ofRecord, ofRecord, Row.mk.injEq]
  refine ⟨rfl, List.map_congr_left fun p hp => ?_⟩
  rw [Column.cell_eq, Column.cell_eq, h p.2 (List.of_mem_zip hp).2]

namespace Method

/-! ## Payloads -/

/-- The sources of the method read the same in both payloads, record by record. -/
def SameReadings (m : Method) (payload other : Json) : Prop :=
  List.Forall₂ (fun record record' => ∀ s ∈ m.sources,
      s.reading? record' (m.cityPart other) = s.reading? record (m.cityPart payload))
    (m.records payload) (m.records other)

/-- Payloads in which the sources read the same have the same rows. -/
theorem rows_eq_of_sameReadings {m : Method} {ms others : Members}
    (h : m.SameReadings (.object ms) (.object others)) :
    m.rows (.object others) = m.rows (.object ms) := by
  have same : List.Forall₂ (· = ·)
      ((m.records (.object others)).map fun record =>
        Row.ofRecord m.table m.sources record (m.cityPart (.object others)))
      ((m.records (.object ms)).map fun record =>
        Row.ofRecord m.table m.sources record (m.cityPart (.object ms))) := by
    rw [List.forall₂_map_left_iff, List.forall₂_map_right_iff]
    exact h.flip.imp fun _ _ readings => Row.ofRecord_congr readings
  rw [List.forall₂_eq_eq_eq] at same
  rw [rows_ofObject, rows_ofObject, same]

/-- All sources of current weather read from the record. -/
theorem part_currentWeather : ∀ s ∈ Method.currentWeather.sources, s.part = .record := by
  decide

/-- For current weather it is enough that the paths of the sources lead to the same values. -/
theorem sameReadings_currentWeather {payload other : Json}
    (h : ∀ s ∈ Method.currentWeather.sources, other.reading? s.path = payload.reading? s.path) :
    Method.currentWeather.SameReadings payload other := by
  refine .cons (fun s hs => ?_) .nil
  have part := part_currentWeather s hs
  rw [Source.reading?_of_record part, Source.reading?_of_record part, h s hs]

/-- What the city has at a path is what the payload has at the path through its city. -/
theorem reading?_cityPart (ms : Members) (path : List String) :
    (Method.forecast.cityPart (.object ms)).reading? path =
      (Json.object ms).reading? ("city" :: path) := by
  rw [Json.reading?_cons, cityPart, Json.member?, Json.step?]
  cases Members.find? "city" ms with
  | none => exact Json.reading?_null path
  | some city => rfl

/-- For a forecast it is enough that this is so in the city and in each record. -/
theorem sameReadings_forecast {ms others : Members}
    (city : ∀ s ∈ Method.forecast.sources, s.part = .city →
      (Json.object others).reading? ("city" :: s.path) =
        (Json.object ms).reading? ("city" :: s.path))
    (records : List.Forall₂ (fun record record' => ∀ s ∈ Method.forecast.sources, s.part = .record →
        record'.reading? s.path = record.reading? s.path)
      (Method.forecast.records (.object ms)) (Method.forecast.records (.object others))) :
    Method.forecast.SameReadings (.object ms) (.object others) := by
  refine records.imp fun record record' same s hs => ?_
  cases part : s.part with
  | record => rw [Source.reading?_of_record part, Source.reading?_of_record part, same s hs part]
  | city =>
    rw [Source.reading?_of_city part, Source.reading?_of_city part, reading?_cityPart,
      reading?_cityPart, city s hs part]

/-! ## Leaving out null members -/

/-- Each element of an array is left with some of its nulls deleted. -/
theorem forall₂_withoutFrom (chosen : List String → Bool) (i : Nat) (xs : List Json) :
    List.Forall₂ (fun x x' => ∃ chosen, x' = x.without chosen) xs (Json.withoutFrom chosen i xs) := by
  induction xs generalizing i with
  | nil => exact .nil
  | cons x xs ih => exact .cons ⟨_, rfl⟩ (ih (i + 1))

/-- The records of a forecast without null members are its records without null members. -/
theorem records_without {ms : Members} (names : (ms.map Prod.fst).Nodup)
    (chosen : List String → Bool) :
    List.Forall₂ (fun record record' => ∃ chosen, record' = record.without chosen)
      (Method.forecast.records (.object ms))
      (Method.forecast.records (.object (Json.withoutAmong chosen ms))) := by
  rw [records, records, Json.member?, Json.member?, Json.find?_withoutAmong chosen names]
  cases Members.find? "list" ms with
  | none => exact .nil
  | some v =>
    rw [Option.bind_some, Option.bind_some]
    split
    · next gone =>
      cases v with
      | null => exact .nil
      | bool | number | string | array | object => cases gone
    · cases v with
      | array xs => exact forall₂_withoutFrom _ 0 xs
      | null | bool | number | string | object => exact .nil

/-- No name stands twice in a record if none does in its payload. -/
theorem namesDiffer_of_mem_records {ms : Members} (h : Json.NamesDiffer (.object ms)) :
    ∀ record ∈ Method.forecast.records (.object ms), record.NamesDiffer := by
  cases h with
  | object names members =>
    intro record hrecord
    by_cases list : ∃ xs, Members.find? "list" ms = some (.array xs)
    · obtain ⟨xs, found⟩ := list
      rw [records_of_list found] at hrecord
      cases members _ (Members.mem_of_find? found) with
      | array elements => exact elements record hrecord
    · rw [records_of_no_list fun xs found => list ⟨xs, found⟩] at hrecord
      cases hrecord

/-- Deleting any nulls of a payload does not change its rows. -/
theorem rows_without (m : Method) {ms : Members} (h : Json.NamesDiffer (.object ms))
    (chosen : List String → Bool) : m.rows ((Json.object ms).without chosen) = m.rows (.object ms) := by
  have readings := Json.reading?_without h chosen
  rw [Json.without] at readings ⊢
  apply rows_eq_of_sameReadings
  cases m with
  | currentWeather => exact sameReadings_currentWeather fun s _ => readings s.path
  | forecast =>
    refine sameReadings_forecast (fun s _ _ => readings ("city" :: s.path)) ?_
    have differ := namesDiffer_of_mem_records h
    cases h with
    | object names members =>
      refine ((List.forall₂_and_left _ _).2 ⟨differ, records_without names chosen⟩).imp ?_
      rintro record _ ⟨recordDiffers, chosen, rfl⟩ s - -
      exact Json.reading?_without recordDiffers chosen s.path

/-! ## Putting members beside the paths -/

/-- How the paths of the sources go on from the payload itself: a record of a forecast is an element of
the list. -/
inductive Front : Method → PayloadPart → List String → Prop where
  | whole : Front .currentWeather .record []
  | city : Front .forecast .city ["city"]
  | element {i : String} (isPosition : (Json.position? i).isSome = true) :
    Front .forecast .record ["list", i]

/-- The place lies on the path to a value that the method reads. -/
def OnPath (m : Method) (place : List String) : Prop :=
  ∃ s ∈ m.sources, ∃ front, Front m s.part front ∧ place <+: front ++ s.path

/-- For current weather, a place is on a path if it is where the path of a source begins. -/
theorem onPath_currentWeather_iff {place : List String} :
    Method.currentWeather.OnPath place ↔ ∃ s ∈ Method.currentWeather.sources, place <+: s.path := by
  constructor
  · rintro ⟨s, hs, front, isFront, onPath⟩
    generalize s.part = part at isFront
    cases isFront
    exact ⟨s, hs, onPath⟩
  · rintro ⟨s, hs, onPath⟩
    exact ⟨s, hs, [], part_currentWeather s hs ▸ .whole, onPath⟩

/-- Inside the city of a forecast, a place is on a path if the path of a source of the city begins
so. -/
theorem onPath_city_iff {place : List String} :
    Method.forecast.OnPath ("city" :: place) ↔
      ∃ s ∈ Method.forecast.sources, s.part = .city ∧ place <+: s.path := by
  constructor
  · rintro ⟨s, hs, front, isFront, onPath⟩
    generalize part : s.part = p at isFront
    cases isFront with
    | city => exact ⟨s, hs, part, (List.prefix_cons_inj _).1 onPath⟩
    | element => exact absurd (List.cons_prefix_cons.1 onPath).1 (by decide)
  · rintro ⟨s, hs, part, onPath⟩
    exact ⟨s, hs, ["city"], part ▸ .city, (List.prefix_cons_inj _).2 onPath⟩

/-- Inside an element of the list, a place is on a path if the path of a source of the record begins
so. -/
theorem onPath_element_iff {i : String} (isPosition : (Json.position? i).isSome = true)
    {place : List String} :
    Method.forecast.OnPath ("list" :: i :: place) ↔
      ∃ s ∈ Method.forecast.sources, s.part = .record ∧ place <+: s.path := by
  constructor
  · rintro ⟨s, hs, front, isFront, onPath⟩
    generalize part : s.part = p at isFront
    cases isFront with
    | city => exact absurd (List.cons_prefix_cons.1 onPath).1 (by decide)
    | element =>
      exact ⟨s, hs, part, (List.cons_prefix_cons.1 (List.cons_prefix_cons.1 onPath).2).2⟩
  · rintro ⟨s, hs, part, onPath⟩
    refine ⟨s, hs, ["list", i], part ▸ .element isPosition, ?_⟩
    exact (List.prefix_cons_inj _).2 ((List.prefix_cons_inj _).2 onPath)

/-- All paths of a forecast start with its city or its list. -/
theorem first_of_onPath {name : String} {place : List String}
    (h : Method.forecast.OnPath (name :: place)) : name = "city" ∨ name = "list" := by
  obtain ⟨s, hs, front, isFront, onPath⟩ := h
  generalize s.part = part at isFront
  cases isFront with
  | city => exact .inl (List.cons_prefix_cons.1 onPath).1
  | element => exact .inr (List.cons_prefix_cons.1 onPath).1

/-- The list itself is on a path. -/
theorem onPath_list : Method.forecast.OnPath ["list"] :=
  ⟨(Source.record ["dt_txt"]).readAs .writtenTime, by decide, _, .element (i := "0") (by decide),
    by decide⟩

/-- After one element is changed, each element is as before or changed. -/
theorem forall₂_modify {α : Type} (f : α → α) (i : Nat) (xs : List α) :
    List.Forall₂ (fun x x' => x' = x ∨ x' = f x) xs (xs.modify i f) := by
  induction xs generalizing i with
  | nil =>
    rw [List.modify_nil]
    exact .nil
  | cons x xs ih =>
    cases i with
    | zero =>
      rw [List.modify_zero_cons]
      exact .cons (.inr rfl) (List.forall₂_same.2 fun _ _ => .inl rfl)
    | succ i =>
      rw [List.modify_succ_cons]
      exact .cons (.inl rfl) (ih i)

/-- What is put below an array is put into an element of it. -/
theorem elements_put (path : List String) (name : String) (member v : Json) :
    List.Forall₂ (fun x x' => x' = x ∨
        ∃ i rest, path = i :: rest ∧ (Json.position? i).isSome = true ∧
          x' = Json.put rest name member x)
      (v.elements?.getD []) ((Json.put path name member v).elements?.getD []) := by
  cases v with
  | null | bool | number | string | object => cases path <;> exact .nil
  | array xs =>
    cases path with
    | nil => exact List.forall₂_same.2 fun _ _ => .inl rfl
    | cons i rest =>
      rw [Json.put, Json.modifyAt]
      cases position : Json.position? i with
      | none => exact List.forall₂_same.2 fun _ _ => .inl rfl
      | some k =>
        refine (forall₂_modify _ k xs).imp fun x x' changed => changed.imp_right fun modified => ?_
        exact ⟨i, rest, rfl, Option.isSome_iff_exists.2 ⟨k, position⟩, modified⟩

/-- What is put into a forecast leaves its records as they are or is put into one of them. -/
theorem records_put {path : List String} {name : String} (beside : path ++ [name] ≠ ["list"])
    (member : Json) {ms others : Members}
    (h : Json.put path name member (.object ms) = .object others) :
    List.Forall₂ (fun record record' => record' = record ∨
        ∃ i rest, path = "list" :: i :: rest ∧ (Json.position? i).isSome = true ∧
          record' = Json.put rest name member record)
      (Method.forecast.records (.object ms)) (Method.forecast.records (.object others)) := by
  have ofStep : ∀ ns : Members, Method.forecast.records (.object ns) =
      (((Json.object ns).step? "list").bind Json.elements?).getD [] := fun _ => rfl
  rw [ofStep, ofStep, ← h]
  cases path with
  | nil =>
    -- A member of the payload itself, which is not the list.
    have differ : name ≠ "list" := fun same => beside (by rw [same]; rfl)
    rw [Json.put, Json.modifyAt, Json.step?_insertMember differ]
    exact List.forall₂_same.2 fun _ _ => .inl rfl
  | cons first path =>
    rw [Json.put, Json.step?_modifyAt]
    cases (Json.object ms).step? "list" with
    | none => exact .nil
    | some v =>
      rw [Option.map_some, Option.bind_some, Option.bind_some]
      split
      · next same =>
        refine (elements_put path name member v).imp fun x x' changed => changed.imp_right ?_
        rintro ⟨i, rest, rfl, isPosition, put⟩
        exact ⟨i, rest, by rw [same], isPosition, put⟩
      · exact List.forall₂_same.2 fun _ _ => .inl rfl

/-- Putting a member beside all paths does not change the rows. -/
theorem rows_put (m : Method) {path : List String} {name : String}
    (beside : ¬ m.OnPath (path ++ [name])) (member : Json) {ms others : Members}
    (h : Json.put path name member (.object ms) = .object others) :
    m.rows (.object others) = m.rows (.object ms) := by
  apply rows_eq_of_sameReadings
  cases m with
  | currentWeather =>
    apply sameReadings_currentWeather
    intro s hs
    rw [← h]
    exact Json.reading?_put (fun onPath => beside (onPath_currentWeather_iff.2 ⟨s, hs, onPath⟩))
      member _
  | forecast =>
    apply sameReadings_forecast
    · -- A path through the city is one of the payload itself, a path of a record is seen from the record.
      intro s hs part
      rw [← h]
      exact Json.reading?_put (fun onPath => beside ⟨s, hs, ["city"], part ▸ .city, onPath⟩) member _
    · have notList : path ++ [name] ≠ ["list"] := fun same => beside (same ▸ onPath_list)
      refine (records_put notList member h).imp ?_
      rintro record record' (rfl | ⟨i, rest, rfl, isPosition, rfl⟩) s hs part
      · rfl
      · exact Json.reading?_put
          (fun onPath => beside ((onPath_element_iff isPosition).2 ⟨s, hs, part, onPath⟩)) member record

/-- Putting any number of members beside all paths does not change the rows. -/
theorem rows_edited (m : Method) (edits : List Json.Edit) (h : ∀ e ∈ edits, ¬ m.OnPath e.place)
    (ms : Members) : m.rows (Json.edited edits (.object ms)) = m.rows (.object ms) := by
  induction edits generalizing ms with
  | nil => rfl
  | cons e edits ih =>
    obtain ⟨first, others⟩ := List.forall_mem_cons.1 h
    obtain ⟨ns, put⟩ := Json.exists_put_object e.path e.name e.member ms
    rw [Json.edited, List.foldl_cons, put, ← Json.edited, ih others, rows_put m first e.member put]

/-- The rows of an object depend only on the strings and numbers that the sources of the method read from
it. So null members can be left out of it in any places and at any depth, if names differ as they do in
all that was read (`Json.namesDiffer_of_read?`), and members can be added and replaced in all places that
lie on no path of the method. -/
theorem rows_depend_on_readings (m : Method) (ms : Members) :
    (∀ others, m.SameReadings (.object ms) (.object others) →
      m.rows (.object others) = m.rows (.object ms)) ∧
    (Json.NamesDiffer (.object ms) → ∀ chosen : List String → Bool,
      m.rows ((Json.object ms).without chosen) = m.rows (.object ms)) ∧
    ∀ edits : List Json.Edit, (∀ e ∈ edits, ¬ m.OnPath e.place) →
      m.rows (Json.edited edits (.object ms)) = m.rows (.object ms) :=
  ⟨fun _ => rows_eq_of_sameReadings, m.rows_without, fun edits h => m.rows_edited edits h ms⟩

/-- A forecast with nulls in the payload, in its city and in the first member of an array of its record. -/
def sparseForecast : Members :=
  [("city", .object [("country", .null), ("id", .ofInt 7)]), ("cod", .null),
    ("list", .array [.object [("rain", .null),
      ("weather", .array [.object [("icon", .null), ("id", .ofInt 800)]])]])]

/-- No name stands twice in the sparse forecast. -/
theorem namesDiffer_sparseForecast : Json.NamesDiffer (.object sparseForecast) := by
  have weather : Json.NamesDiffer (.array [.object [("icon", .null), ("id", .ofInt 800)]]) :=
    .array (List.forall_mem_singleton.2 (.object (by decide)
      (List.forall_mem_cons.2 ⟨.null, List.forall_mem_singleton.2 (.number _)⟩)))
  have list : Json.NamesDiffer (.array [.object [("rain", .null),
      ("weather", .array [.object [("icon", .null), ("id", .ofInt 800)]])]]) :=
    .array (List.forall_mem_singleton.2 (.object (by decide)
      (List.forall_mem_cons.2 ⟨.null, List.forall_mem_singleton.2 weather⟩)))
  have city : Json.NamesDiffer (.object [("country", .null), ("id", .ofInt 7)]) :=
    .object (by decide) (List.forall_mem_cons.2 ⟨.null, List.forall_mem_singleton.2 (.number _)⟩)
  exact .object (by decide)
    (List.forall_mem_cons.2 ⟨city, List.forall_mem_cons.2 ⟨.null, List.forall_mem_singleton.2 list⟩⟩)

/-- Its rows are those of a forecast with fewer members and of one with more. -/
theorem rows_depend_on_readings_of_sparse :
    let sparse : Json := .object sparseForecast
    let fewer : Members := [("city", .object [("id", .ofInt 7)]),
      ("list", .array [.object [("weather", .array [.object [("id", .ofInt 800)]])]])]
    let other : Members := [("city", .object [("id", .ofInt 7), ("name", .bool true)]),
      ("list", .array [.object [("rain", .array []),
        ("weather", .array [.object [("id", .ofInt 800)]])]])]
    let more : List Json.Edit := [⟨["city"], "population", .ofInt 5⟩,
      ⟨["list", "0", "weather", "0"], "note", .array []⟩, ⟨[], "cod", .string "200"⟩]
    sparse.without (fun _ => true) = .object fewer ∧
      Method.forecast.rows (.object fewer) = Method.forecast.rows sparse ∧
      Method.forecast.rows (.object other) = Method.forecast.rows sparse ∧
      Method.forecast.rows (Json.edited more sparse) = Method.forecast.rows sparse ∧
      ∃ row, Method.forecast.rows sparse = .ok [row] ∧ row.get? "WEATHER_ID" = some (.integer 800) := by
  intro sparse fewer other more
  have left : sparse.without (fun _ => true) = .object fewer := rfl
  have same : Method.forecast.SameReadings sparse (.object other) :=
    .cons (List.map_inj_left.1 rfl) .nil
  obtain ⟨bySame, byLeaving, byEdits⟩ := rows_depend_on_readings .forecast sparseForecast
  have unread : ∀ e ∈ more, ¬ Method.forecast.OnPath e.place := by
    refine List.forall_mem_cons.2 ⟨?_, List.forall_mem_cons.2 ⟨?_, List.forall_mem_singleton.2 ?_⟩⟩
    · exact fun onPath => absurd (onPath_city_iff.1 onPath) (by decide)
    · exact fun onPath => absurd ((onPath_element_iff (by decide)).1 onPath) (by decide)
    · exact fun onPath => absurd (first_of_onPath onPath) (by decide)
  have fewerRows : Method.forecast.rows (.object fewer) = Method.forecast.rows sparse := by
    rw [← left]
    exact byLeaving namesDiffer_sparseForecast _
  exact ⟨left, fewerRows, bySame other same, byEdits more unread, _, rfl, by decide⟩

end Method

end WeatherTables
