import WeatherTables.Proofs.Table.SharedColumns

/-!
# A row for each record

An object has records and perhaps a city (`Method.records`, `Method.cityPart`), and each record gives one
row (`rows_ofObject`). The records of a forecast are the elements of its list, so its rows are the rows of
the elements, one by one. `forecast_row_for_each_record` says this by comparing payloads that have the same
city: a record has the same row in each of them, wherever it stands and whatever stands beside it.
-/

set_option autoImplicit false

namespace WeatherTables

namespace Method

/-! ## Records and city of a payload -/

/-- The records of a payload. Current weather is a record itself. -/
def records : Method → Json → List Json
  | .currentWeather, payload => [payload]
  | .forecast, payload => ((payload.member? "list").bind Json.elements?).getD []

/-- What the records of a payload share. -/
def cityPart : Method → Json → Json
  | .currentWeather, _ => .null
  | .forecast, payload => (payload.member? "city").getD .null

/-- An object has a row for each of its records. -/
theorem rows_ofObject (m : Method) (ms : Members) :
    m.rows (.object ms) = .ok ((m.records (.object ms)).map fun record =>
      .ofRecord m.table m.sources record (m.cityPart (.object ms))) := by
  cases m <;> rfl

/-- The records of a forecast are the elements of its list. -/
theorem records_of_list {ms : Members} {xs : List Json}
    (h : Members.find? "list" ms = some (.array xs)) : Method.forecast.records (.object ms) = xs := by
  rw [records, Json.member?, h]
  rfl

/-- What is no array has no records. -/
theorem records_of_no_list {ms : Members} (h : ∀ xs, Members.find? "list" ms ≠ some (.array xs)) :
    Method.forecast.records (.object ms) = [] := by
  rw [records, Json.member?]
  cases found : Members.find? "list" ms with
  | none => rfl
  | some v =>
    cases v with
    | array xs => exact absurd found (h xs)
    | null | bool | number | string | object => rfl

/-! ## Payloads with one city -/

/-- The row of a record in a forecast with the given city. -/
def forecastRow (city record : Json) : Row :=
  .ofRecord Method.forecast.table Method.forecast.sources record city

/-- The payload with another list. -/
def withList (ms : Members) (xs : List Json) : Json :=
  .object (ms.insert "list" (.array xs))

/-- A forecast has a row for each element of its list. -/
theorem rows_of_list {ms : Members} {xs : List Json}
    (h : Members.find? "list" ms = some (.array xs)) :
    Method.forecast.rows (.object ms) =
      .ok (xs.map (forecastRow (Method.forecast.cityPart (.object ms)))) := by
  rw [rows_ofObject, records_of_list h]
  rfl

/-- With another list, a forecast has rows for the elements of that list, and its city is the same. -/
theorem rows_withList (ms : Members) (xs : List Json) :
    Method.forecast.rows (withList ms xs) =
      .ok (xs.map (forecastRow (Method.forecast.cityPart (.object ms)))) := by
  have list : Members.find? "list" (ms.insert "list" (.array xs)) = some (.array xs) := by
    rw [Members.find?_insert, if_pos rfl]
  have city : Members.find? "city" (ms.insert "list" (.array xs)) = Members.find? "city" ms := by
    rw [Members.find?_insert, if_neg (by decide)]
  rw [withList, rows_of_list list, cityPart, cityPart, Json.member?, Json.member?, city]

/-! ## The columns of the city -/

/-- The columns that say something of the city. -/
def cityColumns : List Column :=
  [Catalog.countryCode, Catalog.cityName, Catalog.cityId, Catalog.longitude, Catalog.latitude,
    Catalog.sunrise, Catalog.sunset, Catalog.timezoneShift]

/-- They are the columns whose sources start from the city. -/
theorem exists_cityColumn_iff :
    ∀ p ∈ Method.forecast.table.columns.zip Method.forecast.sources,
      (∃ c ∈ cityColumns, c.name = p.1.name) ↔ p.2.part = .city := by
  decide

/-- The columns that say something of the city are columns of forecasts. -/
theorem cityColumns_subset : cityColumns ⊆ Method.forecast.table.columns := by
  decide

/-- In a column of the city all records have the same cell. -/
theorem exists_get?_forecastRow {c : Column} (h : c ∈ cityColumns) (city : Json) :
    ∃ cell, ∀ record, (forecastRow city record).get? c.name = some cell := by
  obtain ⟨p, hp, named⟩ :=
    Row.exists_source Method.forecast.aligned ⟨c, cityColumns_subset h, rfl⟩
  have part : p.2.part = .city := (exists_cityColumn_iff p hp).1 ⟨c, h, named.symm⟩
  refine ⟨p.1.cell p.2 .null city, fun record => ?_⟩
  rw [← named, forecastRow, Row.get?_ofRecord Method.forecast.nodup_names record city hp]
  simp only [Column.cell, Source.value?, part]

/-- A forecast always has rows. It has none if its list is missing or no array, and otherwise one for each
element of the list, in order. The row of an element is the same in every forecast of the same city, so
replacing an element changes no other row, and appending to the list appends the rows of what was appended.
In the columns that say something of the city all rows of a forecast agree. -/
theorem forecast_row_for_each_record (ms : Members) :
    ∃ rows, Method.forecast.rows (.object ms) = .ok rows ∧
      ((∀ xs, Members.find? "list" ms ≠ some (.array xs)) → rows = []) ∧
      (∀ c ∈ cityColumns, ∃ cell, ∀ row ∈ rows, row.get? c.name = some cell) ∧
      ∀ xs, Members.find? "list" ms = some (.array xs) →
        rows.length = xs.length ∧
        (∀ (others : Members) (ys : List Json), Members.find? "list" others = some (.array ys) →
          Members.find? "city" others = Members.find? "city" ms →
          ∃ otherRows, Method.forecast.rows (.object others) = .ok otherRows ∧
            ∀ i j : Nat, xs[i]? = ys[j]? → rows[i]? = otherRows[j]?) ∧
        (∀ (i : Nat) (x : Json),
          ∃ otherRows, Method.forecast.rows (withList ms (xs.set i x)) = .ok otherRows ∧
            otherRows.length = rows.length ∧ ∀ j, j ≠ i → otherRows[j]? = rows[j]?) ∧
        ∀ ys, ∃ more, Method.forecast.rows (withList ms ys) = .ok more ∧
          Method.forecast.rows (withList ms (xs ++ ys)) = .ok (rows ++ more) := by
  have all := rows_ofObject .forecast ms
  refine ⟨_, all, fun noList => ?_, fun c hc => ?_, fun xs list => ?_⟩
  · rw [records_of_no_list noList, List.map_nil]
  · obtain ⟨cell, same⟩ := exists_get?_forecastRow hc (Method.forecast.cityPart (.object ms))
    refine ⟨cell, fun row hrow => ?_⟩
    obtain ⟨record, -, rfl⟩ := List.mem_map.1 hrow
    exact same record
  rw [records_of_list list]
  refine ⟨List.length_map _, ?_, ?_, ?_⟩
  · intro others ys otherList city
    refine ⟨_, rows_of_list otherList, fun i j same => ?_⟩
    have cities : Method.forecast.cityPart (.object others) =
        Method.forecast.cityPart (.object ms) := by
      rw [cityPart, cityPart, Json.member?, Json.member?, city]
    rw [cities, List.getElem?_map, List.getElem?_map, same]
    rfl
  · intro i x
    refine ⟨_, rows_withList ms _, ?_, fun j differ => ?_⟩
    · rw [List.length_map, List.length_map, List.length_set]
    · rw [List.getElem?_map, List.getElem?_map, List.getElem?_set_ne differ.symm]
      rfl
  · intro ys
    refine ⟨_, rows_withList ms ys, ?_⟩
    rw [rows_withList, List.map_append]
    rfl

/-- A forecast whose records are a null, a number and an object with little in it. -/
def oddForecast : Members :=
  [("city", .object [("id", .ofInt 7), ("sunrise", .string "early")]),
    ("list", .array [.null, .ofInt 3, .object [("pop", .ofInt 1)]])]

/-- Each of the records has its row, also when another one is replaced or when it stands alone. -/
theorem forecast_row_for_each_record_of_odd :
    let pop : Json := .object [("pop", .ofInt 1)]
    let alone : Members := oddForecast.insert "list" (.array [pop])
    ∃ rows replaced one,
      Method.forecast.rows (.object oddForecast) = .ok rows ∧ rows.length = 3 ∧
      Method.forecast.rows (withList oddForecast [.null, .bool true, pop]) = .ok replaced ∧
      replaced[0]? = rows[0]? ∧ replaced[2]? = rows[2]? ∧
      Members.find? "city" alone = Members.find? "city" oddForecast ∧
      Method.forecast.rows (.object alone) = .ok one ∧ rows[2]? = one[0]? ∧
      ∀ row ∈ rows, row.get? "CITY_ID" = some (.integer 7) := by
  intro pop alone
  obtain ⟨rows, isRows, -, columns, ofList⟩ := forecast_row_for_each_record oddForecast
  obtain ⟨length, elsewhere, replace, -⟩ := ofList [.null, .ofInt 3, pop] rfl
  obtain ⟨replaced, isReplaced, -, others⟩ := replace 1 (.bool true)
  obtain ⟨one, isOne, place⟩ := elsewhere alone [pop] rfl rfl
  obtain ⟨cell, inAll⟩ := columns Catalog.cityId (by decide)
  have first : rows[0]? =
      some (forecastRow (.object [("id", .ofInt 7), ("sunrise", .string "early")]) .null) := by
    rw [← Except.ok.inj isRows]
    rfl
  have seven : cell = .integer 7 := by
    have found := inAll _ (List.mem_of_getElem? first)
    rw [← Option.some.injEq, ← found]
    decide
  rw [seven] at inAll
  exact ⟨rows, replaced, one, isRows, length, isReplaced, others 0 (by decide), others 2 (by decide),
    rfl, isOne, place 2 0 rfl, inAll⟩

end Method

end WeatherTables
