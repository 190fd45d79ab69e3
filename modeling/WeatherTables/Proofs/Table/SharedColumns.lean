import WeatherTables.Proofs.Table.Conformance

/-!
# The columns that both tables have

A payload of current weather can be rewritten as a forecast of one record, in which what concerns the city
stands apart (`forecastOf`). `Source.recordPath?` says where in the payload a source of forecasts looks
then, and `alike_sources` compares the two lists of sources by it, column by column. So the two rows agree
in all columns that both tables have (`shared_columns_agree`), whatever the payload holds.
-/

set_option autoImplicit false

namespace WeatherTables

/-- A path leads where its second part leads from where its first part does. -/
theorem Json.at?_append (first second : List String) (v : Json) :
    v.at? (first ++ second) = (v.at? first).bind (at? second) := by
  induction first generalizing v with
  | nil => rfl
  | cons step first ih =>
    rw [List.cons_append, at?, at?, Option.bind_assoc]
    exact congrArg _ (funext ih)

namespace Members

/-- The members that are there. -/
def present (parts : List (String × Option Json)) : List (String × Json) :=
  parts.filterMap fun p => p.2.map (p.1, ·)

/-- The members that are there have some of the names, in order. -/
theorem names_present (parts : List (String × Option Json)) :
    ((present parts).map Prod.fst).Sublist (parts.map Prod.fst) := by
  induction parts with
  | nil => exact List.Sublist.slnil
  | cons p parts ih =>
    obtain ⟨name, v⟩ := p
    cases v with
    | none => exact ih.cons name
    | some x => exact ih.cons_cons name

/-- In an object of members that may be missing each is found as it was given. -/
theorem find?_present {parts : List (String × Option Json)} (nodup : (parts.map Prod.fst).Nodup)
    {name : String} {v : Option Json} (h : (name, v) ∈ parts) :
    find? name (ofList (present parts)) = v := by
  have names := nodup.sublist (names_present parts)
  cases v with
  | some x =>
    have there : (name, x) ∈ present parts := List.mem_filterMap.2 ⟨(name, some x), h, rfl⟩
    exact find?_ofList names there
  | none =>
    rw [find?_eq_none_iff, (perm_names_ofList names).mem_iff]
    intro hname
    obtain ⟨m, hm, rfl⟩ := List.mem_map.1 hname
    obtain ⟨p, hp, given⟩ := List.mem_filterMap.1 hm
    obtain ⟨x, hx, rfl⟩ := Option.map_eq_some_iff.1 given
    have same := List.inj_on_of_nodup_map nodup hp h rfl
    rw [same] at hx
    cases hx

end Members

/-! ## One record as a forecast -/

/-- The members of the city of a forecast, and where current weather has them. -/
def cityParts : List (String × List String) :=
  [("country", ["sys", "country"]), ("sunrise", ["sys", "sunrise"]), ("sunset", ["sys", "sunset"]),
    ("name", ["name"]), ("id", ["id"]), ("coord", ["coord"]), ("timezone", ["timezone"])]

/-- What a payload of current weather says of the city. A member is left out where there is none. -/
def cityOf (w : Json) : Json :=
  .ofMembers (Members.present (cityParts.map fun part => (part.1, w.at? part.2)))

/-- The payload of current weather as a forecast of one record. -/
def forecastOf (w : Json) : Json :=
  .ofMembers [("city", cityOf w), ("list", .array [w])]

/-- The city of a forecast has its parts where current weather has them. -/
theorem member?_cityOf (w : Json) {part : String × List String} (h : part ∈ cityParts) :
    (cityOf w).member? part.1 = w.at? part.2 := by
  have names : ((cityParts.map fun part => (part.1, w.at? part.2)).map Prod.fst).Nodup := by
    rw [List.map_map]
    show (cityParts.map Prod.fst).Nodup
    decide
  exact Members.find?_present names (List.mem_map.2 ⟨part, h, rfl⟩)

/-- The forecast of a payload of current weather has one row. -/
theorem rows_forecastOf (w : Json) :
    Method.forecast.rows (forecastOf w) =
      .ok [.ofRecord Method.forecast.table Method.forecast.sources w (cityOf w)] := by
  have city : (forecastOf w).member? "city" = some (cityOf w) :=
    Members.find?_ofList (m := ("city", cityOf w)) (by simp) (by simp)
  have list : (forecastOf w).member? "list" = some (.array [w]) :=
    Members.find?_ofList (m := ("list", .array [w])) (by simp) (by simp)
  have rows : Method.forecast.rows (forecastOf w) =
      .ok ((((forecastOf w).member? "list").bind Json.elements?).getD [] |>.map fun record =>
        .ofRecord Method.forecast.table Method.forecast.sources record
          (((forecastOf w).member? "city").getD .null)) := rfl
  rw [rows, city, list]
  rfl

/-- Where in a payload of current weather a source of forecasts looks. -/
def Source.recordPath? (s : Source) : Option (List String) :=
  match s.part, s.path with
  | .record, path => some path
  | .city, step :: rest =>
    (cityParts.find? fun part => part.1 = step).map fun part => part.2 ++ rest
  | .city, [] => none

/-- In the forecast of a payload, a source finds what stands where it looks in current weather. -/
theorem Source.value?_cityOf {s : Source} {path : List String} (h : s.recordPath? = some path)
    (w : Json) : s.value? w (cityOf w) = w.at? path := by
  unfold recordPath? at h
  unfold value?
  split at h
  · next ispart =>
    rw [ispart, Option.some.inj h]
  · next step rest ispart ispath =>
    obtain ⟨part, found, rfl⟩ := Option.map_eq_some_iff.1 h
    have named : part.1 = step := by simpa using List.find?_some found
    have member := member?_cityOf w (List.mem_of_find?_eq_some found)
    rw [ispart, ispath, Json.at?_append, ← member, named]
    rfl
  · cases h

/-- Columns of one name have the same type in both tables, and their sources read the same value in the
same way, the one from current weather and the other from the forecast made of it. -/
theorem alike_sources :
    ∀ p ∈ Method.currentWeather.table.columns.zip Method.currentWeather.sources,
    ∀ q ∈ Method.forecast.table.columns.zip Method.forecast.sources, p.1.name = q.1.name →
      p.1.type = q.1.type ∧ p.2.interpretation = q.2.interpretation ∧ p.2.part = .record ∧
        q.2.recordPath? = some p.2.path := by
  decide

/-! ## Cells by name -/

namespace Row

variable {table : Table} {sources : List Source}

/-- Every column name of a table has a source beside its column. -/
theorem exists_source (aligned : List.Forall₂ Column.FilledBy table.columns sources) {name : String}
    (h : ∃ c ∈ table.columns, c.name = name) :
    ∃ p ∈ table.columns.zip sources, p.1.name = name := by
  have columns : (table.columns.zip sources).map Prod.fst = table.columns :=
    List.map_fst_zip (Nat.le_of_eq aligned.length_eq)
  obtain ⟨c, hc, named⟩ := h
  rw [← columns] at hc
  obtain ⟨p, hp, rfl⟩ := List.mem_map.1 hc
  exact ⟨p, hp, named⟩

/-- The cell under the name of a column is the one that its source fills. -/
theorem get?_ofRecord (nodup : (table.columns.map Column.name).Nodup) (record city : Json)
    {p : Column × Source} (h : p ∈ table.columns.zip sources) :
    (ofRecord table sources record city).get? p.1.name = some (p.1.cell p.2 record city) := by
  obtain ⟨j, place⟩ := List.mem_iff_getElem?.1 h
  have column : table.columns[j]? = some p.1 := (List.getElem?_zip_eq_some.1 place).1
  have cells : (ofRecord table sources record city).cells[j]? = some (p.1.cell p.2 record city) := by
    rw [ofRecord, List.getElem?_map, place]
    rfl
  rw [get?_eq_getElem? nodup column, cells]

end Row

/-- A payload of current weather gives one row, and as a forecast of one record it gives one row too. In
every column that both tables have, by name, the two rows have the same cell. -/
theorem shared_columns_agree (members : List (String × Json)) :
    ∃ now later,
      Method.currentWeather.rows (.object members) = .ok [now] ∧
      Method.forecast.rows (forecastOf (.object members)) = .ok [later] ∧
      ∀ name, (∃ c ∈ Method.currentWeather.table.columns, c.name = name) →
        (∃ c ∈ Method.forecast.table.columns, c.name = name) →
        ∃ cell, now.get? name = some cell ∧ later.get? name = some cell := by
  refine ⟨_, _, rfl, rows_forecastOf _, fun name inNow inLater => ?_⟩
  obtain ⟨p, hp, named⟩ := Row.exists_source Method.currentWeather.aligned inNow
  obtain ⟨q, hq, samename⟩ := Row.exists_source Method.forecast.aligned inLater
  obtain ⟨type, interpretation, record, path⟩ := alike_sources p hp q hq (named.trans samename.symm)
  have first := Row.get?_ofRecord Method.currentWeather.nodup_names (.object members) .null hp
  have second := Row.get?_ofRecord Method.forecast.nodup_names (.object members)
    (cityOf (.object members)) hq
  rw [named] at first
  rw [samename] at second
  have value : q.2.value? (.object members) (cityOf (.object members)) =
      p.2.value? (.object members) .null := by
    rw [Source.value?_cityOf path, Source.value?, record]
  refine ⟨_, first, ?_⟩
  rw [second, Column.cell, Column.cell, value, type, interpretation]

/-- Current weather in which the coordinates are a list and the city has a number for a name. -/
def looseWeather : List (String × Json) :=
  [("coord", .array [.ofInt 13, .ofInt 52]), ("name", .ofInt 5),
    ("sys", .object [("country", .string "GB")])]

/-- A number makes a name in both tables, and coordinates that are a list leave both without a
latitude. -/
theorem shared_columns_agree_of_loose :
    ∃ now later,
      Method.currentWeather.rows (.object looseWeather) = .ok [now] ∧
      Method.forecast.rows (forecastOf (.object looseWeather)) = .ok [later] ∧
      now.get? "CITY_NAME" = some (.text "5") ∧ later.get? "CITY_NAME" = some (.text "5") ∧
      now.get? "LATITUDE" = some .null ∧ later.get? "LATITUDE" = some .null := by
  obtain ⟨now, later, isNow, isLater, agree⟩ := shared_columns_agree looseWeather
  have row : Row.ofRecord Method.currentWeather.table Method.currentWeather.sources
      (.object looseWeather) .null = now := List.singleton_injective (Except.ok.inj isNow)
  have name : now.get? "CITY_NAME" = some (.text "5") := by
    rw [← row]
    decide
  have latitude : now.get? "LATITUDE" = some .null := by
    rw [← row]
    decide
  refine ⟨now, later, isNow, isLater, name, ?_, latitude, ?_⟩
  · obtain ⟨cell, first, second⟩ := agree "CITY_NAME" ⟨Catalog.cityName, by decide, rfl⟩
      ⟨Catalog.cityName, by decide, rfl⟩
    rw [second, ← first, name]
  · obtain ⟨cell, first, second⟩ := agree "LATITUDE" ⟨Catalog.latitude, by decide, rfl⟩
      ⟨Catalog.latitude, by decide, rfl⟩
    rw [second, ← first, latitude]

end WeatherTables
