import WeatherTables.Proofs.Calendar.WrittenTime
import WeatherTables.Proofs.Table.ForecastRows

/-!
# Displayed times are read back

A timestamp in a row was counted in seconds or read from a text, and either way it is one of the calendar
(`Timestamp.occurs_iff_valid`). What is displayed of it is a text of the kind that a record of a forecast
has for its time, and a record with that text gets the same timestamp (`forecast_time_of_display`).
-/

set_option autoImplicit false

namespace WeatherTables

namespace Cell

/-- The cell of a count of seconds. -/
def ofSeconds (seconds : Int) : Cell :=
  ofValue .timestamp .secondsSinceEpoch (.ofInt seconds)

/-- The cell of a text that may name a time. -/
def ofTimeText (text : String) : Cell :=
  ofValue .timestamp .writtenTime (.string text)

/-- The cell of a text is the time that it names, or empty. -/
theorem ofTimeText_eq (text : String) :
    ofTimeText text = ((Timestamp.read? text).map .timestamp).getD .null := rfl

/-- A text that names a time makes the cell of that time. -/
theorem ofTimeText_of_read? {text : String} {t : Timestamp} (h : Timestamp.read? text = some t) :
    ofTimeText text = .timestamp t := by
  rw [ofTimeText_eq, h]
  rfl

/-- Seconds that make a timestamp make the cell of that timestamp. -/
theorem ofSeconds_of_ofEpoch? {seconds : Int} {t : Timestamp}
    (h : Timestamp.ofEpoch? seconds = some t) : ofSeconds seconds = .timestamp t := by
  -- The seconds of the years represented are integers of 64 bits, so they are taken as they are.
  have inRange := (Timestamp.ofEpoch?_isSome_iff seconds).1 (Option.isSome_of_mem h)
  have lower : Decimal.leastInt64 ≤ Timestamp.earliest.epoch := by decide
  have upper : Timestamp.latest.epoch ≤ Decimal.greatestInt64 := by decide
  have whole : (Number.integer seconds).rounded = seconds := by
    rw [Number.rounded, Number.toInt64?, if_pos ⟨lower.trans inRange.1, inRange.2.trans upper⟩,
      Option.getD_some]
  rw [ofSeconds, Json.ofInt, ofValue, whole, h]
  rfl

/-- All seconds of the years represented make the cell of a timestamp. -/
theorem exists_ofSeconds {seconds : Int} (notEarlier : Timestamp.earliest.epoch ≤ seconds)
    (notLater : seconds ≤ Timestamp.latest.epoch) :
    ∃ t, Timestamp.ofEpoch? seconds = some t ∧ ofSeconds seconds = .timestamp t := by
  obtain ⟨t, isTime⟩ :=
    Option.isSome_iff_exists.1 ((Timestamp.ofEpoch?_isSome_iff seconds).2 ⟨notEarlier, notLater⟩)
  exact ⟨t, isTime, ofSeconds_of_ofEpoch? isTime⟩

/-- A cell that holds a timestamp, where it might be empty, holds the one that was found. -/
theorem eq_some_of_timestamp {o : Option Timestamp} {t : Timestamp}
    (h : (o.map Cell.timestamp).getD .null = .timestamp t) : o = some t := by
  cases o with
  | none => cases h
  | some u =>
    cases h
    rfl

/-- Only valid timestamps are made from values. -/
theorem valid_of_ofValue {type : ColumnType} {i : Interpretation} {v : Json} {t : Timestamp}
    (h : ofValue type i v = .timestamp t) : t.Valid := by
  unfold ofValue at h
  split at h
  · cases h
  · unfold ofGiven at h
    split at h
    · cases h
    · cases h
    · split_ifs at h
    · cases h
  · exact (Timestamp.ofEpoch?_eq_some_iff.1 (eq_some_of_timestamp h)).1
  · exact .of_read? (eq_some_of_timestamp h)
  · cases h
  · cases h

end Cell

/-! ## Timestamps in rows -/

/-- The timestamp stands in a row of some payload. -/
def Timestamp.Occurs (t : Timestamp) : Prop :=
  ∃ (m : Method) (payload : Json) (rows : List Row), m.rows payload = .ok rows ∧
    ∃ row ∈ rows, Cell.timestamp t ∈ row.cells

/-- Only valid timestamps stand in rows. -/
theorem Timestamp.Occurs.valid {t : Timestamp} (h : t.Occurs) : t.Valid := by
  obtain ⟨m, payload, rows, isRows, row, hrow, inside⟩ := h
  obtain ⟨record, city, rfl⟩ := Method.exists_ofRecord isRows hrow
  obtain ⟨p, -, isCell⟩ := List.mem_map.1 inside
  rw [Column.cell] at isCell
  cases found : p.2.value? record city with
  | none =>
    rw [found] at isCell
    cases isCell
  | some v =>
    rw [found] at isCell
    exact Cell.valid_of_ofValue isCell

/-- What is found in a row is one of its cells. -/
theorem Row.mem_cells_of_get? {row : Row} {name : String} {cell : Cell}
    (h : row.get? name = some cell) : cell ∈ row.cells := by
  obtain ⟨i, -, place⟩ := Option.bind_eq_some_iff.1 h
  exact List.mem_of_getElem? place

namespace Method

/-- A record of a forecast with nothing but its time. -/
def bareRecord (text : String) : Members :=
  [("dt_txt", .string text)]

/-- The time of a forecast is read from the text beside the values of its record. -/
theorem get?_forecastRow_time {record : Members} {text : String}
    (h : Members.find? "dt_txt" record = some (.string text)) (city : Json) :
    (forecastRow city (.object record)).get? "FORECAST_TIME" = some (Cell.ofTimeText text) := by
  have column : (Catalog.forecastTime, (Source.record ["dt_txt"]).readAs .writtenTime) ∈
      Method.forecast.table.columns.zip Method.forecast.sources := by
    decide
  have value : ((Source.record ["dt_txt"]).readAs .writtenTime).value? (.object record) city =
      some (.string text) := by
    show ((Json.object record).step? "dt_txt").bind (Json.at? []) = _
    rw [Json.step?, h]
    rfl
  have found := Row.get?_ofRecord Method.forecast.nodup_names (.object record) city column
  rw [Column.cell, value] at found
  exact found

/-- In each row of a forecast stands the time that its record names. -/
theorem exists_forecast_time {ms record : Members} {xs : List Json} {i : Nat} {text : String}
    (list : Members.find? "list" ms = some (.array xs)) (element : xs[i]? = some (.object record))
    (time : Members.find? "dt_txt" record = some (.string text)) :
    ∃ rows row, Method.forecast.rows (.object ms) = .ok rows ∧ rows[i]? = some row ∧
      row.get? "FORECAST_TIME" = some (Cell.ofTimeText text) := by
  have row : (xs.map (forecastRow (Method.forecast.cityPart (.object ms))))[i]? =
      some (forecastRow (Method.forecast.cityPart (.object ms)) (.object record)) := by
    rw [List.getElem?_map, element, Option.map_some]
  exact ⟨_, _, rows_of_list list, row, get?_forecastRow_time time _⟩

end Method

/-- Every timestamp that is read from a text stands in the row of some payload. -/
theorem Timestamp.occurs_of_read? {text : String} {t : Timestamp} (h : read? text = some t) :
    t.Occurs := by
  let bare : Json := .object (Method.bareRecord text)
  have list : Members.find? "list" [("list", .array [bare])] = some (.array [bare]) := rfl
  have element : [bare][0]? = some (.object (Method.bareRecord text)) := rfl
  obtain ⟨rows, row, isRows, place, time⟩ := Method.exists_forecast_time list element rfl
  rw [Cell.ofTimeText_of_read? h] at time
  exact ⟨.forecast, _, rows, isRows, row, List.mem_of_getElem? place, Row.mem_cells_of_get? time⟩

/-- The timestamps in rows are those of the calendar. -/
theorem Timestamp.occurs_iff_valid (t : Timestamp) : t.Occurs ↔ t.Valid :=
  ⟨Occurs.valid, fun valid => occurs_of_read? (read?_write valid)⟩

/-- A timestamp is read back from its cell as displayed. -/
theorem Cell.ofTimeText_display {t : Timestamp} (h : t.Valid) :
    ofTimeText (Cell.timestamp t).display = .timestamp t :=
  ofTimeText_of_read? (Timestamp.read?_write h)

/-- A record of a forecast whose time is written as a timestamp is displayed gets that timestamp, for every
timestamp that stands in a row at all. These are the timestamps of all texts that can be read and of all
seconds from the first to the last year represented. So what is displayed of a time is displayed of it
again, and no two seconds are displayed alike. -/
theorem forecast_time_of_display :
    (∀ t : Timestamp, t.Occurs → ∀ (ms record : Members) (xs : List Json) (i : Nat),
      Members.find? "list" ms = some (.array xs) → xs[i]? = some (.object record) →
      Members.find? "dt_txt" record = some (.string (Cell.timestamp t).display) →
      ∃ rows row, Method.forecast.rows (.object ms) = .ok rows ∧ rows[i]? = some row ∧
        row.get? "FORECAST_TIME" = some (.timestamp t)) ∧
    (∀ (text : String) (t : Timestamp), Timestamp.read? text = some t →
      t.Occurs ∧ Cell.ofTimeText text = .timestamp t) ∧
    (∀ text, (Cell.ofTimeText (Cell.ofTimeText text).display).display =
      (Cell.ofTimeText text).display) ∧
    (∀ seconds, Timestamp.earliest.epoch ≤ seconds → seconds ≤ Timestamp.latest.epoch →
      ∃ t : Timestamp, t.Occurs ∧ Cell.ofSeconds seconds = .timestamp t ∧
        ∀ other, Timestamp.earliest.epoch ≤ other → other ≤ Timestamp.latest.epoch →
          other ≠ seconds → (Cell.ofSeconds other).display ≠ (Cell.timestamp t).display) := by
  refine ⟨?_, ?_, ?_, ?_⟩
  · intro t occurs ms record xs i list element time
    rw [← Cell.ofTimeText_display occurs.valid]
    exact Method.exists_forecast_time list element time
  · intro text t read
    exact ⟨Timestamp.occurs_of_read? read, Cell.ofTimeText_of_read? read⟩
  · intro text
    rw [Cell.ofTimeText_eq text]
    cases read : Timestamp.read? text with
    | none => decide
    | some t =>
      rw [Option.map_some, Option.getD_some, Cell.ofTimeText_display (.of_read? read)]
  · intro seconds notEarlier notLater
    obtain ⟨t, isTime, cell⟩ := Cell.exists_ofSeconds notEarlier notLater
    obtain ⟨valid, -, tells⟩ := Timestamp.ofEpoch?_eq_some_iff.1 isTime
    refine ⟨t, t.occurs_iff_valid.2 valid, cell, fun other notEarlier notLater differ same => differ ?_⟩
    obtain ⟨u, isTime, cell⟩ := Cell.exists_ofSeconds notEarlier notLater
    obtain ⟨validOther, -, tellsOther⟩ := Timestamp.ofEpoch?_eq_some_iff.1 isTime
    rw [cell] at same
    -- What is displayed alike is read back as one timestamp.
    have alike : Cell.timestamp u = .timestamp t := by
      rw [← Cell.ofTimeText_display validOther, same, Cell.ofTimeText_display valid]
    rw [← tellsOther, ← tells, Cell.timestamp.inj alike]

/-- The sixtieth second of a minute before the first year, carelessly written, and the first second of the
year 10000. -/
theorem forecast_time_of_display_of_odd :
    Timestamp.read? " -1-2-3\t4:5:60" = some ⟨⟨-1, 2, 3⟩, 4, 5, 60⟩ ∧
      (Cell.timestamp ⟨⟨-1, 2, 3⟩, 4, 5, 60⟩).display = "-0001-02-03 04:05:60" ∧
      (∃ rows row, Method.forecast.rows (.object [("list", .array [.null,
          .object (Method.bareRecord "-0001-02-03 04:05:60")])]) = .ok rows ∧ rows[1]? = some row ∧
        row.get? "FORECAST_TIME" = some (.timestamp ⟨⟨-1, 2, 3⟩, 4, 5, 60⟩)) ∧
      Cell.ofSeconds 253402300800 = .timestamp ⟨⟨10000, 1, 1⟩, 0, 0, 0⟩ ∧
      (Cell.ofSeconds 253402300799).display ≠ "+10000-01-01 00:00:00" := by
  obtain ⟨back, reads, -, tells⟩ := forecast_time_of_display
  have odd : Timestamp.read? " -1-2-3\t4:5:60" = some ⟨⟨-1, 2, 3⟩, 4, 5, 60⟩ := by decide
  obtain ⟨t, -, isTime, apart⟩ := tells 253402300800 (by decide) (by decide)
  have later : Cell.ofSeconds 253402300800 = .timestamp ⟨⟨10000, 1, 1⟩, 0, 0, 0⟩ := by decide
  obtain rfl := Cell.timestamp.inj (isTime.symm.trans later)
  exact ⟨odd, by decide, back _ (reads _ _ odd).1 _ _ _ 1 rfl rfl rfl, later,
    apart 253402300799 (by decide) (by decide) (by decide)⟩

end WeatherTables
