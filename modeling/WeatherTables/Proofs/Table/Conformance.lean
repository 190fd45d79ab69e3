import WeatherTables.Proofs.Adapter.HiddenKey
import WeatherTables.Proofs.Json.Members
import WeatherTables.Proofs.Table.Emits
import WeatherTables.Table.Row
import Mathlib.Data.List.Nodup

/-!
# Rows are what the statement declares

The columns of a table and the sources of its cells are two lists that are taken together by place.
`Method.aligned` says that they belong together: they are equally long, and how a source is read
suits the type of the column in its place. From this it follows for every payload, whatever stands
where a source looks, that a row has one cell for each column, and that a cell is null or of the
type that the statement declares for its column (`rows_conform`).
-/

set_option autoImplicit false

namespace WeatherTables

/-! ## Cells and types -/

/-- The cell can stand in a column that is declared with the type. -/
def Cell.Fits (declared : String) : Cell → Prop
  | .null => True
  | .text _ => ∃ size : Nat, declared = "VARCHAR(" ++ toString size ++ ")"
  | .integer _ => declared = "INT"
  | .double _ => declared = "DOUBLE"
  | .timestamp _ => declared = "TIMESTAMP"

/-- What is read in this way can stand in a column of the type. -/
def Interpretation.Suits (type : ColumnType) : Interpretation → Prop
  | .asGiven => True
  | .absent => True
  | .secondsSinceEpoch => type = .timestamp
  | .writtenTime => type = .timestamp
  | .secondsAsHours => type.emitText = "DOUBLE"

/-- Whether a way of reading suits a type is decided case by case. -/
instance (type : ColumnType) (i : Interpretation) : Decidable (i.Suits type) :=
  match i with
  | .asGiven | .absent => .isTrue trivial
  | .secondsSinceEpoch | .writtenTime => inferInstanceAs (Decidable (type = .timestamp))
  | .secondsAsHours => inferInstanceAs (Decidable (type.emitText = "DOUBLE"))

/-- The cell of a value that is taken as it stands fits the type. -/
theorem Cell.fits_ofGiven (type : ColumnType) (value : Json) :
    (ofGiven type value).Fits type.emitText := by
  unfold ofGiven
  split
  · exact ⟨_, rfl⟩
  · exact ⟨_, rfl⟩
  · next scale n =>
    by_cases whole : scale = 0
    · rw [if_pos whole, ColumnType.emitText, if_pos whole]
      rfl
    · rw [if_neg whole, ColumnType.emitText, if_neg whole]
      rfl
  · trivial

/-- A way of reading that suits the type makes cells that fit it. -/
theorem Cell.fits_ofValue {type : ColumnType} {i : Interpretation} (suits : i.Suits type)
    (value : Json) : (ofValue type i value).Fits type.emitText := by
  unfold ofValue
  split
  · trivial
  · exact fits_ofGiven type value
  · next n =>
    have declared : type.emitText = "TIMESTAMP" := congrArg ColumnType.emitText suits
    cases Timestamp.ofEpoch? n.rounded with
    | none => trivial
    | some t => exact declared
  · next s =>
    have declared : type.emitText = "TIMESTAMP" := congrArg ColumnType.emitText suits
    cases Timestamp.read? s with
    | none => trivial
    | some t => exact declared
  · exact suits
  · trivial

/-- The cell belongs into the column: it is null or of the column's type, and null if the column is
only there to filter by. -/
def Column.Admits (c : Column) (cell : Cell) : Prop :=
  cell.Fits c.type.emitText ∧ (c.name = "ZIP" → cell = .null)

/-- The source can fill the column. -/
def Column.FilledBy (c : Column) (source : Source) : Prop :=
  source.interpretation.Suits c.type ∧ (c.name = "ZIP" → source.interpretation = .absent)

/-- Whether a source can fill a column is decided by the type and the way of reading. -/
instance (c : Column) (source : Source) : Decidable (c.FilledBy source) :=
  inferInstanceAs (Decidable (_ ∧ _))

/-- The cell that is filled from a source of the column belongs into it. -/
theorem Column.admits_cell {c : Column} {source : Source} (h : c.FilledBy source)
    (record city : Json) : c.Admits (c.cell source record city) := by
  unfold cell
  cases source.value? record city with
  | none => exact ⟨trivial, fun _ => rfl⟩
  | some value =>
    refine ⟨Cell.fits_ofValue h.1 value, fun named => ?_⟩
    rw [Option.map_some, Option.getD_some, h.2 named]
    rfl

/-! ## Rows of a table -/

namespace Table

/-- A column is found in its place, if no other has its name. -/
theorem position?_eq_some {t : Table} (nodup : (t.columns.map Column.name).Nodup) {j : Nat}
    {c : Column} (h : t.columns[j]? = some c) : t.position? c.name = some j := by
  obtain ⟨bound, found⟩ := List.getElem?_eq_some_iff.1 h
  rw [position?, List.findIdx?_eq_some_iff_getElem]
  refine ⟨bound, decide_eq_true (congrArg Column.name found), fun i before => ?_⟩
  rw [decide_eq_true_eq]
  intro same
  have apart : (t.columns.map Column.name)[i]? ≠ (t.columns.map Column.name)[j]? :=
    List.nodup_iff_getElem?_ne_getElem?.1 nodup i j before (by rw [List.length_map]; exact bound)
  apply apart
  rw [List.getElem?_map, List.getElem?_map, h, List.getElem?_eq_getElem (before.trans bound),
    Option.map_some, Option.map_some, same]

/-- No position is found just for the names that no column has. -/
theorem position?_eq_none_iff {t : Table} {name : String} :
    t.position? name = none ↔ ∀ c ∈ t.columns, c.name ≠ name := by
  simp only [position?, List.findIdx?_eq_none_iff, decide_eq_false_iff_not, ne_eq]

end Table

namespace Row

variable {row : Row}

/-- The cell of a column is the one in its place. -/
theorem get?_eq_getElem? (nodup : (row.table.columns.map Column.name).Nodup) {j : Nat} {c : Column}
    (h : row.table.columns[j]? = some c) : row.get? c.name = row.cells[j]? := by
  rw [get?, Table.position?_eq_some nodup h, Option.bind_some]

/-- Where no name stands twice, the cell in the place of a column is found under its name. -/
theorem exists_get? (nodup : (row.table.columns.map Column.name).Nodup)
    (width : row.cells.length = row.table.columns.length) {j : Nat} {c : Column}
    (h : row.table.columns[j]? = some c) :
    ∃ cell, row.cells[j]? = some cell ∧ row.get? c.name = some cell := by
  obtain ⟨bound, -⟩ := List.getElem?_eq_some_iff.1 h
  have inRow : j < row.cells.length := by omega
  refine ⟨row.cells[j], List.getElem?_eq_getElem inRow, ?_⟩
  rw [get?_eq_getElem? nodup h, List.getElem?_eq_getElem inRow]

/-- A name has no cell exactly if no column has the name. -/
theorem get?_eq_none_iff (nodup : (row.table.columns.map Column.name).Nodup)
    (width : row.cells.length = row.table.columns.length) {name : String} :
    row.get? name = none ↔ ∀ c ∈ row.table.columns, c.name ≠ name := by
  constructor
  · rintro absent c hc rfl
    obtain ⟨j, place⟩ := List.mem_iff_getElem?.1 hc
    obtain ⟨cell, -, found⟩ := exists_get? nodup width place
    rw [absent] at found
    cases found
  · intro unknown
    rw [get?, Table.position?_eq_none_iff.2 unknown, Option.bind_none]

/-- The members of the object of a row, before they are sorted. -/
def members (row : Row) : List (String × Json) :=
  (row.table.columns.zip row.cells).map fun p => (p.1.name, p.2.toJson)

/-- The members of a row have the names of its columns, in order. -/
theorem names_members (width : row.cells.length = row.table.columns.length) :
    row.members.map Prod.fst = row.table.columns.map Column.name := by
  have columns : (row.table.columns.zip row.cells).map Prod.fst = row.table.columns :=
    List.map_fst_zip (Nat.le_of_eq width.symm)
  calc row.members.map Prod.fst
    _ = ((row.table.columns.zip row.cells).map Prod.fst).map Column.name := by
      rw [members, List.map_map, List.map_map]
      rfl
    _ = row.table.columns.map Column.name := by rw [columns]

/-- The object of a row has a member for every column, which is the column's cell, and no other. -/
theorem toJson_eq_object (nodup : (row.table.columns.map Column.name).Nodup)
    (width : row.cells.length = row.table.columns.length) :
    ∃ ms : Members, row.toJson = .object ms ∧
      (ms.map Prod.fst).Perm (row.table.columns.map Column.name) ∧
      ∀ name, Members.find? name ms = (row.get? name).map Cell.toJson := by
  have names := names_members width
  have nodupMembers : (row.members.map Prod.fst).Nodup := by
    rw [names]
    exact nodup
  have keys := Members.perm_names_ofList nodupMembers
  refine ⟨Members.ofList row.members, rfl, names ▸ keys, fun name => ?_⟩
  by_cases known : ∃ c ∈ row.table.columns, c.name = name
  · obtain ⟨c, hc, rfl⟩ := known
    obtain ⟨j, place⟩ := List.mem_iff_getElem?.1 hc
    obtain ⟨cell, inRow, get⟩ := exists_get? nodup width place
    have both : (c, cell) ∈ row.table.columns.zip row.cells := by
      apply List.mem_iff_getElem?.2 ⟨j, ?_⟩
      rw [List.getElem?_zip_eq_some]
      exact ⟨place, inRow⟩
    have found : (c.name, cell.toJson) ∈ row.members := List.mem_map.2 ⟨(c, cell), both, rfl⟩
    rw [get, Option.map_some]
    exact Members.find?_ofList nodupMembers found
  · have unknown : ∀ c ∈ row.table.columns, c.name ≠ name := fun c hc same => known ⟨c, hc, same⟩
    rw [(get?_eq_none_iff nodup width).2 unknown, Option.map_none, Members.find?_eq_none_iff,
      keys.mem_iff, names]
    intro hname
    obtain ⟨c, hc, same⟩ := List.mem_map.1 hname
    exact unknown c hc same

/-- Columns admit the cells that are filled from their sources. -/
theorem forall₂_admits {columns : List Column} {sources : List Source}
    (h : List.Forall₂ Column.FilledBy columns sources) (record city : Json) :
    List.Forall₂ Column.Admits columns
      ((columns.zip sources).map fun p => p.1.cell p.2 record city) := by
  induction h with
  | nil => exact .nil
  | cons filled _ ih => exact .cons (Column.admits_cell filled record city) ih

/-- Where cells belong into columns one by one, they do so in each place. -/
theorem admits_of_getElem? {columns : List Column} {cells : List Cell}
    (h : List.Forall₂ Column.Admits columns cells) {j : Nat} {c : Column} {cell : Cell}
    (column : columns[j]? = some c) (inRow : cells[j]? = some cell) : c.Admits cell := by
  obtain ⟨bound, rfl⟩ := List.getElem?_eq_some_iff.1 column
  obtain ⟨bound', rfl⟩ := List.getElem?_eq_some_iff.1 inRow
  exact (List.forall₂_iff_get.1 h).2 j bound bound'

end Row

/-! ## Rows of the weather tables -/

namespace Method

/-- The columns of the table and the sources of its cells belong together, place by place. -/
theorem aligned (m : Method) : List.Forall₂ Column.FilledBy m.table.columns m.sources := by
  cases m <;> decide

/-- No table has two columns of one name. -/
theorem nodup_names (m : Method) : (m.table.columns.map Column.name).Nodup := by
  cases m <;> decide

/-- Every table has the column of postal codes. -/
theorem zip_mem_columns (m : Method) : ∃ c ∈ m.table.columns, c.name = "ZIP" := by
  refine ⟨Catalog.zip, ?_, rfl⟩
  cases m <;> decide

/-- Every row of a payload is made from a record and a city. -/
theorem exists_ofRecord {m : Method} {payload : Json} {rows : List Row}
    (h : m.rows payload = .ok rows) {row : Row} (hrow : row ∈ rows) :
    ∃ record city, row = Row.ofRecord m.table m.sources record city := by
  unfold Method.rows at h
  split at h
  · next ms =>
    cases m with
    | currentWeather =>
      obtain rfl := Except.ok.inj h
      exact ⟨_, _, List.mem_singleton.1 hrow⟩
    | forecast =>
      obtain rfl := Except.ok.inj h
      obtain ⟨record, -, rfl⟩ := List.mem_map.1 hrow
      exact ⟨record, _, rfl⟩
  · cases h

/-- The rows of a payload are what every statement for the method declares. A row has a cell for
each column, which is null or of the type that the statement declares in its place, and the cell of
postal codes is null. By the name of a column its cell is found and by no other name a cell, and the
object of the row has just these names, with the cells that are found by them. -/
theorem rows_conform {m : Method} {payload : Json} {rows : List Row} (h : m.rows payload = .ok rows) :
    ∀ row ∈ rows,
      row.cells.length = m.table.width ∧
      (∀ (call : HandlerCall) (schema : String), call.method = m →
        ∃ arguments clause declared,
          HandlerCall.readStatement schema (call.statement schema) = some (arguments, clause) ∧
          Sql.readColumns clause = some declared ∧
          List.Forall₂ (fun column cell => Cell.Fits column.2 cell) declared row.cells) ∧
      row.get? "ZIP" = some .null ∧
      (∀ (j : Nat) (c : Column), m.table.columns[j]? = some c →
        ∃ cell, row.cells[j]? = some cell ∧ row.get? c.name = some cell) ∧
      (∀ name, row.get? name = none ↔ ∀ c ∈ m.table.columns, c.name ≠ name) ∧
      ∃ ms : Members, row.toJson = .object ms ∧
        (ms.map Prod.fst).Perm (m.table.columns.map Column.name) ∧
        ∀ name, Members.find? name ms = (row.get? name).map Cell.toJson := by
  intro row hrow
  obtain ⟨record, city, same⟩ := exists_ofRecord h hrow
  have table : row.table = m.table := by rw [same]; rfl
  have admitted : List.Forall₂ Column.Admits m.table.columns row.cells := by
    rw [same]
    exact Row.forall₂_admits m.aligned record city
  have width : row.cells.length = row.table.columns.length := by
    rw [table]
    exact admitted.length_eq.symm
  have nodup : (row.table.columns.map Column.name).Nodup := by
    rw [table]
    exact m.nodup_names
  have getAt : ∀ (j : Nat) (c : Column), row.table.columns[j]? = some c →
      ∃ cell, row.cells[j]? = some cell ∧ row.get? c.name = some cell :=
    fun j c => Row.exists_get? nodup width
  have object := Row.toJson_eq_object nodup width
  have unknown := fun name => @Row.get?_eq_none_iff row nodup width name
  rw [table] at width getAt object
  refine ⟨width, ?_, ?_, getAt, ?_, object⟩
  · rintro call schema rfl
    refine ⟨_, _, _, call.readStatement_statement schema, call.method.readColumns_emits, ?_⟩
    rw [declaredColumns, List.forall₂_map_left_iff]
    exact admitted.imp fun c cell fits => fits.1
  · obtain ⟨c, hc, named⟩ := m.zip_mem_columns
    obtain ⟨j, place⟩ := List.mem_iff_getElem?.1 hc
    obtain ⟨cell, inRow, found⟩ := getAt j c place
    have null : cell = .null := (Row.admits_of_getElem? admitted place inRow).2 named
    rw [← named, found, null]
  · intro name
    rw [← table]
    exact unknown name

/-- A forecast whose city has a number for a name and a text for a number, and whose records are a
null and an object with a time in loose writing. -/
def looseForecast : Json :=
  .object [("city", .object [("id", .string "7"), ("name", .ofInt 5)]),
    ("list", .array [.null, .object [("dt_txt", .string "2024-2-29 7:05:60"), ("pop", .bool true)]])]

/-- Both records are rows with all the columns. -/
theorem rows_conform_of_looseForecast :
    ∃ first second,
      Method.forecast.rows looseForecast = .ok [first, second] ∧
      first.cells.length = 29 ∧ first.get? "ZIP" = some .null ∧
      second.cells.length = 29 ∧ second.get? "ZIP" = some .null ∧
      second.get? "CITY_NAME" = some (.text "5") ∧ second.get? "CITY_ID" = some .null ∧
      second.get? "FORECAST_TIME" = some (.timestamp ⟨⟨2024, 2, 29⟩, 7, 5, 60⟩) ∧
      second.get? "WIND_GUST" = none := by
  have rows : Method.forecast.rows looseForecast =
      .ok [Row.ofRecord Catalog.forecast Source.forecast .null _,
        Row.ofRecord Catalog.forecast Source.forecast _ _] := rfl
  have conform := rows_conform rows
  obtain ⟨firstWidth, -, firstZip, -⟩ := conform _ List.mem_cons_self
  obtain ⟨width, -, zip, -, unknown, -⟩ :=
    conform _ (List.mem_cons_of_mem _ (List.mem_singleton_self _))
  refine ⟨_, _, rows, firstWidth, firstZip, width, zip, ?_, ?_, ?_, ?_⟩
  · decide
  · decide
  · decide
  · rw [unknown]
    decide

end Method

end WeatherTables
