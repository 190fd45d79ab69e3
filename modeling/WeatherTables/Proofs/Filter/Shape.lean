import WeatherTables.Filter.Planner
import WeatherTables.Proofs.Json.Records

/-!
# Which values are filters

Whether the planner's value is a filter is a question of its shape alone. `Filter.WellShaped` says what
the shape is, without regard to what the names, the literals and the kinds mean, and
`succeeds_ofJson_iff` that exactly the values of this shape are read. The reader goes through objects and
arrays on its own, because filters nest; `ofJson_eq_asRecord` says that it is still the reader of records.
-/

set_option autoImplicit false

namespace WeatherTables

open Json

/-! ## Operands -/

namespace PlannerOperand

/-- The fields in the order of the array form. -/
def fieldNames : List String :=
  ["type", "name", "value"]

/-- What the fields of an operand may hold. Each may be null, and other members hold anything. -/
inductive Field : String → Json → Prop where
  | null (name : String) : Field name .null
  | kind (s : String) : Field "type" (.string s)
  | name (s : String) : Field "name" (.string s)
  | text (s : String) : Field "value" (.string s)
  | number (n : Number) : Field "value" (.number n)
  | bool (b : Bool) : Field "value" (.bool b)
  | ignored {name : String} (h : name ∉ fieldNames) (v : Json) : Field name v

/-- The values that are operands. -/
def WellShaped : Json → Prop :=
  RecordOf fieldNames Field

/-- A literal may be a string, a number or a truth value. -/
theorem succeeds_literalText_iff (v : Json) :
    Succeeds (literalText v) ↔
      (∃ s, v = .string s) ∨ (∃ n, v = .number n) ∨ ∃ b, v = .bool b := by
  cases v with
  | string s => exact iff_of_true (succeeds_ok s) (.inl ⟨s, rfl⟩)
  | number n => exact iff_of_true (succeeds_ok n.text) (.inr (.inl ⟨n, rfl⟩))
  | bool b => cases b <;> exact iff_of_true (succeeds_ok _) (.inr (.inr ⟨_, rfl⟩))
  | null | array | object => exact iff_of_false (not_succeeds_error _) nofun

/-- What a field of an operand may hold is told by its name. -/
theorem field_iff (name : String) (v : Json) :
    Field name v ↔ v = .null ∨ name ∉ fieldNames ∨
      (name = "type" ∨ name = "name") ∧ (∃ s, v = .string s) ∨
      name = "value" ∧ ((∃ s, v = .string s) ∨ (∃ n, v = .number n) ∨ ∃ b, v = .bool b) := by
  constructor
  · intro h
    cases h <;> simp_all
  · rintro (rfl | h | ⟨rfl | rfl, s, rfl⟩ | ⟨rfl, ⟨s, rfl⟩ | ⟨n, rfl⟩ | ⟨b, rfl⟩⟩)
    · exact .null name
    · exact .ignored h v
    · exact .kind s
    · exact .name s
    · exact .text s
    · exact .number n
    · exact .bool b

/-- A field of an operand can be set to what it may hold. -/
theorem succeeds_setField_iff (o : PlannerOperand) (name : String) (v : Json) :
    Succeeds (o.setField name v) ↔ Field name v := by
  rw [field_iff]
  unfold setField
  split
  · simp [fieldNames]
  · simp [fieldNames]
  · simp [succeeds_literalText_iff, fieldNames]
  · simp_all [fieldNames]

/-- The values that are read as operands are the well-shaped ones. -/
@[simp] theorem succeeds_ofJson_iff (v : Json) : Succeeds (PlannerOperand.ofJson v) ↔ WellShaped v :=
  succeeds_asRecord_iff (fun x _ o name => succeeds_setField_iff o name x) _

end PlannerOperand

/-! ## Filters -/

namespace Filter

mutual

/-- The values that are filters. -/
inductive WellShaped : Json → Prop where
  | record {v : Json} (h : RecordOf PlannerNode.fieldNames Field v) : WellShaped v

/-- What the fields of a filter may hold. Each may be null, and other members hold anything. -/
inductive Field : String → Json → Prop where
  | null (name : String) : Field name .null
  | kind (s : String) : Field "type" (.string s)
  | expressions {children : List Json} (h : ∀ c ∈ children, WellShaped c) :
    Field "expressions" (.array children)
  | arguments {operands : List Json} (h : ∀ o ∈ operands, PlannerOperand.WellShaped o) :
    Field "arguments" (.array operands)
  | operand {name : String} (place : name ∈ ["expression", "left", "right"]) {v : Json}
    (h : PlannerOperand.WellShaped v) : Field name v
  | ignored {name : String} (h : name ∉ PlannerNode.fieldNames) (v : Json) : Field name v

end

/-- What a field of a filter may hold is told by its name. -/
theorem field_iff (name : String) (v : Json) :
    Field name v ↔ v = .null ∨ name ∉ PlannerNode.fieldNames ∨
      name = "type" ∧ (∃ s, v = .string s) ∨
      name = "expressions" ∧ (∃ xs, v = .array xs ∧ ∀ x ∈ xs, WellShaped x) ∨
      name = "arguments" ∧ (∃ xs, v = .array xs ∧ ∀ x ∈ xs, PlannerOperand.WellShaped x) ∨
      name ∈ ["expression", "left", "right"] ∧ PlannerOperand.WellShaped v := by
  constructor
  · intro h
    cases h <;> simp_all
  · rintro (rfl | h | ⟨rfl, s, rfl⟩ | ⟨rfl, xs, rfl, h⟩ | ⟨rfl, xs, rfl, h⟩ | ⟨place, h⟩)
    · exact .null name
    · exact .ignored h v
    · exact .kind s
    · exact .expressions h
    · exact .arguments h
    · exact .operand place h

/-! ## The reader of filters is a reader of records -/

/-- The filters of a list are read one after the other. -/
theorem ofList_eq_mapM (vs : List Json) : ofList vs = vs.mapM ofJson := by
  induction vs with
  | nil => rfl
  | cons v vs ih =>
    rw [ofList, List.mapM_cons, ih]
    cases ofJson v with
    | error e => rfl
    | ok f => cases vs.mapM ofJson <;> rfl

/-- The members of a node are read one after the other. -/
theorem ofMembers_eq_foldlM (n : PlannerNode) (members : List (String × Json)) :
    ofMembers n members = members.foldlM (fun n m => setField n m.1 m.2) n := by
  induction members generalizing n with
  | nil => rfl
  | cons m members ih =>
    rw [ofMembers, List.foldlM_cons]
    cases setField n m.1 m.2 with
    | error e => rfl
    | ok n => exact ih n

/-- Elements too many are noticed after all fields have been read. -/
theorem ofElements_eq (length : Nat) (n : PlannerNode) (names : List String) (xs : List Json) :
    ofElements length n names xs =
      (names.zip xs).foldlM (fun n m => setField n m.1 m.2) n >>= fun n =>
        if names.length < xs.length then .error (.tooLong length) else .ok n := by
  induction names generalizing n xs with
  | nil => cases xs <;> rfl
  | cons name names ih =>
    cases xs with
    | nil => rfl
    | cons x xs =>
      rw [ofElements, List.zip_cons_cons, List.foldlM_cons]
      cases setField n name x with
      | error e => rfl
      | ok n =>
        simp only [ih, List.length_cons, Nat.add_lt_add_iff_right]
        rfl

/-- A filter is read as a record and then made from its parts. -/
theorem ofJson_eq_asRecord (v : Json) :
    ofJson v = (asRecord "struct RawFilter" PlannerNode.fieldNames setField .blank v).map
      PlannerNode.toFilter := by
  cases v with
  | object members => rw [ofJson, ofMembers_eq_foldlM, asRecord]
  | array xs => rw [ofJson, ofElements_eq, asRecord]
  | null | bool | number | string => rfl

/-- The expressions of a node are read as a list of filters, if they are there. -/
theorem setField_expressions (n : PlannerNode) (v : Json) :
    setField n "expressions" v =
      (optional (asList ofJson) v).map fun filters => { n with expressions := filters } := by
  cases v with
  | array xs =>
    rw [setField, ofList_eq_mapM]
    show _ = ((xs.mapM ofJson).map some).map _
    cases xs.mapM ofJson <;> rfl
  | null | bool | number | string | object => rfl

/-! ## The shape decides -/

/-- A field of a node can be set to what it may hold, if this is so for all that is inside. -/
theorem succeeds_setField_iff {v : Json} (inner : ∀ x, v.Inside x → (Succeeds (ofJson x) ↔ WellShaped x))
    (n : PlannerNode) (name : String) : Succeeds (setField n name v) ↔ Field name v := by
  have filters : (∃ xs, v = .array xs ∧ ∀ x ∈ xs, Succeeds (ofJson x)) ↔
      ∃ xs, v = .array xs ∧ ∀ x ∈ xs, WellShaped x := by
    constructor
    · rintro ⟨xs, rfl, h⟩
      exact ⟨xs, rfl, fun x hx => (inner x hx).1 (h x hx)⟩
    · rintro ⟨xs, rfl, h⟩
      exact ⟨xs, rfl, fun x hx => (inner x hx).2 (h x hx)⟩
  by_cases hexpressions : name = "expressions"
  · subst hexpressions
    simp [setField_expressions, field_iff, filters, PlannerNode.fieldNames]
  · unfold setField
    rw [field_iff]
    split
    · simp [PlannerNode.fieldNames]
    · contradiction
    · simp [PlannerNode.fieldNames]
    · simp [PlannerNode.fieldNames]
    · simp [PlannerNode.fieldNames]
    · simp [PlannerNode.fieldNames]
    · simp_all [PlannerNode.fieldNames]

/-- The well-shaped filters are the records whose fields hold what they may. -/
theorem wellShaped_iff (v : Json) : WellShaped v ↔ RecordOf PlannerNode.fieldNames Field v :=
  ⟨fun h => by cases h; assumption, .record⟩

/-- A filter is read exactly from the values of its shape. The induction carries the statement for a
value together with that for all directly inside it, since a field of a filter holds filters one level
further down. -/
theorem succeeds_ofJson_iff (v : Json) : Succeeds (ofJson v) ↔ WellShaped v := by
  have here {v : Json} (inner : ∀ x, v.Inside x →
      ∀ y, x.Inside y → (Succeeds (ofJson y) ↔ WellShaped y)) :
      Succeeds (ofJson v) ↔ WellShaped v := by
    rw [ofJson_eq_asRecord, succeeds_map_iff, wellShaped_iff]
    exact succeeds_asRecord_iff (fun x hx n name => succeeds_setField_iff (inner x hx) n name) .blank
  have both : (Succeeds (ofJson v) ↔ WellShaped v) ∧
      ∀ x, v.Inside x → (Succeeds (ofJson x) ↔ WellShaped x) := by
    induction v using Json.induct with
    | object members ih =>
      exact ⟨here fun x ⟨name, hx⟩ => (ih (name, x) hx).2, fun x ⟨name, hx⟩ => (ih (name, x) hx).1⟩
    | array xs ih => exact ⟨here fun x hx => (ih x hx).2, fun x hx => (ih x hx).1⟩
    | null | bool | number | string => exact ⟨here nofun, nofun⟩
  exact both.1

end Filter

end WeatherTables
