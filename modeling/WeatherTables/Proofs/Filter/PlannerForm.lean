import WeatherTables.Proofs.Filter.Fields
import WeatherTables.Proofs.Filter.Leaves

/-!
# Filters as the planner writes them

`Filter.toPlanner` is the form in which the planner writes a filter. Each of its objects may have further
members, as long as they are null or have a name that is not known there; `Filter.Planned` is the relation
of a filter to all the values that arise in this way. `ofJson_of_planned` says that from any of them the
filter is read back, and `noneEmpty_of_ofJson` the converse: whatever is read is a filter that the planner
can write, apart from predicates of an empty kind.
-/

set_option autoImplicit false

namespace WeatherTables

open Json

/-! ## The form of an operand -/

/-- A literal as the planner writes it. -/
def plannerLiteral (kind value : String) : Json :=
  .object [("type", .string kind), ("value", .string value)]

namespace Operand

/-- The operand as the planner writes it. -/
def toPlanner : Operand → Json
  | .column name => .object [("name", .string name), ("type", .string "column")]
  | .literal value => plannerLiteral "literal_string" value
  | .other kind => .object [("type", .string kind)]

/-- The value is the operand as the planner writes it, with members added. Columns and literals may be
of any kind. -/
inductive Planned : Operand → Json → Prop where
  | column {name kind : String} {members : List (String × Json)}
    (h : Padded PlannerOperand.fieldNames [("name", .string name), ("type", .string kind)] members) :
    Planned (.column name) (.object members)
  | literal {value kind : String} {members : List (String × Json)}
    (h : Padded PlannerOperand.fieldNames [("type", .string kind), ("value", .string value)] members) :
    Planned (.literal value) (.object members)
  | other {kind : String} {members : List (String × Json)}
    (h : Padded PlannerOperand.fieldNames [("type", .string kind)] members) :
    Planned (.other kind) (.object members)

/-- A literal of any kind is one as the planner writes it. -/
theorem planned_literal (kind value : String) :
    Planned (.literal value) (plannerLiteral kind value) :=
  .literal (.self (by simp))

/-- What is written for an operand is that operand as the planner writes it. -/
theorem planned_toPlanner (o : Operand) : Planned o o.toPlanner := by
  cases o with
  | column name => exact .column (.self (by simp))
  | literal value => exact planned_literal _ value
  | other kind => exact .other (.self (by simp))

/-- An operand as the planner writes it is read, and is the same operand. -/
theorem exists_of_planned {o : Operand} {v : Json} (h : Planned o v) :
    ∃ read : PlannerOperand, PlannerOperand.ofJson v = .ok read ∧ read.toOperand = o := by
  cases h with
  | @column name kind members padded =>
    refine ⟨⟨some kind, some name, none⟩, PlannerOperand.ofJson_padded padded ?_ ⟨rfl, rfl, rfl⟩, rfl⟩
    simp only [List.forall_mem_cons, List.not_mem_nil, false_implies, implies_true, and_true]
    exact ⟨.name name, .kind kind⟩
  | @literal value kind members padded =>
    refine ⟨⟨some kind, none, some value⟩, PlannerOperand.ofJson_padded padded ?_ ⟨rfl, rfl, rfl⟩, rfl⟩
    simp only [List.forall_mem_cons, List.not_mem_nil, false_implies, implies_true, and_true]
    exact ⟨.kind kind, .text value⟩
  | @other kind members padded =>
    refine ⟨⟨some kind, none, none⟩, PlannerOperand.ofJson_padded padded ?_ ⟨rfl, rfl, rfl⟩, rfl⟩
    simp only [List.forall_mem_cons, List.not_mem_nil, false_implies, implies_true, and_true]
    exact .kind kind

end Operand

namespace PlannerOperand

/-- An operand that becomes a column has its name. -/
theorem name_of_toOperand {o : PlannerOperand} {name : String} (h : o.toOperand = .column name) :
    o.name = some name := by
  unfold toOperand at h
  split at h
  · next name' found => rw [found, Operand.column.inj h]
  · cases h
  · cases h

/-- An operand that becomes a literal has its value. -/
theorem value_of_toOperand {o : PlannerOperand} {value : String} (h : o.toOperand = .literal value) :
    o.value = some value := by
  unfold toOperand at h
  split at h
  · cases h
  · next found => rw [found, Operand.literal.inj h]
  · cases h

end PlannerOperand

/-! ## The form of a filter -/

namespace Filter

mutual

/-- The filter as the planner writes it. -/
def toPlanner : Filter → Json
  | .all children =>
    .object [("expressions", .array (toPlannerList children)), ("type", .string "predicate_and")]
  | .any children =>
    .object [("expressions", .array (toPlannerList children)), ("type", .string "predicate_or")]
  | .inList column values =>
    .object [("arguments", .array (values.map (plannerLiteral "literal_exactnumeric"))),
      ("expression", (Operand.column column).toPlanner), ("type", .string "predicate_in_constlist")]
  | .equal left right =>
    .object [("left", left.toPlanner), ("right", right.toPlanner), ("type", .string "predicate_equal")]
  | .other kind => .object [("type", .string kind)]

/-- The filters of a list as the planner writes them. -/
def toPlannerList : List Filter → List Json
  | [] => []
  | f :: fs => toPlanner f :: toPlannerList fs

end

/-- The filters of a list are written each on its own. -/
theorem toPlannerList_eq_map (fs : List Filter) : toPlannerList fs = fs.map toPlanner := by
  induction fs with
  | nil => rfl
  | cons f fs ih => rw [toPlannerList, ih, List.map_cons]

/-- The value is the filter as the planner writes it, with members added to any of its objects. Neither
an empty connective or list nor a predicate of an empty kind can be written. -/
inductive Planned : Filter → Json → Prop where
  | all {fs : List Filter} {vs : List Json} {members : List (String × Json)} (filled : fs ≠ [])
    (children : List.Forall₂ Planned fs vs)
    (h : Padded PlannerNode.fieldNames
      [("expressions", .array vs), ("type", .string "predicate_and")] members) :
    Planned (.all fs) (.object members)
  | any {fs : List Filter} {vs : List Json} {members : List (String × Json)} (filled : fs ≠ [])
    (children : List.Forall₂ Planned fs vs)
    (h : Padded PlannerNode.fieldNames
      [("expressions", .array vs), ("type", .string "predicate_or")] members) :
    Planned (.any fs) (.object members)
  | inList {column : String} {values : List String} {operand : Json} {arguments : List Json}
    {members : List (String × Json)} (filled : values ≠ [])
    (named : Operand.Planned (.column column) operand)
    (valued : List.Forall₂ (fun value v => Operand.Planned (.literal value) v) values arguments)
    (h : Padded PlannerNode.fieldNames
      [("arguments", .array arguments), ("expression", operand),
        ("type", .string "predicate_in_constlist")] members) :
    Planned (.inList column values) (.object members)
  | equal {left right : Operand} {l r : Json} {members : List (String × Json)}
    (onLeft : Operand.Planned left l) (onRight : Operand.Planned right r)
    (h : Padded PlannerNode.fieldNames
      [("left", l), ("right", r), ("type", .string "predicate_equal")] members) :
    Planned (.equal left right) (.object members)
  | other {kind : String} {members : List (String × Json)} (named : kind ≠ "")
    (h : Padded PlannerNode.fieldNames [("type", .string kind)] members) :
    Planned (.other kind) (.object members)

/-- No connective and no constant list in the filter is empty. -/
def NoneEmpty (f : Filter) : Prop :=
  ∀ g, Within g f → g ≠ .all [] ∧ g ≠ .any [] ∧ ∀ column, g ≠ .inList column []

/-- Every predicate of another kind in the filter has a kind. -/
def Kinded (f : Filter) : Prop :=
  ∀ kind, Within (.other kind) f → kind ≠ ""

/-- A connective has children, and each is written as the planner does, if this is so for filters
without empty parts. -/
theorem planned_children {c : Filter} {fs : List Filter} (connective : c = .all fs ∨ c = .any fs)
    (noneEmpty : NoneEmpty c) (kinded : Kinded c)
    (ih : ∀ f ∈ fs, NoneEmpty f → Kinded f → Planned f f.toPlanner) :
    fs ≠ [] ∧ List.Forall₂ Planned fs (fs.map toPlanner) := by
  have within : ∀ f ∈ fs, ∀ g, Within g f → Within g c := by
    intro f hf g below
    rcases connective with rfl | rfl
    · exact .all hf below
    · exact .any hf below
  constructor
  · rintro rfl
    obtain ⟨notAll, notAny, -⟩ := noneEmpty c .self
    exact connective.elim notAll notAny
  · rw [List.forall₂_map_right_iff, List.forall₂_same]
    intro f hf
    apply ih f hf
    · exact fun g below => noneEmpty g (within f hf g below)
    · exact fun kind below => kinded kind (within f hf _ below)

/-- What is written for a filter without empty parts is that filter as the planner writes it. -/
theorem planned_toPlanner {f : Filter} (noneEmpty : NoneEmpty f) (kinded : Kinded f) :
    Planned f f.toPlanner := by
  induction f using induct with
  | all fs ih =>
    obtain ⟨filled, children⟩ := planned_children (.inl rfl) noneEmpty kinded ih
    rw [toPlanner, toPlannerList_eq_map]
    exact .all filled children (.self (by simp))
  | any fs ih =>
    obtain ⟨filled, children⟩ := planned_children (.inr rfl) noneEmpty kinded ih
    rw [toPlanner, toPlannerList_eq_map]
    exact .any filled children (.self (by simp))
  | inList column values =>
    have filled : values ≠ [] := fun empty => (noneEmpty _ .self).2.2 column (empty ▸ rfl)
    have valued : List.Forall₂ (fun value v => Operand.Planned (.literal value) v) values
        (values.map (plannerLiteral "literal_exactnumeric")) := by
      rw [List.forall₂_map_right_iff, List.forall₂_same]
      exact fun value _ => Operand.planned_literal _ value
    exact .inList filled (Operand.planned_toPlanner _) valued (.self (by simp))
  | equal left right =>
    exact .equal left.planned_toPlanner right.planned_toPlanner (.self (by simp))
  | other kind => exact .other (kinded kind .self) (.self (by simp))

/-! ## Reading the form -/

/-- Values that are read as filters are well-shaped. -/
theorem wellShaped_of_read {vs : List Json} {fs : List Filter}
    (h : List.Forall₂ (fun v f => Filter.ofJson v = .ok f) vs fs) : ∀ v ∈ vs, WellShaped v := by
  intro v hv
  obtain ⟨f, -, read⟩ := exists_of_mem_left h hv
  exact (succeeds_ofJson_iff v).1 ⟨f, read⟩

/-- Expressions that can be read make a connective, whatever its kind. -/
theorem ofJson_expressions {fs : List Filter} {vs : List Json} {kind : String}
    {members : List (String × Json)} (filled : fs ≠ [])
    (read : List.Forall₂ (fun v f => Filter.ofJson v = .ok f) vs fs)
    (padded : Padded PlannerNode.fieldNames [("expressions", .array vs), ("type", .string kind)]
      members) :
    Filter.ofJson (.object members) =
      .ok (if kind = "predicate_or" then .any fs else .all fs) := by
  have expressions : optional (asList Filter.ofJson) (.array vs) = .ok (some fs) :=
    optional_eq_some_iff.2 ⟨nofun, asList_eq_ok_iff.2 ⟨vs, rfl, read⟩⟩
  let node : PlannerNode := ⟨some kind, some fs, none, none, none, none⟩
  have isNode : Filter.ofJson (.object members) = .ok node.toFilter := by
    apply ofJson_padded padded
    · simp only [List.forall_mem_cons, List.not_mem_nil, false_implies, implies_true, and_true]
      exact ⟨.expressions (wellShaped_of_read read), .kind kind⟩
    · exact ⟨rfl, expressions, rfl, rfl, rfl, rfl⟩
  have isConnective : node.toFilter = _ := PlannerNode.toFilter_of_expressions rfl filled
  rw [isNode, isConnective]
  rfl

/-- Literals as the planner writes them are read as operands with their values. -/
theorem exists_of_valued {values : List String} {arguments : List Json}
    (h : List.Forall₂ (fun value v => Operand.Planned (.literal value) v) values arguments) :
    ∃ operands : List PlannerOperand,
      List.Forall₂ (fun v o => PlannerOperand.ofJson v = .ok o) arguments operands ∧
      operands.map PlannerOperand.value = values.map some := by
  induction h with
  | nil => exact ⟨[], .nil, rfl⟩
  | cons first _ ih =>
    obtain ⟨o, read, isLiteral⟩ := Operand.exists_of_planned first
    obtain ⟨operands, others, same⟩ := ih
    refine ⟨o :: operands, .cons read others, ?_⟩
    rw [List.map_cons, PlannerOperand.value_of_toOperand isLiteral, same, List.map_cons]

/-- A column and arguments, each of them with a value, make a list. -/
theorem ofJson_arguments {column : String} {values : List String} {operand : Json}
    {arguments : List Json} {kind : String} {members : List (String × Json)} (filled : values ≠ [])
    (named : Operand.Planned (.column column) operand)
    (valued : List.Forall₂ (fun value v => Operand.Planned (.literal value) v) values arguments)
    (padded : Padded PlannerNode.fieldNames
      [("arguments", .array arguments), ("expression", operand), ("type", .string kind)] members) :
    Filter.ofJson (.object members) = .ok (.inList column values) := by
  obtain ⟨e, readColumn, isColumn⟩ := Operand.exists_of_planned named
  obtain ⟨operands, read, haveValues⟩ := exists_of_valued valued
  have operandShaped := (PlannerOperand.succeeds_ofJson_iff operand).1 ⟨e, readColumn⟩
  have argumentsShaped : ∀ v ∈ arguments, PlannerOperand.WellShaped v := by
    intro v hv
    obtain ⟨o, -, hread⟩ := exists_of_mem_left read hv
    exact (PlannerOperand.succeeds_ofJson_iff v).1 ⟨o, hread⟩
  let node : PlannerNode := ⟨some kind, none, some e, some operands, none, none⟩
  have isNode : Filter.ofJson (.object members) = .ok node.toFilter := by
    apply ofJson_padded padded
    · simp only [List.forall_mem_cons, List.not_mem_nil, false_implies, implies_true, and_true]
      exact ⟨.arguments argumentsShaped, .operand (by decide) operandShaped, .kind kind⟩
    · have expression := optional_eq_some_iff.2 ⟨RecordOf.ne_null operandShaped, readColumn⟩
      have list : optional (asList PlannerOperand.ofJson) (.array arguments) = .ok (some operands) :=
        optional_eq_some_iff.2 ⟨nofun, asList_eq_ok_iff.2 ⟨arguments, rfl, read⟩⟩
      exact ⟨rfl, rfl, expression, list, rfl, rfl⟩
  have nonempty : node.arguments.getD [] ≠ [] := by
    rintro empty
    have none : values.map some = [] := haveValues.symm.trans (congrArg _ empty)
    exact filled (List.map_eq_nil_iff.1 none)
  have isList : PlannerNode.toList? node.expression (node.arguments.getD []) =
      some (.inList column values) :=
    PlannerNode.toList?_eq_some_iff.2
      ⟨column, values, PlannerOperand.name_of_toOperand isColumn, haveValues, rfl⟩
  rw [isNode, PlannerNode.toFilter_of_arguments nonempty, isList, Option.getD_some]

/-- Two operands make an equality. -/
theorem ofJson_operands {left right : Operand} {l r : Json} {members : List (String × Json)}
    (onLeft : Operand.Planned left l) (onRight : Operand.Planned right r)
    (padded : Padded PlannerNode.fieldNames
      [("left", l), ("right", r), ("type", .string "predicate_equal")] members) :
    Filter.ofJson (.object members) = .ok (.equal left right) := by
  obtain ⟨lo, readLeft, rfl⟩ := Operand.exists_of_planned onLeft
  obtain ⟨ro, readRight, rfl⟩ := Operand.exists_of_planned onRight
  have leftShaped := (PlannerOperand.succeeds_ofJson_iff l).1 ⟨lo, readLeft⟩
  have rightShaped := (PlannerOperand.succeeds_ofJson_iff r).1 ⟨ro, readRight⟩
  let node : PlannerNode := ⟨some "predicate_equal", none, none, none, some lo, some ro⟩
  have isNode : Filter.ofJson (.object members) = .ok node.toFilter := by
    apply ofJson_padded padded
    · simp only [List.forall_mem_cons, List.not_mem_nil, false_implies, implies_true, and_true]
      exact ⟨.operand (by decide) leftShaped, .operand (by decide) rightShaped, .kind _⟩
    · have readsLeft := optional_eq_some_iff.2 ⟨RecordOf.ne_null leftShaped, readLeft⟩
      have readsRight := optional_eq_some_iff.2 ⟨RecordOf.ne_null rightShaped, readRight⟩
      exact ⟨rfl, rfl, rfl, rfl, readsLeft, readsRight⟩
  rw [isNode, PlannerNode.toFilter_of_operands rfl rfl]
  rfl

/-- A kind and nothing else makes a predicate of another kind. -/
theorem ofJson_kind {kind : String} {members : List (String × Json)} (named : kind ≠ "")
    (padded : Padded PlannerNode.fieldNames [("type", .string kind)] members) :
    Filter.ofJson (.object members) = .ok (.other kind) := by
  let node : PlannerNode := ⟨some kind, none, none, none, none, none⟩
  have isNode : Filter.ofJson (.object members) = .ok node.toFilter := by
    apply ofJson_padded padded
    · simp only [List.forall_mem_cons, List.not_mem_nil, false_implies, implies_true, and_true]
      exact .kind kind
    · exact ⟨rfl, rfl, rfl, rfl, rfl, rfl⟩
  rw [isNode, PlannerNode.toFilter_of_operands rfl rfl]
  show Except.ok (Filter.other (if kind = "" then "unknown" else kind)) = _
  rw [if_neg named]

/-- Filters as the planner writes them are read one by one, if each of them is. -/
theorem read_of_planned {fs : List Filter} {vs : List Json}
    (ih : ∀ f ∈ fs, ∀ v, Planned f v → Filter.ofJson v = .ok f) (h : List.Forall₂ Planned fs vs) :
    List.Forall₂ (fun v f => Filter.ofJson v = .ok f) vs fs := by
  have both := (List.forall₂_and_left fs vs).2 ⟨ih, h⟩
  have read := both.imp fun f v h => h.1 v h.2
  exact List.Forall₂.flip read

/-- A filter as the planner writes it is read as that filter. -/
theorem ofJson_of_planned {f : Filter} {v : Json} (h : Planned f v) : Filter.ofJson v = .ok f := by
  induction f using induct generalizing v with
  | all fs ih =>
    cases h with
    | all filled children padded =>
      exact ofJson_expressions filled (read_of_planned (fun f hf v => ih f hf) children) padded
  | any fs ih =>
    cases h with
    | any filled children padded =>
      exact ofJson_expressions filled (read_of_planned (fun f hf v => ih f hf) children) padded
  | inList column values =>
    cases h with
    | inList filled named valued padded => exact ofJson_arguments filled named valued padded
  | equal left right =>
    cases h with
    | equal onLeft onRight padded => exact ofJson_operands onLeft onRight padded
  | other kind =>
    cases h with
    | other named padded => exact ofJson_kind named padded

/-! ## Whatever is read -/

/-- A connective that was read has children, and each was read from a value. -/
theorem children_of_ofJson {v : Json} {f : Filter} {fs : List Filter} (h : Filter.ofJson v = .ok f)
    (connective : f = .all fs ∨ f = .any fs) :
    fs ≠ [] ∧ ∀ g ∈ fs, ∃ c, Filter.ofJson c = .ok g := by
  obtain ⟨n, reads, rfl⟩ := exists_reads_of_ofJson h
  -- Of the four things that a node can describe only one is a connective.
  rcases n.toFilter_cases with ⟨_, _, _, is⟩ | ⟨children, filled, found, is⟩ | ⟨_, _, is⟩ | ⟨_, is⟩
  case inr.inl =>
    obtain rfl : children = fs := by
      rcases is with is | is <;> rcases connective with asked | asked <;> rw [is] at asked <;>
        cases asked <;> rfl
    have read := elements_read reads.expressions
    rw [found, Option.getD_some] at read
    refine ⟨filled, fun g hg => ?_⟩
    obtain ⟨c, -, hc⟩ := exists_of_mem_right read hg
    exact ⟨c, hc⟩
  all_goals rcases connective with asked | asked <;> rw [is] at asked <;> cases asked

/-- A constant list that was read has values. -/
theorem values_of_ofJson {v : Json} {column : String} {values : List String}
    (h : Filter.ofJson v = .ok (.inList column values)) : values ≠ [] := by
  obtain ⟨n, -, same⟩ := exists_reads_of_ofJson h
  rcases n.toFilter_cases with ⟨_, _, filled, is⟩ | ⟨_, _, _, is | is⟩ | ⟨_, _, is⟩ | ⟨_, is⟩
  all_goals rw [is] at same; cases same
  exact filled

/-- Nothing in a connective that was read is empty, if this is so for children that were read. -/
theorem noneEmpty_connective {v : Json} {c : Filter} {fs : List Filter}
    (h : Filter.ofJson v = .ok c) (connective : c = .all fs ∨ c = .any fs)
    (ih : ∀ f ∈ fs, ∀ {v}, Filter.ofJson v = .ok f → NoneEmpty f) : NoneEmpty c := by
  obtain ⟨filled, read⟩ := children_of_ofJson h connective
  have children : ∀ f ∈ fs, NoneEmpty f := by
    intro f hf
    obtain ⟨child, hchild⟩ := read f hf
    exact ih f hf hchild
  intro g below
  rcases connective with rfl | rfl
  · cases below with
    | self => exact ⟨fun same => filled (Filter.all.inj same), nofun, nofun⟩
    | all mem below => exact children _ mem g below
  · cases below with
    | self => exact ⟨nofun, fun same => filled (Filter.any.inj same), nofun⟩
    | any mem below => exact children _ mem g below

/-- Nothing in a filter that was read is empty. -/
theorem noneEmpty_of_ofJson {f : Filter} {v : Json} (h : Filter.ofJson v = .ok f) : NoneEmpty f := by
  induction f using induct generalizing v with
  | all fs ih => exact noneEmpty_connective h (.inl rfl) ih
  | any fs ih => exact noneEmpty_connective h (.inr rfl) ih
  | inList column values =>
    intro g below
    cases below
    exact ⟨nofun, nofun, fun _ same => values_of_ofJson h (Filter.inList.inj same).2⟩
  | equal | other =>
    intro g below
    cases below
    exact ⟨nofun, nofun, nofun⟩

/-- Filters have a leaf together, if there are any and each has one. -/
theorem one_le_leafCountList {fs : List Filter} (filled : fs ≠ []) (h : ∀ f ∈ fs, 1 ≤ f.leafCount) :
    1 ≤ leafCountList fs := by
  cases fs with
  | nil => exact absurd rfl filled
  | cons f fs =>
    have first := h f List.mem_cons_self
    rw [leafCountList]
    omega

/-- A filter in which nothing is empty has a leaf. -/
theorem one_le_leafCount {f : Filter} (h : NoneEmpty f) : 1 ≤ f.leafCount := by
  induction f using induct with
  | all fs ih =>
    have filled : fs ≠ [] := fun empty => (h _ .self).1 (congrArg Filter.all empty)
    exact one_le_leafCountList filled fun f hf => ih f hf fun g below => h g (.all hf below)
  | any fs ih =>
    have filled : fs ≠ [] := fun empty => (h _ .self).2.1 (congrArg Filter.any empty)
    exact one_le_leafCountList filled fun f hf => ih f hf fun g below => h g (.any hf below)
  | inList column values =>
    rw [leafCount]
    exact List.length_pos_iff.2 fun empty => (h _ .self).2.2 column (empty ▸ rfl)
  | equal | other => exact Nat.le_refl 1

/-- What the planner writes is read back. If nothing in a filter is empty, neither a connective nor a list
nor the kind of a predicate, then the filter is read from its form, and also if members were added to any
object of the form that are null or have no name known there. What is read from any value at all has
nothing empty in it but perhaps the kind of a predicate, and so at least one leaf. -/
theorem planner_form_read_back :
    (∀ f, NoneEmpty f → Kinded f → Filter.ofJson f.toPlanner = .ok f) ∧
    (∀ f, NoneEmpty f → Kinded f → Planned f f.toPlanner) ∧
    (∀ f v, Planned f v → Filter.ofJson v = .ok f) ∧
    ∀ v f, Filter.ofJson v = .ok f → NoneEmpty f ∧ 1 ≤ f.leafCount := by
  refine ⟨?_, fun f => planned_toPlanner, fun f v => ofJson_of_planned, ?_⟩
  · intro f noneEmpty kinded
    exact ofJson_of_planned (planned_toPlanner noneEmpty kinded)
  · intro v f h
    have noneEmpty := noneEmpty_of_ofJson h
    exact ⟨noneEmpty, one_le_leafCount noneEmpty⟩

/-- A postal code from a list, or a country, with the literal on the left. -/
def codeOrCountry : Filter :=
  .any [.inList "ZIP" ["10115"], .equal (.literal "DE") (.column "COUNTRY_CODE")]

/-- The form of the list, with a member added to it and to its column. -/
def annotatedList : Json :=
  .object [("arguments", .array [plannerLiteral "literal_exactnumeric" "10115"]),
    ("expression", .object [("columnNr", .ofInt 30), ("name", .string "ZIP"),
      ("type", .string "column")]),
    ("left", .null), ("type", .string "predicate_in_constlist")]

/-- The form of the whole filter, with a member added to it. -/
def annotatedForm : Json :=
  .object [("expressions", .array [annotatedList,
      (Filter.equal (.literal "DE") (.column "COUNTRY_CODE")).toPlanner]),
    ("note", .array [.null]), ("type", .string "predicate_or")]

/-- The annotated form is that of the postal code or the country, with members added. -/
theorem planned_annotatedForm : Planned codeOrCountry annotatedForm := by
  have column : Padded PlannerOperand.fieldNames
      [("name", .string "ZIP"), ("type", .string "column")]
      [("columnNr", .ofInt 30), ("name", .string "ZIP"), ("type", .string "column")] :=
    ⟨by simp, by simp, by simp [PlannerOperand.fieldNames]⟩
  have code := Operand.planned_literal "literal_exactnumeric" "10115"
  have list : Planned (.inList "ZIP" ["10115"]) annotatedList :=
    .inList (by simp) (.column column) (.cons code .nil) ⟨by simp, by simp, by simp⟩
  have country : Planned (.equal (.literal "DE") (.column "COUNTRY_CODE"))
      (Filter.equal (.literal "DE") (.column "COUNTRY_CODE")).toPlanner :=
    .equal (Operand.planned_toPlanner _) (Operand.planned_toPlanner _) (.self (by simp))
  exact .any (by simp) (.cons list (.cons country .nil))
    ⟨by simp, by simp, by simp [PlannerNode.fieldNames]⟩

/-- The filter is read back from its own form and from the annotated one. -/
theorem planner_form_read_back_of_annotated :
    NoneEmpty codeOrCountry ∧ Kinded codeOrCountry ∧ Planned codeOrCountry annotatedForm ∧
      Filter.ofJson codeOrCountry.toPlanner = .ok codeOrCountry ∧
      Filter.ofJson annotatedForm = .ok codeOrCountry ∧ 1 ≤ codeOrCountry.leafCount := by
  obtain ⟨plain, -, annotated, converse⟩ := planner_form_read_back
  have read := annotated codeOrCountry annotatedForm planned_annotatedForm
  obtain ⟨noneEmpty, leaf⟩ := converse annotatedForm codeOrCountry read
  have kinded : Kinded codeOrCountry := by
    intro kind below
    cases below with
    | any mem below =>
      simp only [List.mem_cons, List.not_mem_nil, or_false] at mem
      rcases mem with rfl | rfl
      · cases below
      · cases below
  exact ⟨noneEmpty, kinded, planned_annotatedForm, plain codeOrCountry noneEmpty kinded, read, leaf⟩

end Filter

end WeatherTables
