import WeatherTables.Proofs.Filter.PlannerForm

/-!
# Predicates of kinds that were not announced

The adapter announces conjunctions, disjunctions, equalities and constant lists. A predicate of another
kind is dropped with a warning, but only if it does not look like one of these: a node with a complete
list is read as a constant list and a node with expressions as a conjunction, whatever its kind is.
`foreign_kind_dropped_iff` says for every node of a filter which of this happens, and
`negation_read_as_conjunction` shows what it does to a negation.
-/

set_option autoImplicit false

namespace WeatherTables

open Json

/-! ## The shape of a node -/

/-- The kinds of the predicates that are announced. -/
def announcedKinds : List String :=
  ["predicate_and", "predicate_or", "predicate_equal", "predicate_in_constlist"]

/-- The value that an operand has, null if there is none. -/
def PlannerOperand.valueOf (v : Json) : Json :=
  v.field fieldNames "value"

namespace PlannerNode

/-- The arguments of a node. -/
def argumentsOf (v : Json) : List Json :=
  (v.field fieldNames "arguments").elements?.getD []

/-- The expressions of a node. -/
def expressionsOf (v : Json) : List Json :=
  (v.field fieldNames "expressions").elements?.getD []

/-- The name of the column of a list, null if there is none. -/
def columnOf (v : Json) : Json :=
  (v.field fieldNames "expression").field PlannerOperand.fieldNames "name"

/-- The node has a column with a name, and arguments that all have a value. -/
structure ListShaped (v : Json) : Prop where
  filled : argumentsOf v ≠ []
  named : columnOf v ≠ .null
  valued : ∀ a ∈ argumentsOf v, PlannerOperand.valueOf a ≠ .null

/-- The node has expressions and no arguments. -/
structure ConnectiveShaped (v : Json) : Prop where
  noArguments : argumentsOf v = []
  filled : expressionsOf v ≠ []

/-- The node `x` is the node `v` or stands somewhere below it. -/
inductive Below (x : Json) : Json → Prop where
  | self : Below x x
  | child {v c : Json} (mem : c ∈ expressionsOf v) (below : Below x c) : Below x v

/-- The node `x` stands somewhere below `v`, and no node above it has arguments, for the sake of which
its expressions would be passed over. -/
inductive Reached (x : Json) : Json → Prop where
  | self : Reached x x
  | child {v c : Json} (noArguments : argumentsOf v = []) (mem : c ∈ expressionsOf v)
    (reached : Reached x c) : Reached x v

/-! ## What is read from the shape -/

section Reads

variable {n : PlannerNode} {v : Json} (reads : n.Reads (v.field fieldNames))
include reads

/-- The name of a list's column is read as the name of the node's expression. -/
theorem read_columnOf : optional asText (columnOf v) = .ok (n.expression.bind PlannerOperand.name) := by
  have read := reads.expression
  unfold columnOf
  cases found : n.expression with
  | none =>
    rw [found, optional_eq_none_iff] at read
    rw [read]
    rfl
  | some e =>
    rw [found, optional_eq_some_iff] at read
    exact (PlannerOperand.reads_of_ofJson read.2).name

/-- The arguments in the value are read as those of the node, one by one. -/
theorem read_argumentsOf :
    List.Forall₂ (fun a o => PlannerOperand.ofJson a = .ok o) (argumentsOf v) (n.arguments.getD []) :=
  elements_read reads.arguments

/-- The expressions in the value are read as those of the node, one by one. -/
theorem read_expressionsOf :
    List.Forall₂ (fun c f => Filter.ofJson c = .ok f) (expressionsOf v) (n.expressions.getD []) :=
  elements_read reads.expressions

/-- The values of the arguments are read as those of the node's operands, one by one. -/
theorem read_valuesOf :
    List.Forall₂ (fun a value => optional PlannerOperand.literalText (PlannerOperand.valueOf a) =
      .ok value) (argumentsOf v) ((n.arguments.getD []).map PlannerOperand.value) := by
  rw [List.forall₂_map_right_iff]
  exact (read_argumentsOf reads).imp fun a o h => (PlannerOperand.reads_of_ofJson h).value

/-- The arguments in the value all have values just when the operands of the node do. -/
theorem valued_iff :
    (∀ a ∈ argumentsOf v, PlannerOperand.valueOf a ≠ .null) ↔
      ∀ o ∈ n.arguments.getD [], o.value ≠ none := by
  have read := read_argumentsOf reads
  have missing {a : Json} {o : PlannerOperand} (h : PlannerOperand.ofJson a = .ok o) :
      PlannerOperand.valueOf a = .null ↔ o.value = none :=
    eq_null_iff_of_optional (PlannerOperand.reads_of_ofJson h).value
  constructor
  · intro valued o ho
    obtain ⟨a, ha, h⟩ := exists_of_mem_right read ho
    exact fun none => valued a ha ((missing h).2 none)
  · intro valued a ha
    obtain ⟨o, ho, h⟩ := exists_of_mem_left read ha
    exact fun null => valued o ho ((missing h).1 null)

/-- A node of the shape of a list is a constant list of its column and its values, whatever its
kind. -/
theorem toFilter_of_listShaped (shaped : ListShaped v) :
    ∃ column values, columnOf v = .string column ∧
      List.Forall₂ (fun a value => PlannerOperand.literalText (PlannerOperand.valueOf a) = .ok value)
        (argumentsOf v) values ∧
      n.toFilter = .inList column values := by
  have filled : n.arguments.getD [] ≠ [] :=
    mt (eq_nil_iff_of_forall₂ (read_argumentsOf reads)).2 shaped.filled
  have named := read_columnOf reads
  have valued := read_valuesOf reads
  obtain ⟨column, isColumn⟩ : ∃ column, n.expression.bind PlannerOperand.name = some column := by
    rw [← Option.ne_none_iff_exists']
    exact mt (eq_null_iff_of_optional named).2 shaped.named
  obtain ⟨values, areValues⟩ := exists_map_value_eq_iff.2 ((valued_iff reads).1 shaped.valued)
  rw [isColumn, optional_eq_some_iff, asText_eq_ok_iff] at named
  rw [areValues, List.forall₂_map_right_iff] at valued
  have isList := toList?_eq_some_iff.2 ⟨column, values, isColumn, areValues, rfl⟩
  refine ⟨column, values, named.2, valued.imp fun a value h => (optional_eq_some_iff.1 h).2, ?_⟩
  rw [toFilter_of_arguments filled, isList, Option.getD_some]

/-- A node of the shape of a connective is a conjunction, unless its kind is that of a disjunction. -/
theorem toFilter_of_connectiveShaped (shaped : ConnectiveShaped v)
    (notOr : n.kind.getD "" ≠ "predicate_or") : n.toFilter = .all (n.expressions.getD []) := by
  have noArguments := (eq_nil_iff_of_forall₂ (read_argumentsOf reads)).1 shaped.noArguments
  have filled : n.expressions.getD [] ≠ [] :=
    mt (eq_nil_iff_of_forall₂ (read_expressionsOf reads)).2 shaped.filled
  rw [toFilter_of_expressions noArguments filled, if_neg notOr]

/-- What has neither shape is read by its kind. -/
theorem toFilter_of_shapeless (noList : ¬ ListShaped v) (noConnective : ¬ ConnectiveShaped v)
    (named : n.kind.getD "" ≠ "") (notEqual : n.kind.getD "" ≠ "predicate_equal") :
    n.toFilter = .other (n.kind.getD "") := by
  have sameArguments := eq_nil_iff_of_forall₂ (read_argumentsOf reads)
  by_cases noArguments : n.arguments.getD [] = []
  · have noExpressions : n.expressions.getD [] = [] := by
      rw [← eq_nil_iff_of_forall₂ (read_expressionsOf reads)]
      by_contra filled
      exact noConnective ⟨sameArguments.2 noArguments, filled⟩
    rw [toFilter_of_operands noArguments noExpressions, toEqual]
    simp only [named, notEqual, or_self, if_false]
    split <;> rfl
  · rw [toFilter_of_arguments noArguments]
    -- Arguments that do not make a list leave the kind, whatever expressions there are.
    cases found : toList? n.expression (n.arguments.getD []) with
    | none => rfl
    | some f =>
      obtain ⟨column, values, isColumn, areValues, -⟩ := toList?_eq_some_iff.1 found
      refine absurd ⟨mt sameArguments.1 noArguments, ?_, ?_⟩ noList
      · rw [ne_eq, eq_null_iff_of_optional (read_columnOf reads), isColumn]
        exact Option.some_ne_none column
      · exact (valued_iff reads).2 (exists_map_value_eq_iff.1 ⟨values, areValues⟩)

end Reads

end PlannerNode

namespace Filter

open PlannerNode

/-! ## Nodes within a filter -/

/-- Every node below one that can be read can be read itself. -/
theorem succeeds_of_below {v x : Json} {f : Filter} (h : Filter.ofJson v = .ok f)
    (below : Below x v) : ∃ g, Filter.ofJson x = .ok g := by
  induction below generalizing f with
  | self => exact ⟨f, h⟩
  | child mem below ih =>
    obtain ⟨n, reads, -⟩ := exists_reads_of_ofJson h
    obtain ⟨g, -, read⟩ := exists_of_mem_left (read_expressionsOf reads) mem
    exact ih read

/-- What a node is read as is a part of the filter, unless it was passed over. -/
theorem within_of_reached {v x : Json} {f g : Filter} (h : Filter.ofJson v = .ok f)
    (reached : Reached x v) (read : Filter.ofJson x = .ok g) : Within g f := by
  induction reached generalizing f with
  | self =>
    obtain rfl := Except.ok.inj (h.symm.trans read)
    exact .self
  | child noArguments mem below ih =>
    obtain ⟨n, reads, rfl⟩ := exists_reads_of_ofJson h
    obtain ⟨child, hchild, readChild⟩ := exists_of_mem_left (read_expressionsOf reads) mem
    have within := ih readChild
    -- Without arguments the node is a connective of its expressions, so nothing of the child is lost.
    have none := (eq_nil_iff_of_forall₂ (read_argumentsOf reads)).1 noArguments
    rw [toFilter_of_expressions none (List.ne_nil_of_mem hchild)]
    split
    · exact .any hchild within
    · exact .all hchild within

/-- A predicate of the kind is a leaf of the filter, and gives one warning and no fragment. -/
def Drops (f : Filter) (kind : String) : Prop :=
  ∃ before after, f.leaves = before ++ .other kind :: after ∧ ∀ rules,
    (resolve rules f).records = before.map (Leaf.record rules) ++
      .warning (LeafError.unknownPredicate kind).message :: after.map (Leaf.record rules) ∧
    (resolve rules f).value.fragments =
      before.filterMap (Leaf.fragment? rules) ++ after.filterMap (Leaf.fragment? rules)

/-- A predicate of another kind inside a filter is one of its leaves, and is dropped with a
warning. -/
theorem drops_of_within {f : Filter} {kind : String} (h : Within (.other kind) f) : Drops f kind := by
  obtain ⟨before, after, found⟩ := leaves_of_within h
  have leaves : f.leaves = before ++ .other kind :: after := by
    rw [found, List.append_assoc]
    rfl
  refine ⟨before, after, leaves, fun rules => ⟨?_, ?_⟩⟩
  · rw [records_resolve, leaves, List.map_append, List.map_cons]
    rfl
  · rw [fragments_resolve, translated, leaves, List.filterMap_append, List.filterMap_cons_none]
    rfl

/-- A node that is reached stands below. -/
theorem below_of_reached {v x : Json} (h : Reached x v) : Below x v := by
  induction h with
  | self => exact .self
  | child _ mem _ ih => exact .child mem ih

/-- What is passed over stands below a node that is read by its arguments. -/
theorem exists_above_of_not_reached {v x : Json} {f : Filter} (h : Filter.ofJson v = .ok f)
    (below : Below x v) (notReached : ¬ Reached x v) :
    ∃ y, Reached y v ∧ Below x y ∧ argumentsOf y ≠ [] ∧
      ((∃ column values, Filter.ofJson y = .ok (.inList column values)) ∨
        ∃ kind, Filter.ofJson y = .ok (.other kind)) := by
  induction below generalizing f with
  | self => exact absurd .self notReached
  | @child v c mem below ih =>
    obtain ⟨n, reads, rfl⟩ := exists_reads_of_ofJson h
    by_cases noArguments : argumentsOf v = []
    · obtain ⟨child, -, readChild⟩ := exists_of_mem_left (read_expressionsOf reads) mem
      have notThere : ¬ Reached x c := fun there => notReached (.child noArguments mem there)
      obtain ⟨y, above, rest⟩ := ih readChild notThere
      exact ⟨y, .child noArguments mem above, rest⟩
    · refine ⟨v, .self, .child mem below, noArguments, ?_⟩
      have filled := mt (eq_nil_iff_of_forall₂ (read_argumentsOf reads)).2 noArguments
      rw [h, toFilter_of_arguments filled]
      cases found : toList? n.expression (n.arguments.getD []) with
      | none => exact .inr ⟨_, rfl⟩
      | some f =>
        obtain ⟨column, values, -, -, rfl⟩ := toList?_eq_some_iff.1 found
        exact .inl ⟨column, values, rfl⟩

/-- A predicate of a kind that was not announced is dropped exactly if it has neither the shape of a list
nor that of a connective. In these shapes it is read as the list or the conjunction that it would be if
it were of that kind. A predicate that is dropped is a leaf of the filter that gives one warning and no
fragment, unless it stands among the expressions of a node with arguments, which are passed over. -/
theorem foreign_kind_dropped_iff {v x : Json} {f : Filter} {kind : String}
    (h : Filter.ofJson v = .ok f) (below : Below x v)
    (isKind : x.field PlannerNode.fieldNames "type" = .string kind) (named : kind ≠ "")
    (foreign : kind ∉ announcedKinds) :
    (Filter.ofJson x = .ok (.other kind) ↔ ¬ ListShaped x ∧ ¬ ConnectiveShaped x) ∧
    (ListShaped x → ∃ column values, columnOf x = .string column ∧
      List.Forall₂ (fun a value => PlannerOperand.literalText (PlannerOperand.valueOf a) = .ok value)
        (argumentsOf x) values ∧
      Filter.ofJson x = .ok (.inList column values)) ∧
    (ConnectiveShaped x → ∃ children,
      List.Forall₂ (fun c g => Filter.ofJson c = .ok g) (expressionsOf x) children ∧
      Filter.ofJson x = .ok (.all children)) ∧
    (Filter.ofJson x = .ok (.other kind) → Reached x v → Drops f kind) ∧
    (¬ Reached x v → ∃ y, Reached y v ∧ Below x y ∧ argumentsOf y ≠ [] ∧
      ((∃ column values, Filter.ofJson y = .ok (.inList column values)) ∨
        ∃ kind, Filter.ofJson y = .ok (.other kind))) := by
  obtain ⟨g, read⟩ := succeeds_of_below h below
  obtain ⟨n, reads, rfl⟩ := exists_reads_of_ofJson read
  have sameKind : n.kind.getD "" = kind := by
    have readKind := reads.kind
    rw [isKind] at readKind
    rw [← Except.ok.inj readKind, Option.getD_some]
  -- Of the announced kinds only these two matter to what a node becomes.
  simp only [announcedKinds, List.mem_cons, List.not_mem_nil, or_false, not_or] at foreign
  obtain ⟨-, notOr, notEqual, -⟩ := foreign
  have asList := toFilter_of_listShaped reads
  have asConnective := fun shaped => toFilter_of_connectiveShaped reads shaped (sameKind ▸ notOr)
  refine ⟨⟨?_, ?_⟩, ?_, ?_, ?_, exists_above_of_not_reached h below⟩
  · intro dropped
    have isOther := Except.ok.inj (read.symm.trans dropped)
    constructor
    · intro shaped
      obtain ⟨column, values, -, -, isList⟩ := asList shaped
      cases isOther.symm.trans isList
    · intro shaped
      cases isOther.symm.trans (asConnective shaped)
  · rintro ⟨noList, noConnective⟩
    rw [read, toFilter_of_shapeless reads noList noConnective (sameKind ▸ named)
      (sameKind ▸ notEqual), sameKind]
  · intro shaped
    obtain ⟨column, values, isColumn, areValues, isList⟩ := asList shaped
    exact ⟨column, values, isColumn, areValues, by rw [read, isList]⟩
  · intro shaped
    exact ⟨_, read_expressionsOf reads, by rw [read, asConnective shaped]⟩
  · exact fun dropped reached => drops_of_within (within_of_reached h reached dropped)

/-- A bound on the city's number, which is not announced, beside a name. -/
def boundOrName : Json :=
  .object [("expressions", .array
      [.object [("left", (Operand.column "CITY_ID").toPlanner),
          ("right", (Operand.literal "5").toPlanner), ("type", .string "predicate_less")],
        (Filter.equal (.column "CITY_NAME") (.literal "Rome")).toPlanner]),
    ("type", .string "predicate_or")]

/-- A bound on the city's number has neither of the two shapes, and so it is dropped beside the
name. -/
theorem foreign_kind_dropped_of_less :
    let less : Json := .object [("left", (Operand.column "CITY_ID").toPlanner),
      ("right", (Operand.literal "5").toPlanner), ("type", .string "predicate_less")]
    let f : Filter := .any [.other "predicate_less", .equal (.column "CITY_NAME") (.literal "Rome")]
    Filter.ofJson boundOrName = .ok f ∧ Reached less boundOrName ∧
      ¬ ListShaped less ∧ ¬ ConnectiveShaped less ∧ Drops f "predicate_less" := by
  intro less f
  have read : Filter.ofJson boundOrName = .ok f := by rfl
  have reached : Reached less boundOrName := .child (by rfl) List.mem_cons_self .self
  obtain ⟨dropped, -, -, leaf, -⟩ :=
    foreign_kind_dropped_iff read (below_of_reached reached) (by rfl) (by decide)
      (by decide : "predicate_less" ∉ announcedKinds)
  have isOther : Filter.ofJson less = .ok (.other "predicate_less") := by rfl
  exact ⟨read, reached, (dropped.1 isOther).1, (dropped.1 isOther).2, leaf isOther reached⟩

/-- A negation is read as the predicate that it negates, and no warning says so. -/
theorem negation_read_as_conjunction :
    let negated : Json := .object [("expressions", .array
      [(Filter.equal (.column "CITY_ID") (.literal "1")).toPlanner]), ("type", .string "predicate_not")]
    let f : Filter := .all [.equal (.column "CITY_ID") (.literal "1")]
    negated.field PlannerNode.fieldNames "type" = .string "predicate_not" ∧
      "predicate_not" ∉ announcedKinds ∧ Filter.ofJson negated = .ok f ∧
      (resolve .standard f).value.fragments = [⟨"id=", "1"⟩] ∧
      Record.warnings (resolve .standard f).records = [] := by
  intro negated f
  exact ⟨by rfl, by decide, by rfl, by rfl, by rfl⟩

end Filter

end WeatherTables
