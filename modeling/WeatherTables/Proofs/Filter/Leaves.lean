import WeatherTables.Fragment.Resolution
import Mathlib.Data.List.Forall2
import Mathlib.Data.List.ReduceOption

/-!
# A filter is resolved leaf by leaf

The leaves of a filter are its equalities, the values of its constant lists and its predicates of other
kinds, in order. `resolve_leafwise` says that resolving a filter is resolving its leaves: the tree nests
as the filter does (`SameNesting`), and its leaves and the records are those that the leaves of the
filter give one by one, whatever stands beside them.
-/

set_option autoImplicit false

namespace WeatherTables

/-- A leaf of a filter: an equality, or a predicate of another kind. -/
inductive Leaf where
  | equality (left right : Operand)
  | other (kind : String)
  deriving DecidableEq, Repr

namespace Leaf

/-- The text form of a leaf. -/
def text : Leaf → String
  | .equality left right => left.text ++ " = " ++ right.text
  | .other kind => "<" ++ kind ++ ">"

/-- The fragment of a leaf, or why it has none. -/
def resolve (rules : RuleTable) : Leaf → Except LeafError Fragment
  | .equality left right => rules.resolve left right
  | .other kind => .error (.unknownPredicate kind)

/-- The fragment of a leaf, if it has one. -/
def fragment? (rules : RuleTable) (leaf : Leaf) : Option Fragment :=
  (leaf.resolve rules).toOption

/-- What is reported of a leaf: the fragment that it became, or why it was dropped. -/
def record (rules : RuleTable) (leaf : Leaf) : Record :=
  match leaf.resolve rules with
  | .ok f => .info ("Filter " ++ leaf.text ++ " translated to <" ++ f.text ++ ">")
  | .error e => .warning e.message

/-- A leaf is reported as a warning exactly if it has no fragment. -/
theorem level_record (rules : RuleTable) (leaf : Leaf) :
    (leaf.record rules).level = .warning ↔ leaf.fragment? rules = none := by
  unfold record fragment?
  cases leaf.resolve rules with
  | error e => exact iff_of_true rfl rfl
  | ok f => exact iff_of_false nofun nofun

/-- Of the leaves of a list each is either a fragment or a warning. -/
theorem length_eq_add (rules : RuleTable) (leaves : List Leaf) :
    leaves.length = (leaves.filterMap (fragment? rules)).length +
      (Record.warnings (leaves.map (record rules))).length := by
  induction leaves with
  | nil => rfl
  | cons leaf leaves ih =>
    unfold Record.warnings at ih ⊢
    cases h : leaf.fragment? rules with
    | none =>
      have warned := (level_record rules leaf).2 h
      simp only [List.map_cons, List.filterMap_cons_none h, List.filter_cons, warned, decide_true,
        if_true, List.length_cons, ih]
      omega
    | some f =>
      have told : (leaf.record rules).level ≠ .warning := by simp [level_record, h]
      simp only [List.map_cons, List.filterMap_cons_some h, List.filter_cons, told, decide_false,
        Bool.false_eq_true, if_false, List.length_cons, ih]
      omega

end Leaf

namespace FragmentTree

mutual

/-- The leaves of the tree in order. A leaf that was dropped is `none`. -/
def leaves : FragmentTree → List (Option Fragment)
  | .leaf fragment => [fragment]
  | .all children => leavesOf children
  | .any children => leavesOf children

/-- The leaves of the trees of a list, in order. -/
def leavesOf : List FragmentTree → List (Option Fragment)
  | [] => []
  | t :: ts => leaves t ++ leavesOf ts

end

/-- The leaves of a list of trees are those of its trees, one tree after the other. -/
theorem leavesOf_eq_flatMap (ts : List FragmentTree) : leavesOf ts = ts.flatMap leaves := by
  induction ts with
  | nil => rfl
  | cons t ts ih => simp [leavesOf, ih]

/-- Induction over a tree: a property of all children of a connective passes to the tree. -/
@[elab_as_elim]
theorem induct {motive : FragmentTree → Prop}
    (leaf : ∀ fragment, motive (.leaf fragment))
    (all : ∀ ts, (∀ t ∈ ts, motive t) → motive (.all ts))
    (any : ∀ ts, (∀ t ∈ ts, motive t) → motive (.any ts)) (t : FragmentTree) : motive t :=
  @FragmentTree.rec motive (fun ts => ∀ t ∈ ts, motive t) leaf all any
    (List.forall_mem_nil motive) (fun _ _ ht hts => List.forall_mem_cons.2 ⟨ht, hts⟩) t

/-- The fragments of a tree are its leaves without those that were dropped. -/
theorem fragments_eq_reduceOption (t : FragmentTree) : t.fragments = t.leaves.reduceOption := by
  induction t using induct with
  | leaf fragment => cases fragment <;> rfl
  | all ts ih | any ts ih =>
    simp only [fragments, fragmentsOf_eq_flatMap, leaves, leavesOf_eq_flatMap, List.reduceOption,
      List.filterMap_flatMap]
    exact List.flatMap_congr ih

end FragmentTree

namespace Filter

mutual

/-- The leaves of the filter in order. Each value of a constant list is one. -/
def leaves : Filter → List Leaf
  | .all children => leavesOf children
  | .any children => leavesOf children
  | .inList column values => values.map fun v => .equality (.column column) (.literal v)
  | .equal left right => [.equality left right]
  | .other kind => [.other kind]

/-- The leaves of the filters of a list, in order. -/
def leavesOf : List Filter → List Leaf
  | [] => []
  | f :: fs => leaves f ++ leavesOf fs

end

/-- The leaves of a list of filters are those of its filters, one filter after the other. -/
theorem leavesOf_eq_flatMap (fs : List Filter) : leavesOf fs = fs.flatMap leaves := by
  induction fs with
  | nil => rfl
  | cons f fs ih => simp [leavesOf, ih]

/-- The fragments of those leaves that have one, in order. -/
def translated (rules : RuleTable) (f : Filter) : List Fragment :=
  f.leaves.filterMap (Leaf.fragment? rules)

/-- The tree nests as the filter does: a conjunction for a conjunction and a disjunction for a
disjunction or a constant list, child by child, and a leaf for a leaf. -/
inductive SameNesting : Filter → FragmentTree → Prop where
  | all {fs : List Filter} {ts : List FragmentTree} (children : List.Forall₂ SameNesting fs ts) :
    SameNesting (.all fs) (.all ts)
  | any {fs : List Filter} {ts : List FragmentTree} (children : List.Forall₂ SameNesting fs ts) :
    SameNesting (.any fs) (.any ts)
  | inList {column : String} {values : List String} {found : List (Option Fragment)}
    (h : found.length = values.length) :
    SameNesting (.inList column values) (.any (found.map .leaf))
  | equal (left right : Operand) (found : Option Fragment) :
    SameNesting (.equal left right) (.leaf found)
  | other (kind : String) (found : Option Fragment) : SameNesting (.other kind) (.leaf found)

/-- Induction over a filter: a property of all children of a connective passes to the filter. -/
@[elab_as_elim]
theorem induct {motive : Filter → Prop}
    (all : ∀ fs, (∀ f ∈ fs, motive f) → motive (.all fs))
    (any : ∀ fs, (∀ f ∈ fs, motive f) → motive (.any fs))
    (inList : ∀ column values, motive (.inList column values))
    (equal : ∀ left right, motive (.equal left right))
    (other : ∀ kind, motive (.other kind)) (f : Filter) : motive f :=
  @Filter.rec motive (fun fs => ∀ f ∈ fs, motive f) all any inList equal other
    (List.forall_mem_nil motive) (fun _ _ hf hfs => List.forall_mem_cons.2 ⟨hf, hfs⟩) f

/-- `g` is the filter or stands somewhere below it. -/
inductive Within (g : Filter) : Filter → Prop where
  | self : Within g g
  | all {fs : List Filter} {f : Filter} (mem : f ∈ fs) (below : Within g f) : Within g (.all fs)
  | any {fs : List Filter} {f : Filter} (mem : f ∈ fs) (below : Within g f) : Within g (.any fs)

/-- The leaves of a part of the filter stand together. -/
theorem leaves_of_within {f g : Filter} (h : Within g f) :
    ∃ before after, f.leaves = before ++ g.leaves ++ after := by
  induction h with
  | self => exact ⟨[], [], by simp⟩
  | all mem below ih | any mem below ih =>
    obtain ⟨before, after, found⟩ := ih
    obtain ⟨left, right, rfl⟩ := List.append_of_mem mem
    refine ⟨left.flatMap leaves ++ before, after ++ right.flatMap leaves, ?_⟩
    simp only [leaves, leavesOf_eq_flatMap, List.flatMap_append, List.flatMap_cons, found,
      List.append_assoc]

/-! ## One step of resolving -/

/-- An equality gives the fragment and the record of its leaf. -/
theorem resolveEqual_eq (rules : RuleTable) (left right : Operand) :
    resolveEqual rules left right =
      ⟨.leaf ((Leaf.equality left right).fragment? rules),
        [(Leaf.equality left right).record rules]⟩ := by
  cases h : rules.resolve left right with
  | error e =>
    simp only [resolveEqual, Leaf.fragment?, Leaf.record, Leaf.resolve, h]
    rfl
  | ok f =>
    simp only [resolveEqual, Leaf.fragment?, Leaf.record, Leaf.resolve, h, resolved, Leaf.text,
      String.append_assoc]
    rfl

/-- An equality becomes a single leaf and leaves the record of it. -/
theorem resolve_equal (rules : RuleTable) (left right : Operand) :
    resolve rules (.equal left right) =
      ⟨.leaf ((Leaf.equality left right).fragment? rules),
        [(Leaf.equality left right).record rules]⟩ :=
  resolveEqual_eq rules left right

/-- The values of a constant list are leaves side by side. -/
theorem resolve_inList (rules : RuleTable) (column : String) (values : List String) :
    resolve rules (.inList column values) =
      ⟨.any (((inList column values).leaves.map (Leaf.fragment? rules)).map .leaf),
        (inList column values).leaves.map (Leaf.record rules)⟩ := by
  simp only [resolve, combine, Traced.value_inOrder, Traced.records_inOrder, resolveMember,
    resolveEqual_eq, leaves, List.map_map, List.flatMap_map, Function.comp_def, ← List.map_eq_flatMap]

/-- A conjunction becomes the conjunction of what its children become, with their records in order. -/
theorem resolve_all (rules : RuleTable) (fs : List Filter) :
    resolve rules (.all fs) =
      ⟨.all (fs.map fun f => (resolve rules f).value),
        fs.flatMap fun f => (resolve rules f).records⟩ := by
  simp only [resolve, combine, resolveList_eq_inOrder, Traced.value_inOrder, Traced.records_inOrder,
    List.map_map, List.flatMap_map, Function.comp_def]

/-- A disjunction becomes the disjunction of what its children become, with their records in order. -/
theorem resolve_any (rules : RuleTable) (fs : List Filter) :
    resolve rules (.any fs) =
      ⟨.any (fs.map fun f => (resolve rules f).value),
        fs.flatMap fun f => (resolve rules f).records⟩ := by
  simp only [resolve, combine, resolveList_eq_inOrder, Traced.value_inOrder, Traced.records_inOrder,
    List.map_map, List.flatMap_map, Function.comp_def]

/-! ## The whole filter -/

/-- What a filter becomes nests as the filter does. -/
theorem sameNesting_resolve (rules : RuleTable) (f : Filter) :
    SameNesting f (resolve rules f).value := by
  induction f using induct with
  | all fs ih =>
    rw [resolve_all]
    exact .all (List.forall₂_map_right_iff.2 (List.forall₂_same.2 ih))
  | any fs ih =>
    rw [resolve_any]
    exact .any (List.forall₂_map_right_iff.2 (List.forall₂_same.2 ih))
  | inList column values =>
    rw [resolve_inList]
    exact .inList (by simp only [leaves, List.length_map])
  | equal left right =>
    rw [resolve_equal]
    exact .equal left right _
  | other kind => exact .other kind _

/-- The leaves of the tree are the fragments of the leaves of the filter, each taken alone. -/
theorem leaves_resolve (rules : RuleTable) (f : Filter) :
    (resolve rules f).value.leaves = f.leaves.map (Leaf.fragment? rules) := by
  induction f using induct with
  | all fs ih | any fs ih =>
    simp only [resolve_all, resolve_any, FragmentTree.leaves, FragmentTree.leavesOf_eq_flatMap,
      leaves, leavesOf_eq_flatMap, List.flatMap_map, List.map_flatMap]
    exact List.flatMap_congr ih
  | inList column values =>
    simp only [resolve_inList, FragmentTree.leaves, FragmentTree.leavesOf_eq_flatMap,
      List.flatMap_map]
    exact List.map_eq_flatMap.symm
  | equal left right =>
    rw [resolve_equal]
    rfl
  | other kind => rfl

/-- The records are those of the leaves, each taken alone. -/
theorem records_resolve (rules : RuleTable) (f : Filter) :
    (resolve rules f).records = f.leaves.map (Leaf.record rules) := by
  induction f using induct with
  | all fs ih | any fs ih =>
    simp only [resolve_all, resolve_any, leaves, leavesOf_eq_flatMap, List.map_flatMap]
    exact List.flatMap_congr ih
  | inList column values => rw [resolve_inList]
  | equal left right =>
    rw [resolve_equal]
    rfl
  | other kind => rfl

/-- The tree holds the fragments of the leaves that have one, in order. -/
theorem fragments_resolve (rules : RuleTable) (f : Filter) :
    (resolve rules f).value.fragments = f.translated rules := by
  rw [FragmentTree.fragments_eq_reduceOption, leaves_resolve, translated, List.reduceOption,
    List.filterMap_map]
  rfl

/-- A list of filters has as many leaves as are counted, if this is so for each filter. -/
theorem length_leavesOf {fs : List Filter} (h : ∀ f ∈ fs, f.leaves.length = f.leafCount) :
    (leavesOf fs).length = leafCountList fs := by
  induction fs with
  | nil => rfl
  | cons f fs ih =>
    obtain ⟨first, others⟩ := List.forall_mem_cons.1 h
    rw [leavesOf, leafCountList, List.length_append, first, ih others]

/-- The leaves are those that are counted. -/
theorem length_leaves (f : Filter) : f.leaves.length = f.leafCount := by
  induction f using induct with
  | all fs ih | any fs ih => exact length_leavesOf ih
  | inList column values => simp only [leaves, leafCount, List.length_map]
  | equal left right => rfl
  | other kind => rfl

/-- A filter is resolved leaf by leaf. The tree nests as the filter does, and each of its leaves is the
fragment of the leaf in the same place, if that has one. Each leaf leaves one record, which gives its
fragment or, as a warning, the reason why there is none. So the tree holds the fragments that were found
in order, and every leaf that is counted is either one of them or a warning. -/
theorem resolve_leafwise (rules : RuleTable) (f : Filter) :
    SameNesting f (resolve rules f).value ∧
    (resolve rules f).value.leaves = f.leaves.map (fun leaf => (leaf.resolve rules).toOption) ∧
    (resolve rules f).records = f.leaves.map (Leaf.record rules) ∧
    (resolve rules f).records.length = f.leafCount ∧
    (resolve rules f).value.fragments =
      f.leaves.filterMap (fun leaf => (leaf.resolve rules).toOption) ∧
    f.leafCount = (resolve rules f).value.fragments.length +
      (Record.warnings (resolve rules f).records).length := by
  refine ⟨sameNesting_resolve rules f, leaves_resolve rules f, records_resolve rules f, ?_,
    fragments_resolve rules f, ?_⟩
  · rw [records_resolve, List.length_map, length_leaves]
  · rw [fragments_resolve, records_resolve, ← length_leaves]
    exact Leaf.length_eq_add rules f.leaves

end Filter

end WeatherTables
