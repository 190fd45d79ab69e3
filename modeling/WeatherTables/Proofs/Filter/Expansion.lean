import WeatherTables.Proofs.Filter.Leaves

/-!
# Constant lists are disjunctions

A constant list may be written out as a disjunction of equalities, all lists of a filter at once
(`expand`) or each at the moment when it is met. In the second way resolving goes on with a filter that
is no part of the one it came from; `ResolvesTo` is that process, and `resolvesTo_iff` says that it comes
to an end with the one result that `resolve` finds. `expand_changes_nothing` says that all of this makes
no difference: not to the fragments, not to the records and not to the number of leaves.
-/

set_option autoImplicit false

namespace WeatherTables.Filter

/-- A conjunction is expanded child by child. -/
theorem expand_all (fs : List Filter) : expand (.all fs) = .all (fs.map expand) := by
  rw [expand, expandList_eq_map]

/-- A disjunction is expanded child by child. -/
theorem expand_any (fs : List Filter) : expand (.any fs) = .any (fs.map expand) := by
  rw [expand, expandList_eq_map]

/-! ## What is left to expand -/

/-- No constant list is left in an expanded filter. -/
theorem inList_not_within_expand (column : String) (values : List String) (f : Filter) :
    ¬ Within (.inList column values) (expand f) := by
  induction f using induct with
  | all fs ih =>
    rw [expand_all]
    intro list
    cases list with
    | all mem below =>
      obtain ⟨f, hf, rfl⟩ := List.mem_map.1 mem
      exact ih f hf below
  | any fs ih =>
    rw [expand_any]
    intro list
    cases list with
    | any mem below =>
      obtain ⟨f, hf, rfl⟩ := List.mem_map.1 mem
      exact ih f hf below
  | inList =>
    intro list
    cases list with
    | any mem below =>
      obtain ⟨value, -, rfl⟩ := List.mem_map.1 mem
      cases below
  | equal | other => nofun

/-- A list of filters stays as it is if each of its filters does. -/
theorem map_expand_eq_self {fs : List Filter} (h : ∀ f ∈ fs, expand f = f) : fs.map expand = fs := by
  have same : fs.map expand = fs.map id := List.map_congr_left h
  rw [same, List.map_id]

/-- A filter without constant lists stays as it is. -/
theorem expand_eq_self {f : Filter} (h : ∀ column values, ¬ Within (.inList column values) f) :
    expand f = f := by
  induction f using induct with
  | all fs ih =>
    have children : ∀ f ∈ fs, expand f = f :=
      fun f hf => ih f hf fun column values list => h column values (.all hf list)
    rw [expand_all, map_expand_eq_self children]
  | any fs ih =>
    have children : ∀ f ∈ fs, expand f = f :=
      fun f hf => ih f hf fun column values list => h column values (.any hf list)
    rw [expand_any, map_expand_eq_self children]
  | inList column values => exact absurd .self (h column values)
  | equal | other => rfl

/-! ## All lists at once -/

/-- Expanding changes no leaf, and the leaves keep their order. -/
theorem leaves_expand (f : Filter) : (expand f).leaves = f.leaves := by
  induction f using induct with
  | all fs ih | any fs ih =>
    simp only [expand_all, expand_any, leaves, leavesOf_eq_flatMap, List.flatMap_map]
    exact List.flatMap_congr ih
  | inList column values =>
    simp only [expand, leaves, leavesOf_eq_flatMap, List.flatMap_map, member]
    exact List.map_eq_flatMap.symm
  | equal | other => rfl

section Resolving

variable (rules : RuleTable)

/-- A conjunction is resolved child by child, in order. -/
theorem resolve_all_eq_combine (fs : List Filter) :
    resolve rules (.all fs) = combine .all (.inOrder (fs.map (resolve rules))) := by
  rw [resolve, resolveList_eq_inOrder]

/-- A disjunction is resolved child by child, in order. -/
theorem resolve_any_eq_combine (fs : List Filter) :
    resolve rules (.any fs) = combine .any (.inOrder (fs.map (resolve rules))) := by
  rw [resolve, resolveList_eq_inOrder]

/-- The disjunction that a constant list is expanded to is resolved like the list. -/
theorem resolve_any_member (column : String) (values : List String) :
    resolve rules (.any (values.map (member column))) = resolve rules (.inList column values) := by
  rw [resolve_any_eq_combine, List.map_map]
  rfl

/-- An expanded filter has the same fragments and the same records. -/
theorem resolve_expand (f : Filter) : resolve rules (expand f) = resolve rules f := by
  induction f using induct with
  | all fs ih =>
    have children : fs.map (resolve rules ∘ expand) = fs.map (resolve rules) :=
      List.map_congr_left ih
    rw [expand_all, resolve_all_eq_combine, List.map_map, children, resolve_all_eq_combine]
  | any fs ih =>
    have children : fs.map (resolve rules ∘ expand) = fs.map (resolve rules) :=
      List.map_congr_left ih
    rw [expand_any, resolve_any_eq_combine, List.map_map, children, resolve_any_eq_combine]
  | inList column values => exact resolve_any_member rules column values
  | equal | other => rfl

/-! ## One list at a time -/

/-- Resolving a filter ends with the result, if a constant list is expanded only when it is met and
resolving goes on with the disjunction. -/
inductive ResolvesTo : Filter → Traced FragmentTree → Prop where
  | all {fs : List Filter} {results : List (Traced FragmentTree)}
    (children : List.Forall₂ ResolvesTo fs results) :
    ResolvesTo (.all fs) (combine .all (.inOrder results))
  | any {fs : List Filter} {results : List (Traced FragmentTree)}
    (children : List.Forall₂ ResolvesTo fs results) :
    ResolvesTo (.any fs) (combine .any (.inOrder results))
  | inList {column : String} {values : List String} {result : Traced FragmentTree}
    (expanded : ResolvesTo (expand (.inList column values)) result) :
    ResolvesTo (.inList column values) result
  | equal (left right : Operand) : ResolvesTo (.equal left right) (resolveEqual rules left right)
  | other (kind : String) : ResolvesTo (.other kind) (dropped (.unknownPredicate kind))

variable {rules}

/-- Results that each filter of a list determines are determined by the list. -/
theorem forall₂_iff_eq_map {α β : Type} {R : α → β → Prop} {f : α → β} {xs : List α} {ys : List β}
    (h : ∀ x ∈ xs, ∀ y, R x y ↔ y = f x) : List.Forall₂ R xs ys ↔ ys = xs.map f := by
  induction xs generalizing ys with
  | nil => exact List.forall₂_nil_left_iff
  | cons x xs ih =>
    obtain ⟨first, others⟩ := List.forall_mem_cons.1 h
    simp only [List.forall₂_cons_left_iff, first, ih others, List.map_cons]
    exact ⟨fun ⟨_, _, rfl, rfl, same⟩ => same, fun same => ⟨_, _, rfl, rfl, same⟩⟩

/-- Resolving a conjunction has one result, if this is so for its children. -/
theorem resolvesTo_all_iff {fs : List Filter}
    (children : ∀ f ∈ fs, ∀ r, ResolvesTo rules f r ↔ r = resolve rules f) (r : Traced FragmentTree) :
    ResolvesTo rules (.all fs) r ↔ r = resolve rules (.all fs) := by
  rw [resolve_all_eq_combine]
  constructor
  · intro h
    cases h with
    | all results => rw [(forall₂_iff_eq_map children).1 results]
  · rintro rfl
    exact .all ((forall₂_iff_eq_map children).2 rfl)

/-- Resolving a disjunction has one result, if this is so for its children. -/
theorem resolvesTo_any_iff {fs : List Filter}
    (children : ∀ f ∈ fs, ∀ r, ResolvesTo rules f r ↔ r = resolve rules f) (r : Traced FragmentTree) :
    ResolvesTo rules (.any fs) r ↔ r = resolve rules (.any fs) := by
  rw [resolve_any_eq_combine]
  constructor
  · intro h
    cases h with
    | any results => rw [(forall₂_iff_eq_map children).1 results]
  · rintro rfl
    exact .any ((forall₂_iff_eq_map children).2 rfl)

/-- Resolving an equality has one result. -/
theorem resolvesTo_equal_iff (left right : Operand) (r : Traced FragmentTree) :
    ResolvesTo rules (.equal left right) r ↔ r = resolve rules (.equal left right) := by
  constructor
  · intro h
    cases h
    rfl
  · rintro rfl
    exact .equal left right

/-- Resolving ends, and with one result. -/
theorem resolvesTo_iff (f : Filter) (r : Traced FragmentTree) :
    ResolvesTo rules f r ↔ r = resolve rules f := by
  induction f using induct generalizing r with
  | all fs ih => exact resolvesTo_all_iff ih r
  | any fs ih => exact resolvesTo_any_iff ih r
  | inList column values =>
    -- The induction does not reach the disjunction that takes the place of a list. But all of its
    -- children are equalities.
    have equalities : ∀ f ∈ values.map (member column), ∀ r,
        ResolvesTo rules f r ↔ r = resolve rules f := by
      intro f hf
      obtain ⟨value, -, rfl⟩ := List.mem_map.1 hf
      exact resolvesTo_equal_iff (.column column) (.literal value)
    have expanded := resolvesTo_any_iff equalities r
    rw [resolve_any_member] at expanded
    rw [← expanded]
    constructor
    · intro h
      cases h
      assumption
    · exact .inList
  | equal left right => exact resolvesTo_equal_iff left right r
  | other kind =>
    constructor
    · intro h
      cases h
      rfl
    · rintro rfl
      exact .other kind

end Resolving

/-- Constant lists say nothing that equalities do not say. An expanded filter has no constant list in it,
so that expanding it again changes nothing, and it has as many leaves as before. Under any rules it has
the same tree and the same records as the filter itself, and this is also the result, the only one, with
which resolving ends if the lists of the one or the other are expanded one at a time. -/
theorem expand_changes_nothing (f : Filter) :
    (∀ column values, ¬ Within (.inList column values) (expand f)) ∧
    expand (expand f) = expand f ∧
    (expand f).leafCount = f.leafCount ∧
    ∀ rules, resolve rules (expand f) = resolve rules f ∧
      (∀ r, ResolvesTo rules f r ↔ r = resolve rules f) ∧
      ∀ r, ResolvesTo rules (expand f) r ↔ r = resolve rules f := by
  have noList : ∀ column values, ¬ Within (.inList column values) (expand f) :=
    fun column values => inList_not_within_expand column values f
  refine ⟨noList, expand_eq_self noList, ?_, fun rules => ⟨resolve_expand rules f, ?_, ?_⟩⟩
  · rw [← length_leaves, leaves_expand, length_leaves]
  · exact resolvesTo_iff f
  · intro r
    rw [resolvesTo_iff, resolve_expand]

end WeatherTables.Filter
