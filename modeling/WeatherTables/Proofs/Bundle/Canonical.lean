import WeatherTables.Proofs.Bundle.Parts

/-!
# A bundle says what its tree says

The texts of a bundle are those of the fragments of its tree (`texts_ofTree`), and how they stand
together can be told from the tree: the groups are the outermost conjunctions over different
parameters (`groups_ofTree`). Nothing is left of a dropped leaf, so trees that differ only in
dropped leaves have the same bundle (`ofTree_without`), but for a tree that is nothing but a leaf.
-/

set_option autoImplicit false

namespace WeatherTables

/-! ## What stands in a bundle -/

namespace Bundle

/-- What stands in an entry, from left to right. -/
def Entry.texts : Entry → List (Option String)
  | .single text => [text]
  | .group texts => texts

/-- What stands in the bundle, from left to right. -/
def texts : Bundle → List (Option String)
  | .scalar text => [some text]
  | .list entries => entries.flatMap Entry.texts

/-- The group that an entry is, if it is one. -/
def Entry.group? : Entry → Option (List (Option String))
  | .single _ => none
  | .group texts => some texts

/-- The groups of the bundle, in order. -/
def groups : Bundle → List (List (Option String))
  | .scalar _ => []
  | .list entries => entries.filterMap Entry.group?

/-- The entry for some fragments has their texts and no gap. -/
theorem texts_holding (part : List Fragment) :
    (Entry.holding part).texts = part.map fun f => some f.text := by
  match part with
  | [] | [f] | f :: g :: rest => rfl

/-- Fragments that are asked for on their own are no groups. -/
theorem filterMap_group?_entryOf (fragments : List Fragment) :
    (fragments.map entryOf).filterMap Entry.group? = [] := by
  rw [List.filterMap_map, List.filterMap_eq_nil_iff]
  intro f _
  rfl

end Bundle

namespace FragmentTree

open WeatherTables.Bundle (Entry entriesOf entriesOfAll_eq_flatMap)

/-! ## Conjunctions and groups -/

/-- Two fragments of the tree filter different things. -/
def Mixed (t : FragmentTree) : Prop :=
  ∃ f ∈ t.fragments, ∃ g ∈ t.fragments, f.parameter ≠ g.parameter

/-- Whether fragments of a tree filter different things is found by comparing two at a time. -/
instance (t : FragmentTree) : Decidable t.Mixed :=
  inferInstanceAs (Decidable (∃ f ∈ t.fragments, ∃ g ∈ t.fragments, f.parameter ≠ g.parameter))

mutual

/-- The conjunctions that stand below no other conjunction, in order. -/
def conjunctions : FragmentTree → List FragmentTree
  | .leaf _ => []
  | .all children => [.all children]
  | .any children => conjunctionsOf children

/-- The conjunctions of the trees of a list. -/
def conjunctionsOf : List FragmentTree → List FragmentTree
  | [] => []
  | t :: ts => conjunctions t ++ conjunctionsOf ts

end

/-- The outermost conjunctions of a list of trees are those of its trees, one after the other. -/
theorem conjunctionsOf_eq_flatMap (ts : List FragmentTree) :
    conjunctionsOf ts = ts.flatMap conjunctions := by
  induction ts with
  | nil => rfl
  | cons t ts ih => rw [conjunctionsOf, ih, List.flatMap_cons]

/-- A tree is mixed just when its fragments do not all filter the same thing. -/
theorem mixed_iff {t : FragmentTree} : t.Mixed ↔ ¬ Bundle.sameParameter t.fragments = true := by
  rw [Bundle.sameParameter_iff]
  constructor
  · rintro ⟨f, hf, g, hg, differ⟩ ⟨parameter, same⟩
    exact differ ((same f hf).trans (same g hg).symm)
  · intro several
    by_contra alike
    apply several
    cases found : t.fragments with
    | nil => exact ⟨"", List.forall_mem_nil _⟩
    | cons f fs =>
      refine ⟨f.parameter, fun g hg => ?_⟩
      by_contra differ
      rw [← found] at hg
      have hf : f ∈ t.fragments := found ▸ List.mem_cons_self
      exact alike ⟨g, hg, f, hf, differ⟩

/-- A mixed tree has two fragments or more. -/
theorem two_le_length_fragments {t : FragmentTree} (h : t.Mixed) : 2 ≤ t.fragments.length := by
  obtain ⟨f, hf, g, hg, differ⟩ := h
  by_contra few
  have one : t.fragments.length = 1 := by
    have nonempty := List.length_pos_of_mem hf
    omega
  obtain ⟨only, single⟩ := List.length_eq_one_iff.1 one
  rw [single, List.mem_singleton] at hf hg
  exact differ (by rw [hf, hg])

/-- The entries that are groups are the outermost conjunctions over different parameters. -/
theorem filterMap_group?_entriesOf (t : FragmentTree) :
    (entriesOf t).filterMap Entry.group? =
      (t.conjunctions.filter (·.Mixed)).map fun c => c.fragments.map fun f => some f.text := by
  induction t using induct with
  | leaf fragment => cases fragment <;> rfl
  | all ts ih =>
    rw [entriesOf, conjunctions, Bundle.conjunction]
    by_cases mixed : (all ts).Mixed
    · have differ : ¬ Bundle.sameParameter (fragmentsOf ts) = true := mixed_iff.1 mixed
      rw [if_neg differ, List.filter_cons, if_pos (decide_eq_true mixed)]
      rfl
    · have same : Bundle.sameParameter (fragmentsOf ts) = true := by
        by_contra differ
        exact mixed (mixed_iff.2 differ)
      rw [if_pos same, List.filter_cons, if_neg (by simpa using mixed),
        Bundle.filterMap_group?_entryOf]
      rfl
  | any ts ih =>
    rw [entriesOf, conjunctions, entriesOfAll_eq_flatMap, conjunctionsOf_eq_flatMap,
      List.filterMap_flatMap, List.filter_flatMap, List.map_flatMap]
    exact List.flatMap_congr ih

/-! ## Dropped leaves -/

/-- Whether the tree is a dropped leaf and nothing else. -/
def isDropped : FragmentTree → Bool
  | .leaf none => true
  | _ => false

mutual

/-- The tree without the dropped leaves in the chosen places. The tree itself stays, if it is a
leaf. -/
def without (chosen : List Nat → Bool) : FragmentTree → FragmentTree
  | .leaf fragment => .leaf fragment
  | .all children => .all (withoutFrom chosen 0 children)
  | .any children => .any (withoutFrom chosen 0 children)

/-- The trees of a list, which are children from the given place on, without the dropped leaves in
the chosen places. -/
def withoutFrom (chosen : List Nat → Bool) : Nat → List FragmentTree → List FragmentTree
  | _, [] => []
  | i, t :: ts =>
    if t.isDropped && chosen [i] then withoutFrom chosen (i + 1) ts
    else without (fun path => chosen (i :: path)) t :: withoutFrom chosen (i + 1) ts

end

/-- A tree that is found to be dropped is a leaf without a fragment. -/
theorem eq_leaf_none_of_isDropped {t : FragmentTree} (h : t.isDropped = true) :
    t = .leaf none := by
  unfold isDropped at h
  split at h
  · rfl
  · cases h

/-- Whatever dropped leaves have nothing of is the same without them. -/
theorem flatMap_withoutFrom {β : Type} {content : FragmentTree → List β}
    (dropped : content (.leaf none) = []) {ts : List FragmentTree}
    (h : ∀ t ∈ ts, ∀ chosen, content (without chosen t) = content t)
    (chosen : List Nat → Bool) (i : Nat) :
    (withoutFrom chosen i ts).flatMap content = ts.flatMap content := by
  induction ts generalizing i with
  | nil => rfl
  | cons t ts ih =>
    obtain ⟨first, others⟩ := List.forall_mem_cons.1 h
    rw [withoutFrom, List.flatMap_cons]
    by_cases gone : (t.isDropped && chosen [i]) = true
    · rw [if_pos gone, ih others, eq_leaf_none_of_isDropped (Bool.and_eq_true_iff.1 gone).1, dropped,
        List.nil_append]
    · rw [if_neg gone, List.flatMap_cons, first, ih others]

/-- Deleting dropped leaves loses no fragment. -/
theorem fragments_without (t : FragmentTree) (chosen : List Nat → Bool) :
    (without chosen t).fragments = t.fragments := by
  induction t using induct generalizing chosen with
  | leaf fragment => rfl
  | all ts ih | any ts ih =>
    rw [without, fragments, fragments, fragmentsOf_eq_flatMap, fragmentsOf_eq_flatMap]
    exact flatMap_withoutFrom rfl ih chosen 0

/-- Deleting dropped leaves changes no entry. -/
theorem entriesOf_without (t : FragmentTree) (chosen : List Nat → Bool) :
    entriesOf (without chosen t) = entriesOf t := by
  induction t using induct generalizing chosen with
  | leaf fragment => rfl
  | all ts ih =>
    have same := fragments_without (all ts) chosen
    rw [without, fragments, fragments] at same
    rw [without, entriesOf, entriesOf, same]
  | any ts ih =>
    rw [without, entriesOf, entriesOf, entriesOfAll_eq_flatMap, entriesOfAll_eq_flatMap]
    exact flatMap_withoutFrom rfl ih chosen 0

/-! ## The bundle of a tree -/

/-- Deleting dropped leaves does not change the bundle. -/
theorem ofTree_without (t : FragmentTree) (chosen : List Nat → Bool) :
    Bundle.ofTree (without chosen t) = Bundle.ofTree t := by
  cases t with
  | leaf fragment => rfl
  | all ts | any ts => exact congrArg Bundle.list (entriesOf_without _ chosen)

/-- The entries of a tree have the texts of its fragments, each once and in order, and no gap. -/
theorem texts_entriesOf (t : FragmentTree) :
    (entriesOf t).flatMap Entry.texts = t.fragments.map fun f => some f.text := by
  rw [entriesOf_eq_map, List.flatMap_map, ← flatten_fragmentParts, List.map_flatten,
    List.flatMap_def]
  congr 2
  exact funext Bundle.texts_holding

/-- The texts of the bundle are those of the fragments, none of them absent. -/
theorem texts_ofTree (t : FragmentTree) :
    (Bundle.ofTree t).texts = t.fragments.map fun f => some f.text := by
  cases t with
  | leaf fragment => cases fragment <;> rfl
  | all ts | any ts => exact texts_entriesOf _

/-- The groups of a bundle are the outermost conjunctions that are mixed, in order. -/
theorem groups_ofTree (t : FragmentTree) :
    (Bundle.ofTree t).groups =
      (t.conjunctions.filter (·.Mixed)).map fun c => c.fragments.map fun f => some f.text := by
  cases t with
  | leaf fragment => cases fragment <;> rfl
  | all ts | any ts => exact filterMap_group?_entriesOf _

/-- The bundle is a single text just when the tree is a leaf with a fragment. -/
theorem ofTree_eq_scalar_iff (t : FragmentTree) :
    (∃ text, Bundle.ofTree t = .scalar text) ↔ ∃ f, t = .leaf (some f) := by
  cases t with
  | leaf fragment =>
    cases fragment with
    | none => exact iff_of_false nofun nofun
    | some f => exact iff_of_true ⟨f.text, rfl⟩ ⟨f, rfl⟩
  | all ts | any ts => exact iff_of_false nofun nofun

/-- A tree has no entries just when it has no fragments. -/
theorem entriesOf_eq_nil_iff (t : FragmentTree) : entriesOf t = [] ↔ t.fragments = [] := by
  rw [entriesOf_eq_map, List.map_eq_nil_iff, ← flatten_fragmentParts, List.flatten_eq_nil_iff]
  constructor
  · intro no part hpart
    rw [no] at hpart
    cases hpart
  · intro empty
    refine List.eq_nil_iff_forall_not_mem.2 fun part hpart => ?_
    exact ne_nil_of_mem_fragmentParts hpart (empty part hpart)

/-- The bundle is that of nothing just when the tree has no fragments. -/
theorem isEmpty_ofTree_iff (t : FragmentTree) :
    (Bundle.ofTree t).isEmpty = true ↔ t.fragments = [] := by
  cases t with
  | leaf fragment =>
    cases fragment with
    | none => exact iff_of_true rfl rfl
    | some f => exact iff_of_false nofun nofun
  | all ts | any ts => exact List.isEmpty_iff.trans (entriesOf_eq_nil_iff _)

/-- The bundle of a tree has the texts of its fragments, each once and in order, and none of them is
absent. It is a single text exactly if the tree is a translated leaf, and it is empty exactly if the
tree has no fragment. Its groups are the conjunctions that stand below no other conjunction and have
fragments of different parameters, of which there are at least two. Dropped leaves below the root
make no difference, whichever of them are deleted. -/
theorem bundle_canonical (t : FragmentTree) :
    (Bundle.ofTree t).texts = t.fragments.map (fun f => some f.text) ∧
    ((∃ text, Bundle.ofTree t = .scalar text) ↔ ∃ f, t = .leaf (some f)) ∧
    (none ∉ (Bundle.ofTree t).texts ∧ [] ∉ (Bundle.ofTree t).groups) ∧
    ((Bundle.ofTree t).groups =
        (t.conjunctions.filter (·.Mixed)).map (fun c => c.fragments.map fun f => some f.text) ∧
      ∀ group ∈ (Bundle.ofTree t).groups, 2 ≤ group.length) ∧
    ((Bundle.ofTree t).isEmpty = true ↔ t.fragments = []) ∧
    ∀ chosen, Bundle.ofTree (t.without chosen) = Bundle.ofTree t := by
  have present : none ∉ (Bundle.ofTree t).texts := by
    rw [texts_ofTree, List.mem_map]
    rintro ⟨f, -, absent⟩
    cases absent
  have several : ∀ group ∈ (Bundle.ofTree t).groups, 2 ≤ group.length := by
    intro group hgroup
    rw [groups_ofTree, List.mem_map] at hgroup
    obtain ⟨c, hc, rfl⟩ := hgroup
    rw [List.length_map]
    exact two_le_length_fragments (of_decide_eq_true (List.mem_filter.1 hc).2)
  have nonempty : [] ∉ (Bundle.ofTree t).groups := by
    intro empty
    have short := several [] empty
    rw [List.length_nil] at short
    omega
  exact ⟨texts_ofTree t, ofTree_eq_scalar_iff t, ⟨present, nonempty⟩, ⟨groups_ofTree t, several⟩,
    isEmpty_ofTree_iff t, ofTree_without t⟩

/-- A conjunction with a dropped leaf and a disjunction in it, beside a dropped leaf and a
conjunction that has nothing else. -/
theorem bundle_canonical_of_nested :
    let latitude : FragmentTree := .leaf (some ⟨"lat=", "1"⟩)
    let longitude : FragmentTree := .leaf (some ⟨"lon=", "2"⟩)
    let nested : FragmentTree :=
      .any [.all [latitude, .leaf none, .any [longitude]], .leaf none, .all [.leaf none]]
    let group : List (Option String) := [some "lat=1", some "lon=2"]
    (group ∈ (Bundle.ofTree nested).groups ∧ 2 ≤ group.length) ∧
      Bundle.ofTree (.any [.all [latitude, .any [longitude]], .all []]) = Bundle.ofTree nested := by
  intro latitude longitude nested group
  obtain ⟨-, -, -, ⟨-, several⟩, -, unchanged⟩ := bundle_canonical nested
  have there : group ∈ (Bundle.ofTree nested).groups := by decide
  exact ⟨⟨there, several group there⟩, unchanged fun _ => true⟩

end FragmentTree

end WeatherTables
