import WeatherTables.Bundle.Basic
import WeatherTables.Proofs.Filter.Leaves

/-!
# The parts of a tree

Which fragments stand together in a bundle. A fragment is told from its likes by the way to its leaf
(`Site`), and the fragments of a tree fall into parts, in order and without loss (`flatten_parts`): a part
is a single fragment or all that stands below a conjunction over different parameters. `entriesOf_eq_map`
says that the entries of the tree are exactly its parts.
-/

set_option autoImplicit false

namespace WeatherTables

/-- All fragments filter the same thing just when one parameter is that of each. -/
theorem Bundle.sameParameter_iff {fragments : List Fragment} :
    sameParameter fragments = true ↔ ∃ parameter, ∀ f ∈ fragments, f.parameter = parameter := by
  cases fragments with
  | nil => exact iff_of_true rfl ⟨"", List.forall_mem_nil _⟩
  | cons f fs =>
    simp only [sameParameter, List.all_eq_true, decide_eq_true_eq, List.forall_mem_cons]
    constructor
    · intro same
      exact ⟨f.parameter, rfl, same⟩
    · rintro ⟨parameter, rfl, same⟩
      exact same

/-- A fragment and the way to its leaf: which child to take at each connective on the way down. -/
structure Site where
  path : List Nat
  fragment : Fragment
  deriving DecidableEq, Repr

/-- The site seen from one level up, where its tree is the child in place `i`. -/
def Site.below (i : Nat) (s : Site) : Site :=
  ⟨i :: s.path, s.fragment⟩

/-- Fragments that hold together stay together if they filter different things, and otherwise each is a
part of its own. -/
def Site.split (sites : List Site) : List (List Site) :=
  if Bundle.sameParameter (sites.map Site.fragment) then sites.map ([·]) else [sites]

namespace FragmentTree

mutual

/-- The fragments of the tree in order, each with the way to its leaf. -/
def sites : FragmentTree → List Site
  | .leaf fragment => fragment.toList.map (Site.mk [])
  | .all children => sitesFrom 0 children
  | .any children => sitesFrom 0 children

/-- The sites of the trees of a list, which are children from the given place on. -/
def sitesFrom : Nat → List FragmentTree → List Site
  | _, [] => []
  | i, t :: ts => (sites t).map (Site.below i) ++ sitesFrom (i + 1) ts

end

mutual

/-- The fragments of the tree in order, those together that make one entry. -/
def parts : FragmentTree → List (List Site)
  | .leaf fragment => fragment.toList.map fun f => [⟨[], f⟩]
  | .all children => Site.split (sitesFrom 0 children)
  | .any children => partsFrom 0 children

/-- The parts of the trees of a list, which are children from the given place on. -/
def partsFrom : Nat → List FragmentTree → List (List Site)
  | _, [] => []
  | i, t :: ts => (parts t).map (List.map (Site.below i)) ++ partsFrom (i + 1) ts

end

/-- The parts of a list of trees are those of its trees, with the ways through the place of each. -/
theorem partsFrom_eq_flatMap (i : Nat) (ts : List FragmentTree) :
    partsFrom i ts =
      (ts.zipIdx i).flatMap fun (t, k) => (parts t).map (List.map (Site.below k)) := by
  induction ts generalizing i with
  | nil => rfl
  | cons t ts ih => rw [partsFrom, ih, List.zipIdx_cons, List.flatMap_cons]

end FragmentTree

/-! ## Splitting -/

namespace Site

/-- Splitting sites keeps each of them, in order. -/
theorem flatten_split (sites : List Site) : (split sites).flatten = sites := by
  unfold split
  split
  · rw [← List.flatMap_def, List.flatMap_singleton']
  · exact List.flatten_singleton

/-- A part is a single fragment, or it holds different parameters. -/
theorem mem_split {sites part : List Site} (h : part ∈ split sites) :
    (∃ s, part = [s]) ∨ Bundle.sameParameter (part.map fragment) = false := by
  unfold split at h
  split at h
  · obtain ⟨s, -, rfl⟩ := List.mem_map.1 h
    exact .inl ⟨s, rfl⟩
  · next differ =>
    rw [List.mem_singleton.1 h]
    exact .inr (Bool.eq_false_iff.2 differ)

end Site

/-- The entry for some fragments: a text if there is one of them, and otherwise a group. -/
def Bundle.Entry.holding : List Fragment → Entry
  | [f] => entryOf f
  | fragments => .group (fragments.map fun f => some f.text)

/-- The entries of fragments that hold together are those of the parts that they are split into. -/
theorem Bundle.conjunction_eq_map (sites : List Site) :
    conjunction (sites.map Site.fragment) =
      ((Site.split sites).map (List.map Site.fragment)).map Entry.holding := by
  unfold conjunction Site.split
  split
  · simp only [List.map_map]
    rfl
  · next differ =>
    match sites, differ with
    | [], differ => exact absurd rfl differ
    | [s], differ => exact absurd rfl differ
    | s :: s' :: rest, differ => rfl

/-! ## Parts of a tree -/

namespace FragmentTree

/-- The sites of a list of trees have the fragments of these trees, if those of each tree do. -/
theorem map_fragment_sitesFrom {ts : List FragmentTree}
    (h : ∀ t ∈ ts, t.sites.map Site.fragment = t.fragments) (i : Nat) :
    (sitesFrom i ts).map Site.fragment = fragmentsOf ts := by
  induction ts generalizing i with
  | nil => rfl
  | cons t ts ih =>
    obtain ⟨first, others⟩ := List.forall_mem_cons.1 h
    rw [sitesFrom, fragmentsOf, List.map_append, List.map_map, ih others, ← first]
    rfl

/-- Each fragment has its site. -/
theorem map_fragment_sites (t : FragmentTree) : t.sites.map Site.fragment = t.fragments := by
  induction t using induct with
  | leaf fragment => cases fragment <;> rfl
  | all ts ih | any ts ih => exact map_fragment_sitesFrom ih 0

/-- The parts of a list of trees hold its sites, each once and in order, if those of each tree do. -/
theorem flatten_partsFrom {ts : List FragmentTree} (h : ∀ t ∈ ts, t.parts.flatten = t.sites)
    (i : Nat) : (partsFrom i ts).flatten = sitesFrom i ts := by
  induction ts generalizing i with
  | nil => rfl
  | cons t ts ih =>
    obtain ⟨first, others⟩ := List.forall_mem_cons.1 h
    rw [partsFrom, sitesFrom, List.flatten_append, ih others, ← first, List.map_flatten]

/-- The parts hold every fragment once, in order. -/
theorem flatten_parts (t : FragmentTree) : t.parts.flatten = t.sites := by
  induction t using induct with
  | leaf fragment => cases fragment <;> rfl
  | all ts ih => exact Site.flatten_split _
  | any ts ih => exact flatten_partsFrom ih 0

/-- A part of a list of trees is a part of one of them, seen from one level up. -/
theorem mem_partsFrom {part : List Site} {i : Nat} {ts : List FragmentTree} :
    part ∈ partsFrom i ts ↔
      ∃ t k, (t, k) ∈ ts.zipIdx i ∧ ∃ inner ∈ t.parts, inner.map (Site.below k) = part := by
  rw [partsFrom_eq_flatMap]
  simp only [List.mem_flatMap, List.mem_map, Prod.exists]

/-- A part is a single site, or its fragments filter different things. -/
theorem mem_parts (t : FragmentTree) :
    ∀ part ∈ t.parts,
      (∃ s, part = [s]) ∨ Bundle.sameParameter (part.map Site.fragment) = false := by
  induction t using induct with
  | leaf fragment =>
    intro part h
    obtain ⟨f, -, rfl⟩ := List.mem_map.1 h
    exact .inl ⟨⟨[], f⟩, rfl⟩
  | all ts ih => exact fun part => Site.mem_split
  | any ts ih =>
    intro part h
    obtain ⟨t, k, place, inner, hinner, rfl⟩ := mem_partsFrom.1 h
    rcases ih t (List.fst_mem_of_mem_zipIdx place) inner hinner with ⟨s, rfl⟩ | differ
    · exact .inl ⟨s.below k, rfl⟩
    · right
      rw [List.map_map]
      exact differ

/-- The fragments of the parts, without the ways to their leaves. -/
def fragmentParts (t : FragmentTree) : List (List Fragment) :=
  t.parts.map (List.map Site.fragment)

/-- The parts of a tree hold its fragments, each once and in order. -/
theorem flatten_fragmentParts (t : FragmentTree) : t.fragmentParts.flatten = t.fragments := by
  rw [fragmentParts, ← List.map_flatten, flatten_parts, map_fragment_sites]

/-- A part is a single fragment, or it holds different parameters. -/
theorem mem_fragmentParts {t : FragmentTree} {part : List Fragment} (h : part ∈ t.fragmentParts) :
    (∃ f, part = [f]) ∨ Bundle.sameParameter part = false := by
  obtain ⟨sites, hsites, rfl⟩ := List.mem_map.1 h
  rcases mem_parts t sites hsites with ⟨s, rfl⟩ | differ
  · exact .inl ⟨s.fragment, rfl⟩
  · exact .inr differ

/-- No part of a tree is empty. -/
theorem ne_nil_of_mem_fragmentParts {t : FragmentTree} {part : List Fragment}
    (h : part ∈ t.fragmentParts) : part ≠ [] := by
  rintro rfl
  rcases mem_fragmentParts h with ⟨f, empty⟩ | differ
  · cases empty
  · cases differ

/-- The entries of a list of trees are those for its parts, if this is so for each tree. -/
theorem entriesOfAll_eq_map {ts : List FragmentTree}
    (h : ∀ t ∈ ts, Bundle.entriesOf t = t.fragmentParts.map Bundle.Entry.holding) (i : Nat) :
    Bundle.entriesOfAll ts =
      ((partsFrom i ts).map (List.map Site.fragment)).map Bundle.Entry.holding := by
  induction ts generalizing i with
  | nil => rfl
  | cons t ts ih =>
    obtain ⟨first, others⟩ := List.forall_mem_cons.1 h
    rw [Bundle.entriesOfAll, partsFrom, List.map_append, List.map_append, ← ih others, first,
      fragmentParts]
    simp only [List.map_map, Function.comp_def]
    rfl

/-- Each part of a tree is one of its entries, and there are no others. -/
theorem entriesOf_eq_map (t : FragmentTree) :
    Bundle.entriesOf t = t.fragmentParts.map Bundle.Entry.holding := by
  induction t using induct with
  | leaf fragment => cases fragment <;> rfl
  | all ts ih =>
    rw [fragmentParts, parts, ← Bundle.conjunction_eq_map,
      map_fragment_sitesFrom fun t _ => map_fragment_sites t]
    rfl
  | any ts ih => exact entriesOfAll_eq_map ih 0

end FragmentTree

end WeatherTables
