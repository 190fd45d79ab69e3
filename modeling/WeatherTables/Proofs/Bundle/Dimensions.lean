import WeatherTables.Proofs.Bundle.Blocks
import WeatherTables.Proofs.Bundle.Connectives
import WeatherTables.Proofs.Bundle.Parts

/-!
# Builder and planner agree on what a fragment filters

The builder groups fragments by their parameters. The planner sees only texts and tells from how they
start what they filter. Under the standard rules the two come to the same (`startsWith_text_iff`): a group
is one call for all its fragments, in which a postal code and its one companion are written next to each
other (`calls_holding`), and so every entry of a bundle is exactly one call (`one_call_per_entry`).
-/

set_option autoImplicit false

namespace WeatherTables

open Text (startsWith startsWith_iff)

/-! ## Starts and parameters -/

/-- A text starts like a list parameter exactly if it has that parameter. -/
theorem Fragment.AcceptedBy.startsWith_text_iff {f : Fragment} (h : f.AcceptedBy .standard)
    {start : String} (hstart : start ∈ Bundle.listStarts) :
    startsWith start f.text = true ↔ f.parameter = start := by
  obtain ⟨parameter, value⟩ := f
  obtain ⟨rule, hrule, rfl, -⟩ := h
  have distinct : ∀ r ∈ RuleTable.standard.rules, ∀ s ∈ Bundle.listStarts, ∀ cs : List Char,
      s.toList.isPrefixOf (r.parameter.toList ++ cs) = true ↔ r.parameter = s := by
    simp [RuleTable.standard, Bundle.listStarts, Bundle.zipStart]
  rw [startsWith, text, String.toList_append]
  exact distinct rule hrule start hstart value.toList

namespace Bundle

/-- The text of the call for some fragments together. A postal code and its one companion are written
next to each other, the code first; others are joined. -/
def callText : List Fragment → String
  | [f] => f.text
  | [f, g] =>
    if f.parameter = zipStart ∧ g.parameter ≠ zipStart then f.text ++ g.text
    else if g.parameter = zipStart ∧ f.parameter ≠ zipStart then g.text ++ f.text
    else "&".intercalate [f.text, g.text]
  | fragments => "&".intercalate (fragments.map Fragment.text)

/-! ## The call of a group -/

section Standard

variable {fragments : List Fragment} (h : ∀ f ∈ fragments, f.AcceptedBy .standard)
include h

/-- No group is taken apart: texts that all start like one list parameter have all that parameter. -/
theorem not_alike_texts (differ : sameParameter fragments = false) :
    ¬ Alike (fragments.map Fragment.text) := by
  intro alike
  have shared : sharesStart (fragments.map Fragment.text) = true := by
    rw [sharesStart_eq]
    exact decide_eq_true alike
  obtain ⟨start, hstart, all⟩ := List.any_eq_true.1 shared
  have same : sameParameter fragments = true := by
    refine sameParameter_iff.2 ⟨start, fun f hf => ?_⟩
    exact ((h f hf).startsWith_text_iff hstart).1
      (List.all_eq_true.1 all f.text (List.mem_map_of_mem hf))
  rw [same] at differ
  cases differ

/-- The texts of fragments make the parameter that the fragments make. -/
theorem blockText_texts : blockText (fragments.map Fragment.text) = callText fragments := by
  -- Only among two texts can one be the companion of a postal code.
  match fragments, h with
  | [], _ | [f], _ | f :: g :: k :: rest, _ => rfl
  | [f, g], h =>
    have first : f.AcceptedBy .standard := h f List.mem_cons_self
    have second : g.AcceptedBy .standard := h g (List.mem_cons_of_mem f List.mem_cons_self)
    have zip : zipStart ∈ listStarts := by simp [listStarts]
    have unzipped (e : Fragment) (he : e.AcceptedBy .standard) :
        startsWith zipStart e.text = false ↔ e.parameter ≠ zipStart := by
      rw [Bool.eq_false_iff, Ne, he.startsWith_text_iff zip]
    simp only [List.map_cons, List.map_nil, blockText, callText, first.startsWith_text_iff zip,
      second.startsWith_text_iff zip, unzipped f first, unzipped g second]

/-- A group of different parameters is one call, for all its fragments. -/
theorem groupCalls_texts (differ : sameParameter fragments = false) :
    groupCalls (fragments.map fun f => some f.text) = [callText fragments] := by
  have apart := not_alike_texts h differ
  rw [groupCalls_eq, present_texts h, if_neg apart, blockText_texts h]

/-- An entry is one call, for all that it holds. -/
theorem calls_holding (shape : (∃ f, fragments = [f]) ∨ sameParameter fragments = false) :
    (Entry.holding fragments).calls = [callText fragments] := by
  rcases shape with ⟨f, rfl⟩ | differ
  · exact calls_entryOf (h f List.mem_cons_self)
  · match fragments, h, differ with
    | [], _, differ => cases differ
    | [f], _, differ => cases differ
    | f :: g :: rest, h, differ => exact groupCalls_texts h differ

end Standard

/-- The bundle has an entry for each of the parts, or it is the scalar of the only fragment. -/
inductive Holds : Bundle → List (List Fragment) → Prop where
  | scalar (f : Fragment) : Holds (.scalar f.text) [[f]]
  | list (parts : List (List Fragment)) : Holds (.list (parts.map Entry.holding)) parts

end Bundle

namespace FragmentTree

/-- The bundle of a tree has an entry for each part of the tree. -/
theorem holds_fragmentParts (t : FragmentTree) : (Bundle.ofTree t).Holds t.fragmentParts := by
  have entries := entriesOf_eq_map t
  cases t with
  | leaf fragment =>
    cases fragment with
    | none => exact .list []
    | some f => exact .scalar f
  | all children | any children =>
    show Bundle.Holds (.list (Bundle.entriesOf _)) _
    rw [entries]
    exact .list _

variable {t : FragmentTree} (h : ∀ f ∈ t.fragments, f.AcceptedBy .standard)
include h

/-- An entry for a part is one call, and its text says what the part holds. -/
theorem calls_of_mem_fragmentParts {part : List Fragment} (hpart : part ∈ t.fragmentParts) :
    (Bundle.Entry.holding part).calls = [Bundle.callText part] := by
  refine Bundle.calls_holding (fun f hf => h f ?_) (mem_fragmentParts hpart)
  rw [← flatten_fragmentParts]
  exact List.mem_flatten_of_mem hpart hf

/-- The calls of a tree are its parts. -/
theorem calls_ofTree_eq_map : (Bundle.ofTree t).calls = t.fragmentParts.map Bundle.callText := by
  rw [Bundle.calls_ofTree h, entriesOf_eq_map, List.flatMap_map, List.map_eq_flatMap]
  exact List.flatMap_congr fun part => calls_of_mem_fragmentParts h

end FragmentTree

/-- Lists that are not empty are no more than their elements. -/
theorem length_le_length_flatten {α : Type} {xss : List (List α)} (h : ∀ xs ∈ xss, xs ≠ []) :
    xss.length ≤ xss.flatten.length := by
  induction xss with
  | nil => exact Nat.le_refl 0
  | cons xs xss ih =>
    obtain ⟨first, others⟩ := List.forall_mem_cons.1 h
    have nonempty : 0 < xs.length := List.length_pos_iff.2 first
    have rest := ih others
    rw [List.length_cons, List.flatten_cons, List.length_append]
    omega

namespace Filter

/-- No filter has more translated fragments than leaves. -/
theorem length_translated_le (rules : RuleTable) (f : Filter) :
    (f.translated rules).length ≤ f.leafCount := by
  rw [← length_leaves]
  exact List.length_filterMap_le _ _

/-- Under the standard rules the bundle of a filter consists of parts of its fragments, which hold each
of them once and in order, and each part is one call: a fragment of its own is asked for alone, and a
group is asked for in one call that has all its fragments, and is never taken apart. So there are no more
calls than leaves, and none if no leaf has a fragment. -/
theorem one_call_per_entry (f : Filter) :
    ∃ parts : List (List Fragment),
      (f.bundle .standard).Holds parts ∧
      parts.flatten = f.translated .standard ∧
      (∀ part ∈ parts, part ≠ [] ∧ (Bundle.Entry.holding part).calls = [Bundle.callText part]) ∧
      f.calls .standard = parts.map Bundle.callText ∧
      (f.calls .standard).length ≤ f.leafCount ∧
      (f.calls .standard = [] ↔ f.translated .standard = []) := by
  let tree := (resolve .standard f).value
  have accepted : ∀ g ∈ tree.fragments, g.AcceptedBy .standard := fun _ =>
    acceptedBy_of_mem_fragments
  have all : tree.fragmentParts.flatten = f.translated .standard :=
    (FragmentTree.flatten_fragmentParts tree).trans (fragments_resolve .standard f)
  have calls : f.calls .standard = tree.fragmentParts.map Bundle.callText :=
    FragmentTree.calls_ofTree_eq_map accepted
  have nonempty : ∀ part ∈ tree.fragmentParts, part ≠ [] :=
    fun _ => FragmentTree.ne_nil_of_mem_fragmentParts
  refine ⟨tree.fragmentParts, FragmentTree.holds_fragmentParts tree, all, fun part hpart =>
    ⟨nonempty part hpart, FragmentTree.calls_of_mem_fragmentParts accepted hpart⟩, calls, ?_, ?_⟩
  · calc (f.calls .standard).length
      _ = tree.fragmentParts.length := by rw [calls, List.length_map]
      _ ≤ tree.fragmentParts.flatten.length := length_le_length_flatten nonempty
      _ = (f.translated .standard).length := by rw [all]
      _ ≤ f.leafCount := length_translated_le .standard f
  · rw [calls, ← all, List.map_eq_nil_iff, List.flatten_eq_nil_iff]
    constructor
    · intro none part hpart
      rw [none] at hpart
      cases hpart
    · intro empty
      exact List.eq_nil_iff_forall_not_mem.2 fun part hpart =>
        nonempty part hpart (empty part hpart)

end Filter

end WeatherTables
