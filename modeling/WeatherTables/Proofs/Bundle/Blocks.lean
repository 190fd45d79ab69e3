import WeatherTables.Bundle.Calls
import Mathlib.Data.List.Basic
import Mathlib.Logic.Relation

/-!
# Every text in one call

The planner drops what is absent or empty and asks for the rest. The texts of an entry fall into
blocks, one for each call: all of them are one block, unless they start alike (`groupCalls_eq`). A
postal code with its companion never starts like it, so the planner may look for the one or the
other first (`groupCalls_eq_alikeFirst`). Calls of different entries have nothing to do with each
other, and neither have calls with what was dropped (`calls_eq_of_padding`).
-/

set_option autoImplicit false

namespace WeatherTables.Bundle

open Text (startsWith startsWith_iff)

/-! ## Two rules for a group -/

/-- The texts all start like one of the parameters that take a single value. -/
def Alike (found : List String) : Prop :=
  (∀ s ∈ found, startsWith "id=" s = true) ∨ (∀ s ∈ found, startsWith "q=" s = true) ∨
    ∀ s ∈ found, startsWith "zip=" s = true

/-- Whether texts start alike is found by trying each of the starts on all of them. -/
instance (found : List String) : Decidable (Alike found) :=
  inferInstanceAs (Decidable (_ ∨ _ ∨ _))

/-- No texts at all start alike in every way. -/
theorem ne_nil_of_not_alike {found : List String} (h : ¬ Alike found) : found ≠ [] := by
  rintro rfl
  exact h (.inl (List.forall_mem_nil _))

/-- The texts are a postal code and one other text, in either order. -/
def Companions (zip other : String) (found : List String) : Prop :=
  startsWith "zip=" zip = true ∧ startsWith "zip=" other = false ∧
    (found = [zip, other] ∨ found = [other, zip])

/-- The test for a common start finds just the texts that start alike. -/
theorem sharesStart_eq (found : List String) : sharesStart found = decide (Alike found) := by
  rw [Bool.eq_iff_iff, decide_eq_true_eq]
  simp [sharesStart, listStarts, zipStart, Alike]

/-- Of two texts, the one that starts like a postal code goes first, if the other does not start
so. -/
theorem zipPair?_pair (a b : String) :
    zipPair? [a, b] =
      if startsWith zipStart a = true ∧ startsWith zipStart b = false then some (a ++ b)
      else if startsWith zipStart b = true ∧ startsWith zipStart a = false then some (b ++ a)
      else none := by
  cases ha : startsWith zipStart a <;> cases hb : startsWith zipStart b <;>
    simp [zipPair?, List.partition_eq_filter_filter, ha, hb]

/-- A postal code has a companion only among two texts. -/
theorem length_of_zipPair? {found : List String} {parameter : String}
    (h : zipPair? found = some parameter) : found.length = 2 := by
  unfold zipPair? at h
  rw [List.partition_eq_filter_filter] at h
  split at h
  · next zip companion sorted =>
    obtain ⟨zips, others⟩ := Prod.mk.inj sorted
    have count := @List.length_eq_length_filter_add _ found (startsWith zipStart)
    rw [zips, ← Function.comp_def, others] at count
    exact count
  · cases h

/-- A postal code is put in front of a companion just when the texts are these two. -/
theorem zipPair?_eq_some_iff {found : List String} {parameter : String} :
    zipPair? found = some parameter ↔
      ∃ zip other, Companions zip other found ∧ zip ++ other = parameter := by
  constructor
  · intro h
    obtain ⟨a, b, rfl⟩ := List.length_eq_two.1 (length_of_zipPair? h)
    rw [zipPair?_pair] at h
    by_cases front : startsWith zipStart a = true ∧ startsWith zipStart b = false
    · rw [if_pos front, Option.some.injEq] at h
      exact ⟨a, b, ⟨front.1, front.2, .inl rfl⟩, h⟩
    · rw [if_neg front] at h
      by_cases back : startsWith zipStart b = true ∧ startsWith zipStart a = false
      · rw [if_pos back, Option.some.injEq] at h
        exact ⟨b, a, ⟨back.1, back.2, .inr rfl⟩, h⟩
      · rw [if_neg back] at h
        cases h
  · rintro ⟨zip, other, ⟨isZip, notZip, rfl | rfl⟩, rfl⟩
    · rw [zipPair?_pair, if_pos ⟨isZip, notZip⟩]
    · rw [zipPair?_pair, if_neg fun front => ?_, if_pos ⟨isZip, notZip⟩]
      rw [zipStart, isZip] at front
      cases front.2

/-- A text that starts in two ways has one of the two starts in the other. -/
theorem not_startsWith_of_apart {start other s : String} (h : startsWith start s = true)
    (apart : ¬ start.toList <+: other.toList ∧ ¬ other.toList <+: start.toList) :
    startsWith other s = false := by
  rw [Bool.eq_false_iff]
  intro both
  rcases List.prefix_or_prefix_of_prefix (startsWith_iff.1 h) (startsWith_iff.1 both) with
    inside | inside
  · exact apart.1 inside
  · exact apart.2 inside

/-- The two rules never apply together. -/
theorem not_companions_of_alike {found : List String} (h : Alike found) (zip other : String) :
    ¬ Companions zip other found := by
  rintro ⟨isZip, notZip, both⟩
  have first : zip ∈ found := by rcases both with rfl | rfl <;> simp
  have second : other ∈ found := by rcases both with rfl | rfl <;> simp
  rcases h with ids | names | zips
  · rw [not_startsWith_of_apart (ids zip first) (by decide)] at isZip
    cases isZip
  · rw [not_startsWith_of_apart (names zip first) (by decide)] at isZip
    cases isZip
  · rw [zips other second] at notZip
    cases notZip

/-- Texts that start alike are no postal code with a companion. -/
theorem zipPair?_of_alike {found : List String} (h : Alike found) : zipPair? found = none := by
  rw [Option.eq_none_iff_forall_ne_some]
  intro parameter pair
  obtain ⟨zip, other, companions, -⟩ := zipPair?_eq_some_iff.1 pair
  exact not_companions_of_alike h zip other companions

/-- The calls of a group, by the same rules in another order: whether the texts start alike is
looked at before postal codes are. -/
def groupCallsAlikeFirst (texts : List (Option String)) : List String :=
  match present texts with
  | [] => []
  | found =>
    if sharesStart found then found
    else match zipPair? found with
    | some parameter => [parameter]
    | none => ["&".intercalate found]

/-- It does not matter which of the two rules for a group is tried first. -/
theorem groupCalls_eq_alikeFirst (texts : List (Option String)) :
    groupCalls texts = groupCallsAlikeFirst texts := by
  unfold groupCalls groupCallsAlikeFirst
  cases present texts with
  | nil => rfl
  | cons s found =>
    by_cases alike : Alike (s :: found)
    · have unpaired := zipPair?_of_alike alike
      simp only [unpaired, sharesStart_eq, alike]
    · simp only [sharesStart_eq, alike]
      cases zipPair? (s :: found) <;> rfl

/-! ## Blocks -/

/-- The parameter of the call for some texts. A postal code and its one companion are written next
to each other, the code first; others are joined. -/
def blockText : List String → String
  | [s] => s
  | [s, t] =>
    if startsWith zipStart s = true ∧ startsWith zipStart t = false then s ++ t
    else if startsWith zipStart t = true ∧ startsWith zipStart s = false then t ++ s
    else "&".intercalate [s, t]
  | found => "&".intercalate found

/-- The parameter of some texts is the pair of a postal code, if they are one, and otherwise their
join. -/
theorem blockText_eq (found : List String) :
    blockText found = (zipPair? found).getD ("&".intercalate found) := by
  have alone (h : found.length ≠ 2) : zipPair? found = none := by
    rw [Option.eq_none_iff_forall_ne_some]
    intro parameter pair
    exact h (length_of_zipPair? pair)
  match found with
  | [] => rfl
  | [s] =>
    rw [alone (by simp), Option.getD_none, String.intercalate_singleton]
    rfl
  | [s, t] =>
    rw [zipPair?_pair, blockText]
    split_ifs <;> rfl
  | s :: t :: u :: rest =>
    rw [alone (by simp)]
    rfl

/-- A group is taken apart if its texts start alike, and otherwise it is a single call. -/
theorem groupCalls_eq (texts : List (Option String)) :
    groupCalls texts =
      if Alike (present texts) then present texts else [blockText (present texts)] := by
  rw [groupCalls_eq_alikeFirst, groupCallsAlikeFirst]
  cases present texts with
  | nil => rfl
  | cons s found =>
    by_cases alike : Alike (s :: found)
    · simp only [sharesStart_eq, alike]
      rfl
    · rw [if_neg alike, blockText_eq]
      simp only [sharesStart_eq, alike]
      cases zipPair? (s :: found) <;> rfl

/-- Two texts or more are a call each only if they start alike. -/
theorem groupCalls_eq_present_iff {texts : List (Option String)} (h : 1 < (present texts).length) :
    groupCalls texts = present texts ↔ Alike (present texts) := by
  rw [groupCalls_eq]
  constructor
  · intro each
    by_contra apart
    rw [if_neg apart] at each
    have single := congrArg List.length each
    rw [List.length_singleton] at single
    omega
  · intro alike
    rw [if_pos alike]

namespace Entry

/-- The texts of an entry that are there and are not empty. -/
def strings : Entry → List String
  | .single text => present [text]
  | .group texts => present texts

/-- The texts of an entry, those together that one call asks for. -/
def blocks : Entry → List (List String)
  | .single text => (present [text]).map ([·])
  | .group texts =>
    if Alike (present texts) then (present texts).map ([·]) else [present texts]

/-- The blocks of an entry hold its texts, each once and in order. -/
theorem flatten_blocks (e : Entry) : e.blocks.flatten = e.strings := by
  have singletons (found : List String) : (found.map ([·])).flatten = found := by
    rw [← List.flatMap_def, List.flatMap_singleton']
  cases e with
  | single text => exact singletons _
  | group texts =>
    rw [blocks, strings]
    split_ifs
    · exact singletons _
    · exact List.flatten_singleton

/-- A block is a single text or all that a group has. -/
theorem mem_blocks {e : Entry} {block : List String} (h : block ∈ e.blocks) :
    block ≠ [] ∧ ((∃ s, block = [s]) ∨ ∃ texts, e = .group texts ∧ block = present texts) := by
  have singletons {found : List String} (h : block ∈ found.map ([·])) :
      block ≠ [] ∧ ∃ s, block = [s] := by
    obtain ⟨s, -, rfl⟩ := List.mem_map.1 h
    exact ⟨List.cons_ne_nil s [], s, rfl⟩
  cases e with
  | single text => exact ⟨(singletons h).1, .inl (singletons h).2⟩
  | group texts =>
    rw [blocks] at h
    split_ifs at h with alike
    · exact ⟨(singletons h).1, .inl (singletons h).2⟩
    · rw [List.mem_singleton.1 h]
      exact ⟨ne_nil_of_not_alike alike, .inr ⟨texts, rfl, rfl⟩⟩

/-- An entry has one call for each of its blocks. -/
theorem calls_eq_map_blocks (e : Entry) : e.calls = e.blocks.map blockText := by
  have singletons (found : List String) : found = (found.map ([·])).map blockText := by
    rw [List.map_map]
    exact (List.map_id found).symm
  cases e with
  | single text => exact singletons _
  | group texts =>
    rw [calls, groupCalls_eq, blocks]
    split_ifs
    · exact singletons _
    · rfl

end Entry

/-- A list has one call for each block of its entries, in order. -/
theorem calls_list_eq_map_blocks (entries : List Entry) :
    (list entries).calls = (entries.flatMap Entry.blocks).map blockText := by
  rw [List.map_flatMap]
  exact List.flatMap_congr fun e _ => e.calls_eq_map_blocks

/-- The blocks of some entries hold the texts of these entries, each once and in order. -/
theorem flatten_flatMap_blocks (entries : List Entry) :
    (entries.flatMap Entry.blocks).flatten = entries.flatMap Entry.strings := by
  rw [List.flatten_eq_flatMap, List.flatMap_assoc]
  refine List.flatMap_congr fun e _ => ?_
  rw [← List.flatten_eq_flatMap, e.flatten_blocks]

/-- The calls of two lists put together are those of the first and then those of the second. -/
theorem calls_list_append (es fs : List Entry) :
    (list (es ++ fs)).calls = (list es).calls ++ (list fs).calls :=
  List.flatMap_append

/-! ## What is dropped -/

/-- One more absent or empty text, as an entry or inside a group. -/
inductive Padding : List Entry → List Entry → Prop where
  | entry (es fs : List Entry) {t : Option String} (h : t = none ∨ t = some "") :
      Padding (es ++ fs) (es ++ .single t :: fs)
  | inside (es fs : List Entry) (ts us : List (Option String)) {t : Option String}
      (h : t = none ∨ t = some "") :
      Padding (es ++ .group (ts ++ us) :: fs) (es ++ .group (ts ++ t :: us) :: fs)

/-- What is there of two lists of texts is what is there of the first and then of the second. -/
theorem present_append (ts us : List (Option String)) :
    present (ts ++ us) = present ts ++ present us :=
  List.filterMap_append

/-- An absent or empty text in front does not count. -/
theorem present_cons_of_dropped {t : Option String} (h : t = none ∨ t = some "")
    (ts : List (Option String)) : present (t :: ts) = present ts := by
  rcases h with rfl | rfl <;> rfl

/-- One more absent or empty text leaves the calls as they are. -/
theorem calls_eq_of_step {es fs : List Entry} (h : Padding es fs) :
    (list es).calls = (list fs).calls := by
  rw [calls, calls]
  cases h with
  | @entry es fs t dropped =>
    have silent : Entry.calls (.single t) = [] := present_cons_of_dropped dropped []
    rw [List.flatMap_append, List.flatMap_append, List.flatMap_cons, silent, List.nil_append]
  | @inside es fs ts us t dropped =>
    have same : Entry.calls (.group (ts ++ us)) = Entry.calls (.group (ts ++ t :: us)) := by
      simp only [Entry.calls, groupCalls, present_append, present_cons_of_dropped dropped]
    rw [List.flatMap_append, List.flatMap_append, List.flatMap_cons, List.flatMap_cons, same]

/-- However many absent or empty texts are added or taken away, the calls stay the same. -/
theorem calls_eq_of_padding {es fs : List Entry} (h : Relation.EqvGen Padding es fs) :
    (list es).calls = (list fs).calls := by
  induction h with
  | rel es fs step => exact calls_eq_of_step step
  | refl es => rfl
  | symm es fs _ ih => exact ih.symm
  | trans es fs gs _ _ ih ih' => exact ih.trans ih'

/-- Each call of a list asks for a block of texts of one entry, and the blocks of all entries are
all texts that are there and are not empty, in order. The texts of a block are joined, but for a
postal code and its companion. A group is taken apart exactly if its texts start alike, which these
two never do, so it does not matter which of the two rules is looked at first. The calls do not
depend on what is absent or empty, and those of lists one after the other are theirs one after the
other. -/
theorem calls_divide_texts :
    (∀ entries : List Entry,
      (list entries).calls = (entries.flatMap Entry.blocks).map blockText ∧
      (entries.flatMap Entry.blocks).flatten = entries.flatMap Entry.strings) ∧
    (∀ e : Entry, e.blocks.flatten = e.strings ∧ ∀ block ∈ e.blocks,
      block ≠ [] ∧ ((∃ s, block = [s]) ∨ ∃ texts, e = .group texts ∧ block = present texts)) ∧
    (∀ found, blockText found = (zipPair? found).getD ("&".intercalate found)) ∧
    (∀ found parameter, zipPair? found = some parameter ↔
      ∃ zip other, Companions zip other found ∧ zip ++ other = parameter) ∧
    (∀ texts, groupCalls texts =
      if Alike (present texts) then present texts else [blockText (present texts)]) ∧
    (∀ texts, 1 < (present texts).length →
      (groupCalls texts = present texts ↔ Alike (present texts))) ∧
    (∀ found zip other, ¬ (Alike found ∧ Companions zip other found)) ∧
    (∀ texts, groupCalls texts = groupCallsAlikeFirst texts) ∧
    (∀ es fs, Relation.EqvGen Padding es fs → (list es).calls = (list fs).calls) ∧
    ∀ es fs, (list (es ++ fs)).calls = (list es).calls ++ (list fs).calls := by
  refine ⟨fun entries => ?_, fun e => ?_, blockText_eq, fun found parameter => zipPair?_eq_some_iff,
    groupCalls_eq, fun texts => groupCalls_eq_present_iff, fun found zip other => ?_,
    groupCalls_eq_alikeFirst, fun es fs => calls_eq_of_padding, calls_list_append⟩
  · exact ⟨calls_list_eq_map_blocks entries, flatten_flatMap_blocks entries⟩
  · exact ⟨e.flatten_blocks, fun block => Entry.mem_blocks⟩
  · rintro ⟨alike, companions⟩
    exact not_companions_of_alike alike zip other companions

/-- A country before its postal code, with and without gaps, and two cities with a gap between. -/
theorem calls_divide_texts_of_gaps :
    let plain : List Entry := [.single (some "q=Rome"), .group [some ",IT", some "zip=00042"]]
    let padded : List Entry :=
      [.single (some "q=Rome"), .single none, .group [some ",IT", some "", some "zip=00042"]]
    let cities : List (Option String) := [some "id=1", none, some "id=2"]
    (Relation.EqvGen Padding plain padded ∧ (list plain).calls = (list padded).calls ∧
      (list padded).calls = ["q=Rome", "zip=00042,IT"]) ∧
    1 < (present cities).length ∧ groupCalls cities = present cities := by
  intro plain padded cities
  have outside : Padding plain [.single (some "q=Rome"), .single none,
      .group [some ",IT", some "zip=00042"]] :=
    .entry [.single (some "q=Rome")] [.group [some ",IT", some "zip=00042"]] (.inl rfl)
  have inside : Padding [.single (some "q=Rome"), .single none,
      .group [some ",IT", some "zip=00042"]] padded :=
    .inside [.single (some "q=Rome"), .single none] [] [some ",IT"] [some "zip=00042"] (.inr rfl)
  have both : Relation.EqvGen Padding plain padded :=
    .trans _ _ _ (.rel _ _ outside) (.rel _ _ inside)
  obtain ⟨-, -, -, -, -, apart, -, -, unchanged, -⟩ := calls_divide_texts
  exact ⟨⟨both, unchanged plain padded both, by decide⟩, by decide,
    (apart cities (by decide)).2 (by decide)⟩

end WeatherTables.Bundle
