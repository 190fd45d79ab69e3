import WeatherTables.Bundle.Text
import WeatherTables.Proofs.Bundle.Blocks
import WeatherTables.Proofs.Text.Trimmed

/-!
# Blank parameters

A bundle that is a single text is skipped if the text is blank. The texts of a list are skipped only if they
are empty, so a blank one that is not empty is asked for, if it stands alone in its entry
(`blank_entry_requested`). `blank_requested_iff` says that a blank parameter is asked for in no other way:
no rule for groups makes one, neither by taking texts apart nor by putting them together.
-/

set_option autoImplicit false

namespace WeatherTables

/-! ## Texts that are not blank -/

namespace Text

/-- The text has no character that is not blank. -/
def OnlyBlanks (s : String) : Prop :=
  ∀ c ∈ s.toList, isBlank c = true

/-- Whether a text has only blanks is found by looking at each of its characters. -/
instance (s : String) : Decidable (OnlyBlanks s) :=
  List.decidableBAll (fun c => isBlank c = true) s.toList

/-- Two texts put together have only blanks if each of them does. -/
theorem onlyBlanks_append_iff {s t : String} : OnlyBlanks (s ++ t) ↔ OnlyBlanks s ∧ OnlyBlanks t := by
  simp only [OnlyBlanks, String.toList_append, List.forall_mem_append]

/-- What a text of blanks starts with has only blanks too. -/
theorem onlyBlanks_of_startsWith {start s : String} (h : startsWith start s = true) (blank : OnlyBlanks s) :
    OnlyBlanks start :=
  fun c hc => blank c ((startsWith_iff.1 h).subset hc)

end Text

namespace Bundle

open Text (OnlyBlanks onlyBlanks_append_iff onlyBlanks_of_startsWith trimmed_eq_nil_iff)

/-- Texts that start like a parameter are not blank. -/
theorem not_onlyBlanks_of_alike {found : List String} (h : Alike found) {s : String} (hs : s ∈ found) :
    ¬ OnlyBlanks s := by
  intro blank
  rcases h with ids | names | zips
  · exact absurd (onlyBlanks_of_startsWith (ids s hs) blank) (by decide)
  · exact absurd (onlyBlanks_of_startsWith (names s hs) blank) (by decide)
  · exact absurd (onlyBlanks_of_startsWith (zips s hs) blank) (by decide)

/-- Joining two texts or more puts an ampersand between them, which is no blank. -/
theorem not_onlyBlanks_intercalate (s t : String) (rest : List String) :
    ¬ OnlyBlanks ("&".intercalate (s :: t :: rest)) := by
  rw [String.intercalate_cons_cons, onlyBlanks_append_iff, onlyBlanks_append_iff]
  rintro ⟨⟨-, ampersand⟩, -⟩
  exact absurd ampersand (by decide)

/-- Two texts or more never make a blank parameter. -/
theorem onlyBlanks_blockText_iff {block : List String} (nonempty : block ≠ []) :
    OnlyBlanks (blockText block) ↔ ∃ s, block = [s] ∧ OnlyBlanks s := by
  match block with
  | [s] => simp [blockText]
  | s :: t :: rest =>
    refine iff_of_false ?_ (by simp)
    rw [blockText_eq]
    cases pair : zipPair? (s :: t :: rest) with
    | none => exact not_onlyBlanks_intercalate s t rest
    | some parameter =>
      obtain ⟨zip, other, companions, rfl⟩ := zipPair?_eq_some_iff.1 pair
      rw [Option.getD_some, onlyBlanks_append_iff]
      exact fun both => absurd (onlyBlanks_of_startsWith companions.1 both.1) (by decide)

/-! ## Bundles of one text -/

/-- A bundle of one text asks for that text, unless it is blank. -/
theorem calls_scalar (s : String) : (scalar s).calls = if OnlyBlanks s then [] else [s] := by
  by_cases blank : OnlyBlanks s
  · rw [if_pos blank, calls, if_pos (List.isEmpty_iff.2 (trimmed_eq_nil_iff.2 blank))]
  · rw [if_neg blank, calls, if_neg fun nothing => blank (trimmed_eq_nil_iff.1 (List.isEmpty_iff.1 nothing))]

/-- A single text is there, unless it is empty. -/
theorem present_single (s : String) : present [some s] = if s = "" then [] else [s] := by
  by_cases empty : s = "" <;> simp [present, Option.filter, empty]

/-- A group of one text asks for that text as it is. -/
theorem groupCalls_single (s : String) : groupCalls [some s] = present [some s] := by
  rw [groupCalls_eq, present_single]
  by_cases empty : s = ""
  · rw [if_pos empty]
    rfl
  · rw [if_neg empty, blockText, ite_self]

/-! ## Bundles of many texts -/

/-- A blank parameter is all that its entry has: taking texts apart makes no such parameter either. -/
theorem Entry.mem_calls_iff {s : String} (blank : OnlyBlanks s) (e : Entry) :
    s ∈ e.calls ↔ e.strings = [s] := by
  cases e with
  | single text =>
    rw [calls, strings]
    cases text with
    | none => exact iff_of_false List.not_mem_nil (List.cons_ne_nil s []).symm
    | some t =>
      rw [present_single]
      by_cases empty : t = ""
      · rw [if_pos empty]
        exact iff_of_false List.not_mem_nil (List.cons_ne_nil s []).symm
      · rw [if_neg empty, List.mem_singleton, List.singleton_inj, eq_comm]
  | group texts =>
    -- Texts that start alike are not blank. All others are one call, and it is blank only for a single text.
    rw [calls, groupCalls_eq, strings]
    split_ifs with alike
    · refine iff_of_false (fun asked => not_onlyBlanks_of_alike alike asked blank) fun alone => ?_
      have inside : s ∈ present texts := alone ▸ List.mem_singleton_self s
      exact not_onlyBlanks_of_alike alike inside blank
    · rw [List.mem_singleton]
      constructor
      · rintro rfl
        obtain ⟨s, alone, -⟩ := (onlyBlanks_blockText_iff (ne_nil_of_not_alike alike)).1 blank
        rw [alone, blockText]
      · intro alone
        rw [alone, blockText]

/-- A blank parameter is asked for just when some entry of a list has it as its only text. -/
theorem mem_calls_iff {s : String} (blank : OnlyBlanks s) (b : Bundle) :
    s ∈ b.calls ↔ ∃ entries, b = .list entries ∧ ∃ e ∈ entries, e.strings = [s] := by
  cases b with
  | scalar text =>
    refine iff_of_false ?_ nofun
    rw [calls_scalar]
    split_ifs with skipped
    · exact List.not_mem_nil
    · rw [List.mem_singleton]
      rintro rfl
      exact skipped blank
  | list entries =>
    simp only [calls, List.mem_flatMap, Entry.mem_calls_iff blank, list.injEq, exists_eq_left']

/-- The texts of an entry that count are not empty. -/
theorem Entry.empty_not_mem_strings (e : Entry) : "" ∉ e.strings := by
  have kept (texts : List (Option String)) : "" ∉ present texts := by
    simp [present, Option.filter_eq_some_iff]
  cases e with
  | single text => exact kept [text]
  | group texts => exact kept texts

/-- No empty parameter is ever asked for, and a blank one only for an entry of a list that has no other text,
on its own or in a group. So a single text, an entry and a group with the same text have the same calls,
unless the text is blank but not empty; then the single text has none, and the entry and the group have the
one call for it. -/
theorem blank_requested_iff :
    (∀ t b, ofText t = .ok b →
      "" ∉ b.calls ∧
      ∀ parameter, OnlyBlanks parameter →
        (parameter ∈ b.calls ↔
          ∃ entries, b = .list entries ∧ ∃ e ∈ entries, e.strings = [parameter])) ∧
    ∀ s, (list [.single (some s)]).calls = (list [.group [some s]]).calls ∧
      ((scalar s).calls = (list [.single (some s)]).calls ↔ ¬ (OnlyBlanks s ∧ s ≠ "")) ∧
      (OnlyBlanks s ∧ s ≠ "" → (scalar s).calls = [] ∧ (list [.single (some s)]).calls = [s]) := by
  refine ⟨fun t b _ => ⟨fun asked => ?_, fun parameter blank => mem_calls_iff blank b⟩, fun s => ?_⟩
  · obtain ⟨entries, -, e, -, alone⟩ := (mem_calls_iff (by decide) b).1 asked
    exact e.empty_not_mem_strings (alone ▸ List.mem_singleton_self "")
  · have entry : (list [.single (some s)]).calls = if s = "" then [] else [s] := by
      rw [← present_single]
      exact List.flatMap_singleton ..
    have group : (list [.group [some s]]).calls = if s = "" then [] else [s] := by
      rw [← present_single, ← groupCalls_single]
      exact List.flatMap_singleton ..
    refine ⟨entry.trans group.symm, ?_, ?_⟩
    · rw [entry, calls_scalar]
      by_cases empty : s = ""
      · subst empty
        decide
      · by_cases blank : OnlyBlanks s <;> simp [blank, empty]
    · rintro ⟨blank, nonempty⟩
      rw [entry, calls_scalar, if_pos blank, if_neg nonempty]
      exact ⟨rfl, rfl⟩

/-- A list of a blank text is asked for, and the blank text alone is not. -/
theorem blank_entry_requested :
    let b : Bundle := .list [.single (some " ")]
    ofText "[\" \"]" = .ok b ∧ b.calls = [" "] ∧ OnlyBlanks " " ∧ (scalar " ").calls = [] ∧
      (scalar " ").calls ≠ (list [.single (some " ")]).calls ∧
      (scalar " ").calls ≠ (list [.group [some " "]]).calls :=
  ⟨by rfl, by decide, by decide, by decide, by decide, by decide⟩

/-- A blank text as an entry, beside a gap in a group, and beside another text in a group. -/
theorem blank_requested_iff_of_groups :
    let entries : List Entry := [.single (some " "), .group [some "\t", none, some ""],
      .group [some "id=1", some "  "]]
    (ofText "[\" \", [\"\\t\", null, \"\"], [\"id=1\", \"  \"]]" = .ok (.list entries) ∧
      "" ∉ (list entries).calls) ∧
      (OnlyBlanks "\t" ∧ "\t" ∈ (list entries).calls) ∧
      (OnlyBlanks "  " ∧ "  " ∉ (list entries).calls) ∧
      (list entries).calls = [" ", "\t", "id=1&  "] := by
  intro entries
  have read : ofText "[\" \", [\"\\t\", null, \"\"], [\"id=1\", \"  \"]]" =
      .ok (.list entries) := by rfl
  obtain ⟨nonempty, asked⟩ := blank_requested_iff.1 _ _ read
  have tab : OnlyBlanks "\t" := by decide
  have blanks : OnlyBlanks "  " := by decide
  have onlyTab : "\t" ∈ (list entries).calls :=
    (asked "\t" tab).2 ⟨entries, rfl, .group [some "\t", none, some ""], by simp [entries], by decide⟩
  refine ⟨⟨read, nonempty⟩, ⟨tab, onlyTab⟩, ⟨blanks, fun mem => ?_⟩, by decide⟩
  obtain ⟨_, same, e, he, alone⟩ := (asked "  " blanks).1 mem
  rw [← list.inj same] at he
  have apart : ∀ e ∈ entries, e.strings ≠ ["  "] := by decide
  exact apart e he alone

end Bundle

end WeatherTables
