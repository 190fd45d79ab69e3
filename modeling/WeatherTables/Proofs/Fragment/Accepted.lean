import WeatherTables.Proofs.Decimal.Alphabet
import WeatherTables.Proofs.Filter.Leaves
import WeatherTables.Proofs.Text.Trimmed

/-!
# What a fragment looks like

A fragment takes its parameter from a rule and its value from what that rule accepts (`AcceptedBy`). No
rule accepts a blank value, whatever kind of value it asks for (`not_blank_of_accept`), so no fragment of
a filter is blank, whatever the rules are.
-/

set_option autoImplicit false

namespace WeatherTables

open Text (trimmed trimmed_trimmed trimmed_append_ne_nil)

/-- What a rule accepts, and as what: words as they stand, and numbers without the blanks around them. -/
theorem FilterRule.accept_cases {rule : FilterRule} {value accepted : String}
    (h : rule.accept value = .ok accepted) :
    (rule.kind = .words ∧ accepted = value ∧ trimmed value.toList ≠ [] ∧
      Decimal.isReal (trimmed value.toList) = false) ∨
    (rule.kind = .number ∧ accepted.toList = trimmed value.toList ∧
      Decimal.isReal accepted.toList = true) ∨
    (rule.kind = .wholeNumber ∧ accepted.toList = trimmed value.toList ∧
      (Decimal.int64? accepted.toList).isSome = true) := by
  obtain ⟨column, parameter, kind, code⟩ := rule
  unfold accept at h
  cases kind with
  | words =>
    dsimp only at h
    split at h
    · cases h
    · next refused =>
      cases h
      rw [Bool.or_eq_true, not_or, List.isEmpty_iff, Bool.not_eq_true] at refused
      exact .inl ⟨rfl, rfl, refused⟩
  | number =>
    dsimp only at h
    split at h
    · next real =>
      cases h
      rw [String.toList_ofList]
      exact .inr (.inl ⟨rfl, rfl, real⟩)
    · cases h
  | wholeNumber =>
    dsimp only at h
    split at h
    · next whole =>
      cases h
      rw [String.toList_ofList]
      exact .inr (.inr ⟨rfl, rfl, whole⟩)
    · cases h

/-- No rule accepts a blank value: blank words are refused, and blanks are no number. -/
theorem FilterRule.not_blank_of_accept {rule : FilterRule} {value accepted : String}
    (h : rule.accept value = .ok accepted) : trimmed accepted.toList ≠ [] := by
  rcases accept_cases h with ⟨-, rfl, there, -⟩ | ⟨-, inner, real⟩ | ⟨-, inner, whole⟩
  · exact there
  · rw [inner, trimmed_trimmed, ← inner]
    intro blank
    rw [blank] at real
    cases real
  · rw [inner, trimmed_trimmed, ← inner]
    intro blank
    rw [blank] at whole
    cases whole

/-- A value that is a number under its rule is made of the characters of numbers. -/
theorem FilterRule.inNumber_of_accept {rule : FilterRule} {value accepted : String}
    (numeric : rule.kind ≠ .words) (h : rule.accept value = .ok accepted) :
    ∀ c ∈ accepted.toList, Decimal.InNumber c := by
  rcases accept_cases h with ⟨words, -⟩ | ⟨-, -, real⟩ | ⟨-, -, whole⟩
  · exact absurd words numeric
  · exact Decimal.inNumber_of_isReal real
  · exact Decimal.inNumber_of_int64? whole

namespace Fragment

/-- The fragment has the parameter of one of the rules and a value that this rule accepts. -/
def AcceptedBy (rules : RuleTable) (f : Fragment) : Prop :=
  ∃ rule ∈ rules.rules, rule.parameter = f.parameter ∧ ∃ value, rule.accept value = .ok f.value

variable {rules : RuleTable} {f : Fragment}

/-- The text of a fragment is never blank, not even if its parameter is. -/
theorem AcceptedBy.not_blank (h : f.AcceptedBy rules) : trimmed f.text.toList ≠ [] := by
  obtain ⟨rule, -, -, value, accepted⟩ := h
  rw [text, String.toList_append]
  exact trimmed_append_ne_nil _ (FilterRule.not_blank_of_accept accepted)

/-- The text of a fragment is never empty. -/
theorem AcceptedBy.text_ne_empty (h : f.AcceptedBy rules) : f.text ≠ "" := by
  intro empty
  exact h.not_blank (by rw [empty]; rfl)

end Fragment

/-- The fragment of an equality comes from the rule of its column. -/
theorem RuleTable.acceptedBy_of_resolve {rules : RuleTable} {left right : Operand} {f : Fragment}
    (h : rules.resolve left right = .ok f) : f.AcceptedBy rules := by
  unfold resolve at h
  split at h
  · cases h
  · next column value sides =>
    split at h
    · cases h
    · next rule found =>
      cases accepted : rule.accept value with
      | error e =>
        rw [accepted] at h
        cases h
      | ok v =>
        rw [accepted] at h
        cases h
        exact ⟨rule, (find_eq_ok_iff.1 found).1, rfl, value, accepted⟩

/-- Every fragment of a leaf comes from one of the rules. -/
theorem Filter.acceptedBy_of_mem_translated {rules : RuleTable} {filter : Filter} {f : Fragment}
    (h : f ∈ filter.translated rules) : f.AcceptedBy rules := by
  obtain ⟨leaf, -, found⟩ := List.mem_filterMap.1 h
  cases leaf with
  | other kind => cases found
  | equality left right =>
    cases resolved : rules.resolve left right with
    | error e =>
      simp only [Leaf.fragment?, Leaf.resolve, resolved] at found
      cases found
    | ok g =>
      simp only [Leaf.fragment?, Leaf.resolve, resolved] at found
      cases found
      exact RuleTable.acceptedBy_of_resolve resolved

/-- Every fragment of the tree of a filter comes from one of the rules. -/
theorem Filter.acceptedBy_of_mem_fragments {rules : RuleTable} {filter : Filter} {f : Fragment}
    (h : f ∈ (filter.resolve rules).value.fragments) : f.AcceptedBy rules := by
  rw [fragments_resolve] at h
  exact acceptedBy_of_mem_translated h

end WeatherTables
