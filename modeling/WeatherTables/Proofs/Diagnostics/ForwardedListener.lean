import WeatherTables.Diagnostics.Listener
import WeatherTables.Proofs.Decimal.NumeralForm
import WeatherTables.Proofs.Text.Trimmed

/-!
# A listener survives being forwarded

What is known about a log is passed on as three texts and read again from them. The host is trimmed
when it is read and the number is written anew, so the texts that arrive need not be the texts that
were first given; `ofTexts_forwarded` says that they denote the same listener and level all the same.
The host of a listener that was read is trimmed already (`Clean`), and trimming it again changes
nothing.
-/

set_option autoImplicit false

namespace WeatherTables

namespace Decimal

/-- A number up to the limit is read back from its digits. -/
theorem bounded?_toDigits {limit n : Nat} (h : n ≤ limit) :
    bounded? limit (Nat.toDigits 10 n) = some n := by
  unfold bounded?
  split
  · next rest written =>
    -- No digit is a sign.
    have sign : '+'.isDigit = true := by
      apply Nat.isDigit_of_mem_toDigits (b := 10) (n := n) (by omega) (by omega)
      rw [written]
      exact List.mem_cons_self
    cases sign
  · show (natural? (Nat.toDigits 10 n)).filter (· ≤ limit) = some n
    rw [natural?_toDigits]
    simp [h]

end Decimal

namespace Logging

/-- What is true of every listener that was read: its host is trimmed and not empty, and its number
is one of an endpoint. -/
def Clean (l : Logging) : Prop :=
  ∀ listener, l.listener = some listener →
    Text.trim listener.host = listener.host ∧ listener.host ≠ "" ∧
      listener.portNumber ≤ greatestNumber

/-- Every listener that is read from three texts is clean. -/
theorem clean_of_ofTexts {host number level : String} {l : Logging}
    (h : ofTexts host number level = .ok l) : l.Clean := by
  unfold ofTexts at h
  split at h
  · cases h
  · dsimp only at h
    split at h
    · cases h
      intro listener absent
      cases absent
    · next nonempty =>
      split at h
      · cases h
      · next n read =>
        cases h
        rintro listener ⟨⟩
        obtain ⟨-, small⟩ := Option.filter_eq_some_iff.1 read
        exact ⟨Text.trim_trim host, nonempty, of_decide_eq_true small⟩

/-- The texts that are passed on denote the log they were written for. -/
theorem ofTexts_of_clean {l : Logging} (h : l.Clean) :
    ofTexts l.hostText l.numberText (toString l.level.number) = .ok l := by
  obtain ⟨_ | ⟨host, n⟩, level⟩ := l
  · simp only [ofTexts, Level.ofText_number]
    rfl
  · obtain ⟨trimmed, nonempty, small⟩ := h ⟨host, n⟩ rfl
    have digits : (toString n).toList = Nat.toDigits 10 n := by simp
    have noBlank : Text.trimmed (Nat.toDigits 10 n) = Nat.toDigits 10 n :=
      Text.trimmed_of_forall fun _ hc =>
        Text.isBlank_of_isDigit (Nat.isDigit_of_mem_toDigits (by omega) (by omega) hc)
    simp only [ofTexts, Level.ofText_number, hostText, numberText, Option.map_some,
      Option.getD_some, trimmed, if_neg nonempty, digits, noBlank,
      Decimal.bounded?_toDigits small]

/-- What was read from three texts is read again from those that are passed on. -/
theorem ofTexts_forwarded {host number level : String} {l : Logging}
    (h : ofTexts host number level = .ok l) :
    ofTexts l.hostText l.numberText (toString l.level.number) = .ok l :=
  ofTexts_of_clean (clean_of_ofTexts h)

end Logging

end WeatherTables
