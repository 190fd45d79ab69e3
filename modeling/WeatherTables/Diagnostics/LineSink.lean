import WeatherTables.Calendar.Timestamp
import WeatherTables.Diagnostics.Listener

/-!
# Sending lines to a listener

A sink sends every record of its level or above to a listener, as a line with the time in front of
it. It connects when the first line is there to be sent and keeps the connection. When it cannot
connect or a line cannot be written, the connection is dropped, and lines are lost until a pause is
over; the pause doubles with each failure and is short again after a success.
-/

set_option autoImplicit false

namespace WeatherTables

/-- A point in time, to the millisecond. -/
structure Moment where
  time : Timestamp
  millisecond : Nat
  deriving DecidableEq, Repr

/-- The text of the time, with three digits for the milliseconds. -/
def Moment.text (m : Moment) : String :=
  m.time.write ' ' ++ "," ++ String.ofList (Timestamp.padded 3 m.millisecond)

/-- A record on its way to the listener: the time that is written before it, the clock that pauses
are measured by and how long connecting and writing take on it, whether a new connection would be
accepted, and after how many characters the line is cut off, if it is. -/
structure Emission where
  record : Record
  stamp : Moment
  clock : Nat
  duration : Nat
  connects : Bool
  cutAfter : Option Nat
  deriving DecidableEq, Repr

/-- The line of the record. -/
def Emission.line (e : Emission) : String :=
  e.record.line e.stamp.text

/-- A sink and what it has sent: over connections that were dropped, the oldest first, and over the
one that is open. After a failure no connection is tried before `retryAt`. -/
structure LineSink where
  least : Level
  dropped : List String
  current : Option String
  retryAt : Option Nat
  pause : Nat
  deriving DecidableEq, Repr

namespace LineSink

/-- The pause after a first failure, in nanoseconds. -/
def firstPause : Nat := 1000000000

/-- The longest pause. -/
def longestPause : Nat := 30000000000

/-- A sink that has not yet connected. -/
def new (least : Level) : LineSink :=
  ⟨least, [], none, none, firstPause⟩

/-- All that was sent, in order. -/
def sent (s : LineSink) : String :=
  String.join (s.dropped ++ s.current.toList)

/-- The sink after a failure. -/
def fail (s : LineSink) (now : Nat) : LineSink :=
  { s with
    dropped := s.dropped ++ s.current.toList
    current := none
    retryAt := some (now + s.pause)
    pause := min (2 * s.pause) longestPause }

/-- The sink after a success. -/
def recover (s : LineSink) : LineSink :=
  { s with retryAt := none, pause := firstPause }

/-- Writes the line to the open connection, over which something was sent before. -/
def write (s : LineSink) (before : String) (e : Emission) : LineSink :=
  match e.cutAfter with
  | none => { s with current := some (before ++ e.line) }.recover
  | some n =>
    { s with current := some (before ++ String.ofList (e.line.toList.take n)) }.fail
      (e.clock + e.duration)

/-- Whether the pause after a failure is still going on. -/
def isPausing (s : LineSink) (now : Nat) : Bool :=
  s.retryAt.any fun retry => now < retry

/-- Sends a record. -/
def emit (s : LineSink) (e : Emission) : LineSink :=
  if !e.record.level.reaches s.least then s
  else match s.current with
    | some before => s.write before e
    | none =>
      if s.isPausing e.clock then s
      else if e.connects then s.write "" e
      else s.fail (e.clock + e.duration)

/-- Sends records one after the other. -/
def emitAll (s : LineSink) (es : List Emission) : LineSink :=
  es.foldl emit s

/-! ## Pauses -/

/-- All that a line does to a sink: nothing, a success on a connection, or a failure. -/
theorem emit_cases (s : LineSink) (e : Emission) :
    s.emit e = s ∨
      (∃ text, s.emit e = { s with current := some text }.recover) ∨
      ∃ current, s.emit e = { s with current := current }.fail (e.clock + e.duration) := by
  have written (before : String) :
      (∃ text, s.write before e = { s with current := some text }.recover) ∨
        ∃ current, s.write before e = { s with current := current }.fail (e.clock + e.duration) := by
    unfold write
    cases e.cutAfter with
    | none => exact .inl ⟨_, rfl⟩
    | some n => exact .inr ⟨_, rfl⟩
  unfold emit
  by_cases kept : e.record.level.reaches s.least = true
  · rw [if_neg (by simp [kept])]
    cases open? : s.current with
    | some before => exact .inr (written before)
    | none =>
      by_cases pausing : s.isPausing e.clock = true
      · exact .inl (if_pos pausing)
      · simp only [if_neg pausing]
        by_cases connects : e.connects = true
        · rw [if_pos connects]
          exact .inr (written "")
        · rw [if_neg connects]
          exact .inr (.inr ⟨none, by rw [← open?]⟩)
  · exact .inl (if_pos (by simp [kept]))

/-- The next pause is neither shorter than the first nor longer than the longest, and a sink that is
connected does not pause. -/
structure WellTimed (s : LineSink) : Prop where
  first_le : firstPause ≤ s.pause
  le_longest : s.pause ≤ longestPause
  ready : s.current ≠ none → s.retryAt = none

/-- The first pause is within the limit of all pauses. -/
theorem firstPause_le_longestPause : firstPause ≤ longestPause := by decide

/-- Emitting a record keeps a sink well timed, whether or not the record is sent. -/
theorem WellTimed.emit {s : LineSink} (h : s.WellTimed) (e : Emission) : (s.emit e).WellTimed := by
  rcases s.emit_cases e with same | ⟨text, sent⟩ | ⟨current, failed⟩
  · rw [same]
    exact h
  · rw [sent]
    exact ⟨Nat.le_refl _, firstPause_le_longestPause, fun _ => rfl⟩
  · rw [failed]
    refine ⟨?_, Nat.min_le_right _ _, fun connected => absurd rfl connected⟩
    have doubled : firstPause ≤ 2 * s.pause := by
      have first := h.first_le
      omega
    exact Nat.le_min.2 ⟨doubled, firstPause_le_longestPause⟩

/-- Pauses stay in their range, however many lines fail. -/
theorem wellTimed_emitAll (least : Level) (es : List Emission) :
    ((new least).emitAll es).WellTimed := by
  have run (s : LineSink) (h : s.WellTimed) : (s.emitAll es).WellTimed := by
    induction es generalizing s with
    | nil => exact h
    | cons e es ih => exact ih (s.emit e) (h.emit e)
  exact run (new least) ⟨Nat.le_refl _, firstPause_le_longestPause, fun _ => rfl⟩

end LineSink

end WeatherTables
