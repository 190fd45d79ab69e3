import WeatherTables.Diagnostics.LineSink
import WeatherTables.Proofs.Calendar.WrittenTime
import WeatherTables.Text.Lines
import WeatherTables.Text.Search
import Mathlib.Data.List.Basic

/-!
# What a listener can tell from the lines

A record is sent as a line, and the only thing that separates two lines is the line end. Messages
are written as they stand, so a listener can tell the records apart exactly as long as no message
has a line end of its own (`one_line_each_iff`). A message that has one looks like several records,
and it can be made to look like any (`line_of_joined_messages`).
-/

set_option autoImplicit false

namespace WeatherTables

/-! ## Times -/

namespace Timestamp

/-- A number is written without a carriage return. -/
theorem return_not_mem_padded (width n : Nat) : '\r' ∉ padded width n := by
  intro inside
  cases isDigit_of_mem_padded inside

/-- So is a year, with its sign. -/
theorem return_not_mem_yearText (year : Int) : '\r' ∉ yearText year := by
  unfold yearText
  have digits := return_not_mem_padded 4 year.natAbs
  split_ifs
  · simp [digits]
  · simp [digits]
  · exact digits

/-- So is a timestamp, with a blank between date and time. -/
theorem return_not_mem_write (t : Timestamp) : '\r' ∉ (t.write ' ').toList := by
  simp [write, return_not_mem_yearText, return_not_mem_padded]

end Timestamp

/-- A record whose line is sent at once and as a whole. -/
def Emission.prompt (stamp : Moment) (record : Record) : Emission :=
  ⟨record, stamp, 0, 0, true, none⟩

/-- What stands before the message of a line. -/
def Emission.heading (e : Emission) : String :=
  e.stamp.text ++ ": "

/-- No line end stands in what is written before a message. -/
theorem Emission.return_not_mem_heading (e : Emission) : '\r' ∉ e.heading.toList := by
  simp [heading, Moment.text, Timestamp.return_not_mem_write, Timestamp.return_not_mem_padded]

/-- The listener is up and reads: it would accept a connection, and the line is not cut off. -/
def Emission.Arrives (e : Emission) : Prop :=
  e.connects = true ∧ e.cutAfter = none

/-- Whether a line arrives is told by the two fields that it depends on. -/
instance (e : Emission) : Decidable e.Arrives :=
  inferInstanceAs (Decidable (_ ∧ _))

/-! ## A sink without failures -/

namespace LineSink

/-- A sink that has had no failure, and what it has sent if it is connected. -/
def unbroken (least : Level) (current : Option String) : LineSink :=
  ⟨least, [], current, none, firstPause⟩

variable {least : Level}

/-- A line that arrives is added to what was sent over the only connection, and a record below the
level changes nothing. -/
theorem emit_unbroken {e : Emission} (arrives : e.Arrives) (current : Option String) :
    (unbroken least current).emit e =
      if e.record.level.reaches least then unbroken least (some (current.getD "" ++ e.line))
      else unbroken least current := by
  obtain ⟨connects, whole⟩ := arrives
  have written (before : String) :
      (unbroken least current).write before e = unbroken least (some (before ++ e.line)) := by
    rw [write, whole]
    rfl
  by_cases kept : e.record.level.reaches least = true
  · rw [if_pos kept]
    cases current with
    | some before =>
      rw [emit, unbroken, kept]
      exact written before
    | none =>
      rw [emit, unbroken, kept, connects]
      exact written ""
  · rw [if_neg kept]
    rw [Bool.not_eq_true] at kept
    rw [emit, unbroken, kept]
    rfl

/-- What was sent over a connection once some more lines have arrived. The first line opens it. -/
def afterLines (current : Option String) (es : List Emission) : Option String :=
  es.foldl (fun sent e => some (sent.getD "" ++ e.line)) current

/-- All lines that arrive are sent one after the other, behind what was sent before. -/
theorem getD_afterLines (es : List Emission) (current : Option String) :
    (afterLines current es).getD "" = current.getD "" ++ String.join (es.map Emission.line) := by
  induction es generalizing current with
  | nil => simp [afterLines]
  | cons e es ih =>
    have step : afterLines current (e :: es) = afterLines (some (current.getD "" ++ e.line)) es := rfl
    rw [step, ih, List.map_cons, String.join_cons, Option.getD_some, String.append_assoc]

/-- A connection is opened just when there is a line to send. -/
theorem afterLines_eq_none_iff {es : List Emission} : afterLines none es = none ↔ es = [] := by
  have connected (before : String) (es : List Emission) : afterLines (some before) es ≠ none := by
    induction es generalizing before with
    | nil => exact Option.some_ne_none before
    | cons e es ih => exact ih _
  cases es with
  | nil => exact iff_of_true rfl rfl
  | cons e es => exact iff_of_false (connected _ es) (List.cons_ne_nil e es)

/-- All lines are sent over one connection. -/
theorem emitAll_unbroken {es : List Emission} (arrives : ∀ e ∈ es, e.Arrives)
    (current : Option String) :
    (unbroken least current).emitAll es =
      unbroken least (afterLines current (es.filter fun e => e.record.level.reaches least)) := by
  induction es generalizing current with
  | nil => rfl
  | cons e es ih =>
    obtain ⟨first, others⟩ := List.forall_mem_cons.1 arrives
    have step : (unbroken least current).emitAll (e :: es) =
        ((unbroken least current).emit e).emitAll es := rfl
    rw [step, emit_unbroken first]
    by_cases kept : e.record.level.reaches least = true
    · rw [if_pos kept, ih others, List.filter_cons, if_pos kept]
      rfl
    · rw [if_neg kept, ih others, List.filter_cons, if_neg kept]

/-- What is sent in all are the lines of the records that reach the level, in order. -/
theorem sent_unbroken (es : List Emission) :
    (unbroken least (afterLines none es)).sent = String.join (es.map Emission.line) := by
  have all := getD_afterLines es none
  rw [Option.getD_none, String.empty_append] at all
  rw [← all]
  cases afterLines none es with
  | none => rfl
  | some sent => simp [LineSink.sent, unbroken]

/-- Under one time for all lines, what is sent is what the records are written as. -/
theorem sent_eq_transmission {stamp : String} {es : List Emission} (arrives : ∀ e ∈ es, e.Arrives)
    (same : ∀ e ∈ es, e.stamp.text = stamp) :
    ((new least).emitAll es).sent = Record.transmission stamp least (es.map Emission.record) := by
  have final : (new least).emitAll es =
      unbroken least (afterLines none (es.filter fun e => e.record.level.reaches least)) :=
    emitAll_unbroken arrives none
  have texts : (es.filter fun e => e.record.level.reaches least).map Emission.line =
      (es.filter fun e => e.record.level.reaches least).map fun e => e.record.line stamp := by
    apply List.map_congr_left
    intro e he
    rw [Emission.line, same e (List.mem_of_mem_filter he)]
  rw [final, sent_unbroken, texts, Record.transmission, List.filter_map, List.map_map]
  rfl

end LineSink

/-! ## Lines and records -/

/-- Lists that are not empty hold, one after the other, at least as many things as there are lists. -/
theorem length_le_length_flatMap {α β : Type} {f : α → List β} (nonempty : ∀ a, f a ≠ [])
    (xs : List α) : xs.length ≤ (xs.flatMap f).length := by
  induction xs with
  | nil => exact Nat.le_refl 0
  | cons x xs ih =>
    have first : 0 < (f x).length := List.length_pos_iff.2 (nonempty x)
    rw [List.flatMap_cons, List.length_append, List.length_cons]
    omega

/-- Lists that are not empty are, one after the other, as many things as there are lists only if
each of them has a single one. -/
theorem flatMap_eq_map_iff {α β : Type} {f : α → List β} {g : α → β} (nonempty : ∀ a, f a ≠ [])
    {xs : List α} : xs.flatMap f = xs.map g ↔ ∀ x ∈ xs, f x = [g x] := by
  induction xs with
  | nil => exact iff_of_true rfl (List.forall_mem_nil _)
  | cons x xs ih =>
    rw [List.flatMap_cons, List.map_cons, List.forall_mem_cons, ← ih]
    constructor
    · intro same
      have single : (f x).length = 1 := by
        have first : 0 < (f x).length := List.length_pos_iff.2 (nonempty x)
        have rest := length_le_length_flatMap nonempty xs
        have total := congrArg List.length same
        rw [List.length_append, List.length_cons, List.length_map] at total
        omega
      obtain ⟨y, only⟩ := List.length_eq_one_iff.1 single
      rw [only, List.singleton_append, List.cons.injEq] at same
      rw [only, same.1]
      exact ⟨rfl, same.2⟩
    · rintro ⟨first, rest⟩
      rw [first, rest, List.singleton_append]

namespace Emission

/-- The lines of a record: the first has the heading, and the others are what follows the line ends
of the message. -/
def lines (e : Emission) : List (List Char) :=
  (Text.lines e.record.message.toList).modifyHead (e.heading.toList ++ ·)

/-- The one line that a record should be. -/
def wholeLine (e : Emission) : List Char :=
  (e.heading ++ e.record.message).toList

/-- A record is one line just when there is no line end in its message. -/
theorem lines_eq_singleton_iff (e : Emission) :
    e.lines = [e.wholeLine] ↔ Text.contains "\r\n" e.record.message = false := by
  have inside : Text.contains "\r\n" e.record.message = false ↔
      ¬ ['\r', '\n'] <:+: e.record.message.toList := by
    rw [← Bool.not_eq_true, Text.contains, Text.occursIn_iff]
    rfl
  rw [inside]
  constructor
  · intro single
    have length := congrArg List.length single
    rw [lines, List.length_modifyHead] at length
    exact Text.length_lines_eq_one_iff.1 length
  · intro h
    rw [lines, Text.lines_of_no_end h, wholeLine, String.toList_append]
    rfl

/-- Every record has a line. -/
theorem lines_ne_nil (e : Emission) : e.lines ≠ [] := by
  have message := Text.lines_ne_nil e.record.message.toList
  intro empty
  rw [lines, ← List.length_eq_zero_iff, List.length_modifyHead, List.length_eq_zero_iff] at empty
  exact message empty

/-- Behind the last line end nothing stands, which makes an empty line. -/
theorem lines_join (es : List Emission) :
    Text.lines (String.join (es.map line)).toList = es.flatMap lines ++ [[]] := by
  induction es with
  | nil => rfl
  | cons e es ih =>
    have chars : (String.join ((e :: es).map line)).toList =
        (e.heading.toList ++ e.record.message.toList) ++
          '\r' :: '\n' :: (String.join (es.map line)).toList := by
      simp [line, Record.line, heading]
    rw [chars, Text.lines_append_end, ih, Text.lines_append_of_not_mem e.return_not_mem_heading,
      List.flatMap_cons, List.append_assoc]
    rfl

/-- A message with a line end in it, behind which a time and a second message stand, is sent as two
records are, the second at that time. -/
theorem line_of_joined_messages (e : Emission) (level : Level) (later : Moment)
    (first second : String) :
    { e with record := ⟨level, first ++ "\r\n" ++ later.text ++ ": " ++ second⟩ }.line =
      String.join [{ e with record := ⟨level, first⟩ }.line,
        { e with record := ⟨level, second⟩, stamp := later }.line] := by
  simp [line, Record.line, String.join, String.append_assoc]

end Emission

namespace LineSink

/-- A listener that is up and reads receives, over one connection that is opened for the first line,
the lines of the records of its level or above, in order. They are one whole line for each of these
records exactly if no message among them has a line end. -/
theorem one_line_each_iff (least : Level) {es : List Emission} (arrives : ∀ e ∈ es, e.Arrives) :
    let kept := es.filter fun e => e.record.level.reaches least
    let sink := (new least).emitAll es
    (sink.dropped = [] ∧ (sink.current = none ↔ kept = [])) ∧
    Text.lines sink.sent.toList = kept.flatMap Emission.lines ++ [[]] ∧
    (Text.lines sink.sent.toList = kept.map Emission.wholeLine ++ [[]] ↔
      ∀ e ∈ kept, Text.contains "\r\n" e.record.message = false) := by
  intro kept sink
  have final : sink = unbroken least (afterLines none kept) := emitAll_unbroken arrives none
  have received : Text.lines sink.sent.toList = kept.flatMap Emission.lines ++ [[]] := by
    rw [final, sent_unbroken, Emission.lines_join]
  have connected : sink.current = none ↔ kept = [] := by
    rw [final]
    exact afterLines_eq_none_iff
  refine ⟨⟨?_, connected⟩, received, ?_⟩
  · rw [final]
    rfl
  · rw [received, List.append_left_inj, flatMap_eq_map_iff Emission.lines_ne_nil]
    exact forall₂_congr fun e _ => e.lines_eq_singleton_iff

/-- A record below the level, and one with a line feed in its message. -/
theorem one_line_each_of_lineFeed :
    let noon : Moment := ⟨⟨⟨2024, 5, 1⟩, 12, 0, 0⟩, 7⟩
    let es : List Emission :=
      [.prompt noon (.info "Requesting API with: q=Rome"),
        .prompt noon (.warning "API request with parameter <q=a\nb> timed out")]
    (∀ e ∈ es, e.Arrives) ∧
      Text.lines ((new .warning).emitAll es).sent.toList =
        ["2024-05-01 12:00:00,007: API request with parameter <q=a\nb> timed out".toList, []] := by
  intro noon es
  have arrives : ∀ e ∈ es, e.Arrives := by decide
  refine ⟨arrives, ?_⟩
  rw [(one_line_each_iff .warning arrives).2.2.2 (by decide)]
  decide

/-- The message about a refused call ends with what the service answered, which has a line end in
it. The second line has no time. -/
theorem two_lines_of_answer :
    let noon : Moment := ⟨⟨⟨2024, 5, 1⟩, 12, 0, 0⟩, 7⟩
    let e : Emission := .prompt noon
      (.warning "API request with parameter <id=1> returned status 500: a\r\nb")
    e.Arrives ∧ e.record.level.reaches .info = true ∧
      Text.lines ((new .info).emitAll [e]).sent.toList =
        ["2024-05-01 12:00:00,007: API request with parameter <id=1> returned status 500: a".toList,
          "b".toList, []] ∧
      Text.lines ((new .info).emitAll [e]).sent.toList ≠ [e.wholeLine] ++ [[]] := by
  intro noon e
  have received : Text.lines ((new .info).emitAll [e]).sent.toList =
      ["2024-05-01 12:00:00,007: API request with parameter <id=1> returned status 500: a".toList,
        "b".toList, []] := by
    decide
  refine ⟨by decide, by decide, received, ?_⟩
  rw [received]
  intro same
  have lengths := congrArg List.length same
  exact absurd lengths (by decide)

end LineSink

end WeatherTables
