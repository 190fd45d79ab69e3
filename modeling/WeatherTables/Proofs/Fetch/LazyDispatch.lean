import WeatherTables.Fetch.Session
import WeatherTables.Proofs.Fetch.Exchange

/-!
# Lazy dispatch sends no request too early

A dispatch asked for `n` rows has sent just as many requests as the `n` rows need, in the order of the
plan, and its records tell of these requests only. `Cursor.frugal` states this for a cursor in the
middle of its work, by induction on the requests it has not sent: as long as rows are ready nothing
happens (`nexts_ready`), and when none is left the next request is sent before anything else
(`nexts_send`).
-/

set_option autoImplicit false

namespace WeatherTables

namespace Cursor

/-- The results of asking `n` times for the next row, the cursor after that, and what happened. -/
def nexts (client : Client) : Nat → Cursor → List (Option Row) × Cursor × History
  | 0, c => ([], c, .empty)
  | n + 1, c =>
    let (row, c, history) := c.next client
    let (more, c, later) := nexts client n c
    (row :: more, c, history ++ later)

/-- Asking `a + b` times is asking `a` times and then, with the cursor that is left, `b` times. -/
theorem nexts_add (client : Client) (a b : Nat) (c : Cursor) :
    nexts client (a + b) c =
      ((nexts client a c).1 ++ (nexts client b (nexts client a c).2.1).1,
        (nexts client b (nexts client a c).2.1).2.1,
        (nexts client a c).2.2 ++ (nexts client b (nexts client a c).2.1).2.2) := by
  induction a generalizing c with
  | zero =>
    rw [Nat.zero_add]
    rfl
  | succ a ih =>
    rw [Nat.add_right_comm]
    simp only [nexts, ih, List.cons_append, History.append_assoc]

/-- Rows that are ready are given out, and nothing happens. -/
theorem nexts_ready (client : Client) (c : Cursor) {n : Nat} (h : n ≤ c.ready.length) :
    nexts client n c = ((c.ready.take n).map some, { c with ready := c.ready.drop n }, .empty) := by
  induction n generalizing c with
  | zero => rfl
  | succ n ih =>
    obtain ⟨m, sent, ready, waiting⟩ := c
    cases ready with
    | nil => simp at h
    | cons row ready =>
      have rest := ih ⟨m, sent, ready, waiting⟩ (Nat.le_of_succ_le_succ h)
      simp only [nexts, next, rest]
      rfl

/-- When no request is left there are no more rows, and nothing happens. -/
theorem nexts_done (client : Client) (m : Method) (sent n : Nat) :
    nexts client n ⟨m, sent, [], []⟩ = (List.replicate n none, ⟨m, sent, [], []⟩, .empty) := by
  induction n with
  | zero => rfl
  | succ n ih =>
    simp only [nexts, next, advance, ih, List.replicate_succ]
    rfl

/-- When no row is ready and one is asked for, the next request is sent before anything else. -/
theorem nexts_send (client : Client) (m : Method) (sent : Nat) (r : Request)
    (waiting : List Request) {n : Nat} (h : 0 < n) :
    nexts client n ⟨m, sent, [], r :: waiting⟩ =
      ((nexts client n ⟨m, sent + 1, (send client m sent r).1, waiting⟩).1,
        (nexts client n ⟨m, sent + 1, (send client m sent r).1, waiting⟩).2.1,
        (send client m sent r).2 ++
          (nexts client n ⟨m, sent + 1, (send client m sent r).1, waiting⟩).2.2) := by
  obtain ⟨n, rfl⟩ : ∃ k, n = k + 1 := ⟨n - 1, by omega⟩
  cases hs : send client m sent r with
  | mk rows history =>
    cases rows with
    | nil => simp only [nexts, next, advance, hs, History.append_assoc]
    | cons row ready => simp only [nexts, next, advance, hs, History.empty_append]

/-- After the rows that are ready the cursor goes on as one that has none ready. -/
theorem nexts_past_ready (client : Client) (m : Method) (sent : Nat) (ready : List Row)
    (waiting : List Request) (k : Nat) :
    nexts client (ready.length + k) ⟨m, sent, ready, waiting⟩ =
      (ready.map some ++ (nexts client k ⟨m, sent, [], waiting⟩).1,
        (nexts client k ⟨m, sent, [], waiting⟩).2) := by
  have given := nexts_ready client ⟨m, sent, ready, waiting⟩ (Nat.le_refl ready.length)
  simp only [List.take_length, List.drop_length] at given
  rw [nexts_add, given]
  rfl

/-- The results of asking `n` times for the next of the given rows. -/
def served (n : Nat) (rows : List Row) : List (Option Row) :=
  (rows.take n).map some ++ List.replicate (n - rows.length) none

/-- Without rows, every time nothing is given. -/
theorem served_nil (n : Nat) : served n [] = List.replicate n none := by
  simp [served]

/-- As long as the first rows suffice, what comes after them does not matter. -/
theorem served_of_le {n : Nat} {rows : List Row} (h : n ≤ rows.length) (more : List Row) :
    served n (rows ++ more) = (rows.take n).map some := by
  have none_missing : n - (rows ++ more).length = 0 := by
    rw [List.length_append]
    omega
  rw [served, List.take_append_of_le_length h, none_missing, List.replicate_zero, List.append_nil]

/-- Once the first rows are given, those after them are served. -/
theorem served_past (k : Nat) (rows more : List Row) :
    served (rows.length + k) (rows ++ more) = rows.map some ++ served k more := by
  have missing : rows.length + k - (rows ++ more).length = k - more.length := by
    rw [List.length_append]
    omega
  rw [served, List.take_length_add_append, missing, List.map_append, List.append_assoc]
  rfl

/-- The rows that are ready and those of the next `i` requests. -/
def rowsUpTo (client : Client) (c : Cursor) (i : Nat) : List Row :=
  c.ready ++ ((Exchange.ofRequests client c.sent c.waiting).take i).flatMap (Exchange.rows c.method)

/-- Before a request is sent, only the rows that are ready are there. -/
theorem rowsUpTo_zero (client : Client) (c : Cursor) : c.rowsUpTo client 0 = c.ready := by
  simp [rowsUpTo]

/-- The rows of the next request may as well be ready. -/
theorem rowsUpTo_succ (client : Client) (m : Method) (sent : Nat) (ready : List Row) (r : Request)
    (waiting : List Request) (i : Nat) :
    rowsUpTo client ⟨m, sent, ready, r :: waiting⟩ (i + 1) =
      ready ++ rowsUpTo client ⟨m, sent + 1, Exchange.rows m ⟨r, client sent r⟩, waiting⟩ i := by
  simp [rowsUpTo, Exchange.ofRequests]

/-- What a cursor does when asked for `n` rows. It gives its rows in order, and it has sent the first
`j` of its requests, where `j` is the least number of requests that brings `n` rows, or all of them
where none does. -/
def Frugal (client : Client) (c : Cursor) (n : Nat) : Prop :=
  ∃ j ≤ c.waiting.length,
    (n ≤ (c.rowsUpTo client j).length ∨ j = c.waiting.length) ∧
    (∀ i < j, (c.rowsUpTo client i).length < n) ∧
    (nexts client n c).1 = served n (c.rowsUpTo client c.waiting.length) ∧
    (nexts client n c).2.2 =
      Exchange.history c.method ((Exchange.ofRequests client c.sent c.waiting).take j)

/-- Rows that are ready are given without a request. -/
theorem frugal_of_le (client : Client) (c : Cursor) {n : Nat} (few : n ≤ c.ready.length) :
    Frugal client c n := by
  have given := nexts_ready client c few
  refine ⟨0, Nat.zero_le _, .inl ?_, fun i hi => absurd hi (Nat.not_lt_zero i), ?_, ?_⟩
  · rw [rowsUpTo_zero]
    exact few
  · rw [given, rowsUpTo, served_of_le few]
  · rw [given]
    rfl

/-- Without requests, a cursor gives what is ready and then nothing. -/
theorem frugal_of_waiting_nil (client : Client) (m : Method) (sent : Nat) (ready : List Row)
    (k : Nat) : Frugal client ⟨m, sent, ready, []⟩ (ready.length + k) := by
  have past := nexts_past_ready client m sent ready [] k
  rw [nexts_done] at past
  refine ⟨0, Nat.zero_le _, .inr rfl, fun i hi => absurd hi (Nat.not_lt_zero i), ?_, ?_⟩
  · rw [past, ← served_nil]
    exact (served_past k ready []).symm
  · rw [past]
    rfl

/-- With no row ready a cursor that is asked for one sends its next request, and from there on the
question is what it does with the rows of that request ready. -/
theorem frugal_of_send (client : Client) (m : Method) (sent : Nat) (ready : List Row) (r : Request)
    (waiting : List Request) (k : Nat)
    (h : Frugal client ⟨m, sent + 1, Exchange.rows m ⟨r, client sent r⟩, waiting⟩ (k + 1)) :
    Frugal client ⟨m, sent, ready, r :: waiting⟩ (ready.length + (k + 1)) := by
  obtain ⟨j, j_le, enough, least, results, history⟩ := h
  have past := nexts_past_ready client m sent ready (r :: waiting) (k + 1)
  rw [nexts_send client m sent r waiting (Nat.succ_pos k), send_eq] at past
  refine ⟨j + 1, Nat.succ_le_succ j_le, ?_, ?_, ?_, ?_⟩
  · rcases enough with enough | all
    · refine .inl ?_
      rw [rowsUpTo_succ, List.length_append]
      exact Nat.add_le_add_left enough _
    · exact .inr (congrArg (· + 1) all)
  · intro i hi
    -- Without a request there are only the rows that are ready, and they do not suffice.
    cases i with
    | zero =>
      rw [rowsUpTo_zero]
      exact Nat.lt_add_of_pos_right (Nat.succ_pos k)
    | succ i =>
      rw [rowsUpTo_succ, List.length_append]
      exact Nat.add_lt_add_left (least i (Nat.lt_of_succ_lt_succ hi)) _
  · rw [past]
    show ready.map some ++ _ = _
    rw [results, ← served_past]
    exact congrArg _ (rowsUpTo_succ client m sent ready r waiting waiting.length).symm
  · rw [past]
    show _ ++ _ = _
    rw [history]
    rfl

/-- A cursor is frugal in every state. -/
theorem frugal (client : Client) (c : Cursor) (n : Nat) : Frugal client c n := by
  obtain ⟨m, sent, ready, waiting⟩ := c
  induction waiting generalizing sent ready n with
  | nil =>
    rcases Nat.le_total n ready.length with few | many
    · exact frugal_of_le client _ few
    · obtain ⟨k, rfl⟩ := Nat.exists_eq_add_of_le many
      exact frugal_of_waiting_nil client m sent ready k
  | cons r waiting ih =>
    -- The next request is sent only if the rows that are ready do not suffice.
    rcases Nat.lt_or_ge ready.length n with many | few
    · obtain ⟨k, rfl⟩ := Nat.exists_eq_add_of_lt many
      exact frugal_of_send client m sent ready r waiting k (ih (k + 1) (sent + 1) _)
    · exact frugal_of_le client _ few

end Cursor

namespace Session

/-- What a session can be asked to do with its open cursor. -/
inductive Command where
  | next
  | drain
  | drop
  deriving DecidableEq, Repr

/-- The session after a command, and what happened. -/
def perform (client : Client) (s : Session) : Command → Session × History
  | .next => (s.next client).2
  | .drain => (s.drain client).2
  | .drop => (s.drop, .empty)

/-- The session after a list of commands, and what happened. -/
def performAll (client : Client) : List Command → Session → Session × History
  | [], s => (s, .empty)
  | command :: later, s =>
    let (s, history) := s.perform client command
    let (s, more) := performAll client later s
    (s, history ++ more)

/-- Two lists of commands are done one after the other. -/
theorem performAll_append (client : Client) (first later : List Command) (s : Session) :
    performAll client (first ++ later) s =
      ((performAll client later (performAll client first s).1).1,
        (performAll client first s).2 ++
          (performAll client later (performAll client first s).1).2) := by
  induction first generalizing s with
  | nil => rfl
  | cons command first ih => simp only [List.cons_append, performAll, ih, History.append_assoc]

/-- Asking a session for rows is asking its cursor. -/
theorem performAll_next (client : Client) (s : Session) (c : Cursor) (h : s.cursor = some c)
    (n : Nat) :
    (performAll client (List.replicate n .next) s).2 = (c.nexts client n).2.2 := by
  induction n generalizing s c with
  | zero => rfl
  | succ n ih =>
    simp only [List.replicate_succ, performAll, perform, Session.next, h, Cursor.nexts]
    rw [ih _ _ rfl]

/-- A session without a cursor sends nothing and records nothing, whatever it is asked. -/
theorem performAll_closed (client : Client) (commands : List Command) (s : Session)
    (h : s.cursor = none) : (performAll client commands s).2 = .empty := by
  induction commands generalizing s with
  | nil => rfl
  | cons command commands ih =>
    have step : s.perform client command = (s, .empty) := by
      obtain ⟨t, timeout, bundle, cursor, sent⟩ := s
      cases h
      cases command <;> rfl
    simp only [performAll, step, ih s h]
    rfl

/-- A cursor that is dropped has done what it had done before, whatever is asked of its session
afterwards. -/
theorem performAll_drop (client : Client) (s : Session) (c : Cursor) (h : s.cursor = some c) (n : Nat)
    (later : List Command) :
    (performAll client (List.replicate n .next ++ .drop :: later) s).2 = (c.nexts client n).2.2 := by
  have closed := performAll_closed client later
    (performAll client (List.replicate n .next) s).1.drop rfl
  rw [performAll_append, performAll_next client s c h]
  simp only [performAll, perform, closed]
  exact History.append_empty _

end Session

end WeatherTables
