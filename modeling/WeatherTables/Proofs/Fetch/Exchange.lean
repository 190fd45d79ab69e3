import WeatherTables.Fetch.Cursor

/-!
# Exchanges

A request together with the answer that came back for it, and what a dispatch makes of the two: rows,
if the answer brings any, and records. `records_of_failed` and `records_of_not_failed` say that a
failure costs exactly one warning, and `drain_eq` that draining a cursor runs through the exchanges of
its waiting requests in order. Lazy and parallel dispatch are both measured against these exchanges.
-/

set_option autoImplicit false

namespace WeatherTables

namespace Answer

/-- The ways in which a request comes to nothing: no answer in time, none at all, a status other than
200, a body that is no interchange text, and a body that denotes no object. -/
inductive Failed : Answer → Prop where
  | timedOut : Failed .timedOut
  | unanswered (reason : String) : Failed (.failed reason)
  | refused {status : Nat} (body : String) (h : status ≠ 200) : Failed (.response status body)
  | malformed {body : String} (h : Json.read? body = none) : Failed (.response 200 body)
  | unexpected {body : String} {payload : Json} (h : Json.read? body = some payload)
    (notObject : ∀ members, payload ≠ .object members) : Failed (.response 200 body)

/-- The rows of the payload, if the answer has one that is good for rows, and otherwise none. -/
def yield (m : Method) : Answer → List Row
  | .response 200 body =>
    match Json.read? body with
    | some payload =>
      match m.rows payload with
      | .ok rows => rows
      | .error _ => []
    | none => []
  | _ => []

end Answer

/-- Every object has rows, perhaps none. -/
theorem Method.rows_object (m : Method) (members : List (String × Json)) :
    ∃ rows, m.rows (.object members) = .ok rows := by
  cases m <;> exact ⟨_, rfl⟩

/-- A payload that is no object is refused, and the error tells what it is. -/
theorem Method.rows_of_not_object (m : Method) {payload : Json}
    (h : ∀ members, payload ≠ .object members) :
    m.rows payload = .error (.notAnObject payload.kind) := by
  cases payload with
  | object members => exact absurd rfl (h members)
  | null | bool | number | string | array => rfl

/-- An answer that brings nothing is read as an error. -/
theorem Answer.rows_of_failed {a : Answer} (m : Method) (h : a.Failed) :
    ∃ e, a.rows m = .error e := by
  cases h with
  | timedOut => exact ⟨_, rfl⟩
  | unanswered reason => exact ⟨_, rfl⟩
  | refused body h => exact ⟨_, if_pos h⟩
  | malformed h => exact ⟨.malformed, by simp [Answer.rows, h]⟩
  | @unexpected body payload h notObject =>
    refine ⟨.unexpected (.notAnObject payload.kind), ?_⟩
    simp only [Answer.rows, h, m.rows_of_not_object notObject]
    rfl

/-- Every other answer brings rows, perhaps none. -/
theorem Answer.rows_of_not_failed {a : Answer} (m : Method) (h : ¬ a.Failed) :
    a.rows m = .ok (a.yield m) := by
  cases a with
  | timedOut => exact absurd .timedOut h
  | failed reason => exact absurd (.unanswered reason) h
  | response status body =>
    by_cases hs : status = 200
    · subst hs
      cases read : Json.read? body with
      | none => exact absurd (.malformed read) h
      | some payload =>
        by_cases object : ∃ members, payload = .object members
        · obtain ⟨members, rfl⟩ := object
          obtain ⟨rows, hrows⟩ := m.rows_object members
          simp only [Answer.rows, Answer.yield, read, hrows]
          rfl
        · exact absurd (.unexpected read fun members e => object ⟨members, e⟩) h
    · exact absurd (.refused body hs) h

/-- An answer that is a failure brings no row. -/
theorem Answer.yield_of_failed {a : Answer} (m : Method) (h : a.Failed) : a.yield m = [] := by
  cases h with
  | timedOut => rfl
  | unanswered reason => rfl
  | refused body h => simp [Answer.yield, h]
  | malformed h => simp [Answer.yield, h]
  | unexpected h notObject => simp [Answer.yield, h, m.rows_of_not_object notObject]

/-- A request and the answer that came back for it. -/
structure Exchange where
  request : Request
  answer : Answer

namespace Exchange

/-- The rows that came back. -/
def rows (m : Method) (x : Exchange) : List Row :=
  x.answer.yield m

/-- The announcement of the request and the warning that it failed, if it did. -/
def records (m : Method) (x : Exchange) : List Record :=
  x.request.announcement :: (x.request.settle m x.answer).records

/-- The exchanges of a list of requests that are sent one after the other. -/
def ofRequests (client : Client) : Nat → List Request → List Exchange
  | _, [] => []
  | sent, r :: waiting => ⟨r, client sent r⟩ :: ofRequests client (sent + 1) waiting

/-- What happened in a run of exchanges. -/
def history (m : Method) (xs : List Exchange) : History :=
  ⟨xs.map fun x => x.request.url, xs.flatMap (records m)⟩

/-- Settling a request gives the rows that came back. -/
theorem value_settle (m : Method) (x : Exchange) :
    (x.request.settle m x.answer).value = x.rows m := by
  by_cases h : x.answer.Failed
  · obtain ⟨e, he⟩ := x.answer.rows_of_failed m h
    simp only [Request.settle, he, rows, x.answer.yield_of_failed m h]
  · simp only [Request.settle, x.answer.rows_of_not_failed m h, rows]

/-- A request whose answer is read as an error is announced, and one warning then tells the error and
the parameter of the request. -/
theorem records_of_error {m : Method} {x : Exchange} {e : RequestError}
    (h : x.answer.rows m = .error e) :
    x.records m = [x.request.announcement, .warning (e.message x.request.parameter)] := by
  simp only [records, Request.settle, h]

/-- A failure is announced and then reported by one warning. -/
theorem records_of_failed (m : Method) {x : Exchange} (h : x.answer.Failed) :
    ∃ message, x.records m = [x.request.announcement, .warning message] := by
  obtain ⟨e, he⟩ := x.answer.rows_of_failed m h
  exact ⟨e.message x.request.parameter, records_of_error he⟩

/-- A success is only announced. -/
theorem records_of_not_failed (m : Method) {x : Exchange} (h : ¬ x.answer.Failed) :
    x.records m = [x.request.announcement] := by
  simp only [records, Request.settle, x.answer.rows_of_not_failed m h]

/-- A run of exchanges starts with the history of the first. -/
theorem history_cons (m : Method) (x : Exchange) (xs : List Exchange) :
    history m (x :: xs) = ⟨[x.request.url], x.records m⟩ ++ history m xs := rfl

/-- The exchanges of some requests are about these requests, in order. -/
theorem map_request_ofRequests (client : Client) (sent : Nat) (waiting : List Request) :
    (ofRequests client sent waiting).map request = waiting := by
  induction waiting generalizing sent with
  | nil => rfl
  | cons r waiting ih => simp [ofRequests, ih]

end Exchange

namespace Cursor

/-- Sending a request is one exchange. -/
theorem send_eq (client : Client) (m : Method) (sent : Nat) (r : Request) :
    send client m sent r =
      (Exchange.rows m ⟨r, client sent r⟩, ⟨[r.url], Exchange.records m ⟨r, client sent r⟩⟩) := by
  rw [← Exchange.value_settle]
  rfl

/-- Draining a cursor gives the rows that are ready and those of all its exchanges. -/
theorem drain_eq (client : Client) (c : Cursor) :
    c.drain client =
      (c.ready ++ (Exchange.ofRequests client c.sent c.waiting).flatMap (Exchange.rows c.method),
        Exchange.history c.method (Exchange.ofRequests client c.sent c.waiting)) := by
  have collected : ∀ (waiting : List Request) (sent : Nat),
      collect client c.method sent waiting =
        ((Exchange.ofRequests client sent waiting).flatMap (Exchange.rows c.method),
          Exchange.history c.method (Exchange.ofRequests client sent waiting)) := by
    intro waiting
    induction waiting with
    | nil => exact fun _ => rfl
    | cons r waiting ih =>
      intro sent
      simp only [collect, send_eq, ih, Exchange.ofRequests, Exchange.history_cons,
        List.flatMap_cons]
  simp only [drain, collected]

end Cursor

end WeatherTables
