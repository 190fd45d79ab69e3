import WeatherTables.Fetch.Parallel

/-!
# Sessions

A session dispatches bundles to one target, one after another. It keeps the bundle at hand and at
most one cursor; every step tells what was requested and recorded in it.
-/

set_option autoImplicit false

namespace WeatherTables

/-- The bundle at hand, the open cursor and the number of requests so far. -/
structure Session where
  target : Target
  timeout : Nat
  bundle : Bundle
  cursor : Option Cursor
  sent : Nat

namespace Session

/-- A session in which nothing has happened. -/
def new (target : Target) (timeout : Nat) : Session :=
  ⟨target, timeout, .empty, none, 0⟩

/-- The session with another bundle at hand. -/
def withBundle (s : Session) (bundle : Bundle) : Session :=
  { s with bundle := bundle }

/-- The requests for the bundle at hand. -/
def plan (s : Session) : List Request :=
  s.target.plan s.timeout s.bundle

/-- Opens a cursor over the bundle at hand, in place of any other. -/
def start (s : Session) : Session × History :=
  let (cursor, history) := Cursor.start s.target s.timeout s.sent s.bundle
  ({ s with cursor := some cursor }, history)

/-- The next row of the cursor, or nothing if no cursor is open. -/
def next (client : Client) (s : Session) : Option (Option Row) × Session × History :=
  match s.cursor with
  | none => (none, s, .empty)
  | some cursor =>
    let (row, cursor, history) := cursor.next client
    (some row, { s with cursor := some cursor, sent := s.sent + history.requests.length }, history)

/-- All rows the cursor has left. The cursor is closed. -/
def drain (client : Client) (s : Session) : List Row × Session × History :=
  match s.cursor with
  | none => ([], s, .empty)
  | some cursor =>
    let (rows, history) := cursor.drain client
    (rows, { s with cursor := none, sent := s.sent + history.requests.length }, history)

/-- Closes the cursor; the requests it has not sent are never sent. -/
def drop (s : Session) : Session :=
  { s with cursor := none }

/-- The rows of the bundle at hand, fetched by several workers under the given schedule. -/
def parallel (client : Client) (schedule : Nat → List Parallel.Event) (s : Session) :
    List Row × Session × History :=
  let plan := s.plan
  let (rows, history) := Parallel.run client s.target.method s.sent plan (schedule plan.length)
  (rows, { s with sent := s.sent + history.requests.length }, history)

end Session

end WeatherTables
