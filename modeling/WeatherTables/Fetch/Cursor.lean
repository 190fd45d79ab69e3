import WeatherTables.Fetch.History
import WeatherTables.Fetch.Request

/-!
# Lazy dispatch

A cursor gives the rows of planned requests one at a time and sends a request only when a row is
asked for and none is left. What happens on the way is kept in a history.
-/

set_option autoImplicit false

namespace WeatherTables

/-- Rows that have arrived and requests that are still to be sent. -/
structure Cursor where
  method : Method
  sent : Nat
  ready : List Row
  waiting : List Request
  deriving DecidableEq, Repr

namespace Cursor

/-- The record with which a dispatch begins. -/
def opening (m : Method) (requests : List Request) : Record :=
  .info ("Dispatching " ++ toString requests.length ++ " API call(s) to '" ++ m.name ++ "'")

/-- A cursor over the requests of a bundle. None is sent yet. -/
def start (t : Target) (timeout : Nat) (sent : Nat) (bundle : Bundle) : Cursor × History :=
  let requests := t.plan timeout bundle
  (⟨t.method, sent, [], requests⟩, ⟨[], [opening t.method requests]⟩)

/-- The rows of one request, and what happened. -/
def send (client : Client) (m : Method) (sent : Nat) (r : Request) : List Row × History :=
  let settled := r.settle m (client sent r)
  (settled.value, ⟨[r.url], r.announcement :: settled.records⟩)

/-- Sends the waiting requests until one has a row, and takes that row. -/
def advance (client : Client) (m : Method) (sent : Nat) :
    List Request → Option Row × Cursor × History
  | [] => (none, ⟨m, sent, [], []⟩, .empty)
  | r :: waiting =>
    match send client m sent r with
    | (row :: ready, history) => (some row, ⟨m, sent + 1, ready, waiting⟩, history)
    | ([], history) =>
      let (row, cursor, later) := advance client m (sent + 1) waiting
      (row, cursor, history ++ later)

/-- The next row, if there is one. -/
def next (client : Client) (c : Cursor) : Option Row × Cursor × History :=
  match c.ready with
  | row :: ready => (some row, { c with ready := ready }, .empty)
  | [] => advance client c.method c.sent c.waiting

/-- All rows of the waiting requests, and what happened. -/
def collect (client : Client) (m : Method) (sent : Nat) :
    List Request → List Row × History
  | [] => ([], .empty)
  | r :: waiting =>
    let (rows, history) := send client m sent r
    let (more, later) := collect client m (sent + 1) waiting
    (rows ++ more, history ++ later)

/-- All rows that are left, and what happened. -/
def drain (client : Client) (c : Cursor) : List Row × History :=
  let (rows, history) := collect client c.method c.sent c.waiting
  (c.ready ++ rows, history)

end Cursor

end WeatherTables
