import WeatherTables.Fetch.Cursor

/-!
# Parallel dispatch

Several workers send the planned requests at once. A schedule is the order in which requests are
sent and answered; what is recorded follows the schedule, but the rows follow the plan.
-/

set_option autoImplicit false

namespace WeatherTables

namespace Parallel

/-- A request is sent, or its answer has been dealt with. The number is its place in the plan. -/
inductive Event where
  | sent (place : Nat)
  | settled (place : Nat)
  deriving DecidableEq, Repr

/-- The answers that are on their way, the rows that have arrived, each with the place of its request
in the plan, and what happened so far. -/
structure State where
  sent : Nat
  pending : List (Nat × Answer)
  arrived : List (Nat × List Row)
  history : History

/-- One event of a schedule. -/
def step (client : Client) (m : Method) (plan : List Request) (s : State) : Event → State
  | .sent place =>
    match plan[place]? with
    | none => s
    | some r =>
      { s with
        sent := s.sent + 1
        pending := (place, client s.sent r) :: s.pending
        history := s.history ++ ⟨[r.url], [r.announcement]⟩ }
  | .settled place =>
    match plan[place]?, s.pending.lookup place with
    | some r, some answer =>
      let settled := r.settle m answer
      { s with
        pending := s.pending.filter fun p => p.1 ≠ place
        arrived := (place, settled.value) :: s.arrived
        history := s.history ++ ⟨[], settled.records⟩ }
    | _, _ => s

/-- The rows that have arrived, in the order of the plan. -/
def State.rows (s : State) (count : Nat) : List Row :=
  (List.range count).flatMap fun place => (s.arrived.lookup place).getD []

/-- The rows of the plan under a schedule, and what happened. -/
def run (client : Client) (m : Method) (sent : Nat) (plan : List Request)
    (schedule : List Event) : List Row × History :=
  let final := schedule.foldl (step client m plan) ⟨sent, [], [], .empty⟩
  (final.rows plan.length, final.history)

/-- The schedule of a single worker. -/
def oneWorker (count : Nat) : List Event :=
  (List.range count).flatMap fun place => [.sent place, .settled place]

/-- How many workers there are when `asked` are asked for. -/
def workers (asked : Nat) : Nat :=
  max asked 1

/-- How many requests are on their way after a schedule. -/
def inFlight (schedule : List Event) : Nat :=
  schedule.foldl
    (fun count event => match event with
      | .sent _ => count + 1
      | .settled _ => count - 1) 0

/-- Whether a number of workers can follow the schedule: every request is sent once and settled once,
after it was sent, and never are more on their way than there are workers. -/
def allowed (asked count : Nat) (schedule : List Event) : Prop :=
  schedule.Perm (oneWorker count) ∧
    (∀ place < count, [Event.sent place, .settled place].Sublist schedule) ∧
    ∀ begun, begun <+: schedule → inFlight begun ≤ workers asked

end Parallel

end WeatherTables
