import WeatherTables.Fetch.Canned
import WeatherTables.Fetch.Parallel
import WeatherTables.Proofs.Fetch.Exchange
import Mathlib.Data.List.Induction
import Mathlib.Data.List.Infix
import Mathlib.Data.List.Nodup
import Mathlib.Data.List.Perm.Basic

/-!
# Parallel dispatch refines lazy dispatch

Whatever the order in which the workers send requests and deal with the answers, the rows come out in
the order of the plan, every request is sent once, and the same records are written, those of one
request in their order. `Tracked` is the invariant of a schedule in progress: it says what the events
so far have left in the state. `tracked_sent` and `tracked_settled` keep it and `tracked_foldl` carries
it through a whole schedule; what remains is that an allowed schedule rearranges that of one worker.
`tagged` says which request each record is about, and `records_of_place` what is written for one request.
-/

set_option autoImplicit false

namespace WeatherTables

namespace Parallel

/-- The place in the plan that an event concerns. -/
def Event.place : Event → Nat
  | .sent place => place
  | .settled place => place

/-- The events about a place are its sending and its settling. -/
theorem Event.place_eq_iff {e : Event} {place : Nat} :
    e.place = place ↔ e = .sent place ∨ e = .settled place := by
  cases e <;> simp [Event.place]

/-! ## Schedules in order -/

/-- Every event of the schedule is about a request of the plan and happens once, and a request is
settled only after it was sent. -/
def Ordered (count : Nat) (schedule : List Event) : Prop :=
  ∀ done e later, schedule = done ++ e :: later →
    e.place < count ∧ e ∉ done ∧ ∀ place, e = .settled place → .sent place ∈ done

/-- A single worker brings about every event of the plan and no other. -/
theorem mem_oneWorker (count : Nat) (e : Event) : e ∈ oneWorker count ↔ e.place < count := by
  cases e <;> simp [oneWorker, Event.place]

/-- A single worker does nothing twice. -/
theorem nodup_oneWorker (count : Nat) : (oneWorker count).Nodup := by
  rw [oneWorker, List.nodup_flatMap]
  refine ⟨fun place _ => by simp, ?_⟩
  apply List.Pairwise.imp _ List.nodup_range
  intro p q hpq e he he'
  simp only [List.mem_cons, List.not_mem_nil, or_false] at he he'
  rcases he with rfl | rfl <;> simp_all

/-- An element with a second one somewhere after it stands before that second one. -/
theorem mem_of_pair_sublist {α : Type} {a b : α} {done later : List α}
    (nodup : (done ++ b :: later).Nodup) (h : [a, b].Sublist (done ++ b :: later)) : a ∈ done := by
  obtain ⟨first, second, split, hfirst, hsecond⟩ := List.sublist_append_iff.1 h
  cases first with
  | nil =>
    -- Then `b` would stand once more behind itself.
    rw [List.nil_append] at split
    have again : b ∈ later := by
      rw [← split] at hsecond
      exact List.singleton_sublist.1 hsecond.tail
    exact absurd again (List.nodup_cons.1 (List.nodup_append.1 nodup).2.1).1
  | cons c first =>
    rw [List.cons_append, List.cons.injEq] at split
    exact hfirst.subset (by simp [split.1])

/-- A schedule that workers can follow is in order. -/
theorem ordered_of_allowed {asked count : Nat} {schedule : List Event}
    (h : allowed asked count schedule) : Ordered count schedule := by
  obtain ⟨perm, sentFirst, -⟩ := h
  have nodup : schedule.Nodup := perm.nodup_iff.2 (nodup_oneWorker count)
  rintro done e later rfl
  have inPlan : e.place < count := (mem_oneWorker count e).1 (perm.mem_iff.1 (by simp))
  refine ⟨inPlan, ?_, ?_⟩
  · intro he
    exact (List.nodup_append.1 nodup).2.2 e he e (by simp) rfl
  · rintro place rfl
    exact mem_of_pair_sublist nodup (sentFirst place inPlan)

/-- A request that is still to be sent is not settled. -/
theorem Ordered.settled_not_mem {count place : Nat} {done later : List Event}
    (h : Ordered count (done ++ .sent place :: later)) : .settled place ∉ done := by
  intro settled
  obtain ⟨before, after, rfl⟩ := List.append_of_mem settled
  have sentBefore := (h before (.settled place) (after ++ .sent place :: later) (by simp)).2.2 place rfl
  have notBefore := (h (before ++ .settled place :: after) (.sent place) later rfl).2.1
  exact notBefore (by simp [sentBefore])

/-- Whether workers can follow a schedule is found by looking at each of its prefixes. -/
instance (asked count : Nat) (schedule : List Event) : Decidable (allowed asked count schedule) :=
  decidable_of_iff
    (schedule.Perm (oneWorker count) ∧
      (∀ place < count, [Event.sent place, .settled place].Sublist schedule) ∧
      ∀ begun ∈ schedule.inits, inFlight begun ≤ workers asked)
    (by simp only [allowed, List.mem_inits])

/-- A single worker never has more than one request on its way. -/
theorem inFlight_oneWorker_le (places : List Nat) (begun : List Event)
    (h : begun <+: places.flatMap fun place => [.sent place, .settled place]) :
    inFlight begun ≤ 1 := by
  induction places generalizing begun with
  | nil =>
    rw [List.prefix_nil.1 h]
    exact Nat.zero_le 1
  | cons place places ih =>
    obtain rfl | ⟨afterSent, rfl, rest⟩ := List.prefix_cons_iff.1 h
    · exact Nat.zero_le 1
    · obtain rfl | ⟨afterSettled, rfl, others⟩ := List.prefix_cons_iff.1 rest
      · exact Nat.le_refl 1
      · exact ih afterSettled others

/-- Any number of workers can follow the schedule of one, so every plan can be run. -/
theorem allowed_oneWorker (asked count : Nat) : allowed asked count (oneWorker count) := by
  refine ⟨List.Perm.refl _, fun place inPlan => ?_, fun begun h => ?_⟩
  · exact List.sublist_flatten_of_mem (List.mem_map.2 ⟨place, List.mem_range.2 inPlan, rfl⟩)
  · exact Nat.le_trans (inFlight_oneWorker_le _ begun h) (Nat.le_max_right asked 1)

/-! ## What a schedule leaves behind -/

variable (plan : List Request) (m : Method) (answers : Request → Answer)

/-- The exchange that a place of the plan stands for. -/
def exchange? (place : Nat) : Option Exchange :=
  plan[place]?.map fun r => ⟨r, answers r⟩

/-- What `part` makes of the exchange at a place of the plan. -/
def atPlace {α : Type} (part : Exchange → List α) (place : Nat) : List α :=
  ((exchange? plan answers place).map part).getD []

/-- The addresses that an event requests. -/
def Event.requests : Event → List String
  | .sent place => atPlace plan answers (fun x => [x.request.url]) place
  | .settled _ => []

/-- The records that an event writes. -/
def Event.records : Event → List Record
  | .sent place => atPlace plan answers (fun x => [x.request.announcement]) place
  | .settled place =>
    atPlace plan answers (fun x => (x.request.settle m x.answer).records) place

/-- The records that the events of a schedule write, in their order, each with the place of the
request that its event concerns. -/
def tagged (schedule : List Event) : List (Nat × Record) :=
  schedule.flatMap fun e => (e.records plan m answers).map (e.place, ·)

/-- What the events that are done have left in the state. -/
structure Tracked (done : List Event) (s : State) : Prop where
  pending : ∀ place, s.pending.lookup place =
    if .sent place ∈ done ∧ .settled place ∉ done then
      (exchange? plan answers place).map Exchange.answer
    else none
  arrived : ∀ place, s.arrived.lookup place =
    if .settled place ∈ done then (exchange? plan answers place).map (Exchange.rows m) else none
  requests : s.history.requests = done.flatMap (Event.requests plan answers)
  records : s.history.records = done.flatMap (Event.records plan m answers)

/-- Before the first event the state is empty. -/
theorem tracked_nil (sent : Nat) : Tracked plan m answers [] ⟨sent, [], [], .empty⟩ := by
  constructor <;> simp

/-- An entry that is put in front is found at its own place, and others as before. -/
theorem lookup_cons_ite {α : Type} (place other : Nat) (a : α) (l : List (Nat × α)) :
    ((place, a) :: l).lookup other = if other = place then some a else l.lookup other := by
  by_cases h : other = place
  · simp [h]
  · simp [List.lookup_cons, beq_false_of_ne h, h]

/-- A place that is taken out is not found any more, and others are found as before. -/
theorem lookup_filter_ne {α : Type} (place other : Nat) (l : List (Nat × α)) :
    (l.filter fun p => p.1 ≠ place).lookup other =
      if other = place then none else l.lookup other := by
  induction l with
  | nil => simp
  | cons p l ih =>
    obtain ⟨key, a⟩ := p
    by_cases hk : key = place
    · rw [List.filter_cons_of_neg (by simp [hk]), ih, lookup_cons_ite, hk]
      split <;> rfl
    · rw [List.filter_cons_of_pos (by simp [hk]), lookup_cons_ite, ih, lookup_cons_ite]
      split
      · next h => simp [h, hk]
      · rfl

/-- A place of the plan stands for the exchange of its request. -/
theorem exchange?_of_getElem? {plan : List Request} (answers : Request → Answer) {place : Nat} {r : Request}
    (h : plan[place]? = some r) : exchange? plan answers place = some ⟨r, answers r⟩ := by
  simp [exchange?, h]

variable {plan m answers} (client : Client)

/-- Sending a request adds its answer to those on their way. -/
theorem tracked_sent (steady : ∀ r ∈ plan, ∀ i, client i r = answers r) {done : List Event}
    {s : State} (h : Tracked plan m answers done s) {place : Nat} (inPlan : place < plan.length)
    (notSettled : .settled place ∉ done) :
    Tracked plan m answers (done ++ [.sent place]) (step client m plan s (.sent place)) := by
  obtain ⟨pending, arrived, requests, records⟩ := h
  have found := List.getElem?_eq_getElem inPlan
  have exchange := exchange?_of_getElem? answers found
  have answer := steady plan[place] (List.getElem_mem inPlan) s.sent
  simp only [step, found]
  refine ⟨fun other => ?_, fun other => ?_, ?_, ?_⟩
  · rw [lookup_cons_ite, pending]
    by_cases ho : other = place
    · simp [ho, notSettled, exchange, answer]
    · simp [ho]
  · rw [arrived]
    simp
  · simp [requests, Event.requests, atPlace, exchange]
  · simp [records, Event.records, atPlace, exchange]

/-- Dealing with an answer moves its rows to those that have arrived. -/
theorem tracked_settled {done : List Event} {s : State} (h : Tracked plan m answers done s)
    {place : Nat} (inPlan : place < plan.length) (sent : .sent place ∈ done)
    (notSettled : .settled place ∉ done) :
    Tracked plan m answers (done ++ [.settled place]) (step client m plan s (.settled place)) := by
  obtain ⟨pending, arrived, requests, records⟩ := h
  have found := List.getElem?_eq_getElem inPlan
  have exchange := exchange?_of_getElem? answers found
  have waiting := pending place
  rw [if_pos ⟨sent, notSettled⟩, exchange, Option.map_some] at waiting
  simp only [step, found, waiting]
  refine ⟨fun other => ?_, fun other => ?_, ?_, ?_⟩
  · rw [lookup_filter_ne, pending]
    by_cases ho : other = place
    · simp [ho]
    · simp [ho]
  · rw [lookup_cons_ite, arrived]
    by_cases ho : other = place
    · simp [ho, exchange, ← Exchange.value_settle]
    · simp [ho]
  · simp [requests, Event.requests]
  · simp [records, Event.records, atPlace, exchange]

/-- The invariant holds all along a schedule that is in order. -/
theorem tracked_foldl (steady : ∀ r ∈ plan, ∀ i, client i r = answers r) (sent : Nat)
    {done later : List Event} (ordered : Ordered plan.length (done ++ later)) :
    Tracked plan m answers done (done.foldl (step client m plan) ⟨sent, [], [], .empty⟩) := by
  -- The induction takes events from the end, where the state was last changed.
  induction done using List.reverseRecOn generalizing later with
  | nil => exact tracked_nil plan m answers sent
  | append_singleton done e ih =>
    rw [List.append_assoc, List.singleton_append] at ordered
    have before := ih ordered
    obtain ⟨inPlan, fresh, sentFirst⟩ := ordered done e later rfl
    rw [List.foldl_append]
    cases e with
    | sent place => exact tracked_sent client steady before inPlan ordered.settled_not_mem
    | settled place => exact tracked_settled client before inPlan (sentFirst place rfl) fresh

/-! ## Rearranging the schedule of one worker -/

/-- Going through all places of the plan is going through its requests. -/
theorem flatMap_range_atPlace {α : Type} (part : Exchange → List α) :
    (List.range plan.length).flatMap (atPlace plan answers part) =
      plan.flatMap fun r => part ⟨r, answers r⟩ := by
  induction plan with
  | nil => rfl
  | cons r plan ih =>
    rw [List.length_cons, List.range_succ_eq_map, List.flatMap_cons, List.flatMap_map,
      List.flatMap_cons, ← ih]
    rfl

/-- What two parts make of a place is what both together make of it. -/
theorem atPlace_append {α : Type} (first second : Exchange → List α) (place : Nat) :
    atPlace plan answers first place ++ atPlace plan answers second place =
      atPlace plan answers (fun x => first x ++ second x) place := by
  unfold atPlace
  cases exchange? plan answers place <;> rfl

/-- When the answers do not depend on the time, neither do the exchanges. -/
theorem ofRequests_of_steady (steady : ∀ r ∈ plan, ∀ i, client i r = answers r) (sent : Nat) :
    Exchange.ofRequests client sent plan = plan.map fun r => ⟨r, answers r⟩ := by
  induction plan generalizing sent with
  | nil => rfl
  | cons r plan ih =>
    rw [Exchange.ofRequests, steady r (by simp) sent, ih (fun q hq => steady q (by simp [hq]))]
    rfl

/-- What draining a cursor comes to when the answers do not depend on the time. -/
theorem drain_of_steady (steady : ∀ r ∈ plan, ∀ i, client i r = answers r) (sent : Nat) :
    (Cursor.mk m sent [] plan).drain client =
      (plan.flatMap fun r => Exchange.rows m ⟨r, answers r⟩,
        ⟨plan.map Request.url, plan.flatMap fun r => Exchange.records m ⟨r, answers r⟩⟩) := by
  rw [Cursor.drain_eq, ofRequests_of_steady client steady, Exchange.history]
  simp only [List.flatMap_map, List.map_map, List.nil_append]
  rfl

/-- A single worker sends the requests of the plan, in order. -/
theorem requests_oneWorker :
    (oneWorker plan.length).flatMap (Event.requests plan answers) = plan.map Request.url := by
  rw [oneWorker, List.flatMap_assoc]
  calc
    _ = (List.range plan.length).flatMap (atPlace plan answers fun x => [x.request.url]) := by
      congr 1
      funext place
      simp [Event.requests]
    _ = plan.flatMap fun r => [r.url] := flatMap_range_atPlace _
    _ = plan.map Request.url := List.map_eq_flatMap.symm

/-- A single worker leaves the records of one exchange after the other. -/
theorem records_oneWorker :
    (oneWorker plan.length).flatMap (Event.records plan m answers) =
      plan.flatMap fun r => Exchange.records m ⟨r, answers r⟩ := by
  rw [oneWorker, List.flatMap_assoc]
  calc
    _ = (List.range plan.length).flatMap (atPlace plan answers (Exchange.records m)) := by
      congr 1
      funext place
      rw [List.flatMap_cons, List.flatMap_cons, List.flatMap_nil, List.append_nil]
      exact atPlace_append _ _ place
    _ = _ := flatMap_range_atPlace _

/-- The events about one place are its sending and its settling, in that order. -/
theorem filter_place {asked count : Nat} {schedule : List Event} (h : allowed asked count schedule)
    {place : Nat} (inPlan : place < count) :
    schedule.filter (fun e => e.place = place) = [.sent place, .settled place] := by
  obtain ⟨perm, sentFirst, -⟩ := h
  have nodup : schedule.Nodup := perm.nodup_iff.2 (nodup_oneWorker count)
  have pair : [Event.sent place, .settled place].Sublist
      (schedule.filter fun e => e.place = place) := by
    simpa [Event.place] using (sentFirst place inPlan).filter fun e => e.place = place
  have same : (schedule.filter fun e => e.place = place).Perm [.sent place, .settled place] := by
    apply (List.perm_ext_iff_of_nodup (nodup.filter _) (by simp)).2
    intro e
    rw [List.mem_filter, decide_eq_true_eq, perm.mem_iff, mem_oneWorker, List.mem_pair,
      ← Event.place_eq_iff]
    constructor
    · exact And.right
    · intro here
      exact ⟨by omega, here⟩
  -- A part that is as long as the whole is the whole.
  exact (pair.eq_of_length same.length_eq.symm).symm

/-- Without the places, the tagged records are those of the events. -/
theorem map_snd_tagged (schedule : List Event) :
    (tagged plan m answers schedule).map Prod.snd =
      schedule.flatMap (Event.records plan m answers) := by
  rw [tagged, List.map_flatMap]
  simp [Function.comp_def]

/-- The tagged records of one place are those of the events about it. -/
theorem filter_tagged (schedule : List Event) (place : Nat) :
    ((tagged plan m answers schedule).filter fun w => w.1 = place).map Prod.snd =
      (schedule.filter fun e => e.place = place).flatMap (Event.records plan m answers) := by
  unfold tagged
  induction schedule with
  | nil => rfl
  | cons e schedule ih =>
    rw [List.flatMap_cons, List.filter_append, List.map_append, ih, List.filter_map, List.map_map]
    by_cases here : e.place = place
    · rw [List.filter_cons_of_pos (by simpa using here), List.flatMap_cons]
      congr 1
      simp [Function.comp_def, here]
    · rw [List.filter_cons_of_neg (by simpa using here)]
      simp [Function.comp_def, here]

/-- Under an allowed schedule, what is written for one request is what its exchange leaves. -/
theorem records_of_place {asked : Nat} {schedule : List Event}
    (h : allowed asked plan.length schedule) {place : Nat} {r : Request}
    (found : plan[place]? = some r) :
    ((tagged plan m answers schedule).filter fun w => w.1 = place).map Prod.snd =
      Exchange.records m ⟨r, answers r⟩ := by
  obtain ⟨inPlan, -⟩ := List.getElem?_eq_some_iff.1 found
  rw [filter_tagged, filter_place h inPlan]
  simp [Event.records, atPlace, exchange?_of_getElem? answers found, Exchange.records]

/-- The rows that an allowed schedule leaves are those of the plan, in its order. -/
theorem Tracked.rows_eq {asked : Nat} {schedule : List Event} {s : State}
    (h : allowed asked plan.length schedule) (tracked : Tracked plan m answers schedule s) :
    s.rows plan.length = plan.flatMap fun r => Exchange.rows m ⟨r, answers r⟩ := by
  have everyPlace : ∀ place ∈ List.range plan.length,
      (s.arrived.lookup place).getD [] = atPlace plan answers (Exchange.rows m) place := by
    intro place inPlan
    have settled : .settled place ∈ schedule :=
      h.1.mem_iff.2 ((mem_oneWorker _ _).2 (List.mem_range.1 inPlan))
    rw [tracked.arrived, if_pos settled]
    rfl
  rw [State.rows, List.flatMap_congr everyPlace, flatMap_range_atPlace]

end Parallel

/-- Parallel dispatch. For a client whose answers to the planned requests do not depend on when it is
asked, and under every schedule that the workers asked for can follow, a parallel dispatch gives the
rows that draining a cursor over the same plan gives, in the same order; it sends the same requests,
each planned one once; and it writes the same records, but for the opening. Its records are, in their
order, those of the events of the schedule, and what is written for the request at a place is what the
exchange of that request with its own answer leaves: the announcement, and after it, if the request
failed, one warning that tells its error and its parameter. -/
theorem parallel_refines_lazy (client : Client) (t : Target)
    (timeout before sent asked : Nat) (bundle : Bundle) (schedule : List Parallel.Event)
    (steady : ∀ r ∈ t.plan timeout bundle, ∀ i j, client i r = client j r)
    (follows : Parallel.allowed asked (t.plan timeout bundle).length schedule) :
    let plan := t.plan timeout bundle
    let opened := Cursor.start t timeout before bundle
    let drained := opened.1.drain client
    let result := Parallel.run client t.method sent plan schedule
    let written := Parallel.tagged plan t.method (client sent) schedule
    result.1 = drained.1 ∧
    result.2.requests.Perm drained.2.requests ∧ drained.2.requests = plan.map Request.url ∧
    (opened.2 ++ drained.2).records.Perm (Cursor.opening t.method plan :: result.2.records) ∧
    written.map Prod.snd = result.2.records ∧
    ∀ place r, plan[place]? = some r →
      let own := (written.filter fun w => w.1 = place).map Prod.snd
      own = Exchange.records t.method ⟨r, client sent r⟩ ∧
      ((client sent r).Failed → ∃ e, (client sent r).rows t.method = .error e ∧
        own = [r.announcement, .warning (e.message r.parameter)]) ∧
      (¬ (client sent r).Failed → own = [r.announcement]) := by
  intro plan opened drained result written
  have fixed : ∀ r ∈ plan, ∀ i, client i r = client sent r :=
    fun r hr i => steady r hr i sent
  have ordered : Parallel.Ordered plan.length (schedule ++ []) := by
    rw [List.append_nil]
    exact Parallel.ordered_of_allowed follows
  have tracked : Parallel.Tracked plan t.method (client sent) schedule _ :=
    Parallel.tracked_foldl client fixed sent ordered
  have requests : result.2.requests = _ := tracked.requests
  have records : result.2.records = _ := tracked.records
  have lazy : drained = _ := Parallel.drain_of_steady client fixed before
  rw [lazy]
  -- An allowed schedule rearranges that of one worker, which goes through the plan as a cursor does.
  refine ⟨tracked.rows_eq follows, ?_, rfl, ?_, ?_, ?_⟩
  · show result.2.requests.Perm (plan.map Request.url)
    rw [requests, ← Parallel.requests_oneWorker]
    exact follows.1.flatMap_right _
  · show (Cursor.opening t.method plan :: _).Perm _
    apply List.Perm.cons
    rw [records, ← Parallel.records_oneWorker]
    exact (follows.1.flatMap_right _).symm
  · rw [records]
    exact Parallel.map_snd_tagged schedule
  · intro place r found own
    have part : own = Exchange.records t.method ⟨r, client sent r⟩ :=
      Parallel.records_of_place follows found
    refine ⟨part, fun failed => ?_, fun succeeded => ?_⟩
    · obtain ⟨e, error⟩ := (client sent r).rows_of_failed t.method failed
      exact ⟨e, error, part.trans (Exchange.records_of_error error)⟩
    · exact part.trans (Exchange.records_of_not_failed t.method succeeded)

/-- Two workers, the second of whom is done before the first, and one address that is planned
twice. -/
theorem parallel_refines_lazy_of_two_workers :
    let client := CannedAnswer.client [⟨"q=Oslo", .response 200 "\x7b\x7d"⟩, ⟨"q=Rome", .timedOut⟩]
    let t : Target := ⟨"https://host/", .currentWeather, "key"⟩
    let bundle : Bundle :=
      .list [.single (some "q=Rome"), .single (some "q=Oslo"), .single (some "q=Rome")]
    let schedule : List Parallel.Event :=
      [.sent 0, .sent 1, .settled 1, .sent 2, .settled 2, .settled 0]
    let result := Parallel.run client t.method 0 (t.plan 5000 bundle) schedule
    Parallel.allowed 2 (t.plan 5000 bundle).length schedule ∧
      result.1 = ((Cursor.start t 5000 0 bundle).1.drain client).1 ∧ result.1.length = 1 ∧
      result.2.requests.Perm ((t.plan 5000 bundle).map Request.url) := by
  intro client t bundle schedule result
  have follows : Parallel.allowed 2 (t.plan 5000 bundle).length schedule := by
    show Parallel.allowed 2 3 schedule
    decide +kernel
  obtain ⟨rows, requests, drained, -⟩ :=
    parallel_refines_lazy client t 5000 0 0 2 bundle schedule (fun _ _ _ _ => rfl) follows
  rw [drained] at requests
  exact ⟨follows, rows, by decide +kernel, requests⟩

end WeatherTables
