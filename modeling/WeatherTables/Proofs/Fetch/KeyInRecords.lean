import WeatherTables.Proofs.Fetch.LazyDispatch
import Mathlib.Data.List.Forall2

/-!
# What the records of a dispatch tell about the key

Two dispatches of one bundle under two keys are compared, whose requests are answered alike: what is
received is the same, what comes too late does so in both, and what cannot be sent fails in both, but
perhaps for reasons that are told differently. A request is announced by its parameter, not by its
address, so that only these reasons can carry the key into the records. `Exchange.Twin` relates the
exchanges of the two dispatches, and `Exchange.records_eq_iff_of_twins` says that their records are the
same exactly if the reasons are.
-/

set_option autoImplicit false

namespace WeatherTables

namespace Answer

/-- The same was received, or nothing in both cases for one kind of cause. -/
inductive Alike : Answer → Answer → Prop where
  | response (status : Nat) (body : String) : Alike (.response status body) (.response status body)
  | timedOut : Alike .timedOut .timedOut
  | failed (reason other : String) : Alike (.failed reason) (.failed other)

/-- Answers that are alike bring the same rows. -/
theorem Alike.yield_eq (m : Method) {a b : Answer} (h : a.Alike b) : a.yield m = b.yield m := by
  cases h <;> rfl

/-- Answers that are alike are the same unless they are failures. -/
theorem Alike.eq_of_received {a b : Answer} (h : a.Alike b) (received : ∀ reason, a ≠ .failed reason) :
    a = b := by
  cases h with
  | response | timedOut => rfl
  | failed reason => exact absurd rfl (received reason)

end Answer

/-- Where lists correspond in length, they are equal one after the other just when each is equal to
its counterpart. -/
theorem flatMap_eq_flatMap_iff {α β γ : Type} {R : α → β → Prop} {f : α → List γ} {g : β → List γ}
    (lengths : ∀ a b, R a b → (f a).length = (g b).length) {xs : List α} {ys : List β}
    (h : List.Forall₂ R xs ys) :
    xs.flatMap f = ys.flatMap g ↔ List.Forall₂ (fun a b => f a = g b) xs ys := by
  induction h with
  | nil => exact iff_of_true rfl .nil
  | @cons a b xs ys same _ ih =>
    rw [List.flatMap_cons, List.flatMap_cons, List.forall₂_cons, ← ih]
    constructor
    · intro e
      exact List.append_inj e (lengths a b same)
    · rintro ⟨first, rest⟩
      rw [first, rest]

namespace Exchange

/-- Two exchanges about one parameter whose answers are alike. -/
structure Twin (x y : Exchange) : Prop where
  parameter : x.request.parameter = y.request.parameter
  answer : x.answer.Alike y.answer

variable {m : Method} {x y : Exchange} {xs ys : List Exchange}

/-- Twins bring the same rows. -/
theorem Twin.rows_eq (h : Twin x y) : x.rows m = y.rows m :=
  h.answer.yield_eq m

/-- Twins with the same answer leave the same records. -/
theorem Twin.records_eq_of_answer_eq (h : Twin x y) (same : x.answer = y.answer) :
    x.records m = y.records m := by
  obtain ⟨⟨p, url, timeout⟩, a⟩ := x
  obtain ⟨⟨q, url', timeout'⟩, b⟩ := y
  obtain ⟨rfl, -⟩ := h
  cases same
  rfl

/-- A failure costs one warning in both. -/
theorem Twin.length_records (h : Twin x y) : (x.records m).length = (y.records m).length := by
  obtain ⟨r, a⟩ := x
  obtain ⟨q, b⟩ := y
  cases h.answer with
  | response | timedOut => exact congrArg List.length (h.records_eq_of_answer_eq rfl)
  | failed => rfl

/-- The records are the same only if the answers are: a reason can be read in its warning. -/
theorem Twin.records_eq_iff (h : Twin x y) : x.records m = y.records m ↔ x.answer = y.answer := by
  refine ⟨?_, h.records_eq_of_answer_eq⟩
  obtain ⟨⟨p, url, timeout⟩, a⟩ := x
  obtain ⟨⟨q, url', timeout'⟩, b⟩ := y
  obtain ⟨rfl, alike⟩ := h
  cases alike with
  | response | timedOut => exact fun _ => rfl
  | failed reason other =>
    intro e
    have warnings : [Record.warning ((RequestError.failed reason).message p)] =
        [Record.warning ((RequestError.failed other).message p)] := (List.cons.inj e).2
    have messages := congrArg Record.message (List.cons.inj warnings).1
    exact congrArg Answer.failed ((String.append_right_inj _).1 messages)

/-- The exchanges of the first requests sent have the addresses of these. -/
theorem requests_history_take (client : Client) (sent j : Nat) (waiting : List Request) :
    (history m ((ofRequests client sent waiting).take j)).requests =
      (waiting.take j).map Request.url := by
  have requests := congrArg (List.take j) (map_request_ofRequests client sent waiting)
  rw [← List.map_take] at requests
  rw [← requests, List.map_map]
  rfl

/-- Twins bring the same rows in a row of exchanges too. -/
theorem rows_eq_of_twins (h : List.Forall₂ Twin xs ys) :
    xs.flatMap (rows m) = ys.flatMap (rows m) := by
  induction h with
  | nil => rfl
  | cons same _ ih => rw [List.flatMap_cons, List.flatMap_cons, same.rows_eq, ih]

/-- The records of twins are the same exactly if the answers are. -/
theorem records_eq_iff_of_twins (h : List.Forall₂ Twin xs ys) :
    xs.flatMap (records m) = ys.flatMap (records m) ↔ xs.map answer = ys.map answer := by
  calc
    _ ↔ List.Forall₂ (fun x y => x.records m = y.records m) xs ys :=
      flatMap_eq_flatMap_iff (fun _ _ same => same.length_records) h
    _ ↔ List.Forall₂ (fun x y => x.answer = y.answer) xs ys :=
      ⟨h.mp fun _ _ same => same.records_eq_iff.1, h.mp fun _ _ same => same.records_eq_iff.2⟩
    _ ↔ xs.map answer = ys.map answer := by
      rw [← List.forall₂_eq_eq_eq, List.forall₂_map_left_iff, List.forall₂_map_right_iff]

end Exchange

namespace Cursor

variable {client other : Client} {c d : Cursor}

/-- Cursors whose requests are answered alike come upon the same rows. -/
theorem rowsUpTo_eq_of_twins (method : c.method = d.method) (ready : c.ready = d.ready)
    (twins : List.Forall₂ Exchange.Twin (Exchange.ofRequests client c.sent c.waiting)
      (Exchange.ofRequests other d.sent d.waiting)) (i : Nat) :
    c.rowsUpTo client i = d.rowsUpTo other i := by
  rw [rowsUpTo, rowsUpTo, method, ready, Exchange.rows_eq_of_twins (List.forall₂_take i twins)]

/-- Cursors with the same rows ready, whose requests are answered alike, send equally many of them and
give the same rows. -/
theorem nexts_of_twins (method : c.method = d.method) (ready : c.ready = d.ready)
    (twins : List.Forall₂ Exchange.Twin (Exchange.ofRequests client c.sent c.waiting)
      (Exchange.ofRequests other d.sent d.waiting)) (n : Nat) :
    (c.nexts client n).1 = (d.nexts other n).1 ∧
    ∃ j ≤ c.waiting.length,
      (c.nexts client n).2.2 =
        Exchange.history c.method ((Exchange.ofRequests client c.sent c.waiting).take j) ∧
      (d.nexts other n).2.2 =
        Exchange.history d.method ((Exchange.ofRequests other d.sent d.waiting).take j) := by
  have rows := rowsUpTo_eq_of_twins method ready twins
  have length : c.waiting.length = d.waiting.length := by
    have counts := twins.length_eq
    rwa [← List.length_map Exchange.request, Exchange.map_request_ofRequests,
      ← List.length_map Exchange.request, Exchange.map_request_ofRequests] at counts
  obtain ⟨j, j_le, enough, least, results, history⟩ := frugal client c n
  obtain ⟨k, k_le, enough', least', results', history'⟩ := frugal other d n
  have same : j = k := by
    rcases Nat.lt_trichotomy j k with fewer | rfl | more
    · have missing := least' j fewer
      rw [← rows] at missing
      omega
    · rfl
    · have missing := least k more
      rw [rows] at missing
      omega
  subst same
  refine ⟨?_, j, j_le, history, history'⟩
  rw [results, results', rows, length]

end Cursor

/-! ## Two keys -/

/-- The exchanges of a bundle under one key and those under another are twins if the answers are
alike. -/
theorem Exchange.twins_of_plan {client other : Client} {t u : Target} {timeout : Nat}
    {calls : List String} {sent : Nat}
    (alike : List.Forall₂ Answer.Alike
      ((ofRequests client sent (calls.map fun p => ⟨p, t.url p, timeout⟩)).map answer)
      ((ofRequests other sent (calls.map fun p => ⟨p, u.url p, timeout⟩)).map answer)) :
    List.Forall₂ Twin (ofRequests client sent (calls.map fun p => ⟨p, t.url p, timeout⟩))
      (ofRequests other sent (calls.map fun p => ⟨p, u.url p, timeout⟩)) := by
  induction calls generalizing sent with
  | nil => exact .nil
  | cons p calls ih =>
    obtain ⟨first, rest⟩ := List.forall₂_cons.1 alike
    exact .cons ⟨rfl, first⟩ (ih rest)

/-- Answers that are alike are the same where none is a failure. -/
theorem Answer.eq_of_received {as bs : List Answer} (h : List.Forall₂ Alike as bs)
    (received : ∀ a ∈ as, ∀ reason, a ≠ .failed reason) : as = bs := by
  induction h with
  | nil => rfl
  | cons alike _ ih =>
    obtain ⟨first, rest⟩ := List.forall_mem_cons.1 received
    rw [alike.eq_of_received first, ih rest]

/-- Lazy dispatch under two keys, answered alike. The same rows are given and equally many requests
sent. The records are the same as long as no request sent has failed for want of an answer, and
otherwise exactly if the reasons of these failures are told in the same words under both keys. -/
theorem dispatch_tells_only_reasons (client other : Client) (t : Target) (key : String)
    (timeout sent n : Nat) (bundle : Bundle)
    (alike : List.Forall₂ Answer.Alike
      ((Exchange.ofRequests client sent (t.plan timeout bundle)).map Exchange.answer)
      ((Exchange.ofRequests other sent ({ t with key := key }.plan timeout bundle)).map
        Exchange.answer)) :
    let u := { t with key := key }
    let opened := Cursor.start t timeout sent bundle
    let reopened := Cursor.start u timeout sent bundle
    let asked := opened.1.nexts client n
    let again := reopened.1.nexts other n
    let answers := (Exchange.ofRequests client sent (t.plan timeout bundle)).map Exchange.answer
    let others := (Exchange.ofRequests other sent (u.plan timeout bundle)).map Exchange.answer
    let sameRecords := (opened.2 ++ asked.2.2).records = (reopened.2 ++ again.2.2).records
    asked.1 = again.1 ∧
    ∃ j ≤ bundle.calls.length,
      asked.2.2.requests = ((t.plan timeout bundle).take j).map Request.url ∧
      again.2.2.requests = ((u.plan timeout bundle).take j).map Request.url ∧
      ((∀ a ∈ answers.take j, ∀ reason, a ≠ .failed reason) → sameRecords) ∧
      (sameRecords ↔ answers.take j = others.take j) := by
  intro u opened reopened asked again answers others sameRecords
  have twins := Exchange.twins_of_plan alike
  -- The opening tells how many requests are planned, and that does not depend on the key.
  have openings : opened.2.records = reopened.2.records := by
    show [Cursor.opening t.method _] = [Cursor.opening t.method _]
    rw [Cursor.opening, Cursor.opening, Target.plan, Target.plan, List.length_map, List.length_map]
  obtain ⟨rows, j, j_le, history, history'⟩ :=
    Cursor.nexts_of_twins (c := opened.1) (d := reopened.1) rfl rfl twins n
  have compared : sameRecords ↔ answers.take j = others.take j := by
    show opened.2.records ++ _ = reopened.2.records ++ _ ↔ _
    rw [openings, List.append_cancel_left_eq, history, history', ← List.map_take, ← List.map_take]
    exact Exchange.records_eq_iff_of_twins (List.forall₂_take j twins)
  refine ⟨rows, j, ?_, ?_, ?_, ?_, compared⟩
  · rwa [← List.length_map fun p : String => (⟨p, t.url p, timeout⟩ : Request)]
  · rw [history, Exchange.requests_history_take]
    rfl
  · rw [history', Exchange.requests_history_take]
    rfl
  · intro received
    exact compared.2 (Answer.eq_of_received (List.forall₂_take j alike) received)

/-- One request is answered too late and one is refused under either key: no failure has a reason. -/
theorem dispatch_tells_only_reasons_of_refusal :
    let client : Client := fun sent _ => if sent = 0 then .timedOut else .response 401 "no"
    let t : Target := ⟨"https://host/", .currentWeather, "key"⟩
    let bundle : Bundle := .list [.single (some "q=Rome"), .single (some "q=Oslo")]
    let asked := fun u : Target => (Cursor.start u 5000 0 bundle).1.nexts client 1
    List.Forall₂ Answer.Alike
        ((Exchange.ofRequests client 0 (t.plan 5000 bundle)).map Exchange.answer)
        ((Exchange.ofRequests client 0 ({ t with key := "other" }.plan 5000 bundle)).map
          Exchange.answer) ∧
      (asked t).2.2.requests ≠ (asked { t with key := "other" }).2.2.requests ∧
      (asked t).2.2.records = (asked { t with key := "other" }).2.2.records := by
  intro client t bundle asked
  have alike : List.Forall₂ Answer.Alike
      ((Exchange.ofRequests client 0 (t.plan 5000 bundle)).map Exchange.answer)
      ((Exchange.ofRequests client 0 ({ t with key := "other" }.plan 5000 bundle)).map
        Exchange.answer) := by
    have answers : ∀ u : Target, (Exchange.ofRequests client 0 (u.plan 5000 bundle)).map
        Exchange.answer = [.timedOut, .response 401 "no"] := by
      intro u
      rfl
    rw [answers, answers]
    exact .cons .timedOut (.cons (.response 401 "no") .nil)
  obtain ⟨-, j, -, -, -, received, -⟩ :=
    dispatch_tells_only_reasons client client t "other" 5000 0 1 bundle alike
  refine ⟨alike, by decide +kernel, List.append_cancel_left (received ?_)⟩
  intro a ha
  have among : a ∈ [Answer.timedOut, .response 401 "no"] := List.mem_of_mem_take ha
  simp only [List.mem_cons, List.not_mem_nil, or_false] at among
  rcases among with rfl | rfl
  · exact nofun
  · exact nofun

/-- A client that names the address in the reason of a failure puts the key into the records. -/
theorem reason_tells_key :
    let client : Client := fun _ r => .failed (r.url ++ ": Dns Failed")
    let t : Target := ⟨"https://host/", .currentWeather, "secret"⟩
    let bundle : Bundle := .scalar "q=Rome"
    let records := fun u : Target => ((Cursor.start u 5000 0 bundle).1.drain client).2.records
    List.Forall₂ Answer.Alike
        ((Exchange.ofRequests client 0 (t.plan 5000 bundle)).map Exchange.answer)
        ((Exchange.ofRequests client 0 ({ t with key := "other" }.plan 5000 bundle)).map
          Exchange.answer) ∧
      records t ≠ records { t with key := "other" } ∧
      records t = [.info "Requesting API with: q=Rome",
        .warning ("API request with parameter <q=Rome> failed: " ++
          "https://host/weather?q=Rome&units=metric&appid=secret: Dns Failed")] := by
  intro client t bundle records
  refine ⟨.cons (.failed _ _) .nil, by decide +kernel, by decide +kernel⟩

end WeatherTables
