import Mathlib.Data.List.Basic

/-!
# Formulas and how they are read

A formula joins atoms by two connectives. Written down it is a sequence of tokens, and `Derives` is the
usual grammar of such sequences: a conjunction binds more tightly than a disjunction, either may be
chained, and brackets group. `read?` reads a sequence from left to right with a stack of the brackets that
are open. It reads exactly what the grammar derives (`read?_eq_some_iff`), so no sequence is two formulas.
-/

set_option autoImplicit false

namespace WeatherTables

/-- A connective of two truth values. -/
inductive Connective where
  | and
  | or
  deriving DecidableEq, Repr

namespace Connective

/-- The connective as it is written. -/
def text : Connective → String
  | .and => " AND "
  | .or => " OR "

/-- How tightly the connective binds. -/
def tightness : Connective → Nat
  | .or => 1
  | .and => 2

/-- An atom binds more tightly than any connective. -/
theorem tightness_lt (c : Connective) : c.tightness < 3 := by
  cases c <;> decide

/-- The truth value of two that are connected. -/
def apply : Connective → Bool → Bool → Bool
  | .and => (· && ·)
  | .or => (· || ·)

/-- The truth value of any number that are connected. -/
def fold : Connective → List Bool → Bool
  | .and, values => values.all id
  | .or, values => values.any id

/-- Any number of truth values are connected from the first one on. -/
theorem fold_cons (c : Connective) (b : Bool) (bs : List Bool) :
    c.fold (b :: bs) = c.apply b (c.fold bs) := by
  cases c <;> rfl

/-- Connected to no others, a truth value stays as it is. -/
theorem apply_fold_nil (c : Connective) (b : Bool) : c.apply b (c.fold []) = b := by
  cases c <;> cases b <;> rfl

/-- It does not matter which of three truth values are connected first. -/
theorem apply_assoc (c : Connective) (a b d : Bool) :
    c.apply (c.apply a b) d = c.apply a (c.apply b d) := by
  cases c
  · exact Bool.and_assoc a b d
  · exact Bool.or_assoc a b d

end Connective

/-- A formula over atoms. -/
inductive Formula (α : Type) where
  | atom (a : α)
  | join (c : Connective) (left right : Formula α)
  deriving Repr

/-- The truth values from the given place on. -/
def valuesFrom (start : Nat) (values : Nat → Bool) : Nat → Bool :=
  fun place => values (start + place)

/-- Leaving out some truth values and then some more is leaving out all of them. -/
theorem valuesFrom_valuesFrom (m n : Nat) (values : Nat → Bool) :
    valuesFrom n (valuesFrom m values) = valuesFrom (m + n) values := by
  funext place
  exact congrArg values (Nat.add_assoc m n place).symm

namespace Formula

variable {α : Type}

/-- The atoms in order. One that occurs twice is there twice. -/
def atoms : Formula α → List α
  | .atom a => [a]
  | .join _ left right => left.atoms ++ right.atoms

/-- The truth value of the formula if its atoms have the given ones, by their places. -/
def holds : Formula α → (Nat → Bool) → Bool
  | .atom _, values => values 0
  | .join c left right, values =>
    c.apply (left.holds values) (right.holds (valuesFrom left.atoms.length values))

/-! ## The grammar -/

/-- A token of a formula that is written down. -/
inductive Token (α : Type) where
  | atom (a : α)
  | connective (c : Connective)
  | opening
  | closing
  deriving Repr

/-- The tokens are the formula, where what stands there has to bind at least so tightly. -/
inductive Derives : Nat → List (Token α) → Formula α → Prop where
  | atom (a : α) : Derives 3 [.atom a] (.atom a)
  | group {ts : List (Token α)} {φ : Formula α} (inner : Derives 1 ts φ) :
    Derives 3 (.opening :: (ts ++ [.closing])) φ
  | join (c : Connective) {ts us : List (Token α)} {φ ψ : Formula α}
    (left : Derives c.tightness ts φ) (right : Derives (c.tightness + 1) us ψ) :
    Derives c.tightness (ts ++ .connective c :: us) (.join c φ ψ)
  | looser {least : Nat} {ts : List (Token α)} {φ : Formula α} (tighter : Derives (least + 1) ts φ) :
    Derives least ts φ

/-- What binds tightly enough for one place does so for every looser one. -/
theorem Derives.mono {least most : Nat} {ts : List (Token α)} {φ : Formula α} (h : least ≤ most)
    (derives : Derives most ts φ) : Derives least ts φ := by
  induction h with
  | refl => exact derives
  | step _ ih => exact ih derives.looser

/-! ## The reader -/

/-- What stands before an operand inside its brackets: a disjunction up to the last `OR`, if there is one,
and after it a conjunction up to the last `AND`, if there is one. -/
structure Pending (α : Type) where
  disjuncts : Option (Formula α)
  conjuncts : Option (Formula α)

/-- The formula joined to what stands before it, if anything does. -/
def joinTo (c : Connective) : Option (Formula α) → Formula α → Formula α
  | none, φ => φ
  | some before, φ => .join c before φ

/-- How far the tokens were read, and what stands before each of the brackets that are open, the innermost
first. -/
inductive Stage (α : Type) where
  | operand (before : Pending α) (outer : List (Pending α))
  | after (disjuncts : Option (Formula α)) (conjunction : Formula α) (outer : List (Pending α))

/-- The stage after an operand was read. -/
def Pending.take (before : Pending α) (φ : Formula α) (outer : List (Pending α)) : Stage α :=
  .after before.disjuncts (joinTo .and before.conjuncts φ) outer

/-- The start of a formula. -/
def Stage.start (outer : List (Pending α)) : Stage α :=
  .operand ⟨none, none⟩ outer

/-- Reads one token. -/
def step : Stage α → Token α → Option (Stage α)
  | .operand before outer, .atom a => some (before.take (.atom a) outer)
  | .operand before outer, .opening => some (.start (before :: outer))
  | .after disjuncts φ outer, .connective .and => some (.operand ⟨disjuncts, some φ⟩ outer)
  | .after disjuncts φ outer, .connective .or =>
    some (.operand ⟨some (joinTo .or disjuncts φ), none⟩ outer)
  | .after disjuncts φ (before :: outer), .closing =>
    some (before.take (joinTo .or disjuncts φ) outer)
  | _, _ => none

/-- Reads tokens in order. -/
def run (stage : Stage α) (ts : List (Token α)) : Option (Stage α) :=
  ts.foldlM step stage

/-- The formula that was read, if the tokens may end here. -/
def Stage.formula? : Stage α → Option (Formula α)
  | .after disjuncts φ [] => some (joinTo .or disjuncts φ)
  | _ => none

/-- The formula that the tokens are. -/
def read? (ts : List (Token α)) : Option (Formula α) :=
  (run (.start []) ts).bind Stage.formula?

/-- Reading tokens is reading the first and then the others. -/
theorem run_cons (stage : Stage α) (t : Token α) (ts : List (Token α)) :
    run stage (t :: ts) = (step stage t).bind fun next => run next ts :=
  rfl

/-- Tokens that follow are read from the stage that the first ones lead to. -/
theorem run_append {stage next : Stage α} {ts : List (Token α)} (h : run stage ts = some next)
    (us : List (Token α)) : run stage (ts ++ us) = run next us := by
  unfold run at h ⊢
  rw [List.foldlM_append, h]
  rfl

/-! ## What the grammar derives is read -/

/-- Reading the tokens of a formula that binds so tightly takes it up in the place where it stands. -/
def TakenUp : Nat → List (Token α) → Formula α → Prop
  | 0, ts, φ | 1, ts, φ => ∀ outer, ∃ disjuncts conjunction,
    run (.start outer) ts = some (.after disjuncts conjunction outer) ∧
      joinTo .or disjuncts conjunction = φ
  | 2, ts, φ => ∀ disjuncts outer,
    run (.operand ⟨disjuncts, none⟩ outer) ts = some (.after disjuncts φ outer)
  | _ + 3, ts, φ => ∀ before outer, run (.operand before outer) ts = some (before.take φ outer)

/-- What is taken up where it has to bind tightly is taken up where it need not. -/
theorem TakenUp.looser {least : Nat} {ts : List (Token α)} {φ : Formula α}
    (h : TakenUp (least + 1) ts φ) : TakenUp least ts φ := by
  match least with
  | 0 => exact h
  | 1 => exact fun outer => ⟨none, φ, h none outer, rfl⟩
  | 2 => exact fun disjuncts outer => h ⟨disjuncts, none⟩ outer
  | _ + 3 => exact h

/-- A formula in brackets is taken up in any place. -/
theorem TakenUp.group {ts : List (Token α)} {φ : Formula α} (h : TakenUp 1 ts φ) :
    TakenUp 3 (.opening :: (ts ++ [.closing])) φ := by
  intro before outer
  obtain ⟨disjuncts, conjunction, inner, rfl⟩ := h (before :: outer)
  exact run_append inner [.closing]

/-- Two formulas with a connective between them are taken up as one. -/
theorem TakenUp.join {c : Connective} {ts us : List (Token α)} {φ ψ : Formula α}
    (left : TakenUp c.tightness ts φ) (right : TakenUp (c.tightness + 1) us ψ) :
    TakenUp c.tightness (ts ++ .connective c :: us) (.join c φ ψ) := by
  cases c with
  | and =>
    intro disjuncts outer
    calc run (.operand ⟨disjuncts, none⟩ outer) (ts ++ .connective .and :: us)
      _ = run (.operand ⟨disjuncts, some φ⟩ outer) us := run_append (left disjuncts outer) _
      _ = some (.after disjuncts (.join .and φ ψ) outer) := right ⟨disjuncts, some φ⟩ outer
  | or =>
    intro outer
    obtain ⟨disjuncts, conjunction, read, rfl⟩ := left outer
    refine ⟨some (joinTo .or disjuncts conjunction), ψ, ?_, rfl⟩
    exact (run_append read _).trans (right _ outer)

/-- What the grammar derives is taken up. -/
theorem takenUp_of_derives {least : Nat} {ts : List (Token α)} {φ : Formula α}
    (h : Derives least ts φ) : TakenUp least ts φ := by
  induction h with
  | atom a => exact fun before outer => rfl
  | group _ ih => exact ih.group
  | join c _ _ left right => exact left.join right
  | looser _ ih => exact ih.looser

/-! ## What is read the grammar derives -/

/-- The tokens are the formula and the connective behind it, or nothing if there is none. -/
def Leads (c : Connective) (before : Option (Formula α)) (ts : List (Token α)) : Prop :=
  match before with
  | none => ts = []
  | some φ => ∃ us, Derives c.tightness us φ ∧ ts = us ++ [.connective c]

/-- The tokens are what stands before an operand inside its brackets. -/
def Pending.Leads (before : Pending α) (ts : List (Token α)) : Prop :=
  ∃ us vs, Formula.Leads .or before.disjuncts us ∧ Formula.Leads .and before.conjuncts vs ∧
    ts = us ++ vs

/-- The tokens are what stands before the operand of the innermost open bracket. -/
def Opened : List (Pending α) → List (Token α) → Prop
  | [], ts => ts = []
  | before :: outer, ts =>
    ∃ us vs, Opened outer us ∧ before.Leads vs ∧ ts = us ++ vs ++ [.opening]

/-- The tokens lead to the stage. -/
def Stage.ReachedBy : Stage α → List (Token α) → Prop
  | .operand before outer, ts => ∃ us vs, Opened outer us ∧ before.Leads vs ∧ ts = us ++ vs
  | .after disjuncts φ outer, ts => ∃ us vs ws, Opened outer us ∧ Leads .or disjuncts vs ∧
    Derives 2 ws φ ∧ ts = us ++ vs ++ ws

/-- An operand is derived together with the formula that stands before it, if any does. -/
theorem derives_joinTo {c : Connective} {before : Option (Formula α)} {ts us : List (Token α)}
    {φ : Formula α} (leads : Leads c before ts) (h : Derives (c.tightness + 1) us φ) :
    Derives c.tightness (ts ++ us) (joinTo c before φ) := by
  cases before with
  | none =>
    obtain rfl : ts = [] := leads
    exact h.looser
  | some before =>
    obtain ⟨vs, first, rfl⟩ := leads
    rw [List.append_assoc]
    exact .join c first h

/-- Where nothing was read, nothing stands before an operand. -/
theorem Pending.Leads.none_none : (⟨none, none⟩ : Pending α).Leads [] :=
  ⟨[], [], rfl, rfl, rfl⟩

/-- An operand that is read goes to what stands before it. -/
theorem reachedBy_take {before : Pending α} {outer : List (Pending α)} {ts us : List (Token α)}
    {φ : Formula α} (reached : (Stage.operand before outer).ReachedBy ts) (h : Derives 3 us φ) :
    (before.take φ outer).ReachedBy (ts ++ us) := by
  obtain ⟨opened, _, below, ⟨disjuncts, conjuncts, some_or, some_and, rfl⟩, rfl⟩ := reached
  refine ⟨opened, disjuncts, conjuncts ++ us, below, some_or, derives_joinTo some_and h, ?_⟩
  simp only [List.append_assoc]

/-- A token that is read leads on from the tokens before it. -/
theorem reachedBy_step {stage next : Stage α} {ts : List (Token α)} {t : Token α}
    (reached : stage.ReachedBy ts) (h : step stage t = some next) : next.ReachedBy (ts ++ [t]) := by
  unfold step at h
  -- The cases in the order of `step`: an atom, an opening bracket, `AND`, `OR` and a closing bracket.
  split at h
  case h_1 before outer a =>
    cases h
    exact reachedBy_take reached (.atom a)
  case h_2 before outer =>
    cases h
    obtain ⟨us, vs, below, leads, rfl⟩ := reached
    exact ⟨_, [], ⟨us, vs, below, leads, rfl⟩, .none_none, (List.append_nil _).symm⟩
  case h_3 disjuncts φ outer =>
    cases h
    obtain ⟨us, vs, ws, below, leads, conjunction, rfl⟩ := reached
    refine ⟨us, vs ++ (ws ++ [.connective .and]), below, ?_, by simp only [List.append_assoc]⟩
    exact ⟨vs, _, leads, ⟨ws, conjunction, rfl⟩, rfl⟩
  case h_4 disjuncts φ outer =>
    cases h
    obtain ⟨us, vs, ws, below, leads, conjunction, rfl⟩ := reached
    refine ⟨us, vs ++ ws ++ [.connective .or], below, ?_, by simp only [List.append_assoc]⟩
    exact ⟨_, [], ⟨vs ++ ws, derives_joinTo leads conjunction, rfl⟩, rfl, (List.append_nil _).symm⟩
  case h_5 disjuncts φ before outer =>
    cases h
    obtain ⟨_, vs, ws, ⟨us, lead, below, leads, rfl⟩, disjunction, conjunction, rfl⟩ := reached
    have inner : Derives 1 (vs ++ ws) (joinTo .or disjuncts φ) := derives_joinTo disjunction conjunction
    have outside : (Stage.operand before outer).ReachedBy (us ++ lead) := ⟨us, lead, below, leads, rfl⟩
    simpa only [List.append_assoc, List.singleton_append, List.cons_append, List.nil_append] using
      reachedBy_take outside inner.group
  case h_6 => cases h

/-- Tokens that are read lead on from the tokens before them. -/
theorem reachedBy_run {stage next : Stage α} {ts us : List (Token α)} (reached : stage.ReachedBy ts)
    (h : run stage us = some next) : next.ReachedBy (ts ++ us) := by
  induction us generalizing stage ts with
  | nil =>
    obtain rfl : stage = next := Option.some.inj h
    rwa [List.append_nil]
  | cons t us ih =>
    rw [run_cons, Option.bind_eq_some_iff] at h
    obtain ⟨between, first, rest⟩ := h
    rw [List.append_cons]
    exact ih (reachedBy_step reached first) rest

/-- The reader reads what the grammar derives, and nothing else. -/
theorem read?_eq_some_iff {ts : List (Token α)} {φ : Formula α} :
    read? ts = some φ ↔ Derives 1 ts φ := by
  constructor
  · intro h
    obtain ⟨stage, reads, ends⟩ := Option.bind_eq_some_iff.1 h
    have start : (Stage.start []).ReachedBy ([] : List (Token α)) := ⟨[], [], rfl, .none_none, rfl⟩
    have reached := reachedBy_run start reads
    unfold Stage.formula? at ends
    split at ends
    case h_1 disjuncts conjunction =>
      cases ends
      obtain ⟨us, vs, ws, below, leads, last, same⟩ := reached
      obtain rfl : us = [] := below
      rw [List.nil_append] at same
      rw [same]
      exact derives_joinTo leads last
    case h_2 => cases ends
  · intro h
    obtain ⟨disjuncts, conjunction, reads, rfl⟩ := takenUp_of_derives h []
    exact Option.bind_eq_some_iff.2 ⟨_, reads, rfl⟩

example : read? [.atom 0, .connective .or, .atom 1, .connective .and, .atom 2] =
    some (.join .or (.atom 0) (.join .and (.atom 1) (.atom 2))) :=
  rfl

end Formula

end WeatherTables
