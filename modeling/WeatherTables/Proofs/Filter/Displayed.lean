import WeatherTables.Proofs.Filter.Formula
import WeatherTables.Proofs.Filter.PlannerForm

/-!
# A displayed filter means what the filter does

The text of a filter is made of the texts of its atoms, connectives and brackets. Which children stand in
brackets is decided by how tightly they bind. `displayed_filter_read_back` says that the brackets suffice:
read with the grammar of formulas, the tokens of a filter are one formula over the atoms of the filter in
their order, and it holds where the filter does, whichever of its atoms hold.
-/

set_option autoImplicit false

namespace WeatherTables

namespace Filter

open Formula (Token Derives)

/-- No connective in the filter is empty. -/
def NoEmptyConnective (f : Filter) : Prop :=
  ∀ g, Within g f → g ≠ .all [] ∧ g ≠ .any []

/-- Induction over a filter without an empty connective: each connective has a first child. -/
theorem induct_filled {motive : Filter → Prop} (f : Filter) (filled : NoEmptyConnective f)
    (all : ∀ f fs, (∀ g ∈ f :: fs, motive g) → motive (.all (f :: fs)))
    (any : ∀ f fs, (∀ g ∈ f :: fs, motive g) → motive (.any (f :: fs)))
    (inList : ∀ column values, motive (.inList column values))
    (equal : ∀ left right, motive (.equal left right))
    (other : ∀ kind, motive (.other kind)) : motive f := by
  induction f using induct with
  | all fs ih =>
    have children : ∀ f ∈ fs, motive f :=
      fun f mem => ih f mem fun g below => filled g (.all mem below)
    cases fs with
    | nil => exact absurd rfl (filled _ .self).1
    | cons f fs => exact all f fs children
  | any fs ih =>
    have children : ∀ f ∈ fs, motive f :=
      fun f mem => ih f mem fun g below => filled g (.any mem below)
    cases fs with
    | nil => exact absurd rfl (filled _ .self).2
    | cons f fs => exact any f fs children
  | inList column values => exact inList column values
  | equal left right => exact equal left right
  | other kind => exact other kind

/-! ## What a filter means -/

mutual

/-- The equalities, constant lists and predicates of other kinds of the filter, in order. -/
def atoms : Filter → List Filter
  | .all children => atomsOf children
  | .any children => atomsOf children
  | .inList column values => [.inList column values]
  | .equal left right => [.equal left right]
  | .other kind => [.other kind]

/-- The atoms of the filters of a list, in order. -/
def atomsOf : List Filter → List Filter
  | [] => []
  | f :: fs => atoms f ++ atomsOf fs

end

mutual

/-- Whether the filter holds if its atoms have the given truth values, by their places. -/
def holds : Filter → (Nat → Bool) → Bool
  | .all children, values => (truths children values).all id
  | .any children, values => (truths children values).any id
  | .inList _ _, values => values 0
  | .equal _ _, values => values 0
  | .other _, values => values 0

/-- Which filters of a list hold, where the atoms of the list have the given truth values. -/
def truths : List Filter → (Nat → Bool) → List Bool
  | [], _ => []
  | f :: fs, values => holds f values :: truths fs (valuesFrom f.atoms.length values)

end

/-- The atoms of a list of filters are those of its filters, one filter after the other. -/
theorem atomsOf_eq_flatMap (fs : List Filter) : atomsOf fs = fs.flatMap atoms := by
  induction fs with
  | nil => rfl
  | cons f fs ih => simp [atomsOf, ih]

/-- The atoms of a list are the parts of its filters that are no connectives, if this is so for each
filter. -/
theorem mem_atomsOf_iff {fs : List Filter} {g : Filter}
    (h : ∀ f ∈ fs, g ∈ f.atoms ↔ Within g f ∧ g.tightness = 3) :
    g ∈ atomsOf fs ↔ (∃ f ∈ fs, Within g f) ∧ g.tightness = 3 := by
  rw [atomsOf_eq_flatMap, List.mem_flatMap]
  constructor
  · rintro ⟨f, mem, isAtom⟩
    obtain ⟨below, tight⟩ := (h f mem).1 isAtom
    exact ⟨⟨f, mem, below⟩, tight⟩
  · rintro ⟨⟨f, mem, below⟩, tight⟩
    exact ⟨f, mem, (h f mem).2 ⟨below, tight⟩⟩

/-- The atoms are those parts of the filter that are no connectives. -/
theorem mem_atoms_iff {f g : Filter} : g ∈ f.atoms ↔ Within g f ∧ g.tightness = 3 := by
  induction f using induct with
  | all fs ih =>
    rw [atoms, mem_atomsOf_iff ih]
    refine and_congr_left fun tight => ⟨fun ⟨f, mem, below⟩ => .all mem below, fun below => ?_⟩
    cases below with
    | self => cases tight
    | all mem below => exact ⟨_, mem, below⟩
  | any fs ih =>
    rw [atoms, mem_atomsOf_iff ih]
    refine and_congr_left fun tight => ⟨fun ⟨f, mem, below⟩ => .any mem below, fun below => ?_⟩
    cases below with
    | self => cases tight
    | any mem below => exact ⟨_, mem, below⟩
  | inList | equal | other =>
    rw [atoms, List.mem_singleton]
    constructor
    · rintro rfl
      exact ⟨.self, rfl⟩
    · rintro ⟨below, -⟩
      cases below
      rfl

/-! ## The tokens of a filter -/

/-- The tokens of a child below a connective that asks it to bind at least so tightly. -/
def bracketedTokens (child : Filter) (least : Nat) (body : List (Token Filter)) :
    List (Token Filter) :=
  if child.tightness < least then .opening :: (body ++ [.closing]) else body

mutual

/-- The tokens of a filter. -/
def tokens : Filter → List (Token Filter)
  | .all [] => []
  | .all (f :: fs) => bracketedTokens f 3 (tokens f) ++ joinedTokens .and fs
  | .any [] => []
  | .any (f :: fs) => bracketedTokens f 2 (tokens f) ++ joinedTokens .or fs
  | .inList column values => [.atom (.inList column values)]
  | .equal left right => [.atom (.equal left right)]
  | .other kind => [.atom (.other kind)]

/-- The tokens of the filters after the first, each after the connective. -/
def joinedTokens (c : Connective) : List Filter → List (Token Filter)
  | [] => []
  | f :: fs => .connective c :: (bracketedTokens f (c.tightness + 1) (tokens f) ++ joinedTokens c fs)

end

/-- A token as it is displayed. An atom is displayed as a whole. -/
def tokenText : Token Filter → String
  | .atom g => g.text
  | .connective c => c.text
  | .opening => "("
  | .closing => ")"

/-- The texts of tokens one after another. -/
def written : List (Token Filter) → String
  | [] => ""
  | t :: ts => tokenText t ++ written ts

/-- Tokens put one after the other are written one after the other. -/
theorem written_append (ts us : List (Token Filter)) :
    written (ts ++ us) = written ts ++ written us := by
  induction ts with
  | nil => exact String.empty_append.symm
  | cons t ts ih => rw [List.cons_append, written, ih, written, String.append_assoc]

/-- A single token is written as it is displayed. -/
theorem written_singleton (t : Token Filter) : written [t] = tokenText t :=
  String.append_empty

/-- Brackets are written around a child just where its tokens have them. -/
theorem bracketed_written (child : Filter) (least : Nat) (ts : List (Token Filter)) :
    bracketed child least (written ts) = written (bracketedTokens child least ts) := by
  unfold bracketed bracketedTokens
  split
  · rw [written, written_append, written_singleton, String.append_assoc]
    rfl
  · rfl

/-- The filters after the first are written as their tokens, if each of them is. -/
theorem joinedText_eq_written (c : Connective) {fs : List Filter}
    (h : ∀ f ∈ fs, f.text = written f.tokens) :
    joinedText c.text (c.tightness + 1) fs = written (joinedTokens c fs) := by
  induction fs with
  | nil => rfl
  | cons f fs ih =>
    obtain ⟨first, others⟩ := List.forall_mem_cons.1 h
    rw [joinedText, joinedTokens, first, bracketed_written, ih others, written, written_append,
      tokenText, String.append_assoc]

/-- A filter without an empty connective is written as its tokens. -/
theorem text_eq_written {f : Filter} (filled : NoEmptyConnective f) : f.text = written f.tokens := by
  apply induct_filled f filled
  case all =>
    intro f fs ih
    obtain ⟨first, others⟩ := List.forall_mem_cons.1 ih
    rw [text, tokens, first, bracketed_written, written_append, ← joinedText_eq_written .and others]
    rfl
  case any =>
    intro f fs ih
    obtain ⟨first, others⟩ := List.forall_mem_cons.1 ih
    rw [text, tokens, first, bracketed_written, written_append, ← joinedText_eq_written .or others]
    rfl
  case inList => exact fun column values => (written_singleton (.atom (.inList column values))).symm
  case equal => exact fun left right => (written_singleton (.atom (.equal left right))).symm
  case other => exact fun kind => (written_singleton (.atom (.other kind))).symm

/-! ## Reading the tokens -/

/-- The tokens of the filter are a formula over its atoms that holds where the filter does. -/
def Displays (f : Filter) : Prop :=
  ∃ φ, Derives f.tightness f.tokens φ ∧ φ.atoms = f.atoms ∧
    ∀ values, φ.holds values = f.holds values

/-- Every filter binds at least as tightly as a disjunction. -/
theorem one_le_tightness (f : Filter) : 1 ≤ f.tightness := by
  cases f <;> simp [tightness]

/-- In brackets, if it needs them, a child binds as tightly as it has to. -/
theorem derives_bracketed {child : Filter} {least : Nat} {ts : List (Token Filter)}
    {φ : Formula Filter} (h : Derives child.tightness ts φ) (bound : least ≤ 3) :
    Derives least (bracketedTokens child least ts) φ := by
  unfold bracketedTokens
  split
  case isTrue => exact (Derives.group (h.mono (one_le_tightness child))).mono bound
  case isFalse tight => exact h.mono (Nat.le_of_not_lt tight)

/-- Filters that are joined to a formula make it one of the same connective. It holds as the formula and
the filters do together. -/
theorem exists_derives_joined (c : Connective) {fs : List Filter} (h : ∀ f ∈ fs, Displays f)
    {ts : List (Token Filter)} {φ : Formula Filter} (start : Derives c.tightness ts φ) :
    ∃ ψ, Derives c.tightness (ts ++ joinedTokens c fs) ψ ∧ ψ.atoms = φ.atoms ++ atomsOf fs ∧
      ∀ values, ψ.holds values =
        c.apply (φ.holds values) (c.fold (truths fs (valuesFrom φ.atoms.length values))) := by
  -- A chain groups to the left, so the formula grows with every filter while the list gets shorter.
  induction fs generalizing ts φ with
  | nil =>
    rw [joinedTokens, atomsOf, List.append_nil, List.append_nil]
    exact ⟨φ, start, rfl, fun values => (c.apply_fold_nil _).symm⟩
  | cons f fs ih =>
    obtain ⟨⟨χ, derives, sameAtoms, sameTruth⟩, others⟩ := List.forall_mem_cons.1 h
    obtain ⟨ψ, joined, atoms, truth⟩ := ih others (start.join c (derives_bracketed derives c.tightness_lt))
    refine ⟨ψ, ?_, ?_, ?_⟩
    · rwa [List.append_assoc] at joined
    · rw [atoms, Formula.atoms, sameAtoms, atomsOf, List.append_assoc]
    · intro values
      rw [truth, Formula.holds, Formula.atoms, List.length_append, sameTruth, sameAtoms, truths,
        Connective.fold_cons, valuesFrom_valuesFrom, Connective.apply_assoc]

/-- What holds of the children of a connective holds of the connective: the first of them is a formula,
and the others are joined to it. -/
theorem exists_derives_connective (c : Connective) {f : Filter} {fs : List Filter}
    (h : ∀ g ∈ f :: fs, Displays g) :
    ∃ φ, Derives c.tightness
        (bracketedTokens f (c.tightness + 1) f.tokens ++ joinedTokens c fs) φ ∧
      φ.atoms = atomsOf (f :: fs) ∧
      ∀ values, φ.holds values = c.fold (truths (f :: fs) values) := by
  obtain ⟨⟨χ, derives, sameAtoms, sameTruth⟩, others⟩ := List.forall_mem_cons.1 h
  obtain ⟨φ, joined, atoms, truth⟩ :=
    exists_derives_joined c others (derives_bracketed derives c.tightness_lt).looser
  refine ⟨φ, joined, ?_, ?_⟩
  · rw [atoms, sameAtoms, atomsOf]
  · intro values
    rw [truth, sameTruth, sameAtoms, truths, Connective.fold_cons]

/-- The tokens of a filter without an empty connective say what the filter says. -/
theorem displays {f : Filter} (filled : NoEmptyConnective f) : Displays f := by
  apply induct_filled f filled
  case all => exact fun f fs ih => exists_derives_connective .and ih
  case any => exact fun f fs ih => exists_derives_connective .or ih
  case inList => exact fun column values => ⟨_, .atom _, rfl, fun truth => rfl⟩
  case equal => exact fun left right => ⟨_, .atom _, rfl, fun truth => rfl⟩
  case other => exact fun kind => ⟨_, .atom _, rfl, fun truth => rfl⟩

/-- No filter that is read from a value has an empty connective. -/
theorem noEmptyConnective_of_ofJson {v : Json} {f : Filter} (h : Filter.ofJson v = .ok f) :
    NoEmptyConnective f := by
  intro g below
  obtain ⟨noAll, noAny, -⟩ := noneEmpty_of_ofJson h g below
  exact ⟨noAll, noAny⟩

/-- A displayed filter means what the filter does. If no connective in it is empty, as in every filter that
is read from a value, then its text is the texts of its tokens one after another. The tokens can be read,
and in one way only. They are a formula over the atoms of the filter, each in its place, and whichever of
the atoms hold, the formula holds exactly if the filter does. -/
theorem displayed_filter_read_back :
    (∀ f, NoEmptyConnective f →
      f.text = written f.tokens ∧
      (∀ g, g ∈ f.atoms ↔ Within g f ∧ g.tightness = 3) ∧
      ∃ φ, Formula.read? f.tokens = some φ ∧ (∀ ψ, Derives 1 f.tokens ψ ↔ ψ = φ) ∧
        φ.atoms = f.atoms ∧ ∀ values, φ.holds values = f.holds values) ∧
    ∀ v f, Filter.ofJson v = .ok f → NoEmptyConnective f := by
  refine ⟨?_, fun v f => noEmptyConnective_of_ofJson⟩
  intro f filled
  obtain ⟨φ, derives, sameAtoms, sameTruth⟩ := displays filled
  have read : Formula.read? f.tokens = some φ :=
    Formula.read?_eq_some_iff.2 (derives.mono (one_le_tightness f))
  refine ⟨text_eq_written filled, fun g => mem_atoms_iff, φ, read, ?_, sameAtoms, sameTruth⟩
  intro ψ
  rw [← Formula.read?_eq_some_iff, read, Option.some.injEq]
  exact eq_comm

/-- Alternatives inside alternatives, and a conjunction of a single equality. Its column is named like two
columns with a connective between them. -/
def nestedFilter : Filter :=
  .all [.any [.any [.equal (.column "CITY_NAME") (.literal "Rome"), .other "predicate_like"],
    .inList "ZIP" ["10115", "20095"]], .all [.equal (.column "A OR B") (.literal ")")]]

/-- The nested filter is read back with its four atoms, three of them alternatives, although the name
of a column looks like a connective. -/
theorem displayed_filter_read_back_of_nested :
    Filter.ofJson nestedFilter.toPlanner = .ok nestedFilter ∧ NoEmptyConnective nestedFilter ∧
      nestedFilter.text = "((CITY_NAME = 'Rome' OR <predicate_like>) OR ZIP IN ('10115', '20095'))" ++
        " AND (A OR B = ')')" ∧
      ∃ φ, Formula.read? nestedFilter.tokens = some φ ∧ φ.atoms = nestedFilter.atoms ∧
        ∀ values, φ.holds values = ((values 0 || values 1 || values 2) && values 3) := by
  obtain ⟨displayed, converse⟩ := displayed_filter_read_back
  have reads : Filter.ofJson nestedFilter.toPlanner = .ok nestedFilter := rfl
  have filled := converse _ _ reads
  obtain ⟨-, -, φ, read, -, sameAtoms, sameTruth⟩ := displayed nestedFilter filled
  refine ⟨reads, filled, rfl, φ, read, sameAtoms, ?_⟩
  intro values
  rw [sameTruth]
  simp [nestedFilter, holds, truths, atoms, atomsOf, valuesFrom, Bool.or_assoc]

end Filter

end WeatherTables
