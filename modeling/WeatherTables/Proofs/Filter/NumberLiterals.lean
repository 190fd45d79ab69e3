import WeatherTables.Proofs.Decimal.WrittenNumber
import WeatherTables.Proofs.Filter.PlannerForm
import WeatherTables.Proofs.Fragment.ValueKinds
import WeatherTables.Proofs.Json.Completeness

/-!
# Numbers as literals

The planner may write a literal as a number where it otherwise writes a string. The filter is the same as
if it had written the text of the number (`ofJson_respelled`), and so a number is a literal like any other:
it is always accepted as a coordinate and never as a name, and as a whole number exactly if it was read as
an integer of 64 bits. That depends on how it was written, as `Numeral.value?_eq_integer_iff` says.
-/

set_option autoImplicit false

namespace WeatherTables

open Decimal Json

/-! ## Respelled records -/

namespace Json

/-- Two values under the same name. -/
inductive MemberAlike (R : String → Json → Json → Prop) : String × Json → String × Json → Prop where
  | mk {name : String} {v v' : Json} (h : R name v v') : MemberAlike R (name, v) (name, v')

/-- Two records in the same form, the values of which are related one by one. -/
inductive RecordAlike (names : List String) (R : String → Json → Json → Prop) : Json → Json → Prop where
  | object {members members' : List (String × Json)}
    (h : List.Forall₂ (MemberAlike R) members members') :
    RecordAlike names R (.object members) (.object members')
  | array {xs xs' : List Json} (length : xs.length = xs'.length)
    (h : List.Forall₂ (MemberAlike R) (names.zip xs) (names.zip xs')) :
    RecordAlike names R (.array xs) (.array xs')

section Reading

variable {α : Type} {expected : String} {names : List String} {set : α → String → Json → Except DataError α}
  {R : String → Json → Json → Prop}

/-- Members that are alike are taken in alike, if no step can tell their values apart. -/
theorem foldlM_congr {members members' : List (String × Json)}
    (step : ∀ m ∈ members, ∀ v', R m.1 m.2 v' → ∀ r, set r m.1 v' = set r m.1 m.2)
    (alike : List.Forall₂ (MemberAlike R) members members') (start : α) :
    members'.foldlM (fun r m => set r m.1 m.2) start =
      members.foldlM (fun r m => set r m.1 m.2) start := by
  induction alike generalizing start with
  | nil => rfl
  | cons first _ ih =>
    obtain ⟨stepFirst, stepOthers⟩ := List.forall_mem_cons.1 step
    cases first with
    | mk related =>
      have others := ih stepOthers
      simp only [List.foldlM_cons, stepFirst _ related, others]

/-- Lists whose elements are read alike are read alike. -/
theorem optional_asList_congr {read : Json → Except DataError α} {S : Json → Json → Prop}
    {xs xs' : List Json} (each : ∀ x ∈ xs, ∀ x', S x x' → read x' = read x)
    (alike : List.Forall₂ S xs xs') :
    Json.optional (asList read) (.array xs') = Json.optional (asList read) (.array xs) := by
  have same : xs'.mapM read = xs.mapM read := by
    induction alike with
    | nil => rfl
    | cons first _ ih =>
      obtain ⟨eachFirst, eachOther⟩ := List.forall_mem_cons.1 each
      simp only [List.mapM_cons, eachFirst _ first, ih eachOther]
  show (xs'.mapM read).map some = (xs.mapM read).map some
  rw [same]

/-- Records that are alike are read alike, if no step of the reading can tell the values apart. -/
theorem asRecord_congr {v v' : Json}
    (step : ∀ x, v.Inside x → ∀ name x', R name x x' → ∀ r, set r name x' = set r name x)
    (alike : RecordAlike names R v v') (start : α) :
    asRecord expected names set start v' = asRecord expected names set start v := by
  cases alike with
  | object h => exact foldlM_congr (fun m hm => step m.2 ⟨m.1, hm⟩ m.1) h start
  | array length h =>
    have same := foldlM_congr (fun m hm => step m.2 (List.of_mem_zip hm).2 m.1) h start
    simp only [asRecord, same, length]

/-- A value that is not null is read as one that is there. -/
theorem optional_of_ne_null {read : Json → Except DataError α} {v : Json} (h : v ≠ .null) :
    Json.optional read v = (read v).map some := by
  cases v with
  | null => exact absurd rfl h
  | bool | number | string | array | object => rfl

end Reading

end Json

namespace PlannerOperand

/-- The value of an operand may be a number in the one and the text of that number in the other. -/
inductive FieldRespelled : String → Json → Json → Prop where
  | same (name : String) (v : Json) : FieldRespelled name v v
  | number (n : Number) : FieldRespelled "value" (.number n) (.string n.text)

/-- The second operand is the first, perhaps with its number written as a string. -/
def Respelled : Json → Json → Prop :=
  RecordAlike fieldNames FieldRespelled

/-- An operand is read in the same way when its number is written as a string. -/
theorem ofJson_respelled {v v' : Json} (h : Respelled v v') :
    PlannerOperand.ofJson v' = PlannerOperand.ofJson v := by
  apply asRecord_congr _ h
  intro x _ name x' respelled o
  cases respelled with
  | same => rfl
  | number n => rfl

/-- Operands that are respelled are there, before and after. -/
theorem Respelled.ne_null {v v' : Json} (h : Respelled v v') : v ≠ .null ∧ v' ≠ .null := by
  cases h with
  | object => exact ⟨nofun, nofun⟩
  | array => exact ⟨nofun, nofun⟩

end PlannerOperand

namespace Filter

mutual

/-- The second filter is the first, with any of the numbers among its literals written as strings. -/
inductive Respelled : Json → Json → Prop where
  | record {v v' : Json} (h : RecordAlike PlannerNode.fieldNames FieldRespelled v v') : Respelled v v'

/-- The operands of a filter may be respelled, and the filters below it. -/
inductive FieldRespelled : String → Json → Json → Prop where
  | same (name : String) (v : Json) : FieldRespelled name v v
  | operand {name : String} (place : name ∈ ["expression", "left", "right"]) {v v' : Json}
    (h : PlannerOperand.Respelled v v') : FieldRespelled name v v'
  | arguments {operands operands' : List Json}
    (h : List.Forall₂ PlannerOperand.Respelled operands operands') :
    FieldRespelled "arguments" (.array operands) (.array operands')
  | expressions {children children' : List Json} (h : List.Forall₂ Respelled children children') :
    FieldRespelled "expressions" (.array children) (.array children')

end

/-- A field of a node is set in the same way when what it holds is respelled. -/
theorem setField_respelled {name : String} {v v' : Json}
    (inner : ∀ x, v.Inside x → ∀ x', Respelled x x' → Filter.ofJson x' = Filter.ofJson x)
    (h : FieldRespelled name v v') (n : PlannerNode) : setField n name v' = setField n name v := by
  cases h with
  | same => rfl
  | operand place h =>
    obtain ⟨there, there'⟩ := h.ne_null
    have read : Json.optional PlannerOperand.ofJson v' = Json.optional PlannerOperand.ofJson v := by
      rw [optional_of_ne_null there, optional_of_ne_null there', PlannerOperand.ofJson_respelled h]
    simp only [List.mem_cons, List.not_mem_nil, or_false] at place
    rcases place with rfl | rfl | rfl
    · simp only [setField, read]
    · simp only [setField, read]
    · simp only [setField, read]
  | arguments h =>
    have read := optional_asList_congr (fun x _ x' h => PlannerOperand.ofJson_respelled h) h
    simp only [setField, read]
  | expressions h =>
    have read := optional_asList_congr inner h
    simp only [setField_expressions, read]

/-- Which literals are numbers and which are texts of numbers makes no difference to the filter. The
induction carries the statement for a value together with that for all directly inside it, since a field
holds filters one level further down. -/
theorem ofJson_respelled {v v' : Json} (h : Respelled v v') : Filter.ofJson v' = Filter.ofJson v := by
  have here {v : Json} (inner : ∀ x, v.Inside x → ∀ y, x.Inside y →
      ∀ y', Respelled y y' → Filter.ofJson y' = Filter.ofJson y) :
      ∀ v', Respelled v v' → Filter.ofJson v' = Filter.ofJson v := by
    rintro v' ⟨alike⟩
    have step : ∀ x, v.Inside x → ∀ name x', FieldRespelled name x x' →
        ∀ n, setField n name x' = setField n name x :=
      fun x hx name x' h n => setField_respelled (inner x hx) h n
    rw [ofJson_eq_asRecord, ofJson_eq_asRecord, asRecord_congr step alike]
  have both : (∀ v', Respelled v v' → Filter.ofJson v' = Filter.ofJson v) ∧
      ∀ x, v.Inside x → ∀ x', Respelled x x' → Filter.ofJson x' = Filter.ofJson x := by
    clear h
    induction v using Json.induct with
    | object members ih =>
      exact ⟨here fun x ⟨name, hx⟩ => (ih (name, x) hx).2, fun x ⟨name, hx⟩ => (ih (name, x) hx).1⟩
    | array xs ih => exact ⟨here fun x hx => (ih x hx).2, fun x hx => (ih x hx).1⟩
    | null | bool | number | string => exact ⟨here nofun, nofun⟩
  exact both.1 v' h

end Filter

/-! ## Numbers under the rules -/

namespace PlannerOperand

/-- The operand is a literal that is the given number. -/
structure IsNumber (v : Json) (n : Number) : Prop where
  unnamed : v.field fieldNames "name" = .null
  value : v.field fieldNames "value" = .number n

/-- An operand that is a number becomes the literal of its text. -/
theorem toOperand_of_isNumber {v : Json} {o : PlannerOperand} {n : Number}
    (read : PlannerOperand.ofJson v = .ok o) (h : IsNumber v n) : o.toOperand = .literal n.text := by
  have reads := reads_of_ofJson read
  have unnamed := reads.name
  have valued := reads.value
  rw [h.unnamed] at unnamed
  rw [h.value] at valued
  have noName : o.name = none := (Except.ok.inj unnamed).symm
  have hasText : o.value = some n.text := (Except.ok.inj valued).symm
  rw [toOperand, noName, hasText]

end PlannerOperand

/-- The number is an integer of 64 bits, and was read as one. -/
def Number.IsInt64 (n : Number) : Prop :=
  ∃ i, n = .integer i ∧ leastInt64 ≤ i ∧ i ≤ greatestInt64

/-- A number is an integer of 64 bits if it was read as an integer within their bounds. -/
theorem Number.isSome_toInt64?_iff (n : Number) : n.toInt64?.isSome = true ↔ n.IsInt64 := by
  cases n with
  | integer i =>
    by_cases inside : leastInt64 ≤ i ∧ i ≤ greatestInt64
    · rw [toInt64?, if_pos inside]
      exact iff_of_true rfl ⟨i, rfl, inside⟩
    · rw [toInt64?, if_neg inside]
      refine iff_of_false Bool.false_ne_true ?_
      rintro ⟨j, same, other⟩
      rw [← Number.integer.inj same] at other
      exact inside other
  | float x =>
    refine iff_of_false Bool.false_ne_true ?_
    rintro ⟨i, same, -⟩
    cases same

/-- No blanks stand around the text of a number. -/
theorem Number.trim_text (n : Number) : Text.trim n.text = n.text := by
  have isReal : isReal n.text.toList = true := (isReal_iff _).2 (.inl n.isNumeral_text)
  apply String.toList_injective
  rw [Text.trim, String.toList_ofList]
  exact Text.trimmed_of_forall fun c hc => (inNumber_of_isReal isReal c hc).plain.1

/-- A number is a number, and a whole number if it was read as one that fits. It is never a word. -/
theorem ValueKind.admits_text_iff (kind : ValueKind) (n : Number) :
    kind.Admits n.text.toList ↔ kind = .number ∨ kind = .wholeNumber ∧ n.IsInt64 := by
  have isNumber : Admits .number n.text.toList := (isReal_iff _).2 (.inl n.isNumeral_text)
  cases kind with
  | words =>
    rw [admits_words_iff]
    exact iff_of_false (fun words => words.2 isNumber) (by simp)
  | number => exact iff_of_true isNumber (.inl rfl)
  | wholeNumber =>
    rw [Admits, n.int64?_text, n.isSome_toInt64?_iff]
    simp

namespace RuleTable

/-- An equality of a column with a literal has the fragment that the rule of the column makes. -/
theorem resolve_column {rules : RuleTable} {rule : FilterRule} (found : rules.find rule.column = .ok rule)
    (value : String) :
    rules.resolve (.column rule.column) (.literal value) =
      (rule.accept value).map fun accepted => ⟨rule.parameter, accepted⟩ := by
  simp only [resolve, sides, found]

/-- What becomes of a number in a column of the weather tables is decided by the kind of the column. -/
theorem resolve_number {rule : FilterRule} (h : rule ∈ standard.rules) (n : Number) :
    let found := standard.resolve (.column rule.column) (.literal n.text)
    (rule.kind = .number ∨ rule.kind = .wholeNumber ∧ n.IsInt64 →
      found = .ok ⟨rule.parameter, n.text⟩) ∧
    (¬ (rule.kind = .number ∨ rule.kind = .wholeNumber ∧ n.IsInt64) →
      found = .error (rule.kind.refusal rule.column n.text)) := by
  intro found
  have resolved : found = _ := resolve_column (find_eq_ok_iff.2 ⟨h, rfl⟩) n.text
  rw [← rule.kind.admits_text_iff n, resolved]
  constructor
  · intro admitted
    have accepted : rule.accept n.text = .ok n.text := by
      rw [FilterRule.accept_eq_ok_iff, n.trim_text]
      refine ⟨admitted, ?_⟩
      have numeric : rule.kind ≠ .words := by
        rintro isWords
        rw [isWords, ValueKind.admits_text_iff] at admitted
        simp at admitted
      rw [ValueKind.taken_of_ne_words numeric, n.trim_text]
    rw [accepted]
    rfl
  · intro refused
    have error : rule.accept n.text = .error (rule.kind.refusal rule.column n.text) := by
      rw [FilterRule.accept_eq_error_iff, n.trim_text]
      exact ⟨refused, rfl⟩
    rw [error]
    rfl

end RuleTable

/-! ## How a number is written -/

namespace Json.Numeral

/-- The integer before the point, with its sign. -/
def signedWhole (m : Numeral) : Int :=
  if m.negative then -(Nat.ofDigitChars 10 m.whole 0 : Int) else Nat.ofDigitChars 10 m.whole 0

/-- A number is read as an integer if it is written without a point and without an exponent, is not a
zero with a sign, and fits 64 bits. -/
theorem value?_eq_integer_iff {m : Numeral} {i : Int} :
    m.value? = some (.integer i) ↔
      m.fraction = none ∧ m.exponent = none ∧ (m.negative = true → m.signedWhole ≠ 0) ∧
        i = m.signedWhole ∧ leastInt64 ≤ i ∧ i ≤ greatestNat64 := by
  have noFloat : (m.size?.map fun x => Number.float (if m.negative then x.neg else x)) ≠
      some (.integer i) := by
    intro same
    obtain ⟨x, -, float⟩ := Option.map_eq_some_iff.1 same
    cases float
  obtain ⟨negative, whole, fraction, exponent⟩ := m
  unfold value? signedWhole
  dsimp only at noFloat ⊢
  have limit : (greatestNat64 : Int) = 18446744073709551615 := rfl
  have least : leastInt64 = -9223372036854775808 := rfl
  -- A point or an exponent makes a binary number, and so does an integer outside the limits.
  cases fraction with
  | some ds =>
    exact iff_of_false noFloat (fun h => nomatch h.1)
  | none =>
    cases exponent with
    | some e => exact iff_of_false noFloat (fun h => nomatch h.2.1)
    | none =>
      cases negative with
      | true =>
        simp only [if_true]
        split
        · simp
          omega
        · next outside =>
          refine iff_of_false noFloat ?_
          rintro ⟨-, -, nonzero, rfl, low, -⟩
          have positive := nonzero trivial
          omega
      | false =>
        simp only [Bool.false_eq_true, if_false]
        split
        · simp
          omega
        · next outside =>
          refine iff_of_false noFloat ?_
          rintro ⟨-, -, -, rfl, -, high⟩
          omega

end Json.Numeral

/-- A number among the literals of a filter is read as its text, wherever it stands, and the filter is the
same as if the text stood there. As a literal it is always accepted in a coordinate and never in a name,
on either side of an equality. It is accepted as a whole number exactly if it is an integer of 64 bits
and was read as one, that is, if it was written without a point and without an exponent, fits, and is not
a zero with a sign. -/
theorem numbers_read_as_their_text :
    (∀ v v', Filter.Respelled v v' → Filter.ofJson v' = Filter.ofJson v) ∧
    (∀ v o n, PlannerOperand.ofJson v = .ok o → PlannerOperand.IsNumber v n →
      o.toOperand = .literal n.text) ∧
    (∀ n : Number,
      let found := fun column => RuleTable.standard.resolve (.column column) (.literal n.text)
      (∀ column, RuleTable.standard.resolve (.literal n.text) (.column column) = found column) ∧
      (∀ p ∈ [("LONGITUDE", "lon="), ("LATITUDE", "lat=")], found p.1 = .ok ⟨p.2, n.text⟩) ∧
      (∀ column ∈ ["CITY_NAME", "COUNTRY_CODE"],
        found column = .error (.looksNumeric column n.text)) ∧
      (∀ p ∈ [("CITY_ID", "id="), ("ZIP", "zip=")],
        (n.IsInt64 → found p.1 = .ok ⟨p.2, n.text⟩) ∧
        (¬ n.IsInt64 → found p.1 = .error (.notWhole p.1 n.text)))) ∧
    (∀ text m n, NumeralText text m → m.value? = some n →
      read? (String.ofList text) = some (.number n) ∧
      (n.IsInt64 ↔ m.fraction = none ∧ m.exponent = none ∧ (m.negative = true → m.signedWhole ≠ 0) ∧
        leastInt64 ≤ m.signedWhole ∧ m.signedWhole ≤ greatestInt64)) := by
  refine ⟨fun v v' => Filter.ofJson_respelled, fun v o n => PlannerOperand.toOperand_of_isNumber, ?_, ?_⟩
  · intro n found
    have resolved {rule : FilterRule} (h : rule ∈ RuleTable.standard.rules) :=
      RuleTable.resolve_number h n
    simp only [List.forall_mem_cons, List.not_mem_nil, false_implies, implies_true, and_true]
    refine ⟨fun _ => rfl, ⟨?_, ?_⟩, ⟨?_, ?_⟩, ⟨?_, ?_⟩, ?_, ?_⟩
    · exact (resolved (by decide : ⟨"LONGITUDE", "lon=", .number, "E-VS-OWFS-3"⟩ ∈ _)).1 (.inl rfl)
    · exact (resolved (by decide : ⟨"LATITUDE", "lat=", .number, "E-VS-OWFS-3"⟩ ∈ _)).1 (.inl rfl)
    · exact (resolved (by decide : ⟨"CITY_NAME", "q=", .words, "E-VS-OWFS-2"⟩ ∈ _)).2 (by simp)
    · exact (resolved (by decide : ⟨"COUNTRY_CODE", ",", .words, "E-VS-OWFS-2"⟩ ∈ _)).2 (by simp)
    · intro inside
      exact (resolved (by decide : ⟨"CITY_ID", "id=", .wholeNumber, "E-VS-OWFS-5"⟩ ∈ _)).1
        (.inr ⟨rfl, inside⟩)
    · intro outside
      exact (resolved (by decide : ⟨"CITY_ID", "id=", .wholeNumber, "E-VS-OWFS-5"⟩ ∈ _)).2
        (by simpa using outside)
    · intro inside
      exact (resolved (by decide : ⟨"ZIP", "zip=", .wholeNumber, "E-VS-OWFS-5"⟩ ∈ _)).1
        (.inr ⟨rfl, inside⟩)
    · intro outside
      exact (resolved (by decide : ⟨"ZIP", "zip=", .wholeNumber, "E-VS-OWFS-5"⟩ ∈ _)).2
        (by simpa using outside)
  · intro text m n numeral value
    constructor
    · apply read?_of_denotes
      rw [String.toList_ofList]
      exact .scalar _ (.number numeral value)
    · constructor
      · rintro ⟨i, rfl, low, high⟩
        obtain ⟨noFraction, noExponent, nonzero, rfl, -⟩ := Numeral.value?_eq_integer_iff.1 value
        exact ⟨noFraction, noExponent, nonzero, low, high⟩
      · rintro ⟨noFraction, noExponent, nonzero, low, high⟩
        have wide : greatestInt64 ≤ (greatestNat64 : Int) := by decide
        have integer := Numeral.value?_eq_integer_iff.2
          ⟨noFraction, noExponent, nonzero, rfl, low, Int.le_trans high wide⟩
        rw [value] at integer
        exact ⟨m.signedWhole, Option.some.inj integer, low, high⟩

/-- A postal code that is just too large to be an integer of 64 bits, in a list below a disjunction, and a
zero with a sign. -/
theorem numbers_read_as_their_text_of_large :
    let literal (v : Json) : Json := .object [("type", .string "literal_exactnumeric"), ("value", v)]
    let list (v : Json) : Json := .object [("arguments", .array [literal v]),
      ("expression", (Operand.column "ZIP").toPlanner), ("type", .string "predicate_in_constlist")]
    let filter (v : Json) : Json :=
      .object [("expressions", .array [list v]), ("type", .string "predicate_or")]
    let n : Number := .integer 9223372036854775808
    let minusZero : Number := .float ⟨true, 0, 0⟩
    Filter.ofJson (filter (.string "9223372036854775808")) = Filter.ofJson (filter (.number n)) ∧
      (∃ o, PlannerOperand.ofJson (literal (.number n)) = .ok o ∧ o.toOperand = .literal n.text) ∧
      RuleTable.standard.resolve (.column "ZIP") (.literal n.text) = .error (.notWhole "ZIP" n.text) ∧
      RuleTable.standard.resolve (.column "LATITUDE") (.literal n.text) = .ok ⟨"lat=", n.text⟩ ∧
      read? "-0" = some (.number minusZero) ∧ ¬ minusZero.IsInt64 := by
  intro literal list filter n minusZero
  obtain ⟨respelled, operand, rules, written⟩ := numbers_read_as_their_text
  have same (v : Json) : PlannerOperand.FieldRespelled "type" v v := .same _ _
  have text : n.text = "9223372036854775808" := by rfl
  have literals : PlannerOperand.Respelled (literal (.number n)) (literal (.string n.text)) :=
    .object (.cons (.mk (same _)) (.cons (.mk (.number n)) .nil))
  have lists : Filter.Respelled (list (.number n)) (list (.string n.text)) :=
    .record (.object (.cons (.mk (.arguments (.cons literals .nil)))
      (.cons (.mk (.same _ _)) (.cons (.mk (.same _ _)) .nil))))
  have filters : Filter.Respelled (filter (.number n)) (filter (.string n.text)) :=
    .record (.object (.cons (.mk (.expressions (.cons lists .nil))) (.cons (.mk (.same _ _)) .nil)))
  have isNumber : PlannerOperand.IsNumber (literal (.number n)) n := ⟨by rfl, by rfl⟩
  have large : ¬ n.IsInt64 := by
    rw [← Number.isSome_toInt64?_iff]
    decide
  obtain ⟨-, coordinates, -, codes⟩ := rules n
  have zero : NumeralText ['-', '0'] ⟨true, ['0'], none, none⟩ :=
    .negative (.mk .zero .absent .absent)
  obtain ⟨read, whole⟩ := written _ _ minusZero zero (by decide +kernel)
  refine ⟨text ▸ respelled _ _ filters, ⟨_, rfl, operand _ _ n rfl isNumber⟩,
    (codes ("ZIP", "zip=") (by simp)).2 large, coordinates ("LATITUDE", "lat=") (by simp), read, ?_⟩
  intro inside
  exact (whole.1 inside).2.2.1 rfl (by decide)

end WeatherTables
