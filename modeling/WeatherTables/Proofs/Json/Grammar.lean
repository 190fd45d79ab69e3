import WeatherTables.Json.Token

/-!
# The grammar of interchange text

Which texts denote which values, said without a reader. `StringInside` and `NumeralText` are the
grammar of strings and numbers, and `Denotes room text v` says that `text` is a spelling of the value
`v` in which at most `room` containers are nested. Blanks may stand around every value and every name.
An object may repeat a name, and then the last member of that name counts.
-/

set_option autoImplicit false

namespace WeatherTables.Json

/-! ## Strings and numbers -/

/-- A text inside a string, and the characters it stands for. A character beyond the basic plane may
be escaped as two halves; a half on its own stands for nothing. -/
inductive StringInside : List Char → List Char → Prop where
  | nil : StringInside [] []
  | plain {c : Char} {text chars : List Char} (quote : c ≠ '"') (backslash : c ≠ '\\')
    (printable : 0x20 ≤ c.toNat) (more : StringInside text chars) :
    StringInside (c :: text) (c :: chars)
  | escape {e c : Char} {text chars : List Char} (letter : escape? e = some c)
    (more : StringInside text chars) : StringInside ('\\' :: e :: text) (c :: chars)
  | unit {a b c d : Char} {value : Nat} {text chars : List Char}
    (hex : hexUnit? a b c d = some value) (notHigh : isHighUnit value = false)
    (notLow : isLowUnit value = false) (more : StringInside text chars) :
    StringInside ('\\' :: 'u' :: a :: b :: c :: d :: text) (Char.ofNat value :: chars)
  | pair {a b c d a' b' c' d' : Char} {high low : Nat} {text chars : List Char}
    (hexHigh : hexUnit? a b c d = some high) (hexLow : hexUnit? a' b' c' d' = some low)
    (isHigh : isHighUnit high = true) (isLow : isLowUnit low = true)
    (more : StringInside text chars) :
    StringInside
      ('\\' :: 'u' :: a :: b :: c :: d :: '\\' :: 'u' :: a' :: b' :: c' :: d' :: text)
      (Char.ofNat (0x10000 + (high - 0xD800) * 0x400 + (low - 0xDC00)) :: chars)

/-- One or more digits. -/
def IsDigits (ds : List Char) : Prop :=
  ds ≠ [] ∧ ∀ c ∈ ds, c.isDigit = true

/-- Digits without a needless zero in front. -/
inductive WholeText : List Char → Prop where
  | zero : WholeText ['0']
  | other {ds : List Char} (digits : IsDigits ds) (first : ∀ rest, ds ≠ '0' :: rest) : WholeText ds

/-- Nothing, or a point and digits. -/
inductive FractionText : List Char → Option (List Char) → Prop where
  | absent : FractionText [] none
  | digits {ds : List Char} (digits : IsDigits ds) : FractionText ('.' :: ds) (some ds)

/-- Nothing, or `e` or `E`, a sign or none, and digits. -/
inductive ExponentText : List Char → Option (Bool × List Char) → Prop where
  | absent : ExponentText [] none
  | unsigned {e : Char} {ds : List Char} (letter : e = 'e' ∨ e = 'E') (digits : IsDigits ds) :
    ExponentText (e :: ds) (some (false, ds))
  | plus {e : Char} {ds : List Char} (letter : e = 'e' ∨ e = 'E') (digits : IsDigits ds) :
    ExponentText (e :: '+' :: ds) (some (false, ds))
  | minus {e : Char} {ds : List Char} (letter : e = 'e' ∨ e = 'E') (digits : IsDigits ds) :
    ExponentText (e :: '-' :: ds) (some (true, ds))

/-- A number after its sign, and its parts. -/
inductive Magnitude (negative : Bool) : List Char → Numeral → Prop where
  | mk {whole fraction exponent : List Char} {fractionDigits : Option (List Char)}
    {exponentDigits : Option (Bool × List Char)} (isWhole : WholeText whole)
    (isFraction : FractionText fraction fractionDigits)
    (isExponent : ExponentText exponent exponentDigits) :
    Magnitude negative (whole ++ (fraction ++ exponent))
      ⟨negative, whole, fractionDigits, exponentDigits⟩

/-- A number and its parts. -/
inductive NumeralText : List Char → Numeral → Prop where
  | positive {text : List Char} {n : Numeral} (magnitude : Magnitude false text n) :
    NumeralText text n
  | negative {text : List Char} {n : Numeral} (magnitude : Magnitude true text n) :
    NumeralText ('-' :: text) n

/-! ## Values -/

/-- A value that is no container, as it is spelled. -/
inductive ScalarText : List Char → Json → Prop where
  | null : ScalarText ['n', 'u', 'l', 'l'] .null
  | true : ScalarText ['t', 'r', 'u', 'e'] (.bool true)
  | false : ScalarText ['f', 'a', 'l', 's', 'e'] (.bool false)
  | number {text : List Char} {n : Numeral} {x : Number} (numeral : NumeralText text n)
    (value : n.value? = some x) : ScalarText text (.number x)
  | string {inside chars : List Char} (isInside : StringInside inside chars) :
    ScalarText ('"' :: (inside ++ ['"'])) (.string (String.ofList chars))

/-- Blanks between tokens. -/
def Gap (cs : List Char) : Prop :=
  ∀ c ∈ cs, isGap c = true

/-- A string with blanks around it, and what it stands for. -/
inductive NameText : List Char → String → Prop where
  | mk {before inside chars after : List Char} (gapBefore : Gap before)
    (isInside : StringInside inside chars) (gapAfter : Gap after) :
    NameText (before ++ '"' :: (inside ++ '"' :: after)) (String.ofList chars)

/-- A member of an object as it is spelled. -/
structure SpelledMember where
  nameText : List Char
  name : String
  valueText : List Char
  value : Json

/-- The text of a member. -/
def SpelledMember.text (m : SpelledMember) : List Char :=
  m.nameText ++ ':' :: m.valueText

/-- The text is a spelling of the value, with at most `room` containers nested in one another. -/
inductive Denotes : Nat → List Char → Json → Prop where
  | scalar (room : Nat) {text : List Char} {v : Json} (isScalar : ScalarText text v) :
    Denotes room text v
  | padded {room : Nat} {before text after : List Char} {v : Json} (gapBefore : Gap before)
    (denotes : Denotes room text v) (gapAfter : Gap after) :
    Denotes room (before ++ (text ++ after)) v
  | emptyArray (room : Nat) {gap : List Char} (isGap : Gap gap) :
    Denotes (room + 1) ('[' :: (gap ++ [']'])) (.array [])
  | array {room : Nat} {first : List Char × Json} {more : List (List Char × Json)}
    (elements : ∀ p ∈ first :: more, Denotes room p.1 p.2) :
    Denotes (room + 1) ('[' :: (first.1 ++ (more.flatMap (fun p => ',' :: p.1) ++ [']'])))
      (.array (first.2 :: more.map Prod.snd))
  | emptyObject (room : Nat) {gap : List Char} (isGap : Gap gap) :
    Denotes (room + 1) ('\x7b' :: (gap ++ ['\x7d'])) (.object [])
  | object {room : Nat} {first : SpelledMember} {more : List SpelledMember}
    (names : ∀ m ∈ first :: more, NameText m.nameText m.name)
    (members : ∀ m ∈ first :: more, Denotes room m.valueText m.value) :
    Denotes (room + 1)
      ('\x7b' :: (first.text ++ (more.flatMap (fun m => ',' :: m.text) ++ ['\x7d'])))
      (ofMembers ((first :: more).map fun m => (m.name, m.value)))

end WeatherTables.Json
