import WeatherTables.Adapter.HandlerCall
import WeatherTables.Proofs.Text.Trimmed
import WeatherTables.Text.Pieces
import Mathlib.Data.List.Basic

/-!
# The columns that a statement declares

Behind the call of the script a statement declares the columns that the script emits, each with its
type. `readColumns` reads them back. The columns are separated by commas and blanks, so they are
read as they were meant if there is no such character in a name or in a type
(`readColumns_declaration`). The names of the weather tables are made of letters whose small forms
are harmless, which gives `Method.readColumns_emits`.
-/

set_option autoImplicit false

namespace WeatherTables

open Text (pieces pieces_append_cut pieces_of_uncut dropBlanks isBlank lowercase lowercaseChar)

namespace Sql

/-- A column as it is declared: its name and, after a blank, its type. -/
def columnText (column : String × String) : String :=
  column.1 ++ " " ++ column.2

/-- The clause that declares the columns. -/
def declaration (columns : List (String × String)) : String :=
  " EMITS (" ++ ", ".intercalate (columns.map columnText) ++ ")"

/-- The name and the type of a declared column. -/
def readColumn (cs : List Char) : Option (String × String) :=
  match pieces (· = ' ') cs with
  | [name, type] => some (String.ofList name, String.ofList type)
  | _ => none

/-- The columns that a clause declares. -/
def readColumns (clause : String) : Option (List (String × String)) := do
  let inside ← clause.toList.dropPrefix? " EMITS (".toList
  let body ← inside.dropSuffix? [')']
  ((pieces (· = ',') body).map dropBlanks).mapM readColumn

/-- Whether the character separates nothing. -/
def isPlain (c : Char) : Bool :=
  c != ',' && !isBlank c

/-- A character separates nothing if it is neither a comma nor a blank. -/
theorem isPlain_iff {c : Char} : isPlain c = true ↔ c ≠ ',' ∧ isBlank c = false := by
  rw [isPlain, Bool.and_eq_true, bne_iff_ne, Bool.not_eq_true']

/-- The text is not empty, and no character in it separates anything. -/
def Plain (text : String) : Prop :=
  text ≠ "" ∧ text.toList.all isPlain = true

/-- Whether a text is plain is found by looking at its characters. -/
instance (text : String) : Decidable (Plain text) :=
  inferInstanceAs (Decidable (_ ∧ _))

/-- A plain text has neither commas nor blanks. -/
theorem Plain.of_mem {text : String} (h : Plain text) {c : Char} (hc : c ∈ text.toList) :
    c ≠ ',' ∧ isBlank c = false :=
  isPlain_iff.1 (List.all_eq_true.1 h.2 c hc)

/-- A plain text has no blanks in front that could be dropped. -/
theorem Plain.dropBlanks_append {text : String} (h : Plain text) (rest : List Char) :
    dropBlanks (text.toList ++ rest) = text.toList ++ rest := by
  cases chars : text.toList with
  | nil => exact absurd (String.toList_eq_nil_iff.1 chars) h.1
  | cons c cs =>
    have first : isBlank c = false := (h.of_mem (by rw [chars]; exact List.mem_cons_self)).2
    exact List.dropWhile_cons_of_neg (by rw [first]; exact Bool.false_ne_true)

/-- A plain text is not cut at blanks. -/
theorem Plain.pieces_blank {text : String} (h : Plain text) :
    pieces (· = ' ') text.toList = [text.toList] := by
  apply pieces_of_uncut
  intro c hc
  apply decide_eq_false
  rintro rfl
  exact absurd (h.of_mem hc).2 (by decide)

variable {column : String × String}

/-- A column is declared by its name, a blank and its type. -/
theorem toList_columnText (column : String × String) :
    (columnText column).toList = column.1.toList ++ ' ' :: column.2.toList := by
  rw [columnText, String.toList_append, String.toList_append, List.append_assoc]
  rfl

/-- A column with a plain name and a plain type is read back from its declaration. -/
theorem readColumn_columnText (name : Plain column.1) (type : Plain column.2) :
    readColumn (dropBlanks (columnText column).toList) = some column := by
  have cut : pieces (· = ' ') (columnText column).toList = [column.1.toList, column.2.toList] := by
    rw [toList_columnText, pieces_append_cut (decide_eq_true rfl), name.pieces_blank,
      type.pieces_blank]
    rfl
  rw [toList_columnText, name.dropBlanks_append, ← toList_columnText, readColumn, cut]
  simp only [String.ofList_toList]

/-- No comma stands in the declaration of such a column. -/
theorem comma_not_mem_columnText (name : Plain column.1) (type : Plain column.2) :
    ∀ c ∈ (columnText column).toList, decide (c = ',') = false := by
  intro c hc
  apply decide_eq_false
  rintro rfl
  rw [toList_columnText, List.mem_append, List.mem_cons] at hc
  rcases hc with inName | blank | inType
  · exact (name.of_mem inName).1 rfl
  · exact absurd blank (by decide)
  · exact (type.of_mem inType).1 rfl

/-- A blank at the beginning does not count where blanks are dropped. -/
theorem map_dropBlanks_pieces_blank (cs : List Char) :
    (pieces (· = ',') (' ' :: cs)).map dropBlanks = (pieces (· = ',') cs).map dropBlanks := by
  have noCut : decide (' ' = ',') = false := by decide
  cases cut : pieces (· = ',') cs with
  | nil => exact absurd cut (Text.pieces_ne_nil _ _)
  | cons first others =>
    have shifted : pieces (· = ',') (' ' :: cs) = (' ' :: first) :: others := by
      rw [pieces, noCut, cut]
      rfl
    rw [shifted]
    rfl

/-- Texts that are listed with commas and blanks stand between the commas, after the blanks. -/
theorem map_dropBlanks_pieces_intercalate {texts : List String} (h : texts ≠ [])
    (uncut : ∀ text ∈ texts, ∀ c ∈ text.toList, decide (c = ',') = false) :
    (pieces (· = ',') (", ".intercalate texts).toList).map dropBlanks =
      texts.map fun text => dropBlanks text.toList := by
  induction texts with
  | nil => exact absurd rfl h
  | cons text texts ih =>
    obtain ⟨first, others⟩ := List.forall_mem_cons.1 uncut
    cases texts with
    | nil =>
      rw [String.intercalate_singleton, pieces_of_uncut first]
      rfl
    | cons next texts =>
      have chars : (", ".intercalate (text :: next :: texts)).toList =
          text.toList ++ ',' :: ' ' :: (", ".intercalate (next :: texts)).toList := by
        rw [String.intercalate_cons_cons, String.toList_append, String.toList_append,
          List.append_assoc]
        rfl
      rw [chars, pieces_append_cut (decide_eq_true rfl), pieces_of_uncut first, List.map_append,
        map_dropBlanks_pieces_blank, ih (List.cons_ne_nil _ _) others]
      rfl

/-- Columns with plain names and plain types are read back from the clause that declares them. -/
theorem readColumns_declaration {columns : List (String × String)} (h : columns ≠ [])
    (plain : ∀ c ∈ columns, Plain c.1 ∧ Plain c.2) :
    readColumns (declaration columns) = some columns := by
  have chars : (declaration columns).toList =
      " EMITS (".toList ++ ((", ".intercalate (columns.map columnText)).toList ++ [')']) := by
    rw [declaration, String.toList_append, String.toList_append, List.append_assoc]
    rfl
  have body : List.dropSuffix? ((", ".intercalate (columns.map columnText)).toList ++ [')']) [')'] =
      some (", ".intercalate (columns.map columnText)).toList :=
    List.dropSuffix?_eq_some_iff.2 ⟨[')'], rfl, by decide⟩
  have texts : ∀ text ∈ columns.map columnText, ∀ c ∈ text.toList, decide (c = ',') = false := by
    intro text htext
    obtain ⟨column, hcolumn, rfl⟩ := List.mem_map.1 htext
    obtain ⟨name, type⟩ := plain column hcolumn
    exact comma_not_mem_columnText name type
  have listed := map_dropBlanks_pieces_intercalate (mt List.map_eq_nil_iff.1 h) texts
  have read : ∀ column ∈ columns,
      readColumn (dropBlanks (columnText column).toList) = some column := by
    intro column hcolumn
    obtain ⟨name, type⟩ := plain column hcolumn
    exact readColumn_columnText name type
  rw [List.map_map] at listed
  calc readColumns (declaration columns)
    _ = ((pieces (· = ',') (", ".intercalate (columns.map columnText)).toList).map dropBlanks).mapM
          readColumn := by
      unfold readColumns
      rw [chars, List.dropPrefix?_append_of_beq _ (beq_self_eq_true _), Option.bind_eq_bind,
        Option.bind_some, body]
      rfl
    _ = some columns := by
      rw [listed]
      exact Bundle.mapM_map_eq_some read

end Sql


/-! ## The columns of the weather tables -/

/-- No type separates anything: besides letters there are only digits and brackets in it. -/
theorem ColumnType.plain_emitText (type : ColumnType) : Sql.Plain type.emitText := by
  cases type with
  | varchar size =>
    have opening : "VARCHAR(".toList.all Sql.isPlain = true := by decide
    have closing : ")".toList.all Sql.isPlain = true := by decide
    have digits : (toString size).toList.all Sql.isPlain = true := by
      rw [List.all_eq_true]
      intro c hc
      have digit : c.isDigit = true := by
        rw [Nat.toString_eq_repr, Nat.toList_repr] at hc
        exact Nat.isDigit_of_mem_toDigits (by omega) (by omega) hc
      rw [Sql.isPlain_iff]
      constructor
      · rintro rfl
        cases digit
      · exact Text.isBlank_of_isDigit digit
    constructor
    · rw [emitText, String.append_assoc]
      intro empty
      have chars := congrArg String.toList empty
      rw [String.toList_append] at chars
      cases chars
    · rw [emitText, String.toList_append, String.toList_append, List.all_append, List.all_append,
        opening, digits, closing]
      rfl
  | decimal precision scale =>
    rw [emitText]
    split
    · decide
    · decide
  | timestamp => decide

namespace Text

/-- The characters that names of columns are made of: capital letters, digits and the low line. -/
def isNameLetter (c : Char) : Bool :=
  ('A' ≤ c && c ≤ 'Z') || ('0' ≤ c && c ≤ '9') || c == '_'

/-- As small letters, the letters of names separate nothing, and none of them depends on those around
it. -/
theorem plain_lowercaseChar {c : Char} (h : isNameLetter c = true) :
    c ≠ 'Σ' ∧ lowercaseChar c ≠ [] ∧ (lowercaseChar c).all Sql.isPlain = true := by
  have low : c.toNat < 96 := by
    simp only [isNameLetter, Bool.or_eq_true, Bool.and_eq_true, decide_eq_true_eq, beq_iff_eq] at h
    rcases h with (⟨-, h⟩ | ⟨-, h⟩) | rfl
    · exact Nat.lt_of_le_of_lt h (by decide)
    · exact Nat.lt_of_le_of_lt h (by decide)
    · decide
  have every : ∀ n < 96, isNameLetter (Char.ofNat n) = true →
      Char.ofNat n ≠ 'Σ' ∧ lowercaseChar (Char.ofNat n) ≠ [] ∧
        (lowercaseChar (Char.ofNat n)).all Sql.isPlain = true := by
    decide
  have found := every c.toNat low
  rw [Char.ofNat_toNat] at found
  exact found h

/-- Only a sigma looks at the characters around it. -/
theorem lowercaseAfter_eq_flatMap {cs : List Char} (h : ∀ c ∈ cs, c ≠ 'Σ') (before : List Char) :
    lowercaseAfter before cs = cs.flatMap lowercaseChar := by
  induction cs generalizing before with
  | nil => rfl
  | cons c cs ih =>
    obtain ⟨first, others⟩ := List.forall_mem_cons.1 h
    rw [lowercaseAfter, if_neg first, ih others, List.flatMap_cons]

/-- A name of such characters separates nothing, also in small letters. -/
theorem plain_lowercase {name : String} (nonempty : name ≠ "")
    (letters : name.toList.all isNameLetter = true) : Sql.Plain (lowercase name) := by
  have small (c : Char) (hc : c ∈ name.toList) :=
    plain_lowercaseChar (List.all_eq_true.1 letters c hc)
  have chars : (lowercase name).toList = name.toList.flatMap lowercaseChar := by
    rw [lowercase, String.toList_ofList, lowercaseAfter_eq_flatMap fun c hc => (small c hc).1]
  constructor
  · intro empty
    rw [empty, String.toList_empty, eq_comm, List.flatMap_eq_nil_iff] at chars
    cases found : name.toList with
    | nil => exact nonempty (String.toList_eq_nil_iff.1 found)
    | cons c cs =>
      have first : c ∈ name.toList := by
        rw [found]
        exact List.mem_cons_self
      exact (small c first).2.1 (chars c first)
  · rw [chars, List.all_flatMap, List.all_eq_true]
    exact fun c hc => (small c hc).2.2

end Text

namespace Method

/-- The names and types of the columns that a statement declares for the method. -/
def declaredColumns (m : Method) : List (String × String) :=
  m.table.columns.map fun c => (lowercase c.name, c.type.emitText)

/-- The names of all columns are made of such letters. -/
theorem letters_of_names (m : Method) : ∀ c ∈ m.table.columns,
    c.name ≠ "" ∧ c.name.toList.all Text.isNameLetter = true := by
  cases m <;> decide

/-- The columns of a statement are read as they were meant. -/
theorem readColumns_emits (m : Method) :
    Sql.readColumns (" EMITS (" ++ HandlerCall.emits m.table ++ ")") = some m.declaredColumns := by
  have clause : HandlerCall.emits m.table =
      ", ".intercalate (m.declaredColumns.map Sql.columnText) := by
    rw [HandlerCall.emits, declaredColumns, List.map_map]
    rfl
  rw [clause]
  apply Sql.readColumns_declaration
  · cases m <;> exact List.cons_ne_nil _ _
  · rw [declaredColumns, List.forall_mem_map]
    intro c hc
    obtain ⟨nonempty, letters⟩ := letters_of_names m c hc
    exact ⟨Text.plain_lowercase nonempty letters, c.type.plain_emitText⟩

end Method

end WeatherTables
