import WeatherTables.Json.Writer
import WeatherTables.Proofs.Json.Soundness

/-!
# Written values are read back

`denotes_text` says that the text of a value is a spelling of that value, as long as the value holds no
number and no more containers are nested than the reader allows. The reader therefore reads it as that
value (`read?_text`).
-/

set_option autoImplicit false

namespace WeatherTables.Json

/-- Values whose text is read back: they hold no number, nest at most `room` containers, and list the
members of an object by name. -/
inductive Regular : Nat → Json → Prop where
  | null (room : Nat) : Regular room .null
  | bool (room : Nat) (b : Bool) : Regular room (.bool b)
  | string (room : Nat) (s : String) : Regular room (.string s)
  | array {room : Nat} {xs : List Json} (elements : ∀ x ∈ xs, Regular room x) :
    Regular (room + 1) (.array xs)
  | object {room : Nat} {ms : List (String × Json)} (sorted : ms.Pairwise fun a b => a.1 < b.1)
    (members : ∀ m ∈ ms, Regular room m.2) : Regular (room + 1) (.object ms)

/-- An object is regular if its members are sorted by name and each of their values is regular with
less room. -/
theorem regular_object_iff {room : Nat} {ms : List (String × Json)} :
    Regular (room + 1) (.object ms) ↔
      ms.Pairwise (fun a b => a.1 < b.1) ∧ ∀ m ∈ ms, Regular room m.2 := by
  constructor
  · intro h
    cases h with
    | object sorted members => exact ⟨sorted, members⟩
  · rintro ⟨sorted, members⟩
    exact .object sorted members

/-- An array is regular if each of its elements is, with less room. -/
theorem regular_array_iff {room : Nat} {xs : List Json} :
    Regular (room + 1) (.array xs) ↔ ∀ x ∈ xs, Regular room x := by
  constructor
  · intro h
    cases h with
    | array elements => exact elements
  · exact .array

/-! ## Strings -/

/-- A control character is written as its value, in four hexadecimal digits. -/
theorem hexUnit?_control {n : Nat} (h : n < 0x20) :
    hexUnit? '0' '0' (Nat.digitChar (n / 16)) (Nat.digitChar (n % 16)) = some n := by
  revert n
  decide

/-- A written character stands for itself. -/
theorem stringInside_stringChar {inside chars : List Char} (more : StringInside inside chars)
    (c : Char) : StringInside (stringChar c ++ inside) (c :: chars) := by
  unfold stringChar
  split
  case h_8 quote backslash _ _ _ _ _ =>
    split
    · next small =>
      have high : isHighUnit c.toNat = false := by
        simp only [isHighUnit, Bool.and_eq_false_iff, decide_eq_false_iff_not]
        omega
      have low : isLowUnit c.toNat = false := by
        simp only [isLowUnit, Bool.and_eq_false_iff, decide_eq_false_iff_not]
        omega
      have unit := StringInside.unit (hexUnit?_control small) high low more
      rwa [Char.ofNat_toNat] at unit
    · next large => exact .plain quote backslash (Nat.not_lt.1 large) more
  all_goals exact .escape rfl more

/-- Characters that are written one by one are the inside of a string of them. -/
theorem stringInside_flatMap_stringChar (cs : List Char) :
    StringInside (cs.flatMap stringChar) cs := by
  induction cs with
  | nil => exact .nil
  | cons c cs ih => exact stringInside_stringChar ih c

/-- A string is written in quotes, character by character. -/
theorem toList_stringText (s : String) :
    (stringText s).toList = '"' :: (s.toList.flatMap stringChar ++ ['"']) := by
  rw [stringText, String.toList_ofList, List.cons_append]

/-- The written form of a string stands for that string. -/
theorem scalarText_stringText (s : String) : ScalarText (stringText s).toList (.string s) := by
  have scalar := ScalarText.string (stringInside_flatMap_stringChar s.toList)
  rwa [String.ofList_toList, ← toList_stringText] at scalar

/-- The name of a member is written as a string. -/
theorem nameText_stringText (s : String) : NameText (stringText s).toList s := by
  have isName := NameText.of_tokenText gap_nil (.scalar (scalarText_stringText s)) gap_nil
  rwa [List.nil_append, List.append_nil] at isName

/-! ## Containers -/

/-- An element as it is written. -/
def writtenElement (x : Json) : List Char × Json :=
  (x.text.toList, x)

/-- The elements after the first are written with commas in front of them. -/
theorem toList_elementsText (xs : List Json) :
    (elementsText xs).toList = (xs.map writtenElement).flatMap (fun p => ',' :: p.1) ++ [']'] := by
  induction xs with
  | nil => simp [elementsText]
  | cons x xs ih => simp [elementsText, ih, writtenElement]

/-- A member as it is written. -/
def writtenMember (m : String × Json) : SpelledMember :=
  ⟨(stringText m.1).toList, m.1, m.2.text.toList, m.2⟩

/-- A member is written with its name as a string. -/
theorem nameText_writtenMember (m : String × Json) :
    NameText (writtenMember m).nameText (writtenMember m).name := by
  simp only [writtenMember]
  exact nameText_stringText m.1

/-- The members after the first are written with commas in front of them. -/
theorem toList_membersText (ms : List (String × Json)) :
    (membersText ms).toList =
      (ms.map writtenMember).flatMap (fun m => ',' :: m.text) ++ ['\x7d'] := by
  induction ms with
  | nil => simp [membersText]
  | cons m ms ih => simp [membersText, ih, writtenMember, SpelledMember.text]

/-- A member whose name comes after all others is put at the end. -/
theorem insert_of_forall_lt {done : Members} {name : String} (v : Json)
    (h : ∀ m ∈ done, m.1 < name) : Members.insert name v done = done ++ [(name, v)] := by
  induction done with
  | nil => rfl
  | cons m done ih =>
    have before : m.1 < name := h m (by simp)
    have notBefore : ¬ name < m.1 := String.lt_asymm before
    have different : name ≠ m.1 := by
      rintro rfl
      exact String.lt_irrefl _ before
    simp only [Members.insert, if_neg notBefore, if_neg different, List.cons_append]
    rw [ih fun n hn => h n (by simp [hn])]

/-- Members that are sorted by name are the members of their object. -/
theorem ofList_of_sorted {ms : List (String × Json)} (sorted : ms.Pairwise fun a b => a.1 < b.1) :
    Members.ofList ms = ms := by
  have fold (done : Members) (sorted : (done ++ ms).Pairwise fun a b => a.1 < b.1) :
      ms.foldl (fun done m => done.insert m.1 m.2) done = done ++ ms := by
    induction ms generalizing done with
    | nil => rw [List.append_nil, List.foldl_nil]
    | cons m ms ih =>
      have last : Members.insert m.1 m.2 done = done ++ [m] :=
        insert_of_forall_lt m.2 fun n hn => (List.pairwise_append.1 sorted).2.2 n hn m (by simp)
      rw [List.foldl_cons, last, ih, List.append_assoc, List.singleton_append]
      · exact (List.pairwise_append.1 sorted).2.1.of_cons
      · simpa using sorted
  exact fold [] sorted

/-! ## Values -/

/-- The text of a regular value is a spelling of it. -/
theorem denotes_text {room : Nat} {v : Json} (h : Regular room v) :
    Denotes room v.text.toList v := by
  induction h with
  | null room =>
    rw [text]
    exact .scalar room .null
  | bool room b =>
    cases b with
    | false =>
      rw [text]
      exact .scalar room .false
    | true =>
      rw [text]
      exact .scalar room .true
  | string room s =>
    rw [text]
    exact .scalar room (scalarText_stringText s)
  | @array room xs _ ih =>
    cases xs with
    | nil =>
      have denotes := Denotes.emptyArray room gap_nil
      rwa [text]
    | cons x xs =>
      -- The first element has no comma in front of it, so it is told apart from the others.
      have elements : ∀ p ∈ (x :: xs).map writtenElement, Denotes room p.1 p.2 :=
        List.forall_mem_map.2 ih
      rw [List.map_cons] at elements
      have denotes := Denotes.array elements
      rw [← toList_elementsText] at denotes
      simpa [text, writtenElement, Function.comp_def] using denotes
  | @object room ms sorted _ ih =>
    cases ms with
    | nil =>
      have denotes := Denotes.emptyObject room gap_nil
      rwa [text]
    | cons m ms =>
      have names : ∀ n ∈ (m :: ms).map writtenMember, NameText n.nameText n.name :=
        List.forall_mem_map.2 fun n _ => nameText_writtenMember n
      have members : ∀ n ∈ (m :: ms).map writtenMember, Denotes room n.valueText n.value :=
        List.forall_mem_map.2 ih
      have same : ((m :: ms).map writtenMember).map (fun n => (n.name, n.value)) = m :: ms := by
        simp [writtenMember, Function.comp_def]
      rw [List.map_cons] at names members same
      have denotes := Denotes.object names members
      rw [same, ofMembers, ofList_of_sorted sorted, ← toList_membersText] at denotes
      simpa [text, writtenMember, SpelledMember.text] using denotes

/-- The text of a regular value denotes that value. -/
theorem read?_text {v : Json} (h : Regular depthLimit v) : read? v.text = some v :=
  read?_of_denotes (denotes_text h)

end WeatherTables.Json
