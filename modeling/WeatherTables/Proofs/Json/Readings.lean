import WeatherTables.Proofs.Json.Members
import WeatherTables.Proofs.Json.Soundness
import Mathlib.Data.String.Basic

/-!
# What a path reads

Only a string or a number at the end of a path is ever of use (`reading?`). Two changes of a value leave a
reading alone. Members that are null can be left out anywhere (`reading?_without`), as long as the names in
each object differ, which they do in every value that is read from a text (`namesDiffer_of_read?`). And a
member can be put anywhere but on the path itself (`reading?_put`).
-/

set_option autoImplicit false

namespace WeatherTables

/-! ## Positions in an array -/

namespace Decimal

/-- A digit is written for the number that it stands for. -/
theorem digitChar_of_isDigit {c : Char} (h : c.isDigit = true) : Nat.digitChar (c.toNat - 48) = c := by
  obtain ⟨low, high⟩ := Char.isDigit_iff_toNat.1 h
  have low : 48 ≤ c.toNat := low
  have high : c.toNat ≤ 57 := high
  have digits : ∀ n, n < 10 → Nat.digitChar n = Char.ofNat (n + 48) := by decide
  rw [digits _ (by omega), Nat.sub_add_cancel low, Char.ofNat_toNat]

/-- Digits without a needless zero are the digits of the number that they denote. -/
theorem toDigits_ofDigitChars {cs : List Char} (nonempty : cs ≠ [])
    (digits : ∀ c ∈ cs, c.isDigit = true) (first : cs.head? ≠ some '0') :
    Nat.toDigits 10 (Nat.ofDigitChars 10 cs 0) = cs := by
  induction cs using List.reverseRecOn with
  | nil => exact absurd rfl nonempty
  | append_singleton cs c ih =>
    have last : c.isDigit = true := digits c (by simp)
    have small : c.toNat - 48 < 10 := by
      have high : c.toNat ≤ 57 := (Char.isDigit_iff_toNat.1 last).2
      omega
    have one : Nat.toDigits 10 (c.toNat - 48) = [c] := by
      rw [Nat.toDigits_of_lt_base small, digitChar_of_isDigit last]
    have value : Nat.ofDigitChars 10 (cs ++ [c]) 0 =
        10 * Nat.ofDigitChars 10 cs 0 + (c.toNat - 48) := by
      rw [Nat.ofDigitChars_append, Nat.ofDigitChars_cons, Nat.ofDigitChars_nil]
      rfl
    cases cs with
    | nil => rw [value, Nat.ofDigitChars_nil, Nat.mul_zero, Nat.zero_add, one, List.nil_append]
    | cons d ds =>
      have before := ih (List.cons_ne_nil d ds) (fun c hc => digits c (List.mem_append_left _ hc)) first
      -- A zero in front would be lost, and only then is the number of the digits before the last zero.
      have positive : 0 < Nat.ofDigitChars 10 (d :: ds) 0 := by
        rw [Nat.pos_iff_ne_zero]
        intro zero
        rw [zero, Nat.toDigits_zero] at before
        cases before
        exact first rfl
      rw [value, ← Nat.toDigits_append_toDigits (by omega) positive small, before, one]

end Decimal

namespace Json

/-- A step that names a position is the number of the position. -/
theorem eq_of_position? {step : String} {i : Nat} (h : position? step = some i) :
    step.toList = Nat.toDigits 10 i := by
  unfold position? at h
  split at h
  · next zero =>
    cases h
    rw [zero, Nat.toDigits_zero]
  · cases h
  · next cs notZero notPadded =>
    obtain ⟨read, -⟩ := Option.filter_eq_some_iff.1 h
    unfold Decimal.natural? at read
    split at read
    · next digits =>
      rw [Bool.and_eq_true, Bool.not_eq_true', List.all_eq_true] at digits
      cases read
      refine (Decimal.toDigits_ofDigitChars ?_ digits.2 ?_).symm
      · exact List.isEmpty_eq_false_iff.1 digits.1
      · intro first
        obtain ⟨rest, written⟩ := List.head?_eq_some_iff.1 first
        exact notPadded rest written
    · cases read

/-- Two steps that name the same position are the same step. -/
theorem position?_inj {step other : String} {i : Nat} (h : position? step = some i)
    (hother : position? other = some i) : step = other :=
  String.toList_injective ((eq_of_position? h).trans (eq_of_position? hother).symm)

/-! ## Readings -/

/-- The value itself, if it is a string or a number. -/
def scalar? : Json → Option Json
  | .string s => some (.string s)
  | .number n => some (.number n)
  | _ => none

/-- The string or number that a path leads to. -/
def reading? (path : List String) (v : Json) : Option Json :=
  (v.at? path).bind scalar?

/-- A path is followed step by step. -/
theorem reading?_cons (step : String) (path : List String) (v : Json) :
    v.reading? (step :: path) = (v.step? step).bind (reading? path) :=
  Option.bind_assoc _ _ _

/-- No path leads to anything in null. -/
theorem reading?_null (path : List String) : Json.null.reading? path = none := by
  cases path <;> rfl

end Json

/-! ## Names that differ -/

namespace Members

/-- A member that is found is there, with its name. -/
theorem mem_of_find? {name : String} {v : Json} {ms : Members} (h : find? name ms = some v) :
    (name, v) ∈ ms := by
  induction ms with
  | nil => cases h
  | cons m ms ih =>
    obtain ⟨other, kept⟩ := m
    rw [find?] at h
    split at h
    · next same =>
      cases h
      rw [same]
      exact List.mem_cons_self
    · exact List.mem_cons_of_mem _ (ih h)

/-- After a member was put in, every member is that one or was there before. -/
theorem mem_insert {name : String} {v : Json} {ms : Members} {m : String × Json}
    (h : m ∈ insert name v ms) : m = (name, v) ∨ m ∈ ms := by
  induction ms with
  | nil => exact .inl (List.mem_singleton.1 h)
  | cons n ms ih =>
    obtain ⟨other, kept⟩ := n
    unfold insert at h
    split_ifs at h
    · exact List.mem_cons.1 h
    · rcases List.mem_cons.1 h with new | old
      · exact .inl new
      · exact .inr (List.mem_cons_of_mem _ old)
    · rcases List.mem_cons.1 h with kept | later
      · exact .inr (kept ▸ List.mem_cons_self)
      · exact (ih later).imp_right (List.mem_cons_of_mem _)

/-- The members stay sorted by name. -/
theorem pairwise_insert {ms : Members} (sorted : ms.Pairwise fun a b => a.1 < b.1) (name : String)
    (v : Json) : (insert name v ms).Pairwise fun a b => a.1 < b.1 := by
  induction ms with
  | nil => exact List.pairwise_singleton _ _
  | cons n ms ih =>
    obtain ⟨other, kept⟩ := n
    obtain ⟨least, rest⟩ := List.pairwise_cons.1 sorted
    unfold insert
    split_ifs with before same
    · refine List.pairwise_cons.2 ⟨List.forall_mem_cons.2 ⟨before, fun m hm => ?_⟩, sorted⟩
      exact String.lt_trans before (least m hm)
    · exact List.pairwise_cons.2 ⟨same ▸ least, rest⟩
    · refine List.pairwise_cons.2 ⟨fun m hm => ?_, ih rest⟩
      rcases mem_insert hm with rfl | later
      · exact lt_of_le_of_ne (not_lt.1 before) (Ne.symm same)
      · exact least m later

/-- The members of an object are sorted by name. -/
theorem pairwise_ofList (ms : List (String × Json)) : (ofList ms).Pairwise fun a b => a.1 < b.1 := by
  induction ms using List.reverseRecOn with
  | nil => exact List.Pairwise.nil
  | append_singleton ms m ih =>
    rw [ofList_concat]
    exact pairwise_insert ih m.1 m.2

/-- Every member of an object stands in the list that it was made from. -/
theorem mem_ofList {ms : List (String × Json)} {m : String × Json} (h : m ∈ ofList ms) : m ∈ ms := by
  induction ms using List.reverseRecOn with
  | nil => cases h
  | append_singleton ms last ih =>
    rw [ofList_concat] at h
    rw [List.mem_append, List.mem_singleton]
    exact (mem_insert h).symm.imp_left ih

end Members

namespace Json

/-- The members of each object in the value have different names. -/
inductive NamesDiffer : Json → Prop where
  | null : NamesDiffer .null
  | bool (b : Bool) : NamesDiffer (.bool b)
  | number (n : Number) : NamesDiffer (.number n)
  | string (s : String) : NamesDiffer (.string s)
  | array {xs : List Json} (elements : ∀ x ∈ xs, NamesDiffer x) : NamesDiffer (.array xs)
  | object {ms : Members} (names : (ms.map Prod.fst).Nodup) (members : ∀ m ∈ ms, NamesDiffer m.2) :
    NamesDiffer (.object ms)

/-- No text denotes a value with an object in which a name stands twice. -/
theorem namesDiffer_of_denotes {room : Nat} {text : List Char} {v : Json} (h : Denotes room text v) :
    NamesDiffer v := by
  induction h with
  | scalar room isScalar =>
    cases isScalar with
    | null => exact .null
    | true | false => exact .bool _
    | number numeral value => exact .number _
    | string isInside => exact .string _
  | padded gapBefore denotes gapAfter ih => exact ih
  | emptyArray room isGap => exact .array (List.forall_mem_nil _)
  | array elements ih =>
    refine .array (List.forall_mem_cons.2 ⟨ih _ List.mem_cons_self, ?_⟩)
    exact List.forall_mem_map.2 fun p hp => ih p (List.mem_cons_of_mem _ hp)
  | emptyObject room isGap => exact .object List.nodup_nil (List.forall_mem_nil _)
  | object names members ih =>
    refine .object ?_ fun m hm => ?_
    · exact List.pairwise_map.2 ((Members.pairwise_ofList _).imp fun before => ne_of_lt before)
    · obtain ⟨spelled, hspelled, rfl⟩ := List.mem_map.1 (Members.mem_ofList hm)
      exact ih spelled hspelled

/-- In a value that was read the names of each object differ. -/
theorem namesDiffer_of_read? {s : String} {v : Json} (h : read? s = some v) : NamesDiffer v :=
  namesDiffer_of_denotes ((read?_eq_some_iff s v).1 h)

/-! ## Members that are null -/

mutual

/-- The value without the null members in the chosen places. A place is the path to the member. -/
def without (chosen : List String → Bool) : Json → Json
  | .null => .null
  | .bool b => .bool b
  | .number n => .number n
  | .string s => .string s
  | .array xs => .array (withoutFrom chosen 0 xs)
  | .object ms => .object (withoutAmong chosen ms)

/-- The elements of an array, from the given position on, without the null members in the chosen
places. -/
def withoutFrom (chosen : List String → Bool) : Nat → List Json → List Json
  | _, [] => []
  | i, x :: xs =>
    without (fun place => chosen (toString i :: place)) x :: withoutFrom chosen (i + 1) xs

/-- The members of an object without the null members in the chosen places. -/
def withoutAmong (chosen : List String → Bool) : List (String × Json) → List (String × Json)
  | [] => []
  | (name, v) :: ms =>
    if v.isNull && chosen [name] then withoutAmong chosen ms
    else (name, without (fun place => chosen (name :: place)) v) :: withoutAmong chosen ms

end

/-- The elements of an array stay in their places, each without its chosen nulls. -/
theorem getElem?_withoutFrom (chosen : List String → Bool) (i : Nat) (xs : List Json) (j : Nat) :
    (withoutFrom chosen i xs)[j]? =
      xs[j]?.map (without fun place => chosen (toString (i + j) :: place)) := by
  induction xs generalizing i j with
  | nil => rfl
  | cons x xs ih =>
    cases j with
    | zero => rfl
    | succ j =>
      rw [withoutFrom, List.getElem?_cons_succ, List.getElem?_cons_succ, ih, Nat.add_right_comm,
        Nat.add_assoc]

/-- A member is found without its own chosen nulls, unless it is a null that was chosen itself. -/
theorem find?_withoutAmong (chosen : List String → Bool) {ms : Members}
    (names : (ms.map Prod.fst).Nodup) (name : String) :
    Members.find? name (withoutAmong chosen ms) = (Members.find? name ms).bind fun v =>
      if v.isNull && chosen [name] then none
      else some (without (fun place => chosen (name :: place)) v) := by
  induction ms with
  | nil => rfl
  | cons m ms ih =>
    obtain ⟨other, v⟩ := m
    rw [List.map_cons, List.nodup_cons] at names
    have rest := ih names.2
    rw [withoutAmong, Members.find?]
    by_cases same : other = name
    · subst same
      -- No other member has the name, so none takes the place of one that is left out.
      have absent : Members.find? other ms = none := Members.find?_eq_none_iff.2 names.1
      rw [absent, Option.bind_none] at rest
      rw [if_pos rfl, Option.bind_some]
      split
      · exact rest
      · rw [Members.find?, if_pos rfl]
    · rw [if_neg same]
      split
      · exact rest
      · rw [Members.find?, if_neg same, rest]

/-- Deleting nulls below a value does not change whether it is a string or a number, nor which. -/
theorem scalar?_without (chosen : List String → Bool) (v : Json) :
    (v.without chosen).scalar? = v.scalar? := by
  cases v with
  | null | bool | number | string | array | object => simp only [without, scalar?]

/-- What a path reads does not change when null members are left out. -/
theorem reading?_without {v : Json} (h : NamesDiffer v) (chosen : List String → Bool)
    (path : List String) : (v.without chosen).reading? path = v.reading? path := by
  induction path generalizing v chosen with
  | nil => exact scalar?_without chosen v
  | cons step path ih =>
    rw [reading?_cons, reading?_cons]
    cases h with
    | null | bool | number | string => rw [without]
    | array elements =>
      rw [without, step?, step?]
      cases position? step with
      | none => rfl
      | some i =>
        rw [Option.bind_some, Option.bind_some, getElem?_withoutFrom, Option.bind_map]
        exact Option.bind_congr fun x hx => ih (elements x (List.mem_of_getElem? hx)) _
    | object names members =>
      rw [without, step?, step?, find?_withoutAmong chosen names, Option.bind_assoc]
      refine Option.bind_congr fun v hv => ?_
      split
      · next gone =>
        -- What is left out was null, and nothing was read below it.
        cases v with
        | null => rw [Option.bind_none, reading?_null]
        | bool | number | string | array | object => cases gone
      · rw [Option.bind_some, ih (members _ (Members.mem_of_find? hv))]

/-! ## Members that are put -/

/-- The object with the member, in place of one of its name if there is one. -/
def insertMember (name : String) (member : Json) (v : Json) : Json :=
  match v with
  | .object ms => .object (Members.insert name member ms)
  | v => v

/-- The value with the part changed that the path leads to, if it leads to one. -/
def modifyAt (f : Json → Json) : List String → Json → Json
  | [], v => f v
  | step :: path, .object ms =>
    .object (ms.map fun m => (m.1, if m.1 = step then modifyAt f path m.2 else m.2))
  | step :: path, .array xs =>
    match position? step with
    | some i => .array (xs.modify i (modifyAt f path))
    | none => .array xs
  | _ :: _, v => v

/-- The value with a member put into the object that the path leads to, if it leads to one. -/
def put (path : List String) (name : String) (member : Json) : Json → Json :=
  modifyAt (insertMember name member) path

/-- When all values are changed under their names, what is found is changed under its name. -/
theorem find?_map_value (f : String → Json → Json) (name : String) (ms : Members) :
    Members.find? name (ms.map fun m => (m.1, f m.1 m.2)) = (Members.find? name ms).map (f name) := by
  induction ms with
  | nil => rfl
  | cons m ms ih =>
    obtain ⟨other, v⟩ := m
    rw [List.map_cons, Members.find?, Members.find?]
    by_cases found : other = name
    · rw [if_pos found, if_pos found, found, Option.map_some]
    · rw [if_neg found, if_neg found, ih]

/-- A step into a value that was changed somewhere below a step. -/
theorem step?_modifyAt (f : Json → Json) (step : String) (path : List String) (other : String)
    (v : Json) :
    step? other (modifyAt f (step :: path) v) =
      (step? other v).map fun w => if other = step then modifyAt f path w else w := by
  cases v with
  | null | bool | number | string => rfl
  | object ms =>
    rw [modifyAt, step?, step?]
    exact find?_map_value (fun name w => if name = step then modifyAt f path w else w) other ms
  | array xs =>
    rw [modifyAt]
    cases there : position? other with
    | none =>
      cases position? step with
      | none => simp [step?, there]
      | some i => simp [step?, there]
    | some j =>
      cases here : position? step with
      | none =>
        have differ : other ≠ step := by
          rintro rfl
          rw [here] at there
          cases there
        simp [step?, there, differ]
      | some i =>
        have same : i = j ↔ other = step := by
          constructor
          · rintro rfl
            exact position?_inj there here
          · rintro rfl
            exact Option.some.inj (here.symm.trans there)
        simp [step?, there, List.getElem?_modify, same]

/-- Another member does not change where a step leads. -/
theorem step?_insertMember {step name : String} (differ : name ≠ step) (member v : Json) :
    step? step (insertMember name member v) = step? step v := by
  cases v with
  | null | bool | number | string | array => rfl
  | object ms => rw [insertMember, step?, step?, Members.find?_insert, if_neg differ]

/-- Putting a member somewhere into a value does not make it a string or a number, nor another one. -/
theorem scalar?_put (path : List String) (name : String) (member v : Json) :
    scalar? (put path name member v) = scalar? v := by
  cases path with
  | nil => cases v <;> rfl
  | cons step path =>
    cases v with
    | null | bool | number | string | object => rfl
    | array xs =>
      rw [put, modifyAt]
      split <;> rfl

/-- What a path reads does not change when a member is put beside the path. -/
theorem reading?_put {place path : List String} {name : String} (beside : ¬ place ++ [name] <+: path)
    (member v : Json) : (put place name member v).reading? path = v.reading? path := by
  induction path generalizing place v with
  | nil => exact scalar?_put place name member v
  | cons step path ih =>
    rw [reading?_cons, reading?_cons]
    cases place with
    | nil =>
      have differ : name ≠ step := by
        rintro rfl
        exact beside (List.prefix_append [name] path)
      rw [put, modifyAt, step?_insertMember differ]
    | cons first place =>
      rw [put, step?_modifyAt, Option.bind_map]
      refine Option.bind_congr fun w _ => ?_
      rw [Function.comp_apply]
      split
      · next same =>
        rw [same, List.cons_append, List.prefix_cons_inj] at beside
        exact ih beside w
      · rfl

/-- A member to be put into the object that a path leads to. -/
structure Edit where
  path : List String
  name : String
  member : Json

/-- The path to the member. -/
def Edit.place (e : Edit) : List String :=
  e.path ++ [e.name]

/-- The value with the members put into it, one after the other. -/
def edited (edits : List Edit) (v : Json) : Json :=
  edits.foldl (fun v e => put e.path e.name e.member v) v

/-- An object stays one. -/
theorem exists_put_object (path : List String) (name : String) (member : Json) (ms : Members) :
    ∃ others, put path name member (.object ms) = .object others := by
  cases path <;> exact ⟨_, rfl⟩

end Json

end WeatherTables
