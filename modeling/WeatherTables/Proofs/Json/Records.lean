import WeatherTables.Json.Decoding
import Mathlib.Data.List.Forall2

/-!
# From which values a record is read

Whether a record can be read from a value depends on each of its fields alone: `succeeds_asRecord_iff`
says so for both forms of a record, the object and the array, and the lemmas before it for the parts that
fields are read from. `induct` is the induction over a value in which lists of values stay lists.
-/

set_option autoImplicit false

namespace WeatherTables

/-- The computation has a value. -/
def Succeeds {ε α : Type} (x : Except ε α) : Prop :=
  ∃ a, x = .ok a

section Results

variable {ε α β : Type}

/-- A computation that ends with a value has one. -/
@[simp] theorem succeeds_ok (a : α) : Succeeds (.ok a : Except ε α) := ⟨a, rfl⟩

/-- A computation that ends with an error has no value. -/
@[simp] theorem not_succeeds_error (e : ε) : ¬ Succeeds (.error e : Except ε α) := nofun

/-- A computation without a value ends with an error. -/
theorem not_succeeds_iff {x : Except ε α} : ¬ Succeeds x ↔ ∃ e, x = .error e := by
  cases x with
  | error e => exact iff_of_true (not_succeeds_error e) ⟨e, rfl⟩
  | ok a => exact iff_of_false (fun h => h (succeeds_ok a)) nofun

/-- Changing the value does not change whether there is one. -/
@[simp] theorem succeeds_map_iff (f : α → β) (x : Except ε α) :
    Succeeds (x.map f) ↔ Succeeds x := by
  cases x with
  | error e => exact iff_of_false (not_succeeds_error e) (not_succeeds_error e)
  | ok a => exact iff_of_true (succeeds_ok (f a)) (succeeds_ok a)

/-- The same for the change as it is written in a monad. -/
@[simp] theorem succeeds_functor_map_iff (f : α → β) (x : Except ε α) :
    Succeeds (f <$> x) ↔ Succeeds x :=
  succeeds_map_iff f x

/-- Changing the error does not change whether there is a value. -/
@[simp] theorem succeeds_mapError_iff {ε' : Type} (f : ε → ε') (x : Except ε α) :
    Succeeds (x.mapError f) ↔ Succeeds x := by
  cases x with
  | error e => exact iff_of_false (not_succeeds_error (f e)) (not_succeeds_error e)
  | ok a => exact iff_of_true (succeeds_ok a) (succeeds_ok a)

/-- Two steps have a value if the first has one and the second has one whatever it is given. -/
theorem succeeds_bind_iff {x : Except ε α} {f : α → Except ε β} {P : Prop}
    (h : ∀ a, Succeeds (f a) ↔ P) : Succeeds (x >>= f) ↔ Succeeds x ∧ P := by
  cases x with
  | error e => exact iff_of_false (not_succeeds_error e) fun both => not_succeeds_error e both.1
  | ok a =>
    rw [and_iff_right (succeeds_ok a)]
    exact h a

/-- The elements of a list can be read one after the other exactly if each of them can be read. -/
theorem succeeds_mapM_iff (f : α → Except ε β) (xs : List α) :
    Succeeds (xs.mapM f) ↔ ∀ x ∈ xs, Succeeds (f x) := by
  induction xs with
  | nil => exact iff_of_true ⟨[], rfl⟩ (List.forall_mem_nil _)
  | cons x xs ih =>
    have rest : ∀ y, Succeeds (xs.mapM f >>= fun ys => pure (y :: ys)) ↔ Succeeds (xs.mapM f) := by
      intro y
      rw [bind_pure_comp, succeeds_functor_map_iff]
    rw [List.mapM_cons, succeeds_bind_iff rest, ih, List.forall_mem_cons]

/-- A fold that gets through a step or not whatever came before gets through a list exactly if it gets
through each of the steps. -/
theorem succeeds_foldlM_iff {f : α → β → Except ε α} {P : β → Prop} {xs : List β}
    (step : ∀ x ∈ xs, ∀ a, Succeeds (f a x) ↔ P x) (start : α) :
    Succeeds (xs.foldlM f start) ↔ ∀ x ∈ xs, P x := by
  induction xs generalizing start with
  | nil => exact iff_of_true ⟨start, rfl⟩ (List.forall_mem_nil P)
  | cons x xs ih =>
    obtain ⟨first, others⟩ := List.forall_mem_cons.1 step
    rw [List.foldlM_cons, succeeds_bind_iff (ih others), first start, List.forall_mem_cons]

/-- Two steps succeed together exactly if each of them does. -/
theorem bind_eq_ok_iff {x : Except ε α} {f : α → Except ε β} {b : β} :
    x >>= f = .ok b ↔ ∃ a, x = .ok a ∧ f a = .ok b := by
  constructor
  · intro h
    cases x with
    | error e => cases h
    | ok a => exact ⟨a, rfl, h⟩
  · rintro ⟨a, rfl, h⟩
    exact h

/-- An error told in other words is still an error. -/
theorem mapError_eq_ok_iff {ε' : Type} {x : Except ε α} {f : ε → ε'} {a : α} :
    x.mapError f = .ok a ↔ x = .ok a := by
  cases x with
  | error e => simp only [Except.mapError, reduceCtorEq]
  | ok b => simp only [Except.mapError, Except.ok.injEq]

/-- A changed value comes from the value before the change. -/
theorem map_eq_ok_iff {x : Except ε α} {f : α → β} {b : β} :
    x.map f = .ok b ↔ ∃ a, x = .ok a ∧ b = f a := by
  cases x with
  | error e => simp only [Except.map, reduceCtorEq, false_and, exists_false]
  | ok a => simp only [Except.map, Except.ok.injEq, exists_eq_left', eq_comm]

/-- A list is read just when its elements are, one by one. -/
theorem mapM_eq_ok_iff {f : α → Except ε β} {xs : List α} {ys : List β} :
    xs.mapM f = .ok ys ↔ List.Forall₂ (fun x y => f x = .ok y) xs ys := by
  induction xs generalizing ys with
  | nil =>
    rw [List.mapM_nil, List.forall₂_nil_left_iff]
    exact ⟨fun h => (Except.ok.inj h).symm, fun h => congrArg Except.ok h.symm⟩
  | cons x xs ih =>
    simp only [List.mapM_cons, bind_eq_ok_iff, ih, List.forall₂_cons_left_iff]
    constructor
    · rintro ⟨y, first, ys', others, same⟩
      exact ⟨y, ys', first, others, (Except.ok.inj same).symm⟩
    · rintro ⟨y, ys', first, others, rfl⟩
      exact ⟨y, first, ys', others, rfl⟩

end Results

section Related

variable {α β : Type} {R : α → β → Prop} {xs : List α} {ys : List β}

/-- Every element of the first list has its counterpart in the second. -/
theorem exists_of_mem_left (h : List.Forall₂ R xs ys) {x : α} (hx : x ∈ xs) : ∃ y ∈ ys, R x y := by
  induction h with
  | nil => cases hx
  | @cons a b xs ys related _ ih =>
    rcases List.mem_cons.1 hx with rfl | later
    · exact ⟨b, List.mem_cons_self, related⟩
    · obtain ⟨y, hy, found⟩ := ih later
      exact ⟨y, List.mem_cons_of_mem b hy, found⟩

/-- Every element of the second list has its counterpart in the first. -/
theorem exists_of_mem_right (h : List.Forall₂ R xs ys) {y : β} (hy : y ∈ ys) : ∃ x ∈ xs, R x y :=
  exists_of_mem_left (R := flip R) h.flip hy

/-- Lists whose elements correspond are empty together. -/
theorem eq_nil_iff_of_forall₂ (h : List.Forall₂ R xs ys) : xs = [] ↔ ys = [] := by
  rw [← List.length_eq_zero_iff, h.length_eq, List.length_eq_zero_iff]

end Related

namespace Json

/-- Induction over a value: a property of all elements of an array, or of the values of all members of
an object, passes to the whole. -/
@[elab_as_elim]
theorem induct {motive : Json → Prop} (null : motive .null) (bool : ∀ b, motive (.bool b))
    (number : ∀ n, motive (.number n)) (string : ∀ s, motive (.string s))
    (array : ∀ xs, (∀ x ∈ xs, motive x) → motive (.array xs))
    (object : ∀ members, (∀ m ∈ members, motive m.2) → motive (.object members)) (v : Json) :
    motive v :=
  @Json.rec motive (fun xs => ∀ x ∈ xs, motive x) (fun members => ∀ m ∈ members, motive m.2)
    (fun m => motive m.2) null bool number string array object (List.forall_mem_nil _)
    (fun _ _ hx hxs => List.forall_mem_cons.2 ⟨hx, hxs⟩) (List.forall_mem_nil _)
    (fun _ _ hm hms => List.forall_mem_cons.2 ⟨hm, hms⟩) (fun _ _ h => h) v

section Parts

variable {α : Type} {read : Json → Except DataError α}

/-- The values that are read as texts are the strings. -/
@[simp] theorem succeeds_asText_iff (v : Json) : Succeeds (asText v) ↔ ∃ s, v = .string s := by
  cases v with
  | string s => exact iff_of_true (succeeds_ok s) ⟨s, rfl⟩
  | null | bool | number | array | object => exact iff_of_false (not_succeeds_error _) nofun

/-- The values that are read as lists are the arrays whose elements can be read. -/
@[simp] theorem succeeds_asList_iff (v : Json) :
    Succeeds (asList read v) ↔ ∃ xs, v = .array xs ∧ ∀ x ∈ xs, Succeeds (read x) := by
  cases v with
  | array xs =>
    simp only [asList, succeeds_mapM_iff, array.injEq, exists_eq_left']
  | null | bool | number | string | object => exact iff_of_false (not_succeeds_error _) nofun

/-- What may be absent is read from null and from all that it is read from otherwise. -/
@[simp] theorem succeeds_optional_iff (v : Json) :
    Succeeds (optional read v) ↔ v = .null ∨ Succeeds (read v) := by
  cases v with
  | null => exact iff_of_true (succeeds_ok none) (.inl rfl)
  | bool | number | string | array | object =>
    simp only [optional, succeeds_map_iff, reduceCtorEq, false_or]

/-- A text is read from the string of its characters. -/
theorem asText_eq_ok_iff {v : Json} {s : String} : asText v = .ok s ↔ v = .string s := by
  cases v with
  | string => simp only [asText, Except.ok.injEq, string.injEq]
  | null | bool | number | array | object => exact iff_of_false nofun nofun

/-- Only null is read as absent. -/
theorem optional_eq_none_iff {v : Json} : optional read v = .ok none ↔ v = .null := by
  cases v with
  | null => exact iff_of_true rfl rfl
  | bool | number | string | array | object =>
    simp only [optional, map_eq_ok_iff, reduceCtorEq, and_false, exists_false]

/-- What was read is absent just when the value is null. -/
theorem eq_null_iff_of_optional {v : Json} {o : Option α} (h : optional read v = .ok o) :
    v = .null ↔ o = none := by
  constructor
  · rintro rfl
    exact (Except.ok.inj h).symm
  · rintro rfl
    exact optional_eq_none_iff.1 h

/-- What was read is there just when the value is not null and was read as it. -/
theorem optional_eq_some_iff {v : Json} {a : α} :
    optional read v = .ok (some a) ↔ v ≠ .null ∧ read v = .ok a := by
  cases v with
  | null => exact iff_of_false nofun fun h => h.1 rfl
  | bool | number | string | array | object =>
    simp only [optional, map_eq_ok_iff, Option.some.injEq, exists_eq_right', ne_eq, reduceCtorEq,
      not_false_eq_true, true_and]

/-- A list is read from the array of values that its elements are read from. -/
theorem asList_eq_ok_iff {v : Json} {ys : List α} :
    asList read v = .ok ys ↔ ∃ xs, v = .array xs ∧ List.Forall₂ (fun x y => read x = .ok y) xs ys := by
  cases v with
  | array xs => simp only [asList, mapM_eq_ok_iff, array.injEq, exists_eq_left']
  | null | bool | number | string | object =>
    simp only [asList, reduceCtorEq, false_and, exists_false]

/-- The elements of an array that may be absent are read one by one. -/
theorem elements_read {v : Json} {o : Option (List α)} (h : optional (asList read) v = .ok o) :
    List.Forall₂ (fun x y => read x = .ok y) (v.elements?.getD []) (o.getD []) := by
  cases o with
  | none =>
    obtain rfl := optional_eq_none_iff.1 h
    exact .nil
  | some ys =>
    obtain ⟨xs, rfl, related⟩ := asList_eq_ok_iff.1 (optional_eq_some_iff.1 h).2
    exact related

end Parts

/-- The values of a record with the given fields: an object whose members are good for their names, or
an array of no more values than there are fields, each good for the field in its place. -/
inductive RecordOf (names : List String) (Field : String → Json → Prop) : Json → Prop where
  | object {members : List (String × Json)} (fields : ∀ m ∈ members, Field m.1 m.2) :
    RecordOf names Field (.object members)
  | array {xs : List Json} (few : xs.length ≤ names.length)
    (fields : ∀ m ∈ names.zip xs, Field m.1 m.2) : RecordOf names Field (.array xs)

/-- No record is null. -/
theorem RecordOf.ne_null {names : List String} {Field : String → Json → Prop} {v : Json}
    (h : RecordOf names Field v) : v ≠ .null := by
  rintro rfl
  cases h

/-- What is directly inside a value. -/
def Inside (v x : Json) : Prop :=
  match v with
  | .object members => ∃ name, (name, x) ∈ members
  | .array xs => x ∈ xs
  | _ => False

section Fields

variable {α : Type} {expected : String} {names : List String}
  {set : α → String → Json → Except DataError α} {Field : String → Json → Prop}

/-- Named values are taken in just when each is good for its name, if this is so for every step. -/
theorem succeeds_fields_iff {members : List (String × Json)}
    (step : ∀ m ∈ members, ∀ r name, Succeeds (set r name m.2) ↔ Field name m.2) (start : α) :
    Succeeds (members.foldlM (fun r m => set r m.1 m.2) start) ↔ ∀ m ∈ members, Field m.1 m.2 :=
  succeeds_foldlM_iff (fun m hm r => step m hm r m.1) start

/-- A record is read exactly from the values all of whose fields are read, if it does not matter for a
field what was read before it. -/
theorem succeeds_asRecord_iff {v : Json}
    (step : ∀ x, v.Inside x → ∀ r name, Succeeds (set r name x) ↔ Field name x) (start : α) :
    Succeeds (asRecord expected names set start v) ↔ RecordOf names Field v := by
  cases v with
  | object members =>
    rw [asRecord, succeeds_fields_iff (fun m hm => step m.2 ⟨m.1, hm⟩) start]
    constructor
    · exact .object
    · rintro ⟨fields⟩
      exact fields
  | array xs =>
    have few : ∀ r : α, Succeeds (if names.length < xs.length then .error (.tooLong xs.length)
        else .ok r : Except DataError α) ↔ xs.length ≤ names.length := by
      intro r
      split
      · exact iff_of_false (not_succeeds_error _) (by omega)
      · exact iff_of_true (succeeds_ok r) (by omega)
    rw [asRecord, succeeds_bind_iff few,
      succeeds_fields_iff (fun m hm => step m.2 (List.of_mem_zip hm).2) start]
    constructor
    · rintro ⟨fields, short⟩
      exact .array short fields
    · intro h
      cases h with
      | array short fields => exact ⟨fields, short⟩
  | null | bool | number | string => exact iff_of_false (not_succeeds_error _) nofun

end Fields

end Json

end WeatherTables
