import WeatherTables.Diagnostics.Record

/-!
# Results with a trace

A computation that reports on the way is a value together with its records, oldest first. The
records of a sequence are those of its parts, one after the other, and never influence a value.
-/

set_option autoImplicit false

namespace WeatherTables

/-- A value and the records written on the way to it, oldest first. -/
structure Traced (α : Type) where
  value : α
  records : List Record
  deriving Repr

namespace Traced

variable {α β : Type}

/-- A computation followed by another that depends on its value. -/
def andThen (first : Traced α) (next : α → Traced β) : Traced β :=
  ⟨(next first.value).value, first.records ++ (next first.value).records⟩

/-- Steps are done one after the other, and the records of the first stand before those of the
next. -/
instance : Monad Traced where
  pure a := ⟨a, []⟩
  bind := andThen

/-- A single record. -/
def report (record : Record) : Traced Unit :=
  ⟨(), [record]⟩

/-- A value without records is the value itself. -/
@[simp] theorem value_pure (a : α) : (pure a : Traced α).value = a := rfl

/-- A value alone writes no record. -/
@[simp] theorem records_pure (a : α) : (pure a : Traced α).records = [] := rfl

/-- The value of two steps is that of the second, done with the value of the first. -/
@[simp] theorem value_bind (first : Traced α) (next : α → Traced β) :
    (first >>= next).value = (next first.value).value := rfl

/-- Two steps leave the records of the first and then those of the second. -/
@[simp] theorem records_bind (first : Traced α) (next : α → Traced β) :
    (first >>= next).records = first.records ++ (next first.value).records := rfl

/-- Writing a record brings no value. -/
@[simp] theorem value_report (record : Record) : (report record).value = () := rfl

/-- Writing a record leaves that record and no other. -/
@[simp] theorem records_report (record : Record) : (report record).records = [record] := rfl

/-! ## Lists of computations -/

/-- The computations of a list one after the other, and their values in order. -/
def inOrder : List (Traced α) → Traced (List α)
  | [] => ⟨[], []⟩
  | t :: ts => ⟨t.value :: (inOrder ts).value, t.records ++ (inOrder ts).records⟩

/-- Done in order, the steps bring their values in that order. -/
theorem value_inOrder (ts : List (Traced α)) : (inOrder ts).value = ts.map Traced.value := by
  induction ts with
  | nil => rfl
  | cons t ts ih => simp [inOrder, ih]

/-- Done in order, the steps leave their records one after the other. -/
theorem records_inOrder (ts : List (Traced α)) :
    (inOrder ts).records = ts.flatMap Traced.records := by
  induction ts with
  | nil => rfl
  | cons t ts ih => simp [inOrder, ih]

end Traced

end WeatherTables
