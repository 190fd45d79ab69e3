import WeatherTables.Diagnostics.Record

/-!
# Histories

What a fetch did: the addresses it requested and the records it wrote. Histories are appended in the
order of time, and `requests_append` and `records_append` say that nothing is lost by it.
-/

set_option autoImplicit false

namespace WeatherTables

/-- The requests sent and the records written, in order. -/
structure History where
  requests : List String
  records : List Record
  deriving DecidableEq, Repr

namespace History

/-- Nothing happened. -/
def empty : History :=
  ⟨[], []⟩

/-- One history after another. -/
def append (first second : History) : History :=
  ⟨first.requests ++ second.requests, first.records ++ second.records⟩

/-- Histories are put one after the other with `++`. -/
instance : Append History := ⟨append⟩

/-- Nothing was requested in the empty history. -/
@[simp] theorem requests_empty : empty.requests = [] := rfl

/-- Nothing was written in the empty history. -/
@[simp] theorem records_empty : empty.records = [] := rfl

/-- The requests of two histories are those of the first and then those of the second. -/
@[simp] theorem requests_append (first second : History) :
    (first ++ second).requests = first.requests ++ second.requests := rfl

/-- The records of two histories are those of the first and then those of the second. -/
@[simp] theorem records_append (first second : History) :
    (first ++ second).records = first.records ++ second.records := rfl

/-- It does not matter which of three histories are put together first. -/
theorem append_assoc (first second third : History) :
    first ++ second ++ third = first ++ (second ++ third) := by
  show History.append (History.append first second) third =
    History.append first (History.append second third)
  simp only [append, List.append_assoc]

/-- The empty history in front adds nothing. -/
theorem empty_append (h : History) : empty ++ h = h := rfl

/-- The empty history at the end adds nothing. -/
theorem append_empty (h : History) : h ++ empty = h := by
  show History.append h empty = h
  simp only [append, requests_empty, records_empty, List.append_nil]

end History

end WeatherTables
