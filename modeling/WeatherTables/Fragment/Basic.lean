/-!
# Fragments

A leaf of a filter becomes a fragment, the text of one query parameter. The fragments of a filter
keep its nesting, so that alternatives can be told from conditions that hold together.
-/

set_option autoImplicit false

namespace WeatherTables

/-- A query parameter: how it starts, which also tells what is filtered, and its value. -/
structure Fragment where
  parameter : String
  value : String
  deriving DecidableEq, Repr

/-- The text of the parameter. -/
def Fragment.text (f : Fragment) : String :=
  f.parameter ++ f.value

/-- The fragments of a filter in its nesting. A leaf that was dropped is `none`. -/
inductive FragmentTree where
  | leaf (fragment : Option Fragment)
  | all (children : List FragmentTree)
  | any (children : List FragmentTree)
  deriving Repr

namespace FragmentTree

mutual

/-- The fragments of the tree in order. -/
def fragments : FragmentTree → List Fragment
  | .leaf fragment => fragment.toList
  | .all children => fragmentsOf children
  | .any children => fragmentsOf children

/-- The fragments of the trees of a list, in order. -/
def fragmentsOf : List FragmentTree → List Fragment
  | [] => []
  | t :: ts => fragments t ++ fragmentsOf ts

end

/-- The fragments of a list of trees are those of its trees, one tree after the other. -/
theorem fragmentsOf_eq_flatMap (ts : List FragmentTree) :
    fragmentsOf ts = ts.flatMap fragments := by
  induction ts with
  | nil => rfl
  | cons t ts ih => simp [fragmentsOf, ih]

end FragmentTree

end WeatherTables
