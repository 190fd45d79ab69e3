import WeatherTables.Fragment.Basic

/-!
# Parameter bundles

The fragments of a filter, arranged by the calls they lead to. A bundle is either one text or a list
of entries; an entry is a text of its own or a group of texts for one call. Alternatives become
entries; conditions that hold together become a group when they filter different things.
-/

set_option autoImplicit false

namespace WeatherTables

/-- One entry of a list bundle. -/
inductive Bundle.Entry where
  | single (text : Option String)
  | group (texts : List (Option String))
  deriving DecidableEq, Repr

/-- The parameters that a filter leads to. -/
inductive Bundle where
  | scalar (text : String)
  | list (entries : List Bundle.Entry)
  deriving DecidableEq, Repr

namespace Bundle

/-- The bundle of nothing. -/
def empty : Bundle :=
  .list []

/-- Whether the bundle is the bundle of nothing. -/
def isEmpty : Bundle → Bool
  | .scalar _ => false
  | .list entries => entries.isEmpty

/-- Only the bundle of nothing is found to be empty. -/
theorem isEmpty_iff (b : Bundle) : b.isEmpty = true ↔ b = .empty := by
  cases b <;> simp [isEmpty, empty]

/-- The entry of a fragment that is asked for on its own. -/
def entryOf (f : Fragment) : Entry :=
  .single (some f.text)

/-- Whether all fragments filter the same thing. -/
def sameParameter : List Fragment → Bool
  | [] => true
  | f :: fs => fs.all fun g => g.parameter = f.parameter

/-- The entries of fragments that hold together. Fragments that filter the same thing cannot be
asked for in one call and stay apart. -/
def conjunction (fragments : List Fragment) : List Entry :=
  if sameParameter fragments then fragments.map entryOf
  else [.group (fragments.map fun f => some f.text)]

mutual

/-- The entries of a fragment tree. -/
def entriesOf : FragmentTree → List Entry
  | .leaf none => []
  | .leaf (some f) => [entryOf f]
  | .any children => entriesOfAll children
  | .all children => conjunction (FragmentTree.fragmentsOf children)

/-- The entries of the trees of a list, in order. -/
def entriesOfAll : List FragmentTree → List Entry
  | [] => []
  | t :: ts => entriesOf t ++ entriesOfAll ts

end

/-- The entries of a list of trees are those of its trees, one tree after the other. -/
theorem entriesOfAll_eq_flatMap (ts : List FragmentTree) :
    entriesOfAll ts = ts.flatMap entriesOf := by
  induction ts with
  | nil => rfl
  | cons t ts ih => simp [entriesOfAll, ih]

/-- The bundle of a fragment tree. A single fragment stays a single text. -/
def ofTree : FragmentTree → Bundle
  | .leaf (some f) => .scalar f.text
  | tree => .list (entriesOf tree)

end Bundle

end WeatherTables
