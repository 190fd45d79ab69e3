/-!
# Filters

A filter is a tree of conjunctions and disjunctions over equalities and constant lists. Its text
form puts a child in brackets exactly where it binds less tightly than its parent asks.
-/

set_option autoImplicit false

namespace WeatherTables

/-- One side of an equality. An operand of another kind is neither column nor literal. -/
inductive Operand where
  | column (name : String)
  | literal (value : String)
  | other (kind : String)
  deriving DecidableEq, Repr

/-- The text form of an operand. -/
def Operand.text : Operand → String
  | .column name => name
  | .literal value => "'" ++ value ++ "'"
  | .other kind => "<" ++ kind ++ ">"

/-- A filter predicate. A predicate of another kind is known only by its name. -/
inductive Filter where
  | all (children : List Filter)
  | any (children : List Filter)
  | inList (column : String) (values : List String)
  | equal (left right : Operand)
  | other (kind : String)
  deriving Repr

namespace Filter

/-- The equality of a column with one value of its list. -/
def member (column value : String) : Filter :=
  .equal (.column column) (.literal value)

/-! ## Constant lists -/

mutual

/-- The filter with every constant list written as a disjunction of equalities. -/
def expand : Filter → Filter
  | .all children => .all (expandList children)
  | .any children => .any (expandList children)
  | .inList column values => .any (values.map (member column))
  | .equal left right => .equal left right
  | .other kind => .other kind

/-- Every filter of the list, expanded. -/
def expandList : List Filter → List Filter
  | [] => []
  | f :: fs => expand f :: expandList fs

end

/-- The filters of a list are expanded each on its own. -/
theorem expandList_eq_map (fs : List Filter) : expandList fs = fs.map expand := by
  induction fs with
  | nil => rfl
  | cons f fs ih => simp [expandList, ih]

/-! ## Leaves -/

mutual

/-- The number of leaves. Each value of a constant list is one. -/
def leafCount : Filter → Nat
  | .all children => leafCountList children
  | .any children => leafCountList children
  | .inList _ values => values.length
  | .equal _ _ => 1
  | .other _ => 1

/-- The leaves of all filters of the list together. -/
def leafCountList : List Filter → Nat
  | [] => 0
  | f :: fs => leafCount f + leafCountList fs

end

/-! ## Text -/

/-- How tightly the outermost connective binds. -/
def tightness : Filter → Nat
  | .any _ => 1
  | .all _ => 2
  | .inList _ _ => 3
  | .equal _ _ => 3
  | .other _ => 3

/-- The text of a child below a connective that asks it to bind at least so tightly. -/
def bracketed (child : Filter) (least : Nat) (body : String) : String :=
  if child.tightness < least then "(" ++ body ++ ")" else body

mutual

/-- The text form of a filter. A connective over no filters is written as what always holds. -/
def text : Filter → String
  | .all [] => "TRUE"
  | .all (f :: fs) => bracketed f 3 (text f) ++ joinedText " AND " 3 fs
  | .any [] => "TRUE"
  | .any (f :: fs) => bracketed f 2 (text f) ++ joinedText " OR " 2 fs
  | .inList column values =>
    column ++ " IN (" ++ ", ".intercalate (values.map fun v => "'" ++ v ++ "'") ++ ")"
  | .equal left right => left.text ++ " = " ++ right.text
  | .other kind => "<" ++ kind ++ ">"

/-- The texts of the filters after the first, each after the connective. -/
def joinedText (connective : String) (least : Nat) : List Filter → String
  | [] => ""
  | f :: fs => connective ++ bracketed f least (text f) ++ joinedText connective least fs

end

end Filter

end WeatherTables
