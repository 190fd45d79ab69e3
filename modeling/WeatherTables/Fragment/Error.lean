/-!
# Why a leaf of a filter is dropped

A leaf that cannot become a query parameter is reported and dropped; its siblings stay. Four of the
causes carry a code of the form `E-VS-OWFS-n`, with which their texts begin.
-/

set_option autoImplicit false

namespace WeatherTables

/-- Why one leaf of a filter has no query parameter. -/
inductive LeafError where
  | unknownColumn (column : String)
  | looksNumeric (column value : String)
  | notNumeric (column value : String)
  | notWhole (column value : String)
  | noColumnWithLiteral (found : String)
  | unknownPredicate (kind : String)
  deriving DecidableEq, Repr

namespace LeafError

/-- The code of the error, if it has one. -/
def code? : LeafError → Option String
  | .unknownColumn _ => some "E-VS-OWFS-1"
  | .looksNumeric _ _ => some "E-VS-OWFS-2"
  | .notNumeric _ _ => some "E-VS-OWFS-3"
  | .notWhole _ _ => some "E-VS-OWFS-5"
  | .noColumnWithLiteral _ => none
  | .unknownPredicate _ => none

/-- The text of the error. -/
def message : LeafError → String
  | .unknownColumn column =>
    "E-VS-OWFS-1 Filtering not supported on column " ++ column ++
      " in PREDICATE_EQUAL expression."
  | .looksNumeric column value =>
    "E-VS-OWFS-2 " ++ column ++ " column filter does not accept numbers. Found <" ++ value ++ ">."
  | .notNumeric column value =>
    "E-VS-OWFS-3 " ++ column ++ " column filter only accepts numbers. Found <" ++ value ++ ">."
  | .notWhole column value =>
    "E-VS-OWFS-5 " ++ column ++ " column filter only accepts whole numbers. Found <" ++ value ++
      ">."
  | .noColumnWithLiteral found =>
    "Equality predicate must compare exactly one column with one literal, found " ++ found
  | .unknownPredicate kind =>
    "Predicate type '" ++ kind ++ "' cannot be translated into an API parameter"

end LeafError

end WeatherTables
