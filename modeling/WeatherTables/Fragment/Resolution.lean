import WeatherTables.Diagnostics.Traced
import WeatherTables.Filter.Basic
import WeatherTables.Fragment.Basic
import WeatherTables.Fragment.Rule

/-!
# From filters to fragments

Every leaf of a filter is resolved on its own and leaves one record: the fragment it became, or why
it was dropped. It does not matter which side of an equality holds the column.
-/

set_option autoImplicit false

namespace WeatherTables

namespace RuleTable

/-- The column and the value that an equality compares. -/
def sides (left right : Operand) : Except LeafError (String × String) :=
  match left, right with
  | .column name, .literal value => .ok (name, value)
  | .literal value, .column name => .ok (name, value)
  | left, right => .error (.noColumnWithLiteral (left.text ++ " = " ++ right.text))

/-- The fragment of an equality. -/
def resolve (rules : RuleTable) (left right : Operand) : Except LeafError Fragment :=
  match sides left right with
  | .error e => .error e
  | .ok (column, value) =>
    match rules.find column with
    | .error e => .error e
    | .ok rule => (rule.accept value).map fun accepted => ⟨rule.parameter, accepted⟩

end RuleTable

namespace Filter

/-- A leaf without a fragment. -/
def dropped (e : LeafError) : Traced FragmentTree :=
  ⟨.leaf none, [.warning e.message]⟩

/-- The record of an equality that became a fragment. -/
def resolved (left right : Operand) (f : Fragment) : Record :=
  .info ("Filter " ++ left.text ++ " = " ++ right.text ++ " translated to <" ++ f.text ++ ">")

/-- The leaf of an equality. -/
def resolveEqual (rules : RuleTable) (left right : Operand) : Traced FragmentTree :=
  match rules.resolve left right with
  | .ok f => ⟨.leaf (some f), [resolved left right f]⟩
  | .error e => dropped e

/-- The leaf of one value of a constant list. -/
def resolveMember (rules : RuleTable) (column value : String) : Traced FragmentTree :=
  resolveEqual rules (.column column) (.literal value)

/-- The tree of a connective, over the trees of its children. -/
def combine (connective : List FragmentTree → FragmentTree)
    (children : Traced (List FragmentTree)) : Traced FragmentTree :=
  ⟨connective children.value, children.records⟩

mutual

/-- The fragments of a filter, with a record for each of its leaves. -/
def resolve (rules : RuleTable) : Filter → Traced FragmentTree
  | .all children => combine .all (resolveList rules children)
  | .any children => combine .any (resolveList rules children)
  | .inList column values => combine .any (.inOrder (values.map (resolveMember rules column)))
  | .equal left right => resolveEqual rules left right
  | .other kind => dropped (.unknownPredicate kind)

/-- The fragments of the filters of a list, in order. -/
def resolveList (rules : RuleTable) : List Filter → Traced (List FragmentTree)
  | [] => ⟨[], []⟩
  | f :: fs =>
    ⟨(resolve rules f).value :: (resolveList rules fs).value,
      (resolve rules f).records ++ (resolveList rules fs).records⟩

end

/-- The filters of a list are resolved each on its own, in order. -/
theorem resolveList_eq_inOrder (rules : RuleTable) (fs : List Filter) :
    resolveList rules fs = .inOrder (fs.map (resolve rules)) := by
  induction fs with
  | nil => rfl
  | cons f fs ih => simp [resolveList, Traced.inOrder, ih]

end Filter

end WeatherTables
