import WeatherTables.Filter.Basic
import WeatherTables.Json.Decoding

/-!
# Filters from the query planner

The planner serializes a predicate as a loosely typed record: a list has `expression` and
`arguments`, a connective has `expressions`, an equality has `left` and `right`. `Filter.ofJson`
reads the record and decides once which kind of predicate it is; arguments decide before
expressions, and expressions before operands.
-/

set_option autoImplicit false

namespace WeatherTables

open Json

/-- An operand as the planner sends it. -/
structure PlannerOperand where
  kind : Option String
  name : Option String
  value : Option String

namespace PlannerOperand

/-- The text of a literal, which may also be sent as a number or a truth value. -/
def literalText : Json → Except DataError String
  | .string s => .ok s
  | .number n => .ok n.text
  | .bool true => .ok "true"
  | .bool false => .ok "false"
  | _ => .error (.noVariant "RawLiteral")

/-- The operand with one more field read. -/
def setField (o : PlannerOperand) (name : String) (value : Json) :
    Except DataError PlannerOperand :=
  match name with
  | "type" => do return { o with kind := ← optional asText value }
  | "name" => do return { o with name := ← optional asText value }
  | "value" => do return { o with value := ← optional literalText value }
  | _ => .ok o

/-- The operand a value describes. -/
def ofJson : Json → Except DataError PlannerOperand :=
  asRecord "struct RawOperand" ["type", "name", "value"] setField ⟨none, none, none⟩

/-- A name makes a column, otherwise a value makes a literal. -/
def toOperand (o : PlannerOperand) : Operand :=
  match o.name, o.value with
  | some name, _ => .column name
  | none, some value => .literal value
  | none, none => .other (o.kind.getD "unknown")

end PlannerOperand

/-- A predicate as the planner sends it, with its child predicates read already. -/
structure PlannerNode where
  kind : Option String
  expressions : Option (List Filter)
  expression : Option PlannerOperand
  arguments : Option (List PlannerOperand)
  left : Option PlannerOperand
  right : Option PlannerOperand

namespace PlannerNode

/-- The fields in the order of the array form. -/
def fieldNames : List String :=
  ["type", "expressions", "expression", "arguments", "left", "right"]

/-- A node of which nothing has been read. -/
def blank : PlannerNode :=
  ⟨none, none, none, none, none, none⟩

/-- The constant list, if its column has a name and each of its arguments a value. -/
def toList? (column : Option PlannerOperand) (arguments : List PlannerOperand) : Option Filter := do
  let name ← column.bind PlannerOperand.name
  let values ← arguments.mapM PlannerOperand.value
  return .inList name values

/-- The predicate a node describes by its operands. -/
def toEqual (n : PlannerNode) (kind : String) : Filter :=
  match n.left, n.right with
  | some left, some right =>
    if kind = "" ∨ kind = "predicate_equal" then .equal left.toOperand right.toOperand
    else .other kind
  | _, _ => .other (if kind = "" then "unknown" else kind)

/-- The predicate a node describes. -/
def toFilter (n : PlannerNode) : Filter :=
  let kind := n.kind.getD ""
  match n.arguments.getD [], n.expressions.getD [] with
  | argument :: more, _ => (toList? n.expression (argument :: more)).getD (.other kind)
  | [], child :: more =>
    if kind = "predicate_or" then .any (child :: more) else .all (child :: more)
  | [], [] => n.toEqual kind

end PlannerNode

namespace Filter

mutual

/-- The filter a value describes. -/
def ofJson : Json → Except DataError Filter
  | .object members => (ofMembers .blank members).map PlannerNode.toFilter
  | .array elements =>
    (ofElements elements.length .blank PlannerNode.fieldNames elements).map PlannerNode.toFilter
  | v => .error (.wrongType v "struct RawFilter")

/-- The node with the members of an object read in order. -/
def ofMembers (n : PlannerNode) : List (String × Json) → Except DataError PlannerNode
  | [] => .ok n
  | (name, value) :: rest =>
    match setField n name value with
    | .ok n => ofMembers n rest
    | .error e => .error e

/-- The node with the elements of an array read under the names of the fields. -/
def ofElements (length : Nat) (n : PlannerNode) :
    List String → List Json → Except DataError PlannerNode
  | _, [] => .ok n
  | [], _ :: _ => .error (.tooLong length)
  | name :: names, value :: rest =>
    match setField n name value with
    | .ok n => ofElements length n names rest
    | .error e => .error e

/-- The node with one more field read. -/
def setField (n : PlannerNode) (name : String) (value : Json) : Except DataError PlannerNode :=
  match name with
  | "type" => do return { n with kind := ← optional asText value }
  | "expressions" =>
    match value with
    | .null => .ok { n with expressions := none }
    | .array children =>
      match ofList children with
      | .ok filters => .ok { n with expressions := some filters }
      | .error e => .error e
    | v => .error (.wrongType v "a sequence")
  | "expression" => do return { n with expression := ← optional PlannerOperand.ofJson value }
  | "arguments" => do return { n with arguments := ← optional (asList PlannerOperand.ofJson) value }
  | "left" => do return { n with left := ← optional PlannerOperand.ofJson value }
  | "right" => do return { n with right := ← optional PlannerOperand.ofJson value }
  | _ => .ok n

/-- The filters that the values of a list describe. -/
def ofList : List Json → Except DataError (List Filter)
  | [] => .ok []
  | v :: rest =>
    match ofJson v with
    | .ok f =>
      match ofList rest with
      | .ok fs => .ok (f :: fs)
      | .error e => .error e
    | .error e => .error e

end

end Filter

end WeatherTables
