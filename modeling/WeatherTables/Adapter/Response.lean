import WeatherTables.Adapter.HandlerCall
import WeatherTables.Adapter.Properties
import WeatherTables.Adapter.Settings
import WeatherTables.Filter.Planner
import WeatherTables.Fragment.Resolution

/-!
# The adapter

The adapter answers requests about a virtual schema. Most answers only describe the tables. A
pushdown turns the filter of a query into a bundle and answers with the statement that calls the
handler script; what it reports on the way never changes the answer.
-/

set_option autoImplicit false

namespace WeatherTables

namespace Adapter

/-- What the adapter can take over from a query. -/
def capabilities : List String :=
  ["FILTER_EXPRESSIONS", "LITERAL_STRING", "LITERAL_DOUBLE", "LITERAL_EXACTNUMERIC", "FN_PRED_OR",
    "FN_PRED_AND", "FN_PRED_EQUAL", "FN_PRED_IN_CONSTLIST"]

/-- The bundle of a filter under the given rules, with a record for each of its leaves. -/
def bundleOf (rules : RuleTable) (filter : Filter) : Traced Bundle := do
  let tree ← filter.resolve rules
  return .ofTree tree

/-- The bundle of a filter as the planner sends it. Without a filter nothing is fetched. -/
def bundleFor (filter : Option Json) : Traced (Except AdapterFailure Bundle) :=
  match filter.filter (fun v => !v.isNull) with
  | none => do
    .report (.warning "Pushdown request carries no filter, no API calls will be issued")
    return .ok .empty
  | some v =>
    match Filter.ofJson v with
    | .error e => return .error (.data e)
    | .ok filter => do
      .report (.info ("Filter: " ++ filter.text))
      let bundle ← bundleOf .standard filter
      .report (.info ("API filters " ++ bundle.text))
      return .ok bundle

/-- The part of a request that describes the query; it may be the request itself. -/
def query (request : Json) : Json :=
  (request.member? "pushdownRequest").getD request

/-- The method behind the table that a query selects from. -/
def queriedMethod (query : Json) : Except AdapterFailure (String × Method) :=
  match (query.at? ["from", "name"]).bind Json.string? with
  | none => .error (.missingField "pushdownRequest.from.name")
  | some name => (Method.ofTableName name).map fun m => (name, m)

/-- The call that fetches the rows of a bundle. -/
def handlerCall (settings : Settings) (properties : Properties) (log : Logging)
    (method : Method) (filters : Bundle) : HandlerCall :=
  ⟨settings.apiHost, method, filters, properties.apiKey, log.hostText, log.numberText,
    toString log.level.number⟩

/-- The statement that answers a pushdown request. -/
def pushdown (settings : Settings) (request : Json) (properties : Properties) (log : Logging) :
    Traced (Except AdapterFailure String) :=
  let query := query request
  match queriedMethod query with
  | .error e => return .error e
  | .ok (table, method) => do
    .report (.info ("Pushdown on table " ++ table ++ " via '" ++ method.name ++ "'"))
    match ← bundleFor (query.member? "filter") with
    | .error e => return .error e
    | .ok filters =>
      let call := handlerCall settings properties log method filters
      .report (.info ("Adapter SQL: " ++ call.withHiddenKey.statement settings.scriptSchema))
      return .ok (call.statement settings.scriptSchema)

/-- The response to a request of the given kind, whose properties have been read. -/
def response (settings : Settings) (kind : String) (request : Json) (properties : Properties)
    (log : Logging) : Traced (Except AdapterFailure Json) :=
  match kind with
  | "createVirtualSchema" =>
    return .ok (.ofMembers [("type", .string kind),
      ("schemaMetadata", .ofMembers [("tables", .array (Catalog.tables.map Table.toJson))])])
  | "dropVirtualSchema" | "refresh" | "setProperties" =>
    return .ok (.ofMembers [("type", .string kind)])
  | "getCapabilities" =>
    return .ok (.ofMembers [("type", .string kind), ("capabilities", .strings capabilities)])
  | "pushdown" => do
    match ← pushdown settings request properties log with
    | .error e => return .error e
    | .ok sql => return .ok (.ofMembers [("type", .string kind), ("sql", .string sql)])
  | other => return .error (.unknownCallback other)

/-- The kind of a request and its properties. -/
def readRequest (request : Json) : Except AdapterFailure (String × Properties × Logging) := do
  match (request.member? "type").bind Json.string? with
  | none => .error (.missingField "type")
  | some kind =>
    let properties ← Properties.ofRequest request
    let log ← properties.logging.mapError .diagnostic
    return (kind, properties, log)

/-- The response to a request, both as text. -/
def handle (settings : Settings) (request : String) : Traced (Except AdapterFailure String) :=
  match Json.read? request with
  | none => return .error .malformed
  | some v =>
    match readRequest v with
    | .error e => return .error e
    | .ok (kind, properties, log) => do
      let answer ← response settings kind v properties log
      return answer.map Json.text

end Adapter

end WeatherTables
