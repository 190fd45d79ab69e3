import WeatherTables.Adapter.Response
import WeatherTables.Proofs.Bundle.WireText
import WeatherTables.Proofs.Diagnostics.ForwardedListener
import WeatherTables.Proofs.Json.Records

/-!
# The call site gets what the adapter meant

The adapter does not fetch anything. It answers a pushdown with a statement, inside an object, and the
call site knows of the query only what it can read out of that statement. `value_handle_eq_ok_iff` says
which pushdowns are answered and what the answer is; from there on every layer is taken off again: the
object (`read?_answer`), the literals of the statement (`readList_statement`), and the arguments of the
call (`ofArguments_arguments`).
-/

set_option autoImplicit false

namespace WeatherTables

/-- A method is found under its own name. -/
theorem Method.ofName_name (m : Method) : Method.ofName m.name = .ok m := by
  cases m <;> rfl

namespace HandlerCall

/-- What a statement begins with that calls the script in the given schema. -/
def statementStart (schema : String) : String :=
  "SELECT " ++ Text.lowercase schema ++ "." ++ scriptName ++ "("

/-- The call is rebuilt from its arguments. -/
theorem ofArguments_arguments (c : HandlerCall) :
    ofArguments c.apiHost c.method.name c.filters.text c.apiKey c.logHost c.logNumber c.logLevel =
      .ok c := by
  unfold ofArguments
  rw [Method.ofName_name, Bundle.ofText_text]
  rfl

/-- A statement is its start, the list of its arguments and the columns of its table. -/
theorem statement_eq (c : HandlerCall) (schema : String) :
    c.statement schema = statementStart schema ++
      (Sql.list c.arguments ++ (" EMITS (" ++ emits c.method.table ++ ")")) := by
  unfold statement statementStart
  simp only [String.append_assoc]

/-- After its beginning a statement holds the arguments of its call and then the columns. -/
theorem readList_statement (c : HandlerCall) (schema : String) :
    ∃ rest after, c.statement schema = statementStart schema ++ rest ∧
      Sql.readList rest.toList = some (c.arguments, after) := by
  refine ⟨Sql.list c.arguments ++ (" EMITS (" ++ emits c.method.table ++ ")"),
    (" EMITS (" ++ emits c.method.table ++ ")").toList, statement_eq c schema, ?_⟩
  rw [String.toList_append, Sql.list, String.toList_ofList]
  exact Sql.readList_append c.arguments _

end HandlerCall

namespace Adapter

/-- A request can be read exactly if it has properties that say where diagnostics go. -/
theorem readRequest_eq_ok_iff {v : Json} {kind : String}
    (hkind : (v.member? "type").bind Json.string? = some kind) (found : String × Properties × Logging) :
    readRequest v = .ok found ↔
      ∃ properties log, Properties.ofRequest v = .ok properties ∧ properties.logging = .ok log ∧
        found = (kind, properties, log) := by
  simp only [readRequest, hkind]
  constructor
  · intro h
    obtain ⟨properties, hproperties, h⟩ := bind_eq_ok_iff.1 h
    obtain ⟨log, hlog, h⟩ := bind_eq_ok_iff.1 h
    cases h
    exact ⟨properties, log, hproperties, mapError_eq_ok_iff.1 hlog, rfl⟩
  · rintro ⟨properties, log, hproperties, hlog, rfl⟩
    exact bind_eq_ok_iff.2 ⟨properties, hproperties,
      bind_eq_ok_iff.2 ⟨log, mapError_eq_ok_iff.2 hlog, rfl⟩⟩

/-- A pushdown has a statement exactly if the method and the bundle of its query are found, and the
statement is that of the call with the two. -/
theorem value_pushdown_eq_ok_iff (settings : Settings) (v : Json) (properties : Properties)
    (log : Logging) (sql : String) :
    (pushdown settings v properties log).value = .ok sql ↔
      ∃ table method filters, queriedMethod (query v) = .ok (table, method) ∧
        (bundleFor ((query v).member? "filter")).value = .ok filters ∧
        sql = (handlerCall settings properties log method filters).statement
          settings.scriptSchema := by
  constructor
  · intro h
    unfold pushdown at h
    cases hmethod : queriedMethod (query v) with
    | error e =>
      simp only [hmethod] at h
      cases h
    | ok found =>
      simp only [hmethod, Traced.value_bind] at h
      cases hfilters : (bundleFor ((query v).member? "filter")).value with
      | error e =>
        rw [hfilters] at h
        cases h
      | ok filters =>
        rw [hfilters] at h
        cases h
        exact ⟨found.1, found.2, filters, rfl, rfl, rfl⟩
  · rintro ⟨table, method, filters, hmethod, hfilters, rfl⟩
    simp only [pushdown, hmethod, Traced.value_bind, hfilters]
    rfl

/-- The value with which a pushdown is answered. -/
def answer (sql : String) : Json :=
  .ofMembers [("type", .string "pushdown"), ("sql", .string sql)]

/-- The members of the answer are sorted by name. -/
theorem answer_eq (sql : String) :
    answer sql = .object [("sql", .string sql), ("type", .string "pushdown")] := by
  have before : "sql" < "type" := by decide
  simp only [answer, Json.ofMembers, Members.ofList, List.foldl_cons, List.foldl_nil,
    Members.insert, if_pos before]

/-- The value of an answer is regular and one level deep. -/
theorem regular_answer (room : Nat) (sql : String) : Json.Regular (room + 1) (answer sql) := by
  have sorted : "sql" < "type" := by decide
  rw [answer_eq, Json.regular_object_iff, List.pairwise_pair, List.forall_mem_cons,
    List.forall_mem_singleton]
  exact ⟨sorted, .string room sql, .string room "pushdown"⟩

/-- The statement is read from the text of the answer. -/
theorem read?_answer (sql : String) :
    (Json.read? (answer sql).text).bind (Json.member? "sql") = some (.string sql) := by
  rw [Json.read?_text (regular_answer 126 sql), answer_eq]
  rfl

/-- A pushdown has an answer exactly if it has a statement. -/
theorem value_response (settings : Settings) (v : Json) (properties : Properties) (log : Logging) :
    (response settings "pushdown" v properties log).value =
      (pushdown settings v properties log).value.map answer := by
  cases hsql : (pushdown settings v properties log).value with
  | error e =>
    simp only [response, Traced.value_bind, hsql]
    rfl
  | ok sql =>
    simp only [response, Traced.value_bind, hsql]
    rfl

/-- A pushdown is answered exactly if its properties, its table and its filter can be read, and this is
the answer. -/
theorem value_handle_eq_ok_iff {settings : Settings} {request : String} {v : Json}
    (read : Json.read? request = some v)
    (kind : (v.member? "type").bind Json.string? = some "pushdown") (text : String) :
    (handle settings request).value = .ok text ↔
      ∃ properties log table method filters, (Properties.ofRequest v = .ok properties ∧
        properties.logging = .ok log ∧ queriedMethod (query v) = .ok (table, method) ∧
        (bundleFor ((query v).member? "filter")).value = .ok filters) ∧
        text = (answer ((handlerCall settings properties log method filters).statement
          settings.scriptSchema)).text := by
  simp only [handle, read]
  constructor
  · intro h
    cases hread : readRequest v with
    | error e =>
      rw [hread] at h
      cases h
    | ok found =>
      obtain ⟨properties, log, hproperties, hlog, rfl⟩ := (readRequest_eq_ok_iff kind _).1 hread
      simp only [hread, Traced.value_bind, value_response] at h
      obtain ⟨_, answered, rfl⟩ := map_eq_ok_iff.1 h
      obtain ⟨sql, hsql, rfl⟩ := map_eq_ok_iff.1 answered
      obtain ⟨table, method, filters, hmethod, hfilters, rfl⟩ :=
        (value_pushdown_eq_ok_iff _ _ _ _ _).1 hsql
      exact ⟨properties, log, table, method, filters, ⟨hproperties, hlog, hmethod, hfilters⟩, rfl⟩
  · rintro ⟨properties, log, table, method, filters, ⟨hproperties, hlog, hmethod, hfilters⟩, rfl⟩
    have hread := (readRequest_eq_ok_iff kind _).2 ⟨properties, log, hproperties, hlog, rfl⟩
    have hsql := (value_pushdown_eq_ok_iff settings v properties log _).2
      ⟨table, method, filters, hmethod, hfilters, rfl⟩
    simp only [hread, Traced.value_bind, value_response, hsql]
    rfl

/-- The statement in the answer to a pushdown is read at the call site as seven texts, whatever
characters the key, the hosts or the texts of the filter hold, and these make the call that the
adapter meant: the same target, the bundle of the filter, and the log of the properties. So the call
site plans the requests that the bundle stands for. -/
theorem pushdown_reaches_call_site {settings : Settings} {request response : String} {v : Json}
    (read : Json.read? request = some v)
    (kind : (v.member? "type").bind Json.string? = some "pushdown")
    (handled : (handle settings request).value = .ok response) :
    ∃ properties log table method filters sql,
      (Properties.ofRequest v = .ok properties ∧ properties.logging = .ok log ∧
        queriedMethod (query v) = .ok (table, method) ∧
        (bundleFor ((query v).member? "filter")).value = .ok filters) ∧
      (Json.read? response).bind (Json.member? "sql") = some (.string sql) ∧
      ∃ rest after host name bundle key logHost logNumber logLevel call,
        sql = HandlerCall.statementStart settings.scriptSchema ++ rest ∧
        Sql.readList rest.toList =
          some ([host, name, bundle, key, logHost, logNumber, logLevel], after) ∧
        HandlerCall.ofArguments host name bundle key logHost logNumber logLevel = .ok call ∧
        call.target = ⟨settings.apiHost, method, properties.apiKey⟩ ∧
        call.filters = filters ∧ call.logging = .ok log ∧
        ∀ timeout, call.target.plan timeout call.filters =
          Target.plan ⟨settings.apiHost, method, properties.apiKey⟩ timeout filters := by
  obtain ⟨properties, log, table, method, filters, found, rfl⟩ :=
    (value_handle_eq_ok_iff read kind response).1 handled
  let call := handlerCall settings properties log method filters
  obtain ⟨rest, after, beginning, arguments⟩ := call.readList_statement settings.scriptSchema
  refine ⟨properties, log, table, method, filters, call.statement settings.scriptSchema, found,
    read?_answer _, rest, after, _, _, _, _, _, _, _, call, beginning, arguments,
    call.ofArguments_arguments, rfl, rfl, ?_, fun timeout => rfl⟩
  exact Logging.ofTexts_forwarded found.2.1

/-- A request whose key, host and city are full of quotes, commas and brackets, and which writes the
number of the endpoint with a needless zero. -/
def quotedRequest : Json :=
  .object [
    ("filter", .object [
      ("left", .object [("name", .string "CITY_NAME"), ("type", .string "column")]),
      ("right", .object [("type", .string "literal_string"), ("value", .string "L'Aquila, \"IT\"")]),
      ("type", .string "predicate_equal")]),
    ("from", .object [("name", .string "FORECAST")]),
    ("schemaMetadataInfo", .object [("properties", .object [("API_KEY", .string "k'), ('"),
      ("LOG_LEVEL", .string "warning"), ("LOG_LISTENER", .string " host's "),
      ("LOG_LISTENER_PORT", .string "0514")])]),
    ("type", .string "pushdown")]

/-- The request is regular, so that it is read back from its text. -/
theorem regular_quotedRequest : Json.Regular Json.depthLimit quotedRequest := by
  simp only [quotedRequest, Json.depthLimit, Json.regular_object_iff, Json.Regular.string,
    List.pairwise_cons, List.forall_mem_cons, List.not_mem_nil, List.Pairwise.nil,
    false_implies, implies_true, and_true, true_and]
  decide

/-- The call site gets the key, the city and the endpoint of that request. -/
theorem quotedRequest_reaches_call_site :
    ∃ response, Json.read? quotedRequest.text = some quotedRequest ∧
      (quotedRequest.member? "type").bind Json.string? = some "pushdown" ∧
      (handle .standard quotedRequest.text).value = .ok response ∧
      ∃ sql rest after host name bundle key logHost logNumber logLevel call,
        (Json.read? response).bind (Json.member? "sql") = some (.string sql) ∧
        sql = HandlerCall.statementStart Settings.standard.scriptSchema ++ rest ∧
        Sql.readList rest.toList =
          some ([host, name, bundle, key, logHost, logNumber, logLevel], after) ∧
        HandlerCall.ofArguments host name bundle key logHost logNumber logLevel = .ok call ∧
        call.target = ⟨Settings.standard.apiHost, .forecast, "k'), ('"⟩ ∧
        call.filters = .scalar "q=L'Aquila, \"IT\"" ∧
        call.logging = .ok ⟨some ⟨"host's", 514⟩, .warning⟩ := by
  have read : Json.read? quotedRequest.text = some quotedRequest :=
    Json.read?_text regular_quotedRequest
  have kind : (quotedRequest.member? "type").bind Json.string? = some "pushdown" := by rfl
  obtain ⟨response, handled⟩ :
      ∃ response, (handle .standard quotedRequest.text).value = .ok response :=
    ⟨_, (value_handle_eq_ok_iff read kind _).2 ⟨_, _, _, _, _, ⟨rfl, rfl, rfl, rfl⟩, rfl⟩⟩
  obtain ⟨properties, log, table, method, filters, sql, ⟨hproperties, hlog, hmethod, hfilters⟩,
    answer, rest, after, host, name, bundle, key, logHost, logNumber, logLevel, call, beginning,
    arguments, rebuilt, target, bundled, forwarded, -⟩ :=
    pushdown_reaches_call_site read kind handled
  obtain rfl : ⟨"k'), ('", some " host's ", some "0514", "warning"⟩ = properties :=
    Except.ok.inj hproperties
  obtain rfl : ⟨some ⟨"host's", 514⟩, .warning⟩ = log := Except.ok.inj hlog
  obtain ⟨rfl, rfl⟩ : "FORECAST" = table ∧ .forecast = method := Prod.mk.inj (Except.ok.inj hmethod)
  obtain rfl : .scalar "q=L'Aquila, \"IT\"" = filters := Except.ok.inj hfilters
  exact ⟨response, read, kind, handled, sql, rest, after, host, name, bundle, key, logHost, logNumber,
    logLevel, call, answer, beginning, arguments, rebuilt, target, bundled, forwarded⟩

end Adapter

end WeatherTables
