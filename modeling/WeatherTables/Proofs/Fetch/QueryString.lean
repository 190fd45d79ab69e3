import WeatherTables.Fetch.Request
import WeatherTables.Proofs.Bundle.Dimensions
import WeatherTables.Proofs.Decimal.Alphabet
import WeatherTables.Text.Pieces

/-!
# What a value can do to an address

A value goes from the filter into the address of a request as it stands. A number cannot do any harm
there, but words can: an ampersand in them ends the parameter they belong to and begins another, and
after a hash sign nothing counts as part of the query. `Query.parameters_url` reads the parameters back
from an address, and `Filter.query_intact_iff` says which values come through as one parameter.
-/

set_option autoImplicit false

namespace WeatherTables

/-! ## Queries -/

namespace Query

/-- The query of an address: what follows its first question mark. -/
def ofAddress (url : String) : String :=
  String.ofList ((url.toList.dropWhile (· ≠ '?')).drop 1)

/-- The parameters of a query: what stands between its ampersands. -/
def parameters (query : String) : List String :=
  (Text.pieces (· = '&') query.toList).map String.ofList

/-- An ampersand between two texts keeps the parameters of each. -/
theorem parameters_append (first second : String) :
    parameters (first ++ "&" ++ second) = parameters first ++ parameters second := by
  have chars : (first ++ "&" ++ second).toList = first.toList ++ '&' :: second.toList := by
    rw [String.toList_append, String.toList_append, List.append_assoc]
    rfl
  rw [parameters, chars, Text.pieces_append_cut (decide_eq_true rfl), List.map_append]
  rfl

/-- A text without an ampersand is one parameter. -/
theorem parameters_of_not_mem {text : String} (h : '&' ∉ text.toList) : parameters text = [text] := by
  have uncut : ∀ c ∈ text.toList, decide (c = '&') = false := by
    intro c hc
    refine decide_eq_false ?_
    rintro rfl
    exact h hc
  rw [parameters, Text.pieces_of_uncut uncut, List.map_singleton, String.ofList_toList]

/-- No parameter has an ampersand. -/
theorem not_mem_of_mem_parameters {query text : String} (h : text ∈ parameters query) :
    '&' ∉ text.toList := by
  obtain ⟨piece, hpiece, rfl⟩ := List.mem_map.1 h
  rw [String.toList_ofList]
  intro cut
  exact absurd rfl (of_decide_eq_false (Text.not_isCut_of_mem_pieces hpiece cut))

/-- Joined texts have the parameters of each of them. -/
theorem parameters_intercalate {texts : List String} (h : texts ≠ []) :
    parameters ("&".intercalate texts) = texts.flatMap parameters := by
  induction texts with
  | nil => exact absurd rfl h
  | cons text texts ih =>
    cases texts with
    | nil => rw [String.intercalate_singleton, List.flatMap_singleton]
    | cons next texts =>
      rw [String.intercalate_cons_cons, parameters_append, ih (List.cons_ne_nil next texts),
        List.flatMap_cons (x := text)]

/-- Texts are the parameters that they have exactly if none holds an ampersand. -/
theorem flatMap_parameters_eq_iff {texts : List String} :
    texts.flatMap parameters = texts ↔ ∀ text ∈ texts, '&' ∉ text.toList := by
  constructor
  · intro same text htext
    rw [← same] at htext
    obtain ⟨query, -, found⟩ := List.mem_flatMap.1 htext
    exact not_mem_of_mem_parameters found
  · intro plain
    rw [List.flatMap_congr fun text htext => parameters_of_not_mem (plain text htext)]
    exact List.flatMap_singleton' texts

end Query

/-- The text holds no character that means something in an address. -/
def Query.Plain (text : String) : Prop :=
  '?' ∉ text.toList ∧ '&' ∉ text.toList ∧ '#' ∉ text.toList

/-- Whether a text is plain is found by looking for three characters. -/
instance (text : String) : Decidable (Query.Plain text) :=
  inferInstanceAs (Decidable (_ ∧ _ ∧ _))

/-- The names of the methods are plain. -/
theorem Method.plain_name (m : Method) : Query.Plain m.name := by
  cases m <;> decide

namespace Target

/-- Neither the host nor the key holds a character that means something in an address. -/
def Plain (t : Target) : Prop :=
  Query.Plain t.host ∧ Query.Plain t.key

/-- Whether a target is plain is found by looking at its host and at its key. -/
instance (t : Target) : Decidable t.Plain :=
  inferInstanceAs (Decidable (_ ∧ _))

variable {t : Target} (h : t.Plain)
include h

/-- The first question mark of an address is the one before its query. -/
theorem ofAddress_url (parameter : String) :
    Query.ofAddress (t.url parameter) =
      parameter ++ "&" ++ "units=metric" ++ "&" ++ ("appid=" ++ t.key) := by
  have chars : (t.url parameter).toList = (t.host.toList ++ t.method.name.toList) ++
      '?' :: (parameter ++ "&" ++ "units=metric" ++ "&" ++ ("appid=" ++ t.key)).toList := by
    simp only [url, String.toList_append, List.append_assoc]
    rfl
  have before : ∀ c ∈ t.host.toList ++ t.method.name.toList, decide (c ≠ '?') = true := by
    intro c hc
    refine decide_eq_true ?_
    rintro rfl
    rcases List.mem_append.1 hc with host | name
    · exact h.1.1 host
    · exact t.method.plain_name.1 name
  rw [Query.ofAddress, chars, List.dropWhile_append_of_pos before,
    List.dropWhile_cons_of_neg (by decide), List.drop_one, List.tail_cons, String.ofList_toList]

/-- The parameters of a request are those of its text, the units and the key. -/
theorem parameters_url (parameter : String) :
    Query.parameters (Query.ofAddress (t.url parameter)) =
      Query.parameters parameter ++ ["units=metric", "appid=" ++ t.key] := by
  have units : '&' ∉ "units=metric".toList := by decide
  have key : '&' ∉ ("appid=" ++ t.key).toList := by
    rw [String.toList_append, List.mem_append]
    rintro (name | key)
    · exact absurd name (by decide)
    · exact h.2.2.1 key
  rw [ofAddress_url h, Query.parameters_append, Query.parameters_append,
    Query.parameters_of_not_mem units, Query.parameters_of_not_mem key, List.append_assoc]
  rfl

/-- A hash sign in an address comes from the parameter. -/
theorem hash_mem_url (parameter : String) :
    '#' ∈ (t.url parameter).toList ↔ '#' ∈ parameter.toList := by
  have host : '#' ∉ t.host.toList := h.1.2.2
  have key : '#' ∉ t.key.toList := h.2.2.2
  have name : '#' ∉ t.method.name.toList := t.method.plain_name.2.2
  simp [url, host, key, name]

end Target

/-! ## The text of a call -/

namespace Bundle

/-- The texts that a call joins: those of its fragments, but a postal code with its companion is one. -/
def joined : List Fragment → List String
  | [f] => [f.text]
  | [f, g] =>
    if f.parameter = zipStart ∧ g.parameter ≠ zipStart then [f.text ++ g.text]
    else if g.parameter = zipStart ∧ f.parameter ≠ zipStart then [g.text ++ f.text]
    else [f.text, g.text]
  | fragments => fragments.map Fragment.text

/-- The texts are those of the fragments, unless a postal code has its companion. -/
theorem joined_eq (fragments : List Fragment) :
    joined fragments = fragments.map Fragment.text ∨
      ∃ f g, fragments.Perm [f, g] ∧ joined fragments = [f.text ++ g.text] := by
  match fragments with
  | [] | [f] | f :: g :: k :: rest => exact .inl rfl
  | [f, g] =>
    simp only [joined]
    split
    · exact .inr ⟨f, g, .refl _, rfl⟩
    · split
      · exact .inr ⟨g, f, .swap g f [], rfl⟩
      · exact .inl rfl

/-- A call joins at least one text. -/
theorem joined_ne_nil {fragments : List Fragment} (h : fragments ≠ []) : joined fragments ≠ [] := by
  rcases joined_eq fragments with texts | ⟨f, g, -, one⟩
  · rw [texts, Ne, List.map_eq_nil_iff]
    exact h
  · rw [one]
    exact List.cons_ne_nil _ _

/-- The joined texts hold what the fragments hold. -/
theorem exists_mem_joined_iff (fragments : List Fragment) (c : Char) :
    (∃ text ∈ joined fragments, c ∈ text.toList) ↔ ∃ f ∈ fragments, c ∈ f.text.toList := by
  rcases joined_eq fragments with texts | ⟨f, g, both, one⟩
  · simp [texts]
  · simp [one, both.mem_iff, String.toList_append]

/-- The text of a call is made of the joined texts, with ampersands between them. -/
theorem callText_eq_intercalate (fragments : List Fragment) :
    callText fragments = "&".intercalate (joined fragments) := by
  match fragments with
  | [] => rfl
  | [f] => exact String.intercalate_singleton.symm
  | [f, g] =>
    simp only [callText, joined]
    split
    · exact String.intercalate_singleton.symm
    · split
      · exact String.intercalate_singleton.symm
      · rfl
  | f :: g :: k :: rest => rfl

/-- Joining adds nothing but ampersands. -/
theorem mem_intercalate_iff {c : Char} (h : c ≠ '&') (texts : List String) :
    c ∈ ("&".intercalate texts).toList ↔ ∃ text ∈ texts, c ∈ text.toList := by
  induction texts with
  | nil => simp
  | cons text texts ih =>
    cases texts with
    | nil => simp
    | cons next texts =>
      rw [String.intercalate_cons_cons, String.toList_append, String.toList_append,
        List.mem_append, List.mem_append, ih]
      simp [h]

end Bundle

/-! ## What values can hold -/

namespace Fragment

/-- The fragment filters a column of words. -/
def OfWords (f : Fragment) : Prop :=
  ∃ rule ∈ RuleTable.standard.rules, rule.parameter = f.parameter ∧ rule.kind = .words

/-- Only in words can an ampersand or a hash sign come into the text of a fragment. -/
theorem AcceptedBy.mem_text_iff {f : Fragment} (h : f.AcceptedBy .standard) {c : Char}
    (special : c = '&' ∨ c = '#') : c ∈ f.text.toList ↔ f.OfWords ∧ c ∈ f.value.toList := by
  obtain ⟨rule, hrule, parameter, value, accepted⟩ := h
  have bare : ∀ r ∈ RuleTable.standard.rules, '&' ∉ r.parameter.toList ∧ '#' ∉ r.parameter.toList := by
    decide
  have notBefore : c ∉ f.parameter.toList := by
    rw [← parameter]
    rcases special with rfl | rfl
    · exact (bare rule hrule).1
    · exact (bare rule hrule).2
  rw [text, String.toList_append, List.mem_append, or_iff_right notBefore]
  refine ⟨fun inside => ⟨⟨rule, hrule, parameter, ?_⟩, inside⟩, And.right⟩
  by_contra numeric
  have number := FilterRule.inNumber_of_accept numeric accepted c inside
  rcases special with rfl | rfl
  · exact absurd number (by decide)
  · exact absurd number (by decide)

/-- An ampersand or a hash sign in the text of a fragment stands in a value for a column of
words. -/
theorem exists_mem_text_iff {fragments : List Fragment}
    (h : ∀ f ∈ fragments, f.AcceptedBy .standard) {c : Char} (special : c = '&' ∨ c = '#') :
    (∃ f ∈ fragments, c ∈ f.text.toList) ↔ ∃ f ∈ fragments, f.OfWords ∧ c ∈ f.value.toList := by
  apply exists_congr
  intro f
  exact and_congr_right fun hf => (h f hf).mem_text_iff special

end Fragment

namespace Filter

/-- The requests of a filter under the standard rules, one for each part of its fragments, and what can be
read out of their addresses. The query of a request has the parameters of the texts that were joined,
then the units and the key. These are the joined texts themselves exactly if the part has no words with
an ampersand in them, and the address has a hash sign exactly if the part has words with one. -/
theorem query_intact_iff (f : Filter) (t : Target) (timeout : Nat) (plain : t.Plain) :
    let parts := (f.resolve .standard).value.fragmentParts
    parts.flatten = f.translated .standard ∧
    t.plan timeout (f.bundle .standard) =
      parts.map (fun part => ⟨Bundle.callText part, t.url (Bundle.callText part), timeout⟩) ∧
    ∀ part ∈ parts,
      let url := t.url (Bundle.callText part)
      let found := Query.parameters (Query.ofAddress url)
      let added := ["units=metric", "appid=" ++ t.key]
      found = (Bundle.joined part).flatMap Query.parameters ++ added ∧
      (found = Bundle.joined part ++ added ↔ ∀ g ∈ part, g.OfWords → '&' ∉ g.value.toList) ∧
      ('#' ∈ url.toList ↔ ∃ g ∈ part, g.OfWords ∧ '#' ∈ g.value.toList) := by
  intro parts
  have accepted : ∀ g ∈ (f.resolve .standard).value.fragments, g.AcceptedBy .standard :=
    fun _ => acceptedBy_of_mem_fragments
  have all : parts.flatten = (f.resolve .standard).value.fragments :=
    FragmentTree.flatten_fragmentParts _
  have calls : (f.bundle .standard).calls = parts.map Bundle.callText :=
    FragmentTree.calls_ofTree_eq_map accepted
  refine ⟨all.trans (fragments_resolve .standard f), ?_, ?_⟩
  · rw [Target.plan, calls, List.map_map]
    rfl
  intro part hpart url found added
  have acceptedPart : ∀ g ∈ part, g.AcceptedBy .standard := by
    intro g hg
    apply accepted
    rw [← all]
    exact List.mem_flatten_of_mem hpart hg
  have joined : Bundle.joined part ≠ [] :=
    Bundle.joined_ne_nil (FragmentTree.ne_nil_of_mem_fragmentParts hpart)
  have read : found = (Bundle.joined part).flatMap Query.parameters ++ added := by
    show Query.parameters (Query.ofAddress (t.url _)) = _
    rw [Target.parameters_url plain, Bundle.callText_eq_intercalate, Query.parameters_intercalate joined]
  refine ⟨read, ?_, ?_⟩
  · -- A joined text is cut only at an ampersand of its own, which has to come from words.
    have ampersand : (∃ text ∈ Bundle.joined part, '&' ∈ text.toList) ↔
        ∃ g ∈ part, g.OfWords ∧ '&' ∈ g.value.toList :=
      (Bundle.exists_mem_joined_iff part '&').trans
        (Fragment.exists_mem_text_iff acceptedPart (.inl rfl))
    rw [read, List.append_cancel_right_eq, Query.flatMap_parameters_eq_iff]
    simpa only [not_exists, not_and] using not_congr ampersand
  · show '#' ∈ (t.url _).toList ↔ _
    rw [Target.hash_mem_url plain, Bundle.callText_eq_intercalate,
      Bundle.mem_intercalate_iff (by decide), Bundle.exists_mem_joined_iff]
    exact Fragment.exists_mem_text_iff acceptedPart (.inr rfl)

/-- A question mark and a semicolon in words do no harm. -/
theorem query_intact_of_question_mark :
    let f : Filter := .all [member "CITY_NAME" "Rome?;", member "CITY_ID" "+7"]
    let t : Target := ⟨"https://host/", .forecast, "key"⟩
    let part : List Fragment := [⟨"q=", "Rome?;"⟩, ⟨"id=", "+7"⟩]
    t.Plain ∧ (f.resolve .standard).value.fragmentParts = [part] ∧
      Query.parameters (Query.ofAddress (t.url (Bundle.callText part))) =
        ["q=Rome?;", "id=+7", "units=metric", "appid=key"] := by
  intro f t part
  have plain : t.Plain := by decide +kernel
  have parts : (f.resolve .standard).value.fragmentParts = [part] := by rfl
  obtain ⟨-, -, read⟩ := query_intact_iff f t 5000 plain
  have harmless : ∀ g ∈ part, g.OfWords → '&' ∉ g.value.toList := by
    intro g hg _
    have values : ∀ g ∈ part, '&' ∉ g.value.toList := by decide
    exact values g hg
  refine ⟨plain, parts, (read part ?_).2.1.2 harmless⟩
  rw [parts]
  exact List.mem_singleton_self part

/-- Of two city names, one adds a parameter to its request, and the other cuts off the units and the
key. -/
theorem words_change_query :
    let f : Filter := .inList "CITY_NAME" ["Rome&mode=xml", "Rome#"]
    let t : Target := ⟨"https://host/", .currentWeather, "key"⟩
    let adding := "https://host/weather?q=Rome&mode=xml&units=metric&appid=key"
    let cutting := "https://host/weather?q=Rome#&units=metric&appid=key"
    t.Plain ∧
      t.plan 5000 (f.bundle .standard) =
        [⟨"q=Rome&mode=xml", adding, 5000⟩, ⟨"q=Rome#", cutting, 5000⟩] ∧
      Query.parameters (Query.ofAddress adding) ≠
        ["q=Rome&mode=xml", "units=metric", "appid=key"] ∧
      Query.parameters (Query.ofAddress adding) =
        ["q=Rome", "mode=xml", "units=metric", "appid=key"] ∧
      '#' ∈ cutting.toList := by
  intro f t adding cutting
  exact ⟨by decide +kernel, by decide +kernel, by decide +kernel, by decide +kernel, by decide +kernel⟩

end Filter

end WeatherTables
