import WeatherTables.Decimal.Numeral
import WeatherTables.Fragment.Error
import WeatherTables.Text.Blank

/-!
# Filter rules

A rule says with which parameter a column is filtered and which values it accepts. Values are
looked at without the blanks around them. A rule for numbers also drops those blanks; a rule for
words keeps the value as it stands.
-/

set_option autoImplicit false

namespace WeatherTables

open Decimal

/-- The values a column accepts: words that are not read as a number, numbers, or whole numbers. -/
inductive ValueKind where
  | words
  | number
  | wholeNumber
  deriving DecidableEq, Repr

/-- How one column is filtered. The code is that of the error for a refused value. -/
structure FilterRule where
  column : String
  parameter : String
  kind : ValueKind
  code : String
  deriving DecidableEq, Repr

namespace FilterRule

/-- The parameter value for a filter value, if the column accepts it. -/
def accept (rule : FilterRule) (value : String) : Except LeafError String :=
  let inner := Text.trimmed value.toList
  match rule.kind with
  | .words =>
    if inner.isEmpty || isReal inner then .error (.looksNumeric rule.column value) else .ok value
  | .number =>
    if isReal inner then .ok (String.ofList inner) else .error (.notNumeric rule.column value)
  | .wholeNumber =>
    if (int64? inner).isSome then .ok (String.ofList inner)
    else .error (.notWhole rule.column value)

end FilterRule

/-- The rules of the filterable columns, each column once. -/
structure RuleTable where
  rules : List FilterRule
  distinct : (rules.map FilterRule.column).Nodup
  deriving Repr

namespace RuleTable

/-- Taking the rules of one column out and adding one of them keeps every column single. -/
theorem nodup_replaced {rules : List FilterRule} (distinct : (rules.map FilterRule.column).Nodup)
    (rule : FilterRule) :
    ((rules.filter (fun r => r.column ≠ rule.column) ++ [rule]).map FilterRule.column).Nodup := by
  rw [List.map_append, List.nodup_append]
  refine ⟨distinct.sublist (List.filter_sublist.map _), by simp, ?_⟩
  intro kept hkept added hadded
  obtain ⟨r, member, rfl⟩ := List.mem_map.1 hkept
  rw [List.map_singleton, List.mem_singleton] at hadded
  rw [hadded]
  exact of_decide_eq_true (List.mem_filter.1 member).2

/-- The table with one more rule, which replaces a rule of the same column. -/
def insert (table : RuleTable) (rule : FilterRule) : RuleTable where
  rules := table.rules.filter (fun r => r.column ≠ rule.column) ++ [rule]
  distinct := nodup_replaced table.distinct rule

/-- The table of the given rules. -/
def ofList (rules : List FilterRule) : RuleTable :=
  rules.foldl insert ⟨[], List.nodup_nil⟩

/-- The number of filterable columns. -/
def size (table : RuleTable) : Nat :=
  table.rules.length

/-- The rule of a column. -/
def find (table : RuleTable) (column : String) : Except LeafError FilterRule :=
  match table.rules.find? fun r => r.column = column with
  | some rule => .ok rule
  | none => .error (.unknownColumn column)

/-- What is found for a column is the one rule of the table that it has. -/
theorem find_eq_ok_iff {table : RuleTable} {column : String} {rule : FilterRule} :
    table.find column = .ok rule ↔ rule ∈ table.rules ∧ rule.column = column := by
  constructor
  · intro found
    unfold find at found
    split at found
    · next first =>
      cases found
      exact ⟨List.mem_of_find?_eq_some first, by simpa using List.find?_some first⟩
    · cases found
  · rintro ⟨member, rfl⟩
    obtain ⟨before, after, split⟩ := List.append_of_mem member
    have distinct := table.distinct
    rw [split, List.map_append, List.map_cons, List.nodup_append] at distinct
    -- No rule that stands before this one is about its column.
    have absent : before.find? (fun r => r.column = rule.column) = none := by
      rw [List.find?_eq_none]
      intro r hr same
      exact distinct.2.2 _ (List.mem_map_of_mem hr) _ List.mem_cons_self (of_decide_eq_true same)
    unfold find
    rw [split, List.find?_append, absent]
    simp

/-- The rule that was inserted last for a column is the one that is found. -/
theorem find_insert (table : RuleTable) (rule : FilterRule) (column : String) :
    (table.insert rule).find column =
      if rule.column = column then .ok rule else table.find column := by
  by_cases h : rule.column = column
  · rw [if_pos h, find_eq_ok_iff]
    exact ⟨List.mem_append_right _ List.mem_cons_self, h⟩
  · have kept : (table.rules.filter fun r => r.column ≠ rule.column).find?
        (fun r => r.column = column) = table.rules.find? fun r => r.column = column := by
      rw [List.find?_filter]
      congr 1
      funext r
      by_cases e : r.column = column
      · have differs : r.column ≠ rule.column := fun same => h (same.symm.trans e)
        simp [differs]
      · simp [e]
    unfold find insert
    rw [List.find?_append, kept]
    simp [h]

/-- The rules of the weather tables. -/
def standard : RuleTable where
  rules :=
    [⟨"CITY_NAME", "q=", .words, "E-VS-OWFS-2"⟩,
      ⟨"COUNTRY_CODE", ",", .words, "E-VS-OWFS-2"⟩,
      ⟨"LONGITUDE", "lon=", .number, "E-VS-OWFS-3"⟩,
      ⟨"LATITUDE", "lat=", .number, "E-VS-OWFS-3"⟩,
      ⟨"CITY_ID", "id=", .wholeNumber, "E-VS-OWFS-5"⟩,
      ⟨"ZIP", "zip=", .wholeNumber, "E-VS-OWFS-5"⟩]
  distinct := by decide

end RuleTable

end WeatherTables
