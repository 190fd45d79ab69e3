import WeatherTables.Proofs.Bundle.Connectives

/-!
# The order of operands

An equality says the same whichever of its sides holds the column. `exchange` turns round those equalities
of a filter that are chosen, each by its number among the leaves, and `operand_order_irrelevant` says that
neither the fragments nor the calls nor the levels of the records show it. Warnings do so only where they
quote an equality that is no comparison of a column with a literal (`Leaf.QuotedBackwards`).
-/

set_option autoImplicit false

namespace WeatherTables

/-! ## One equality -/

namespace RuleTable

/-- A column and a literal are found in either order. Of other operands the error quotes the order. -/
theorem sides_exchanged (left right : Operand) :
    sides right left = sides left right ∨
      sides left right = .error (.noColumnWithLiteral (left.text ++ " = " ++ right.text)) ∧
      sides right left = .error (.noColumnWithLiteral (right.text ++ " = " ++ left.text)) := by
  cases left <;> cases right <;> simp [sides]

/-- An equality and its exchange are resolved alike, unless neither is of a column and a literal, when
each error quotes its own order. -/
theorem resolve_exchanged (rules : RuleTable) (left right : Operand) :
    rules.resolve right left = rules.resolve left right ∨
      rules.resolve left right = .error (.noColumnWithLiteral (left.text ++ " = " ++ right.text)) ∧
      rules.resolve right left = .error (.noColumnWithLiteral (right.text ++ " = " ++ left.text)) := by
  rcases sides_exchanged left right with same | ⟨forwards, backwards⟩
  · left
    rw [resolve, resolve, same]
  · right
    simp only [resolve, forwards, backwards, and_self]

end RuleTable

namespace Leaf

variable {rules : RuleTable}

/-- The leaf is an equality of operands that are not a column and a literal, and the record is the warning
of that with the operands quoted in the other order. -/
def QuotedBackwards (rules : RuleTable) (leaf : Leaf) (told : Record) : Prop :=
  ∃ left right, leaf = .equality left right ∧
    rules.resolve left right = .error (.noColumnWithLiteral (left.text ++ " = " ++ right.text)) ∧
    told = .warning (LeafError.noColumnWithLiteral (right.text ++ " = " ++ left.text)).message

/-- What may be told of a leaf whose operands are exchanged, or are not. The level is that of the record of
the leaf itself, and a warning stays the same but for the order in which it quotes operands. -/
structure ToldAs (rules : RuleTable) (exchanged : Bool) (leaf : Leaf) (told : Record) : Prop where
  level : told.level = (leaf.record rules).level
  warning : (leaf.record rules).level = .warning →
    told = leaf.record rules ∨ exchanged = true ∧ leaf.QuotedBackwards rules told

/-- The record of a leaf may be told of it, exchanged or not. -/
theorem ToldAs.self (exchanged : Bool) (leaf : Leaf) : ToldAs rules exchanged leaf (leaf.record rules) :=
  ⟨rfl, fun _ => .inl rfl⟩

/-- An equality and its exchange have the same fragment. -/
theorem fragment?_exchanged (left right : Operand) :
    fragment? rules (.equality right left) = fragment? rules (.equality left right) := by
  simp only [fragment?, resolve]
  rcases rules.resolve_exchanged left right with same | ⟨forwards, backwards⟩
  · rw [same]
  · rw [forwards, backwards]
    rfl

/-- The record of an exchanged equality may be told of the equality itself. -/
theorem toldAs_exchanged (left right : Operand) :
    ToldAs rules true (.equality left right) (record rules (.equality right left)) := by
  rcases rules.resolve_exchanged left right with same | ⟨forwards, backwards⟩
  · cases found : rules.resolve left right with
    | error e =>
      have unchanged : record rules (.equality right left) = record rules (.equality left right) := by
        simp only [record, resolve, same, found]
      rw [unchanged]
      exact ToldAs.self true _
    | ok f =>
      constructor
      · simp only [record, resolve, same, found]
        rfl
      · simp only [record, resolve, found]
        intro warned
        cases warned
  · constructor
    · simp only [record, resolve, forwards, backwards]
      rfl
    · intro _
      refine .inr ⟨rfl, left, right, rfl, forwards, ?_⟩
      simp only [record, resolve, backwards]

end Leaf

namespace Filter

/-! ## Exchanging operands -/

mutual

/-- The filter with the operands of the chosen equalities exchanged. Equalities are chosen by their number
among all leaves, which are counted from `i`. The values of a constant list are leaves that have no order of
operands, and stay. -/
def exchangeFrom (chosen : Nat → Bool) (i : Nat) : Filter → Filter
  | .all children => .all (exchangeListFrom chosen i children)
  | .any children => .any (exchangeListFrom chosen i children)
  | .inList column values => .inList column values
  | .equal left right => if chosen i then .equal right left else .equal left right
  | .other kind => .other kind

/-- The filters of the list with the operands of the chosen equalities exchanged. -/
def exchangeListFrom (chosen : Nat → Bool) (i : Nat) : List Filter → List Filter
  | [] => []
  | f :: fs => exchangeFrom chosen i f :: exchangeListFrom chosen (i + f.leafCount) fs

end

/-- The filter with the operands of the chosen equalities exchanged. The first leaf has the number 0. -/
def exchange (chosen : Nat → Bool) (f : Filter) : Filter :=
  exchangeFrom chosen 0 f

variable (rules : RuleTable) (chosen : Nat → Bool)

/-! ## The fragments -/

/-- The trees of a list stay the same under an exchange, if that of each filter does. -/
theorem value_resolveList_exchange {fs : List Filter}
    (h : ∀ f ∈ fs, ∀ i, (resolve rules (exchangeFrom chosen i f)).value = (resolve rules f).value)
    (i : Nat) :
    (resolveList rules (exchangeListFrom chosen i fs)).value = (resolveList rules fs).value := by
  induction fs generalizing i with
  | nil => rfl
  | cons f fs ih =>
    obtain ⟨first, others⟩ := List.forall_mem_cons.1 h
    simp only [exchangeListFrom, resolveList, first i, ih others]

/-- Exchanging operands does not change the tree of a filter. -/
theorem value_resolve_exchange (f : Filter) (i : Nat) :
    (resolve rules (exchangeFrom chosen i f)).value = (resolve rules f).value := by
  induction f using induct generalizing i with
  | all fs ih | any fs ih =>
    simp only [exchangeFrom, resolve, combine, value_resolveList_exchange rules chosen ih i]
  | inList column values => rfl
  | equal left right =>
    rw [exchangeFrom]
    split_ifs
    · simp only [resolve_equal, Leaf.fragment?_exchanged left right]
    · rfl
  | other kind => rfl

/-! ## The records -/

/-- The records are, place by place, what may be told of the leaves, which are numbered from `i`. -/
def ToldAlike (i : Nat) (leaves : List Leaf) (records : List Record) : Prop :=
  List.Forall₂ (fun leaf told => Leaf.ToldAs rules (chosen leaf.2) leaf.1 told) (leaves.zipIdx i) records

variable {rules chosen}

/-- What may be told of leaves goes together, if the numbers go on where the first leaves end. -/
theorem toldAlike_append {i : Nat} {leaves others : List Leaf} {records rest : List Record}
    (front : ToldAlike rules chosen i leaves records)
    (back : ToldAlike rules chosen (i + leaves.length) others rest) :
    ToldAlike rules chosen i (leaves ++ others) (records ++ rest) := by
  rw [ToldAlike, List.zipIdx_append]
  exact List.rel_append front back

/-- The records of leaves may be told of them. -/
theorem toldAlike_self (i : Nat) (leaves : List Leaf) :
    ToldAlike rules chosen i leaves (leaves.map (Leaf.record rules)) := by
  induction leaves generalizing i with
  | nil => exact .nil
  | cons leaf leaves ih => exact .cons (.self (chosen i) leaf) (ih (i + 1))

/-- The records of a list of exchanged filters may be told of its leaves, if this is so for each
filter. -/
theorem toldAlike_exchangeList {fs : List Filter}
    (h : ∀ f ∈ fs, ∀ i,
      ToldAlike rules chosen i f.leaves (resolve rules (exchangeFrom chosen i f)).records)
    (i : Nat) :
    ToldAlike rules chosen i (leavesOf fs) (resolveList rules (exchangeListFrom chosen i fs)).records := by
  induction fs generalizing i with
  | nil => exact .nil
  | cons f fs ih =>
    obtain ⟨first, others⟩ := List.forall_mem_cons.1 h
    -- The leaves of the others are numbered on after those of the first.
    have rest := ih others (i + f.leafCount)
    rw [← length_leaves] at rest
    rw [exchangeListFrom, resolveList, leavesOf, ← length_leaves]
    exact toldAlike_append (first i) rest

/-- The records after the exchange are what may be told of the leaves of the filter before it. -/
theorem toldAlike_exchange (f : Filter) (i : Nat) :
    ToldAlike rules chosen i f.leaves (resolve rules (exchangeFrom chosen i f)).records := by
  induction f using induct generalizing i with
  | all fs ih | any fs ih => exact toldAlike_exchangeList ih i
  | inList column values =>
    rw [exchangeFrom, records_resolve]
    exact toldAlike_self i _
  | equal left right =>
    rw [exchangeFrom, leaves]
    split_ifs with turned
    · rw [resolve_equal]
      exact .cons (turned ▸ Leaf.toldAs_exchanged left right) .nil
    · rw [resolve_equal]
      exact toldAlike_self i [.equality left right]
  | other kind => exact toldAlike_self i [.other kind]

/-- Records that may be told of leaves have the levels of the leaves' own records. -/
theorem map_level_of_toldAlike {i : Nat} {leaves : List Leaf} {records : List Record}
    (h : ToldAlike rules chosen i leaves records) :
    records.map Record.level = leaves.map fun leaf => (leaf.record rules).level := by
  induction leaves generalizing i records with
  | nil =>
    cases h
    rfl
  | cons leaf leaves ih =>
    cases h with
    | cons first others => rw [List.map_cons, List.map_cons, first.level, ih others]

/-- The record in a place is that of the leaf in the same place. -/
theorem toldAs_of_toldAlike {i j : Nat} {leaves : List Leaf} {records : List Record} {leaf : Leaf}
    (h : ToldAlike rules chosen i leaves records) (place : leaves[j]? = some leaf) :
    ∃ told, records[j]? = some told ∧ Leaf.ToldAs rules (chosen (i + j)) leaf told := by
  induction leaves generalizing i j records with
  | nil => cases place
  | cons next leaves ih =>
    cases h with
    | cons first others =>
      cases j with
      | zero =>
        cases place
        exact ⟨_, rfl, first⟩
      | succ j =>
        obtain ⟨told, found, alike⟩ := ih others place
        refine ⟨told, found, ?_⟩
        rwa [Nat.add_right_comm, Nat.add_assoc] at alike

/-- The order of operands does not matter. Whichever equalities are turned round, however many and however
deep, the filter has the same fragments, the same bundle and the same calls, as many leaves, and records of
the same levels in the same order. A warning is the same as before, unless its leaf is an equality that was
turned round and does not compare a column with a literal; then it quotes the operands as they are now. -/
theorem operand_order_irrelevant (rules : RuleTable) (chosen : Nat → Bool) (f : Filter) :
    (resolve rules (f.exchange chosen)).value = (resolve rules f).value ∧
    (f.exchange chosen).bundle rules = f.bundle rules ∧
    (f.exchange chosen).calls rules = f.calls rules ∧
    (f.exchange chosen).leafCount = f.leafCount ∧
    (resolve rules (f.exchange chosen)).records.map Record.level =
      (resolve rules f).records.map Record.level ∧
    ∀ i leaf, f.leaves[i]? = some leaf → ∃ before after,
      (resolve rules f).records[i]? = some before ∧
      (resolve rules (f.exchange chosen)).records[i]? = some after ∧
      (before.level = .warning →
        after = before ∨ chosen i = true ∧ leaf.QuotedBackwards rules after) := by
  have tree : (resolve rules (f.exchange chosen)).value = (resolve rules f).value :=
    value_resolve_exchange rules chosen f 0
  have alike : ToldAlike rules chosen 0 f.leaves (resolve rules (f.exchange chosen)).records :=
    toldAlike_exchange f 0
  have sameBundle : (f.exchange chosen).bundle rules = f.bundle rules := by rw [bundle, tree, bundle]
  refine ⟨tree, sameBundle, ?_, ?_, ?_, fun i leaf place => ?_⟩
  · rw [calls, sameBundle, calls]
  · have counted := congrArg List.length (map_level_of_toldAlike alike)
    rw [List.length_map, List.length_map, records_resolve, List.length_map] at counted
    rw [← length_leaves, counted, length_leaves]
  · rw [map_level_of_toldAlike alike, records_resolve, List.map_map]
    rfl
  · obtain ⟨after, found, as⟩ := toldAs_of_toldAlike alike place
    refine ⟨leaf.record rules, after, ?_, found, fun warned => ?_⟩
    · rw [records_resolve, List.getElem?_map, place]
      rfl
    · rw [Nat.zero_add] at as
      exact as.warning warned

/-- All equalities but the second are turned round, the last of which compares two columns. -/
theorem operand_order_irrelevant_of_columns :
    let f : Filter := .all [member "CITY_ID" "1", .any [.equal (.literal "Rome") (.column "CITY_NAME"),
      .inList "LATITUDE" ["north"], .equal (.column "ZIP") (.column "CITY_ID")]]
    let g : Filter := .all [.equal (.literal "1") (.column "CITY_ID"),
      .any [.equal (.literal "Rome") (.column "CITY_NAME"), .inList "LATITUDE" ["north"],
        .equal (.column "CITY_ID") (.column "ZIP")]]
    let leaf : Leaf := .equality (.column "ZIP") (.column "CITY_ID")
    f.exchange (· != 1) = g ∧
      (g.calls .standard = f.calls .standard ∧ g.calls .standard = ["id=1&q=Rome"]) ∧
      f.leaves[3]? = some leaf ∧ ∃ before after, (resolve .standard f).records[3]? = some before ∧
        (resolve .standard g).records[3]? = some after ∧ before.level = .warning ∧ after ≠ before ∧
        leaf.QuotedBackwards .standard after := by
  intro f g leaf
  obtain ⟨-, -, same, -, -, told⟩ := operand_order_irrelevant .standard (· != 1) f
  have turned : f.exchange (· != 1) = g := by rfl
  have place : f.leaves[3]? = some leaf := by rfl
  obtain ⟨before, after, found, found', alike⟩ := told 3 leaf place
  rw [turned] at same found'
  have warned : before.level = .warning := by
    cases found
    rfl
  have differ : after ≠ before := by
    cases found
    cases found'
    decide
  exact ⟨turned, ⟨same, by rfl⟩, place, before, after, found, found', warned, differ,
    ((alike warned).resolve_left differ).2⟩

end Filter

end WeatherTables
