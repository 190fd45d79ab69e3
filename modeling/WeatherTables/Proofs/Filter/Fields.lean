import WeatherTables.Proofs.Filter.Shape
import WeatherTables.Proofs.Json.Fields

/-!
# What a predicate is read as

The planner's records are read into operands and nodes, of which each part comes from the field of its
own name (`PlannerOperand.Reads`, `PlannerNode.Reads`). So it is enough to know what the fields of a value
say in order to know which predicate it is: `exists_reads_of_ofJson` for any value that can be read, and
`ofJson_padded` for an object to which members were added that say nothing. Which predicate a node
describes depends on whether it has arguments, expressions or neither, in this order.
-/

set_option autoImplicit false

namespace WeatherTables

open Json

/-! ## Operands -/

namespace PlannerOperand

/-- The parts of the operand are what is said under the names of its fields. -/
structure Reads (o : PlannerOperand) (said : String → Json) : Prop where
  kind : optional asText (said "type") = .ok o.kind
  name : optional asText (said "name") = .ok o.name
  value : optional literalText (said "value") = .ok o.value

/-- Setting a field of an operand changes what is said under its name, and nothing else. -/
theorem Reads.setField {o o' : PlannerOperand} {said : String → Json} {name : String} {v : Json}
    (h : o.Reads said) (set : o.setField name v = .ok o') :
    o'.Reads (Function.update said name v) := by
  unfold PlannerOperand.setField at set
  split at set
  · obtain ⟨kind, hkind, same⟩ := bind_eq_ok_iff.1 set
    obtain rfl := Except.ok.inj same
    exact ⟨hkind, h.name, h.value⟩
  · obtain ⟨name, hname, same⟩ := bind_eq_ok_iff.1 set
    obtain rfl := Except.ok.inj same
    exact ⟨h.kind, hname, h.value⟩
  · obtain ⟨value, hvalue, same⟩ := bind_eq_ok_iff.1 set
    obtain rfl := Except.ok.inj same
    exact ⟨h.kind, h.name, hvalue⟩
  · next noType noName noValue =>
    obtain rfl := Except.ok.inj set
    constructor
    · rw [Function.update_of_ne (Ne.symm noType)]
      exact h.kind
    · rw [Function.update_of_ne (Ne.symm noName)]
      exact h.name
    · rw [Function.update_of_ne (Ne.symm noValue)]
      exact h.value

/-- An operand that is read from a value says what the fields of the value say. -/
theorem reads_of_ofJson {v : Json} {o : PlannerOperand} (h : PlannerOperand.ofJson v = .ok o) :
    o.Reads (v.field fieldNames) :=
  reads_of_asRecord ⟨rfl, rfl, rfl⟩ Reads.setField h

/-- What is said under the names of the fields determines the operand. -/
theorem Reads.unique {o o' : PlannerOperand} {said : String → Json} (h : o.Reads said)
    (h' : o'.Reads said) : o = o' := by
  have kind := Except.ok.inj (h.kind.symm.trans h'.kind)
  have name := Except.ok.inj (h.name.symm.trans h'.name)
  have value := Except.ok.inj (h.value.symm.trans h'.value)
  cases o
  cases o'
  simp_all only

/-- An operand is read in the same way when null members or unknown ones are added. -/
theorem ofJson_padded {base members : List (String × Json)} {o : PlannerOperand}
    (padded : Padded fieldNames base members) (shaped : ∀ m ∈ base, Field m.1 m.2)
    (reads : o.Reads (given base)) : PlannerOperand.ofJson (.object members) = .ok o := by
  have fields : ∀ m ∈ members, Field m.1 m.2 := padded.forall_mem .null (fun h => .ignored h) shaped
  obtain ⟨read, hread⟩ := (succeeds_ofJson_iff _).2 (RecordOf.object fields)
  have same : o.Reads (given members) :=
    ⟨by rw [padded.given_eq (by decide)]; exact reads.kind,
      by rw [padded.given_eq (by decide)]; exact reads.name,
      by rw [padded.given_eq (by decide)]; exact reads.value⟩
  rw [hread, (reads_of_ofJson hread).unique same]

end PlannerOperand

/-! ## Predicates -/

namespace PlannerNode

/-- The parts of the node are what is said under the names of its fields. -/
structure Reads (n : PlannerNode) (said : String → Json) : Prop where
  kind : optional asText (said "type") = .ok n.kind
  expressions : optional (asList Filter.ofJson) (said "expressions") = .ok n.expressions
  expression : optional PlannerOperand.ofJson (said "expression") = .ok n.expression
  arguments : optional (asList PlannerOperand.ofJson) (said "arguments") = .ok n.arguments
  left : optional PlannerOperand.ofJson (said "left") = .ok n.left
  right : optional PlannerOperand.ofJson (said "right") = .ok n.right

/-- Setting a field of a node changes what is said under its name, and nothing else. -/
theorem Reads.setField {n n' : PlannerNode} {said : String → Json} {name : String} {v : Json}
    (h : n.Reads said) (set : Filter.setField n name v = .ok n') :
    n'.Reads (Function.update said name v) := by
  by_cases hexpressions : name = "expressions"
  · subst hexpressions
    rw [Filter.setField_expressions] at set
    obtain ⟨filters, hfilters, rfl⟩ := map_eq_ok_iff.1 set
    exact ⟨h.kind, hfilters, h.expression, h.arguments, h.left, h.right⟩
  · unfold Filter.setField at set
    split at set
    · obtain ⟨kind, hkind, same⟩ := bind_eq_ok_iff.1 set
      obtain rfl := Except.ok.inj same
      exact ⟨hkind, h.expressions, h.expression, h.arguments, h.left, h.right⟩
    · contradiction
    · obtain ⟨column, hcolumn, same⟩ := bind_eq_ok_iff.1 set
      obtain rfl := Except.ok.inj same
      exact ⟨h.kind, h.expressions, hcolumn, h.arguments, h.left, h.right⟩
    · obtain ⟨operands, hoperands, same⟩ := bind_eq_ok_iff.1 set
      obtain rfl := Except.ok.inj same
      exact ⟨h.kind, h.expressions, h.expression, hoperands, h.left, h.right⟩
    · obtain ⟨left, hleft, same⟩ := bind_eq_ok_iff.1 set
      obtain rfl := Except.ok.inj same
      exact ⟨h.kind, h.expressions, h.expression, h.arguments, hleft, h.right⟩
    · obtain ⟨right, hright, same⟩ := bind_eq_ok_iff.1 set
      obtain rfl := Except.ok.inj same
      exact ⟨h.kind, h.expressions, h.expression, h.arguments, h.left, hright⟩
    · next noType _ noExpression noArguments noLeft noRight =>
      obtain rfl := Except.ok.inj set
      have unchanged {other : String} (differ : name ≠ other) :
          Function.update said name v other = said other := Function.update_of_ne (Ne.symm differ) _ _
      constructor
      · exact (unchanged noType).symm ▸ h.kind
      · exact (unchanged hexpressions).symm ▸ h.expressions
      · exact (unchanged noExpression).symm ▸ h.expression
      · exact (unchanged noArguments).symm ▸ h.arguments
      · exact (unchanged noLeft).symm ▸ h.left
      · exact (unchanged noRight).symm ▸ h.right

/-- What is said under the names of the fields determines the node. -/
theorem Reads.unique {n n' : PlannerNode} {said : String → Json} (h : n.Reads said)
    (h' : n'.Reads said) : n = n' := by
  have kind := Except.ok.inj (h.kind.symm.trans h'.kind)
  have expressions := Except.ok.inj (h.expressions.symm.trans h'.expressions)
  have expression := Except.ok.inj (h.expression.symm.trans h'.expression)
  have arguments := Except.ok.inj (h.arguments.symm.trans h'.arguments)
  have left := Except.ok.inj (h.left.symm.trans h'.left)
  have right := Except.ok.inj (h.right.symm.trans h'.right)
  cases n
  cases n'
  simp_all only

/-! ## Which predicate a node describes -/

variable {n : PlannerNode}

/-- A node with arguments is a constant list, or else of an unknown kind. -/
theorem toFilter_of_arguments (h : n.arguments.getD [] ≠ []) :
    n.toFilter =
      (toList? n.expression (n.arguments.getD [])).getD (.other (n.kind.getD "")) := by
  unfold toFilter
  cases found : n.arguments.getD [] with
  | nil => exact absurd found h
  | cons argument more => rfl

/-- A node without arguments that has expressions is a disjunction or a conjunction, by its kind. -/
theorem toFilter_of_expressions (noArguments : n.arguments.getD [] = [])
    (h : n.expressions.getD [] ≠ []) :
    n.toFilter =
      if n.kind.getD "" = "predicate_or" then .any (n.expressions.getD [])
      else .all (n.expressions.getD []) := by
  rw [toFilter, noArguments]
  cases found : n.expressions.getD [] with
  | nil => exact absurd found h
  | cons child more => rfl

/-- A node with neither arguments nor expressions is read by its two operands. -/
theorem toFilter_of_operands (noArguments : n.arguments.getD [] = [])
    (noExpressions : n.expressions.getD [] = []) : n.toFilter = n.toEqual (n.kind.getD "") := by
  rw [toFilter, noArguments, noExpressions]

/-- All arguments have values just when their values are found one by one. -/
theorem mapM_value_eq_some_iff {arguments : List PlannerOperand} {values : List String} :
    arguments.mapM PlannerOperand.value = some values ↔
      arguments.map PlannerOperand.value = values.map some := by
  induction arguments generalizing values with
  | nil =>
    cases values with
    | nil => exact iff_of_true rfl rfl
    | cons => exact iff_of_false nofun nofun
  | cons a arguments ih =>
    simp only [List.mapM_cons, Option.bind_eq_bind, Option.bind_eq_some_iff, Option.pure_def,
      Option.some.injEq, ih, List.map_cons]
    constructor
    · rintro ⟨value, hvalue, values, others, rfl⟩
      rw [hvalue, others, List.map_cons]
    · intro same
      obtain ⟨value, others, rfl, hvalue, hothers⟩ := List.map_eq_cons_iff.1 same.symm
      exact ⟨value, hvalue.symm, others, hothers.symm, rfl⟩

/-- Arguments have a list of values just when none of them lacks its value. -/
theorem exists_map_value_eq_iff {arguments : List PlannerOperand} :
    (∃ values : List String, arguments.map PlannerOperand.value = values.map some) ↔
      ∀ a ∈ arguments, a.value ≠ none := by
  constructor
  · rintro ⟨values, same⟩ a ha
    have found : a.value ∈ values.map some := same ▸ List.mem_map_of_mem ha
    obtain ⟨value, -, hvalue⟩ := List.mem_map.1 found
    rw [← hvalue]
    exact Option.some_ne_none value
  · intro all
    refine ⟨arguments.map fun a => a.value.getD "", ?_⟩
    rw [List.map_map]
    refine List.map_congr_left fun a ha => ?_
    obtain ⟨value, hvalue⟩ := Option.ne_none_iff_exists'.1 (all a ha)
    rw [Function.comp_apply, hvalue, Option.getD_some]

/-- Arguments make a list if the column has a name and each of them a value. -/
theorem toList?_eq_some_iff {column : Option PlannerOperand} {arguments : List PlannerOperand}
    {f : Filter} :
    toList? column arguments = some f ↔
      ∃ name values, column.bind PlannerOperand.name = some name ∧
        arguments.map PlannerOperand.value = values.map some ∧ f = .inList name values := by
  simp only [toList?, Option.bind_eq_bind, Option.bind_eq_some_iff, mapM_value_eq_some_iff,
    Option.pure_def, Option.some.injEq]
  constructor
  · rintro ⟨name, named, values, valued, rfl⟩
    exact ⟨name, values, named, valued, rfl⟩
  · rintro ⟨name, values, named, valued, rfl⟩
    exact ⟨name, named, values, valued, rfl⟩

/-- Whatever a node describes, a list or a connective has something in it. -/
theorem toFilter_cases (n : PlannerNode) :
    (∃ column values, values ≠ [] ∧ n.toFilter = .inList column values) ∨
    (∃ fs, fs ≠ [] ∧ n.expressions = some fs ∧ (n.toFilter = .all fs ∨ n.toFilter = .any fs)) ∨
    (∃ left right, n.toFilter = .equal left right) ∨
    ∃ kind, n.toFilter = .other kind := by
  by_cases noArguments : n.arguments.getD [] = []
  · by_cases noExpressions : n.expressions.getD [] = []
    · rw [toFilter_of_operands noArguments noExpressions]
      refine .inr (.inr ?_)
      unfold toEqual
      split
      · split
        · exact .inl ⟨_, _, rfl⟩
        · exact .inr ⟨_, rfl⟩
      · exact .inr ⟨_, rfl⟩
    · rw [toFilter_of_expressions noArguments noExpressions]
      obtain ⟨fs, hfs⟩ : ∃ fs, n.expressions = some fs := by
        cases found : n.expressions with
        | none => exact absurd (congrArg (Option.getD · []) found) noExpressions
        | some fs => exact ⟨fs, rfl⟩
      rw [hfs, Option.getD_some] at noExpressions ⊢
      refine .inr (.inl ⟨fs, noExpressions, rfl, ?_⟩)
      split
      · exact .inr rfl
      · exact .inl rfl
  · rw [toFilter_of_arguments noArguments]
    cases found : toList? n.expression (n.arguments.getD []) with
    | none => exact .inr (.inr (.inr ⟨_, rfl⟩))
    | some f =>
      obtain ⟨name, values, -, valued, rfl⟩ := toList?_eq_some_iff.1 found
      refine .inl ⟨name, values, ?_, rfl⟩
      rintro rfl
      exact noArguments (List.map_eq_nil_iff.1 valued)

end PlannerNode

namespace Filter

/-- A value that can be read is the predicate that its fields describe. -/
theorem exists_reads_of_ofJson {v : Json} {f : Filter} (h : Filter.ofJson v = .ok f) :
    ∃ n : PlannerNode, n.Reads (v.field PlannerNode.fieldNames) ∧ f = n.toFilter := by
  rw [ofJson_eq_asRecord] at h
  obtain ⟨n, hn, rfl⟩ := map_eq_ok_iff.1 h
  exact ⟨n, reads_of_asRecord ⟨rfl, rfl, rfl, rfl, rfl, rfl⟩ PlannerNode.Reads.setField hn, rfl⟩

/-- Members that say nothing do not change the predicate. -/
theorem ofJson_padded {base members : List (String × Json)} {n : PlannerNode}
    (padded : Padded PlannerNode.fieldNames base members) (shaped : ∀ m ∈ base, Field m.1 m.2)
    (reads : n.Reads (given base)) : Filter.ofJson (.object members) = .ok n.toFilter := by
  have fields : ∀ m ∈ members, Field m.1 m.2 := padded.forall_mem .null (fun h => .ignored h) shaped
  obtain ⟨f, hf⟩ := (succeeds_ofJson_iff _).2 (.record (.object fields))
  obtain ⟨read, hread, rfl⟩ := exists_reads_of_ofJson hf
  have same : n.Reads (given members) :=
    ⟨by rw [padded.given_eq (by decide)]; exact reads.kind,
      by rw [padded.given_eq (by decide)]; exact reads.expressions,
      by rw [padded.given_eq (by decide)]; exact reads.expression,
      by rw [padded.given_eq (by decide)]; exact reads.arguments,
      by rw [padded.given_eq (by decide)]; exact reads.left,
      by rw [padded.given_eq (by decide)]; exact reads.right⟩
  rw [hf, hread.unique same]

end Filter

end WeatherTables
