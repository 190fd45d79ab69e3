import WeatherTables.Bundle.Calls
import WeatherTables.Proofs.Fragment.Accepted

/-!
# The calls of a connective

A filter becomes calls in three steps: it is resolved to a tree, the tree is arranged as a bundle, and the
bundle is planned. `calls_eq_flatMap` takes them together: whatever the rules are, the calls of a filter
are those of the entries of its tree, also where the filter is a single leaf and its bundle no list. That
rests on fragments never being blank. What a connective makes of the calls of its children follows from
what it makes of their entries (`connectives_compose`).
-/

set_option autoImplicit false

namespace WeatherTables

namespace Bundle

variable {rules : RuleTable}

/-- Only empty texts are skipped, and no fragment has one. -/
theorem present_texts {fragments : List Fragment} (h : ∀ f ∈ fragments, f.AcceptedBy rules) :
    present (fragments.map fun f => some f.text) = fragments.map Fragment.text := by
  induction fragments with
  | nil => rfl
  | cons f fs ih =>
    obtain ⟨first, others⟩ := List.forall_mem_cons.1 h
    have kept : (some f.text).filter (· ≠ "") = some f.text :=
      Option.filter_eq_some_iff.2 ⟨rfl, decide_eq_true first.text_ne_empty⟩
    unfold present at ih ⊢
    rw [List.map_cons, List.filterMap_cons_some kept, ih others, List.map_cons]

/-- A fragment that is asked for on its own is one call. -/
theorem calls_entryOf {f : Fragment} (h : f.AcceptedBy rules) : (entryOf f).calls = [f.text] :=
  present_texts (List.forall_mem_singleton.2 h)

/-- The entries of a disjunction are those of its children, one child after the other. -/
theorem entriesOf_any (ts : List FragmentTree) : entriesOf (.any ts) = ts.flatMap entriesOf :=
  entriesOfAll_eq_flatMap ts

/-- A tree is planned entry by entry. The tree of a single leaf is planned otherwise, as a scalar, and
that is the same call because its fragment is neither blank nor empty. -/
theorem calls_ofTree {t : FragmentTree} (h : ∀ f ∈ t.fragments, f.AcceptedBy rules) :
    (ofTree t).calls = (entriesOf t).flatMap Entry.calls := by
  cases t with
  | leaf fragment =>
    cases fragment with
    | none => rfl
    | some f =>
      -- A scalar is skipped if it is blank and an entry only if it is empty. Neither happens here.
      have accepted : f.AcceptedBy rules := h f List.mem_cons_self
      have scalar : (ofTree (.leaf (some f))).calls = [f.text] :=
        if_neg fun blank => accepted.not_blank (List.isEmpty_iff.1 blank)
      have entry : (entriesOf (.leaf (some f))).flatMap Entry.calls = [f.text] := by
        rw [entriesOf, List.flatMap_singleton, calls_entryOf accepted]
      rw [scalar, entry]
  | all children => rfl
  | any children => rfl

end Bundle

namespace Filter

variable (rules : RuleTable)

/-- The bundle of a filter. -/
def bundle (f : Filter) : Bundle :=
  .ofTree (resolve rules f).value

/-- The parameters of the calls that a filter leads to, in order. -/
def calls (f : Filter) : List String :=
  (f.bundle rules).calls

/-- The entries of the tree of a filter. They are its bundle, but for a filter that is a single leaf. -/
def entries (f : Filter) : List Bundle.Entry :=
  Bundle.entriesOf (resolve rules f).value

/-- The calls of a filter are those of its entries, in order. -/
theorem calls_eq_flatMap (f : Filter) :
    f.calls rules = (f.entries rules).flatMap Bundle.Entry.calls :=
  Bundle.calls_ofTree fun _ => acceptedBy_of_mem_fragments

/-! ## The entries of a connective -/

/-- A disjunction of filters has the entries of each of them, in order. -/
theorem entries_any (fs : List Filter) : entries rules (.any fs) = fs.flatMap (entries rules) := by
  simp only [entries, resolve_any, Bundle.entriesOf_any, List.flatMap_map]
  rfl

/-- A conjunction looks only at the fragments below it, however they nest. -/
theorem entries_all (fs : List Filter) :
    entries rules (.all fs) = Bundle.conjunction (translated rules (.all fs)) := by
  rw [← fragments_resolve, entries, resolve_all]
  rfl

/-- A constant list has the entries of an equality with each of its values, in order. -/
theorem entries_inList (column : String) (values : List String) :
    entries rules (.inList column values) = values.flatMap fun v => entries rules (member column v) := by
  simp only [entries, member, resolve_inList, resolve_equal, Bundle.entriesOf_any, leaves,
    List.map_map, List.flatMap_map, Function.comp_def]

/-! ## The calls of a connective -/

/-- The calls of a disjunction are those of its children one after the other, and the calls of a constant
list are those of the equalities with its values. A conjunction has the calls of any other conjunction
that holds the same fragments in the same order, however the two nest. -/
theorem connectives_compose :
    (∀ fs, calls rules (.any fs) = fs.flatMap (calls rules)) ∧
    (∀ column values, calls rules (.inList column values) =
      values.flatMap fun v => calls rules (.equal (.column column) (.literal v))) ∧
    ∀ fs gs, translated rules (.all fs) = translated rules (.all gs) →
      calls rules (.all fs) = calls rules (.all gs) := by
  refine ⟨fun fs => ?_, fun column values => ?_, fun fs gs same => ?_⟩
  · simp only [funext (calls_eq_flatMap rules), entries_any, List.flatMap_assoc]
  · simp only [calls_eq_flatMap, entries_inList, List.flatMap_assoc]
    rfl
  · simp only [calls_eq_flatMap, entries_all, same]

/-- A disjunction and a constant list below a conjunction, of which one value is refused, and the same
fragments in a conjunction of conjunctions. -/
theorem connectives_compose_of_regrouped :
    let nested : List Filter :=
      [.any [member "CITY_ID" "1", member "ZIP" "22"], .inList "CITY_NAME" ["7", "Rome"]]
    let regrouped : List Filter :=
      [member "CITY_ID" "1", .all [member "ZIP" "22", member "CITY_NAME" "Rome"]]
    translated .standard (.all nested) = translated .standard (.all regrouped) ∧
      calls .standard (.all nested) = calls .standard (.all regrouped) ∧
      calls .standard (.all regrouped) = ["id=1&zip=22&q=Rome"] := by
  have same : translated .standard (.all
      [.any [member "CITY_ID" "1", member "ZIP" "22"], .inList "CITY_NAME" ["7", "Rome"]]) =
        translated .standard (.all
          [member "CITY_ID" "1", .all [member "ZIP" "22", member "CITY_NAME" "Rome"]]) := by rfl
  exact ⟨same, (connectives_compose .standard).2.2 _ _ same, by rfl⟩

end Filter

end WeatherTables
