import WeatherTables.Proofs.Bundle.Dimensions

/-!
# Alternatives in one call

Two leaves are alternatives if the ways to them part at a disjunction or in a constant list. A call is not
marked with the leaves it is made of, but only one division of the fragments has its parts for the calls
(`MadeOf.eq`), so it makes sense to ask whether a call combines alternatives. `alternatives_apart_iff`
answers: it does where a conjunction over different parameters has alternatives below it, and nowhere
else. A conjunction looks only at fragments, so the disjunction below it is lost.
-/

set_option autoImplicit false

namespace WeatherTables

/-! ## One division for the calls -/

namespace Bundle

/-- The length of the fragments when each is followed by one character. -/
def spread (fragments : List Fragment) : Nat :=
  fragments.foldr (fun f total => f.text.length + 1 + total) 0

/-- The lengths of two lists of fragments add up. -/
theorem spread_append (fs gs : List Fragment) : spread (fs ++ gs) = spread fs + spread gs := by
  induction fs with
  | nil => exact (Nat.zero_add _).symm
  | cons f fs ih =>
    simp only [spread, List.cons_append, List.foldr_cons] at ih ⊢
    omega

/-- Fragments joined by ampersands are one character shorter than when one follows each. -/
theorem length_joined (f : Fragment) (fs : List Fragment) :
    ("&".intercalate ((f :: fs).map Fragment.text)).length + 1 = spread (f :: fs) := by
  induction fs generalizing f with
  | nil => rfl
  | cons g fs ih =>
    have one : "&".length = 1 := rfl
    have rest := ih g
    rw [List.map_cons] at rest
    simp only [List.map_cons, String.intercalate_cons_cons, String.length_append, one, spread,
      List.foldr_cons] at rest ⊢
    omega

/-- A call is as long as its fragments and the signs between them, of which a postal code needs none. -/
theorem length_callText (f : Fragment) (fs : List Fragment) :
    (callText (f :: fs)).length < spread (f :: fs) ∧
      spread (f :: fs) ≤ (callText (f :: fs)).length + 2 := by
  have joined := length_joined f fs
  match fs with
  | [] =>
    simp only [callText, spread, List.foldr_cons, List.foldr_nil]
    omega
  | [g] =>
    simp only [callText]
    split_ifs
    · simp only [String.length_append, spread, List.foldr_cons, List.foldr_nil]
      omega
    · simp only [String.length_append, spread, List.foldr_cons, List.foldr_nil]
      omega
    · simp only [List.map_cons, List.map_nil] at joined
      omega
  | g :: k :: rest =>
    have text : callText (f :: g :: k :: rest) =
        "&".intercalate ((f :: g :: k :: rest).map Fragment.text) := rfl
    rw [text]
    omega

/-- A call for more fragments is longer. -/
theorem length_callText_append_lt {fs gs : List Fragment} (hfs : fs ≠ []) (hgs : gs ≠ [])
    (there : ∀ g ∈ gs, g.text ≠ "") : (callText fs).length < (callText (fs ++ gs)).length := by
  obtain ⟨f, fs, rfl⟩ := List.exists_cons_of_ne_nil hfs
  obtain ⟨g, gs, rfl⟩ := List.exists_cons_of_ne_nil hgs
  have nonempty : g.text.length ≠ 0 := fun e =>
    there g List.mem_cons_self (String.length_eq_zero_iff.1 e)
  have longer : spread (f :: fs) + 2 ≤ spread (f :: fs ++ g :: gs) := by
    rw [spread_append]
    simp only [spread, List.foldr_cons]
    omega
  have short := (length_callText f fs).1
  have long := (length_callText f (fs ++ g :: gs)).2
  rw [← List.cons_append] at long
  omega

end Bundle

namespace Site

/-- The text of the call for the fragments of some sites together. -/
def callText (sites : List Site) : String :=
  Bundle.callText (sites.map fragment)

/-- Sites can be divided in one way only so that the parts have given texts: of two first parts that
differ one is longer, and so is its text. -/
theorem parts_unique {parts others : List (List Site)}
    (there : ∀ s ∈ parts.flatten, s.fragment.text ≠ "")
    (hparts : ∀ part ∈ parts, part ≠ []) (hothers : ∀ part ∈ others, part ≠ [])
    (same : others.flatten = parts.flatten) (texts : others.map callText = parts.map callText) :
    others = parts := by
  have no_shorter {xs ys : List Site} (hxs : xs ≠ []) (hys : ys ≠ [])
      (hthere : ∀ s ∈ ys, s.fragment.text ≠ "") : callText xs ≠ callText (xs ++ ys) := by
    intro equal
    have longer : (callText xs).length < (callText (xs ++ ys)).length := by
      rw [callText, callText, List.map_append]
      refine Bundle.length_callText_append_lt (by simpa using hxs) (by simpa using hys) ?_
      intro g hg
      obtain ⟨s, hs, rfl⟩ := List.mem_map.1 hg
      exact hthere s hs
    rw [equal] at longer
    exact Nat.lt_irrefl _ longer
  induction parts generalizing others with
  | nil => exact List.map_eq_nil_iff.1 texts
  | cons part parts ih =>
    cases others with
    | nil => cases texts
    | cons other others =>
      obtain ⟨text, restTexts⟩ := List.cons.inj texts
      obtain ⟨hpart, restParts⟩ := List.forall_mem_cons.1 hparts
      obtain ⟨hother, restOthers⟩ := List.forall_mem_cons.1 hothers
      rw [List.flatten_cons, List.flatten_cons] at same
      rw [List.flatten_cons] at there
      -- One of the two first parts begins the other, and what it lacks makes the other longer.
      have first : other = part := by
        rcases List.append_eq_append_iff.1 same with ⟨more, rfl, -⟩ | ⟨more, rfl, rest⟩
        · by_contra differ
          have hmore : more ≠ [] := fun e => differ (by rw [e, List.append_nil])
          exact no_shorter hother hmore (fun s hs => there s (by simp [hs])) text
        · by_contra differ
          have hmore : more ≠ [] := fun e => differ (by rw [e, List.append_nil])
          exact no_shorter hpart hmore (fun s hs => there s (by simp [rest, hs])) text.symm
      subst first
      rw [ih (fun s hs => there s (List.mem_append_right _ hs)) restParts restOthers
        (List.append_cancel_left same) restTexts]

end Site

/-! ## Alternatives -/

namespace Filter

/-- The ways to two leaves part at a disjunction, where they lead to different children, or in a constant
list, where they lead to different values. -/
inductive Alternatives : Filter → List Nat → List Nat → Prop where
  | any {fs : List Filter} {i j : Nat} {p q : List Nat} (differ : i ≠ j) :
    Alternatives (.any fs) (i :: p) (j :: q)
  | inList {column : String} {values : List String} {i j : Nat} (differ : i ≠ j) :
    Alternatives (.inList column values) [i] [j]
  | belowAny {fs : List Filter} {f : Filter} {i : Nat} {p q : List Nat} (child : fs[i]? = some f)
    (h : Alternatives f p q) : Alternatives (.any fs) (i :: p) (i :: q)
  | belowAll {fs : List Filter} {f : Filter} {i : Nat} {p q : List Nat} (child : fs[i]? = some f)
    (h : Alternatives f p q) : Alternatives (.all fs) (i :: p) (i :: q)

/-- The way to a leaf does not part from itself. -/
theorem not_alternatives_self (f : Filter) (p : List Nat) : ¬ Alternatives f p p := by
  intro h
  induction f using induct generalizing p with
  | all fs ih =>
    cases h with
    | belowAll child h => exact ih _ (List.mem_of_getElem? child) _ h
  | any fs ih =>
    cases h with
    | any differ => exact differ rfl
    | belowAny child h => exact ih _ (List.mem_of_getElem? child) _ h
  | inList column values =>
    cases h with
    | inList differ => exact differ rfl
  | equal left right => cases h
  | other kind => cases h

/-- Two ways through the same child of a disjunction part there if they part below that child. -/
theorem alternatives_any_iff {fs : List Filter} {f : Filter} {i : Nat} (child : fs[i]? = some f)
    (p q : List Nat) : Alternatives (.any fs) (i :: p) (i :: q) ↔ Alternatives f p q := by
  constructor
  · intro h
    cases h with
    | any differ => exact absurd rfl differ
    | belowAny child' h =>
      obtain rfl := Option.some.inj (child.symm.trans child')
      exact h
  · exact .belowAny child

/-- No two of the sites are alternatives. -/
def KeptApart (f : Filter) (sites : List Site) : Prop :=
  ∀ a ∈ sites, ∀ b ∈ sites, ¬ f.Alternatives a.path b.path

/-- A single site has no alternative beside it. -/
theorem keptApart_singleton (f : Filter) (s : Site) : f.KeptApart [s] := by
  intro a ha b hb
  rw [List.mem_singleton.1 ha, List.mem_singleton.1 hb]
  exact not_alternatives_self f s.path

mutual

/-- The conjunctions that stand below no other conjunction. -/
def conjunctions : Filter → List Filter
  | .all children => [.all children]
  | .any children => conjunctionsOf children
  | .inList _ _ => []
  | .equal _ _ => []
  | .other _ => []

/-- The conjunctions of the filters of a list. -/
def conjunctionsOf : List Filter → List Filter
  | [] => []
  | f :: fs => conjunctions f ++ conjunctionsOf fs

end

/-- The outermost conjunctions of a list of filters are those of its filters, one after the other. -/
theorem conjunctionsOf_eq_flatMap (fs : List Filter) :
    conjunctionsOf fs = fs.flatMap conjunctions := by
  induction fs with
  | nil => rfl
  | cons f fs ih => simp [conjunctionsOf, ih]

variable (rules : RuleTable)

/-- The fragments of a filter in order, each with the way to its leaf. -/
def sites (f : Filter) : List Site :=
  (resolve rules f).value.sites

/-- The calls of the filter are made of these parts, which hold every fragment once and in order. -/
structure MadeOf (f : Filter) (parts : List (List Site)) : Prop where
  flatten_eq : parts.flatten = f.sites rules
  ne_nil : ∀ part ∈ parts, part ≠ []
  texts_eq : parts.map Site.callText = f.calls rules

/-- Fragments that hold together are kept apart if each is asked for alone or no two are alternatives. -/
theorem keptApart_split_iff (f : Filter) (sites : List Site) :
    (∀ part ∈ Site.split sites, f.KeptApart part) ↔
      Bundle.sameParameter (sites.map Site.fragment) = true ∨ f.KeptApart sites := by
  unfold Site.split
  split
  · next same =>
    refine iff_of_true (fun part hpart => ?_) (.inl same)
    obtain ⟨s, -, rfl⟩ := List.mem_map.1 hpart
    exact keptApart_singleton f s
  · next differ => rw [List.forall_mem_singleton, or_iff_right differ]

/-- Every part of a leaf is a single site. -/
theorem singleton_of_mem_parts_leaf {fragment : Option Fragment} {part : List Site}
    (h : part ∈ (FragmentTree.leaf fragment).parts) : ∃ s, part = [s] := by
  obtain ⟨f, -, rfl⟩ := List.mem_map.1 h
  exact ⟨_, rfl⟩

/-- Sites of one child of a disjunction are kept apart there if they are in that child. -/
theorem keptApart_below_iff {fs : List Filter} {f : Filter} {i : Nat} (child : fs[i]? = some f)
    (sites : List Site) :
    KeptApart (.any fs) (sites.map (Site.below i)) ↔ f.KeptApart sites := by
  simp only [KeptApart, List.forall_mem_map, Site.below, alternatives_any_iff child]

/-- A part of a disjunction is a part of one of its children. -/
theorem mem_parts_any {fs : List Filter} {part : List Site} :
    part ∈ (resolve rules (.any fs)).value.parts ↔
      ∃ f i, fs[i]? = some f ∧
        ∃ inner ∈ (resolve rules f).value.parts, inner.map (Site.below i) = part := by
  rw [resolve_any, FragmentTree.parts, FragmentTree.mem_partsFrom]
  simp only [List.mk_mem_zipIdx_iff_getElem?, List.getElem?_map, Option.map_eq_some_iff]
  constructor
  · rintro ⟨t, i, ⟨f, child, rfl⟩, inner⟩
    exact ⟨f, i, child, inner⟩
  · rintro ⟨f, i, child, inner⟩
    exact ⟨_, i, ⟨f, child, rfl⟩, inner⟩

/-- The parts of a constant list are single fragments. -/
theorem singleton_of_mem_parts_inList {column : String} {values : List String} {part : List Site}
    (h : part ∈ (resolve rules (.inList column values)).value.parts) : ∃ s, part = [s] := by
  rw [resolve_inList, FragmentTree.parts, FragmentTree.mem_partsFrom] at h
  obtain ⟨t, i, place, inner, hinner, rfl⟩ := h
  obtain ⟨fragment, -, rfl⟩ := List.mem_map.1 (List.fst_mem_of_mem_zipIdx place)
  obtain ⟨s, rfl⟩ := singleton_of_mem_parts_leaf hinner
  exact ⟨_, rfl⟩

/-- Alternatives stay apart exactly where each of the outermost conjunctions asks for one thing or holds
no alternatives. -/
theorem keptApart_parts_iff (f : Filter) :
    (∀ part ∈ (resolve rules f).value.parts, f.KeptApart part) ↔
      ∀ c ∈ f.conjunctions, Bundle.sameParameter (c.translated rules) = true ∨
        c.KeptApart (c.sites rules) := by
  induction f using induct with
  | all fs ih =>
    rw [conjunctions, List.forall_mem_singleton, ← fragments_resolve,
      ← FragmentTree.map_fragment_sites, ← sites, ← keptApart_split_iff, sites, resolve_all]
    rfl
  | any fs ih =>
    -- Two sites of one child are alternatives here only if they are in the child.
    have children : (∀ part ∈ (resolve rules (.any fs)).value.parts, (any fs).KeptApart part) ↔
        ∀ f ∈ fs, ∀ part ∈ (resolve rules f).value.parts, f.KeptApart part := by
      constructor
      · intro apart f hf part hpart
        obtain ⟨i, child⟩ := List.mem_iff_getElem?.1 hf
        exact (keptApart_below_iff child part).1
          (apart _ ((mem_parts_any rules).2 ⟨f, i, child, part, hpart, rfl⟩))
      · intro apart part hpart
        obtain ⟨f, i, child, inner, hinner, rfl⟩ := (mem_parts_any rules).1 hpart
        exact (keptApart_below_iff child inner).2
          (apart f (List.mem_of_getElem? child) inner hinner)
    rw [children, conjunctions, conjunctionsOf_eq_flatMap, List.forall_mem_flatMap]
    exact forall₂_congr ih
  | inList column values =>
    refine iff_of_true (fun part hpart => ?_) nofun
    obtain ⟨s, rfl⟩ := singleton_of_mem_parts_inList rules hpart
    exact keptApart_singleton _ s
  | equal left right =>
    refine iff_of_true (fun part hpart => ?_) nofun
    rw [resolve_equal] at hpart
    obtain ⟨s, rfl⟩ := singleton_of_mem_parts_leaf hpart
    exact keptApart_singleton _ s
  | other kind => exact iff_of_true nofun nofun

/-- No site has a fragment with an empty text. -/
theorem text_ne_empty_of_mem_sites {f : Filter} {s : Site} (h : s ∈ f.sites rules) :
    s.fragment.text ≠ "" := by
  have found : s.fragment ∈ (resolve rules f).value.fragments := by
    rw [← FragmentTree.map_fragment_sites]
    exact List.mem_map_of_mem h
  exact (acceptedBy_of_mem_fragments found).text_ne_empty

/-- The calls of a filter are made of given fragments in one way only. -/
theorem MadeOf.eq {rules : RuleTable} {f : Filter} {parts others : List (List Site)}
    (h : f.MadeOf rules parts) (hothers : f.MadeOf rules others) : others = parts := by
  refine Site.parts_unique ?_ h.ne_nil hothers.ne_nil
    (hothers.flatten_eq.trans h.flatten_eq.symm) (hothers.texts_eq.trans h.texts_eq.symm)
  rw [h.flatten_eq]
  exact fun s => text_ne_empty_of_mem_sites rules

/-- Under the standard rules the calls are made of the parts of the tree. -/
theorem madeOf_parts (f : Filter) : f.MadeOf .standard (resolve .standard f).value.parts where
  flatten_eq := FragmentTree.flatten_parts _
  ne_nil part hpart := by
    rintro rfl
    exact FragmentTree.ne_nil_of_mem_fragmentParts (List.mem_map_of_mem hpart) rfl
  texts_eq := by
    rw [calls, bundle, FragmentTree.calls_ofTree_eq_map fun _ => acceptedBy_of_mem_fragments,
      FragmentTree.fragmentParts, List.map_map]
    rfl

/-- The calls of a filter under the standard rules are made of its fragments in exactly one way, and no
call combines two alternatives exactly if, of the conjunctions that stand below no other, each has
fragments of one parameter only or holds no two alternatives that both have a fragment. -/
theorem alternatives_apart_iff (f : Filter) :
    ∃ parts : List (List Site),
      (∀ others, f.MadeOf .standard others ↔ others = parts) ∧
      ((∀ part ∈ parts, f.KeptApart part) ↔
        ∀ c ∈ f.conjunctions, Bundle.sameParameter (c.translated .standard) = true ∨
          c.KeptApart (c.sites .standard)) := by
  refine ⟨(resolve .standard f).value.parts, fun others => ⟨(madeOf_parts f).eq, ?_⟩,
    keptApart_parts_iff .standard f⟩
  rintro rfl
  exact madeOf_parts f

/-- A disjunction that is the only child of a conjunction. Its two alternatives are combined in one
call. -/
theorem alternatives_combined_below_conjunction :
    let f : Filter := .all [.any [member "CITY_ID" "1", member "CITY_NAME" "Paris"]]
    let part : List Site := [⟨[0, 0], ⟨"id=", "1"⟩⟩, ⟨[0, 1], ⟨"q=", "Paris"⟩⟩]
    f.calls .standard = ["id=1&q=Paris"] ∧ f.MadeOf .standard [part] ∧
      f.Alternatives [0, 0] [0, 1] ∧ ¬ f.KeptApart part := by
  intro f part
  have alternatives : f.Alternatives [0, 0] [0, 1] := .belowAll rfl (.any (by decide))
  refine ⟨by rfl, ⟨by rfl, by simp [part], by rfl⟩, alternatives, fun apart => ?_⟩
  exact apart _ List.mem_cons_self _ (List.mem_cons_of_mem _ List.mem_cons_self) alternatives

end Filter

end WeatherTables
