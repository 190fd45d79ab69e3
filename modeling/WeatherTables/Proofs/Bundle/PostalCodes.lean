import WeatherTables.Proofs.Bundle.Alternatives

/-!
# What stands next to a postal code

In a call the fragments are separated by ampersands, but for a postal code and its one companion, which are
written next to each other. That is meant for a postal code and its country. The companion, however, can be
of any other column: `companions_are_countries_iff` says that it is a country in all calls of a filter
exactly if no outermost conjunction comes down to a postal code and one fragment of a third column. If one
does, two parameters run together (`city_next_to_postal_code`).
-/

set_option autoImplicit false

namespace WeatherTables

namespace Fragment

/-- The fragment filters the column of that name. -/
def OfColumn (f : Fragment) (column : String) : Prop :=
  ∃ rule ∈ RuleTable.standard.rules, rule.column = column ∧ rule.parameter = f.parameter

/-- Whether a fragment filters a column is found by trying the rules one by one. -/
instance (f : Fragment) (column : String) : Decidable (f.OfColumn column) :=
  inferInstanceAs (Decidable (∃ rule ∈ RuleTable.standard.rules, _))

/-- The fragments of the column of postal codes are those with its parameter. -/
theorem ofColumn_zip_iff {f : Fragment} : f.OfColumn "ZIP" ↔ f.parameter = Bundle.zipStart := by
  simp [OfColumn, RuleTable.standard, Bundle.zipStart, eq_comm]

/-- The fragments are a postal code and one of another column, in either order. -/
def PostalPair (zip other : Fragment) (fragments : List Fragment) : Prop :=
  zip.OfColumn "ZIP" ∧ ¬ other.OfColumn "ZIP" ∧ (fragments = [zip, other] ∨ fragments = [other, zip])

/-- The fragments with an ampersand between each two. -/
def joinedTexts (fragments : List Fragment) : String :=
  "&".intercalate (fragments.map text)

/-- The call has ampersands between the fragments, or it is a postal code with a companion of the given
kind right behind it. -/
def WrittenWith (kind : Fragment → Prop) (fragments : List Fragment) (call : String) : Prop :=
  call = joinedTexts fragments ∨
    ∃ zip other, PostalPair zip other fragments ∧ kind other ∧ call = zip.text ++ other.text

end Fragment

/-! ## The call of a postal code -/

namespace Bundle

open Fragment

/-- Of two fragments, one postal code is written right in front of the other fragment, and they are
joined if both or neither of them is one. -/
theorem callText_pair (f g : Fragment) :
    callText [f, g] =
      if f.OfColumn "ZIP" ∧ ¬ g.OfColumn "ZIP" then f.text ++ g.text
      else if g.OfColumn "ZIP" ∧ ¬ f.OfColumn "ZIP" then g.text ++ f.text
      else joinedTexts [f, g] := by
  simp only [ofColumn_zip_iff]
  rfl

/-- A postal code and its companion are written in this order and next to each other. -/
theorem callText_of_postalPair {zip other : Fragment} {fragments : List Fragment}
    (h : PostalPair zip other fragments) : callText fragments = zip.text ++ other.text := by
  obtain ⟨code, companion, rfl | rfl⟩ := h
  · rw [callText_pair, if_pos ⟨code, companion⟩]
  · rw [callText_pair, if_neg fun h => companion h.1, if_pos ⟨code, companion⟩]

/-- All others are written with ampersands. -/
theorem callText_of_no_postalPair {fragments : List Fragment}
    (h : ∀ zip other, ¬ PostalPair zip other fragments) :
    callText fragments = joinedTexts fragments := by
  match fragments, h with
  | [], _ | f :: g :: k :: rest, _ => rfl
  | [f], _ => exact String.intercalate_singleton.symm
  | [f, g], h =>
    have first : ¬ (f.OfColumn "ZIP" ∧ ¬ g.OfColumn "ZIP") := fun both =>
      h f g ⟨both.1, both.2, .inl rfl⟩
    have second : ¬ (g.OfColumn "ZIP" ∧ ¬ f.OfColumn "ZIP") := fun both =>
      h g f ⟨both.1, both.2, .inr rfl⟩
    rw [callText_pair, if_neg first, if_neg second]

/-- With an ampersand between them a postal code and its companion would be longer. -/
theorem callText_ne_joinedTexts {zip other : Fragment} {fragments : List Fragment}
    (h : PostalPair zip other fragments) : callText fragments ≠ joinedTexts fragments := by
  have beside := callText_of_postalPair h
  intro same
  rw [same] at beside
  have lengths := congrArg String.length beside
  rw [String.length_append] at lengths
  obtain ⟨-, -, rfl | rfl⟩ := h
  · have joined := length_joined zip [other]
    simp only [joinedTexts, spread, List.foldr_cons, List.foldr_nil] at joined lengths
    omega
  · have joined := length_joined other [zip]
    simp only [joinedTexts, spread, List.foldr_cons, List.foldr_nil] at joined lengths
    omega

/-- The companions in a call are of a kind exactly if the call is written accordingly. -/
theorem writtenWith_callText_iff {kind : Fragment → Prop} {fragments : List Fragment} :
    WrittenWith kind fragments (callText fragments) ↔
      ∀ zip other, PostalPair zip other fragments → kind other := by
  constructor
  · rintro (joined | ⟨zip, other, ⟨code, companion, both⟩, isKind, -⟩) zip' other' pair'
    · exact absurd joined (callText_ne_joinedTexts pair')
    · -- Only one of the two fragments is a postal code, so the companion is the same one.
      obtain ⟨code', companion', both'⟩ := pair'
      have inside : other' ∈ fragments := by rcases both' with rfl | rfl <;> simp
      have cases : other' = zip ∨ other' = other := by
        rcases both with rfl | rfl <;> simpa [or_comm] using inside
      rcases cases with rfl | rfl
      · exact absurd code companion'
      · exact isKind
  · intro all
    by_cases h : ∃ zip other, PostalPair zip other fragments
    · obtain ⟨zip, other, pair⟩ := h
      exact .inr ⟨zip, other, pair, all zip other pair, callText_of_postalPair pair⟩
    · push Not at h
      exact .inl (callText_of_no_postalPair h)

end Bundle

/-! ## The parts of a filter -/

namespace FragmentTree

/-- What holds of single fragments holds of the parts of a conjunction exactly if it holds of all its
fragments together, unless they have one parameter only. -/
theorem forall_fragmentParts_all_iff {P : List Fragment → Prop} (single : ∀ f, P [f])
    (ts : List FragmentTree) :
    (∀ part ∈ fragmentParts (.all ts), P part) ↔
      Bundle.sameParameter (fragmentsOf ts) = true ∨ P (fragmentsOf ts) := by
  have fragments : (sitesFrom 0 ts).map Site.fragment = fragmentsOf ts :=
    map_fragment_sitesFrom (fun t _ => map_fragment_sites t) 0
  rw [fragmentParts, parts, List.forall_mem_map, ← fragments]
  unfold Site.split
  split
  · next same =>
    refine iff_of_true ?_ (.inl same)
    rw [List.forall_mem_map]
    exact fun s _ => single s.fragment
  · next differ => rw [List.forall_mem_singleton, or_iff_right differ]

/-- The parts of a list of trees have the fragments of the parts of each tree, in order. -/
theorem map_fragment_partsFrom (i : Nat) (ts : List FragmentTree) :
    (partsFrom i ts).map (List.map Site.fragment) = ts.flatMap fragmentParts := by
  induction ts generalizing i with
  | nil => rfl
  | cons t ts ih =>
    rw [partsFrom, List.map_append, ih, List.map_map, List.flatMap_cons, fragmentParts]
    congr 2
    exact funext fun part => List.map_map

end FragmentTree

namespace Filter

/-- What holds of single fragments holds of all parts of a filter exactly if it holds of the fragments of
each outermost conjunction, unless they have one parameter only. -/
theorem forall_fragmentParts_iff {P : List Fragment → Prop} (single : ∀ f, P [f]) (rules : RuleTable)
    (f : Filter) :
    (∀ part ∈ (resolve rules f).value.fragmentParts, P part) ↔
      ∀ c ∈ f.conjunctions,
        Bundle.sameParameter (c.translated rules) = true ∨ P (c.translated rules) := by
  induction f using induct with
  | all fs ih =>
    rw [conjunctions, List.forall_mem_singleton, ← fragments_resolve, resolve_all]
    exact FragmentTree.forall_fragmentParts_all_iff single _
  | any fs ih =>
    rw [conjunctions, conjunctionsOf_eq_flatMap, List.forall_mem_flatMap, resolve_any,
      FragmentTree.fragmentParts, FragmentTree.parts, FragmentTree.map_fragment_partsFrom,
      List.forall_mem_flatMap, List.forall_mem_map]
    exact forall₂_congr ih
  | inList column values =>
    refine iff_of_true ?_ (List.forall_mem_nil _)
    rw [FragmentTree.fragmentParts, List.forall_mem_map]
    intro part hpart
    obtain ⟨s, rfl⟩ := singleton_of_mem_parts_inList rules hpart
    exact single s.fragment
  | equal left right =>
    refine iff_of_true ?_ (List.forall_mem_nil _)
    rw [FragmentTree.fragmentParts, List.forall_mem_map, resolve_equal]
    intro part hpart
    obtain ⟨s, rfl⟩ := singleton_of_mem_parts_leaf hpart
    exact single s.fragment
  | other kind => exact iff_of_true (List.forall_mem_nil _) (List.forall_mem_nil _)

open Fragment

/-- The calls of a filter under the standard rules are made of its fragments in exactly one way. In each
call the fragments are separated by ampersands, or the call is a postal code with its one companion right
behind it. The companion is a country in all calls exactly if, of the conjunctions that stand below no
other, none has just two fragments of which one is a postal code and the other filters neither postal codes
nor countries. -/
theorem companions_are_countries_iff (f : Filter) :
    ∃ parts : List (List Site),
      (∀ others, f.MadeOf .standard others ↔ others = parts) ∧
      (∀ part ∈ parts, WrittenWith (fun _ => True) (part.map Site.fragment) (Site.callText part)) ∧
      ((∀ part ∈ parts,
          WrittenWith (·.OfColumn "COUNTRY_CODE") (part.map Site.fragment) (Site.callText part)) ↔
        ∀ c ∈ f.conjunctions, ∀ zip other, PostalPair zip other (c.translated .standard) →
          other.OfColumn "COUNTRY_CODE") := by
  refine ⟨(resolve .standard f).value.parts, fun others => ⟨(madeOf_parts f).eq, ?_⟩, ?_, ?_⟩
  · rintro rfl
    exact madeOf_parts f
  · intro part _
    exact Bundle.writtenWith_callText_iff.2 fun _ _ _ => trivial
  · let Countries (fragments : List Fragment) : Prop :=
      ∀ zip other, PostalPair zip other fragments → other.OfColumn "COUNTRY_CODE"
    have single : ∀ g, Countries [g] := by
      rintro g zip other ⟨-, -, both | both⟩
      · cases both
      · cases both
    have parts := forall_fragmentParts_iff single .standard f
    rw [FragmentTree.fragmentParts, List.forall_mem_map] at parts
    have calls : ∀ part : List Site,
        WrittenWith (·.OfColumn "COUNTRY_CODE") (part.map Site.fragment) (Site.callText part) ↔
          Countries (part.map Site.fragment) := fun _ => Bundle.writtenWith_callText_iff
    simp only [calls, parts]
    refine forall₂_congr fun c _ => or_iff_right_of_imp fun same zip other pair => ?_
    -- Fragments of one parameter are not a postal code and another.
    obtain ⟨parameter, alike⟩ := Bundle.sameParameter_iff.1 same
    obtain ⟨code, companion, both⟩ := pair
    have first : zip.parameter = parameter := alike zip (by rcases both with e | e <;> simp [e])
    have second : other.parameter = parameter := alike other (by rcases both with e | e <;> simp [e])
    rw [ofColumn_zip_iff] at code companion
    exact absurd (second.trans (first.symm.trans code)) companion

/-- A postal code and a city, of a conjunction in which the country was dropped, are one parameter. -/
theorem city_next_to_postal_code :
    let f : Filter := .all [member "CITY_NAME" "Rome", member "COUNTRY_CODE" "39", member "ZIP" "12345"]
    let part : List Site := [⟨[0], ⟨"q=", "Rome"⟩⟩, ⟨[2], ⟨"zip=", "12345"⟩⟩]
    f.calls .standard = ["zip=12345q=Rome"] ∧ f.MadeOf .standard [part] ∧
      ¬ WrittenWith (·.OfColumn "COUNTRY_CODE") (part.map Site.fragment) (Site.callText part) := by
  intro f part
  refine ⟨by rfl, ⟨by rfl, by simp [part], by rfl⟩, ?_⟩
  rw [Site.callText, Bundle.writtenWith_callText_iff]
  intro countries
  have city := countries ⟨"zip=", "12345"⟩ ⟨"q=", "Rome"⟩ ⟨by decide, by decide, .inr rfl⟩
  exact absurd city (by decide)

end Filter

end WeatherTables
