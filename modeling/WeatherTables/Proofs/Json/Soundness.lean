import WeatherTables.Proofs.Json.Completeness

/-!
# Only texts of the grammar are read

The converse of the reading of every text of the grammar. A reader that completes has found one token
after the other (`exists_token`), and each token leaves one way to go on. `ReadsValues n` says that what
begins as a value is the text of one, when fewer than `n` characters follow its first token; it is
proved by induction on `n`, since the parts of a container begin later than the container. With the
converse, `read?_eq_some_iff` says what the reader computes.
-/

set_option autoImplicit false

namespace WeatherTables.Json

/-- No blank at all is a gap too. -/
theorem gap_nil : Gap [] :=
  List.forall_mem_nil _

/-- A blank in front of a gap makes it longer. -/
theorem Gap.cons {c : Char} {gap : List Char} (blank : isGap c = true) (isGap : Gap gap) :
    Gap (c :: gap) :=
  List.forall_mem_cons.2 ⟨blank, isGap⟩

/-- The token of a string, with gaps around it, is the text of a name. -/
theorem NameText.of_tokenText {before text after : List Char} {name : String}
    (gapBefore : Gap before) (isToken : TokenText text (.scalar (.string name)))
    (gapAfter : Gap after) : NameText (before ++ (text ++ after)) name := by
  cases isToken with
  | scalar isScalar =>
    cases isScalar with
    | string isInside =>
      rw [List.cons_append, List.append_assoc, List.singleton_append]
      exact .mk gapBefore isInside gapAfter

namespace Progress

/-- A reader that is not done goes on with a token, after some blanks. -/
theorem exists_token {e : Expected} {frames : List Frame} {cs : List Char} {w : Json}
    (h : (reading e frames).feed cs = some (.complete w)) :
    ∃ gap text t rest, cs = gap ++ (text ++ rest) ∧ Gap gap ∧ TokenText text t ∧
      rest.length < cs.length ∧
      ((step (.reading e frames) t).bind fun q => q.feed rest) = some (.complete w) := by
  induction cs with
  | nil =>
    rw [feed_nil] at h
    cases h
  | cons c cs ih =>
    cases blank : isGap c with
    | true =>
      rw [feed, tokens_gap blank] at h
      obtain ⟨gap, text, t, rest, rfl, isGap, isToken, shorter, h⟩ := ih h
      exact ⟨c :: gap, text, t, rest, rfl, isGap.cons blank, isToken, Nat.lt_succ_of_lt shorter, h⟩
    | false =>
      cases found : token? c cs with
      | none =>
        rw [feed, tokens_none blank found] at h
        cases h
      | some p =>
        obtain ⟨t, rest⟩ := p
        rw [feed_token _ blank found] at h
        obtain ⟨text, split, isToken⟩ := exists_text_of_token? found
        have shorter := token?_length found
        exact ⟨[], text, t, rest, split, gap_nil, isToken, Nat.lt_succ_of_le shorter, h⟩

/-- Nothing but blanks follows a complete value. -/
theorem gap_of_feed_complete {v w : Json} {cs : List Char}
    (h : (complete v).feed cs = some (.complete w)) : Gap cs ∧ v = w := by
  induction cs with
  | nil =>
    cases h
    exact ⟨gap_nil, rfl⟩
  | cons c cs ih =>
    cases blank : isGap c with
    | true =>
      rw [feed, tokens_gap blank] at h
      obtain ⟨isGap, same⟩ := ih h
      exact ⟨isGap.cons blank, same⟩
    | false =>
      cases found : token? c cs with
      | none =>
        rw [feed, tokens_none blank found] at h
        cases h
      | some p =>
        rw [feed_token _ blank found] at h
        cases h

/-- What begins as a value with fewer than `n` characters behind its first token is the text of a
value, and the reader goes on after it. -/
def ReadsValues (n : Nat) : Prop :=
  ∀ (room : Nat) (frames : List Frame), frames.length + room = depthLimit →
    ∀ (t : Token) (text rest : List Char) (w : Json), TokenText text t → rest.length < n →
      ((startValue frames t).bind fun q => q.feed rest) = some (.complete w) →
        ∃ valueText v after, text ++ rest = valueText ++ after ∧ after.length ≤ rest.length ∧
          Denotes room valueText v ∧
          ((afterValue v frames).bind fun q => q.feed after) = some (.complete w)

/-- After an element comes another or the end of the array. -/
theorem step_separator_array {done : List Json} {outer : List Frame} {t : Token}
    {f : Progress → Option Progress} {p : Progress}
    (h : (step (.reading .separator (.array done :: outer)) t).bind f = some p) :
    (t = .comma ∧ f (.reading .value (.array done :: outer)) = some p) ∨
      (t = .closeArray ∧ (afterValue (.array done.reverse) outer).bind f = some p) := by
  cases t with
  | comma => exact .inl ⟨rfl, h⟩
  | closeArray => exact .inr ⟨rfl, h⟩
  | _ => cases h

/-- After a member comes another or the end of the object. -/
theorem step_separator_object {done : Members} {outer : List Frame} {t : Token}
    {f : Progress → Option Progress} {p : Progress}
    (h : (step (.reading .separator (.object done :: outer)) t).bind f = some p) :
    (t = .comma ∧ f (.reading .name (.object done :: outer)) = some p) ∨
      (t = .closeObject ∧ (afterValue (.object done) outer).bind f = some p) := by
  cases t with
  | comma => exact .inl ⟨rfl, h⟩
  | closeObject => exact .inr ⟨rfl, h⟩
  | _ => cases h

/-- A member begins with a string. -/
theorem step_name {done : Members} {outer : List Frame} {t : Token}
    {f : Progress → Option Progress} {p : Progress}
    (h : (step (.reading .name (.object done :: outer)) t).bind f = some p) :
    ∃ name, t = .scalar (.string name) ∧
      f (.reading .colon (.field done name :: outer)) = some p := by
  cases t with
  | scalar v =>
    cases v with
    | string name => exact ⟨name, rfl, h⟩
    | _ => cases h
  | _ => cases h

/-- An object ends or begins with a string. -/
theorem step_nameOrEnd {done : Members} {outer : List Frame} {t : Token}
    {f : Progress → Option Progress} {p : Progress}
    (h : (step (.reading .nameOrEnd (.object done :: outer)) t).bind f = some p) :
    (t = .closeObject ∧ (afterValue (.object done) outer).bind f = some p) ∨
      ∃ name, t = .scalar (.string name) ∧
        f (.reading .colon (.field done name :: outer)) = some p := by
  cases t with
  | closeObject => exact .inl ⟨rfl, h⟩
  | scalar v =>
    cases v with
    | string name => exact .inr ⟨name, rfl, h⟩
    | _ => cases h
  | _ => cases h

/-- A colon follows a name. -/
theorem step_colon {frames : List Frame} {t : Token} {f : Progress → Option Progress} {p : Progress}
    (h : (step (.reading .colon frames) t).bind f = some p) :
    t = .colon ∧ f (.reading .value frames) = some p := by
  cases t with
  | colon => exact ⟨rfl, h⟩
  | _ => cases h

/-- A container is opened only while there is room for it. -/
theorem afterOpening_bind {frame : Frame} {inside : Expected} {frames : List Frame}
    {f : Progress → Option Progress} {p : Progress}
    (h : (afterOpening frame inside frames).bind f = some p) :
    frames.length < depthLimit ∧ f (.reading inside (frame :: frames)) = some p := by
  unfold afterOpening at h
  split at h
  · next free => exact ⟨free, h⟩
  · cases h

/-- What follows an element reads on to the end of the array. -/
theorem exists_elements {n room : Nat} {frames : List Frame} {w : Json} (values : ReadsValues n)
    (depth : frames.length + (room + 1) = depthLimit) (m : Nat) (hm : m ≤ n) (done : List Json)
    (cs : List Char) (length : cs.length ≤ m)
    (fed : (reading .separator (.array done :: frames)).feed cs = some (.complete w)) :
    ∃ (gap : List Char) (more : List (List Char × Json)) (after : List Char),
      cs = gap ++ (more.flatMap (fun p => ',' :: p.1) ++ ']' :: after) ∧ Gap gap ∧
      (∀ p ∈ more, Denotes room p.1 p.2) ∧ after.length < cs.length ∧
      ((afterValue (.array (done.reverse ++ more.map Prod.snd)) frames).bind fun q =>
        q.feed after) = some (.complete w) := by
  induction m generalizing done cs with
  | zero =>
    rw [List.length_eq_zero_iff.1 (Nat.le_zero.1 length), feed_nil] at fed
    cases fed
  | succ m ih =>
    obtain ⟨gap, mark, t, rest, split, isGap, isMark, shorter, next⟩ := exists_token fed
    rcases step_separator_array next with ⟨rfl, comma⟩ | ⟨rfl, close⟩
    · cases isMark
      obtain ⟨gap', text, t, rest', split', isGap', isToken, shorter', begun⟩ := exists_token comma
      obtain ⟨valueText, v, after, split'', notLonger, denotes, ended⟩ :=
        values room (.array done :: frames) (by simp only [List.length_cons]; omega) t text rest' w
          isToken (by omega) begun
      -- The blanks after the element belong to its text.
      obtain ⟨gap'', more, after', rfl, isGap'', each, shorter'', ended'⟩ :=
        ih (by omega) (v :: done) after (by omega) ended
      refine ⟨gap, (gap' ++ (valueText ++ gap''), v) :: more, after', ?_, isGap, ?_, by omega, ?_⟩
      · simp [split, split', split'']
      · exact List.forall_mem_cons.2 ⟨.padded isGap' denotes isGap'', each⟩
      · simpa using ended'
    · cases isMark
      refine ⟨gap, [], rest, split, isGap, List.forall_mem_nil _, shorter, ?_⟩
      simpa using close

/-- What follows a name reads on to the end of the value. -/
theorem exists_member {n room : Nat} {frames : List Frame} {w : Json} (values : ReadsValues n)
    (depth : frames.length + (room + 1) = depthLimit) (done : Members) (name : String)
    (cs : List Char) (length : cs.length ≤ n)
    (fed : (reading .colon (.field done name :: frames)).feed cs = some (.complete w)) :
    ∃ gap valueText v after, cs = gap ++ ':' :: (valueText ++ after) ∧ Gap gap ∧
      Denotes room valueText v ∧ after.length < cs.length ∧
      (reading .separator (.object (done.insert name v) :: frames)).feed after =
        some (.complete w) := by
  obtain ⟨gap, mark, t, rest, split, isGap, isMark, shorter, next⟩ := exists_token fed
  obtain ⟨rfl, colon⟩ := step_colon next
  cases isMark
  obtain ⟨gap', text, t, rest', split', isGap', isToken, shorter', begun⟩ := exists_token colon
  obtain ⟨valueText, v, after, split'', notLonger, denotes, ended⟩ :=
    values room (.field done name :: frames) (by simp only [List.length_cons]; omega) t text rest' w
      isToken (by omega) begun
  have padded := Denotes.padded isGap' denotes gap_nil
  refine ⟨gap, _, v, after, ?_, isGap, padded, by omega, ended⟩
  simp [split, split', split'']

/-- What follows a member reads on to the end of the object. -/
theorem exists_members {n room : Nat} {frames : List Frame} {w : Json} (values : ReadsValues n)
    (depth : frames.length + (room + 1) = depthLimit) (m : Nat) (hm : m ≤ n) (done : Members)
    (cs : List Char) (length : cs.length ≤ m)
    (fed : (reading .separator (.object done :: frames)).feed cs = some (.complete w)) :
    ∃ (gap : List Char) (more : List SpelledMember) (after : List Char),
      cs = gap ++ (more.flatMap (fun m => ',' :: m.text) ++ '\x7d' :: after) ∧ Gap gap ∧
      (∀ m ∈ more, NameText m.nameText m.name) ∧
      (∀ m ∈ more, Denotes room m.valueText m.value) ∧ after.length < cs.length ∧
      ((afterValue (.object (insertAll done more)) frames).bind fun q => q.feed after) =
        some (.complete w) := by
  induction m generalizing done cs with
  | zero =>
    rw [List.length_eq_zero_iff.1 (Nat.le_zero.1 length), feed_nil] at fed
    cases fed
  | succ m ih =>
    obtain ⟨gap, mark, t, rest, split, isGap, isMark, shorter, next⟩ := exists_token fed
    rcases step_separator_object next with ⟨rfl, comma⟩ | ⟨rfl, close⟩
    · cases isMark
      obtain ⟨before, text, t, rest', split', isBefore, isToken, shorter', named⟩ :=
        exists_token comma
      obtain ⟨name, rfl, begun⟩ := step_name named
      obtain ⟨behind, valueText, v, after, split'', isBehind, denotes, shorter'', ended⟩ :=
        exists_member values depth done name rest' (by omega) begun
      obtain ⟨gap', more, after', rfl, isGap', names, each, notLonger, ended'⟩ :=
        ih (by omega) (done.insert name v) after (by omega) ended
      have isName := NameText.of_tokenText isBefore isToken isBehind
      -- The blanks after the value belong to its text.
      have padded := Denotes.padded gap_nil denotes isGap'
      refine ⟨gap, ⟨_, name, _, v⟩ :: more, after', ?_, isGap,
        List.forall_mem_cons.2 ⟨isName, names⟩, List.forall_mem_cons.2 ⟨padded, each⟩, by omega,
        ended'⟩
      simp [split, split', split'', SpelledMember.text]
    · cases isMark
      exact ⟨gap, [], rest, split, isGap, List.forall_mem_nil _, List.forall_mem_nil _, shorter,
        close⟩

/-- An array that was opened is read to its end. -/
theorem exists_array {n room : Nat} {frames : List Frame} {rest : List Char} {w : Json}
    (values : ReadsValues n) (depth : frames.length + (room + 1) = depthLimit)
    (length : rest.length ≤ n)
    (fed : (reading .elementOrEnd (.array [] :: frames)).feed rest = some (.complete w)) :
    ∃ valueText v after, '[' :: rest = valueText ++ after ∧ after.length ≤ rest.length ∧
      Denotes (room + 1) valueText v ∧
      ((afterValue v frames).bind fun q => q.feed after) = some (.complete w) := by
  obtain ⟨gap, text, t, rest', split, isGap, isToken, shorter, next⟩ := exists_token fed
  by_cases close : t = .closeArray
  · subst close
    cases isToken
    refine ⟨_, _, rest', ?_, Nat.le_of_lt shorter, .emptyArray room isGap, next⟩
    simp [split]
  · rw [step_startsValue (.inr rfl) _ close] at next
    obtain ⟨firstText, v, after, split', notLonger, denotes, ended⟩ :=
      values room (.array [] :: frames) (by simp only [List.length_cons]; omega) t text rest' w
        isToken (by omega) next
    obtain ⟨gap', more, after', rfl, isGap', each, shorter', ended'⟩ :=
      exists_elements values depth n (Nat.le_refl _) [v] after (by omega) ended
    have elements : ∀ p ∈ (gap ++ (firstText ++ gap'), v) :: more, Denotes room p.1 p.2 :=
      List.forall_mem_cons.2 ⟨.padded isGap denotes isGap', each⟩
    refine ⟨_, _, after', ?_, by omega, .array elements, ended'⟩
    simp [split, split']

/-- An object that was opened is read to its end. -/
theorem exists_object {n room : Nat} {frames : List Frame} {rest : List Char} {w : Json}
    (values : ReadsValues n) (depth : frames.length + (room + 1) = depthLimit)
    (length : rest.length ≤ n)
    (fed : (reading .nameOrEnd (.object [] :: frames)).feed rest = some (.complete w)) :
    ∃ valueText v after, '\x7b' :: rest = valueText ++ after ∧ after.length ≤ rest.length ∧
      Denotes (room + 1) valueText v ∧
      ((afterValue v frames).bind fun q => q.feed after) = some (.complete w) := by
  obtain ⟨before, text, t, rest', split, isBefore, isToken, shorter, next⟩ := exists_token fed
  rcases step_nameOrEnd next with ⟨rfl, close⟩ | ⟨name, rfl, begun⟩
  · cases isToken
    refine ⟨_, _, rest', ?_, Nat.le_of_lt shorter, .emptyObject room isBefore, close⟩
    simp [split]
  · obtain ⟨behind, valueText, v, after, split', isBehind, denotes, shorter', ended⟩ :=
      exists_member values depth [] name rest' (by omega) begun
    obtain ⟨gap, more, after', rfl, isGap, names, each, shorter'', ended'⟩ :=
      exists_members values depth n (Nat.le_refl _) (Members.insert name v []) after (by omega) ended
    let first : SpelledMember := ⟨before ++ (text ++ behind), name, [] ++ (valueText ++ gap), v⟩
    have allNames : ∀ m ∈ first :: more, NameText m.nameText m.name :=
      List.forall_mem_cons.2 ⟨.of_tokenText isBefore isToken isBehind, names⟩
    have allMembers : ∀ m ∈ first :: more, Denotes room m.valueText m.value :=
      List.forall_mem_cons.2 ⟨.padded gap_nil denotes isGap, each⟩
    have members := Denotes.object allNames allMembers
    rw [ofMembers_spelled] at members
    refine ⟨_, _, after', ?_, by omega, members, ended'⟩
    simp [first, split, split', SpelledMember.text]

/-- What begins as a value is the text of one, however long it is. -/
theorem readsValues (n : Nat) : ReadsValues n := by
  induction n with
  | zero => exact fun _ _ _ _ _ _ _ _ length => absurd length (Nat.not_lt_zero _)
  | succ n ih =>
    intro room frames depth t text rest w isToken length h
    cases isToken with
    | scalar isScalar => exact ⟨text, _, rest, rfl, (Nat.le_refl _), .scalar room isScalar, h⟩
    | openArray =>
      obtain ⟨free, h⟩ := afterOpening_bind h
      obtain ⟨room, rfl⟩ : ∃ less, room = less + 1 := ⟨room - 1, by omega⟩
      exact exists_array ih depth (Nat.le_of_lt_succ length) h
    | openObject =>
      obtain ⟨free, h⟩ := afterOpening_bind h
      obtain ⟨room, rfl⟩ : ∃ less, room = less + 1 := ⟨room - 1, by omega⟩
      exact exists_object ih depth (Nat.le_of_lt_succ length) h
    | _ => cases h

end Progress

/-- A text is read as the value it denotes, if it denotes one within the depth limit. -/
theorem read?_eq_some_iff (s : String) (v : Json) :
    read? s = some v ↔ Denotes depthLimit s.toList v := by
  constructor
  · intro h
    rw [read?_eq_feed] at h
    obtain ⟨_ | w, fed, found⟩ := Option.bind_eq_some_iff.1 h
    · cases found
    cases found
    obtain ⟨gap, text, t, rest, split, isGap, isToken, -, h⟩ := Progress.exists_token fed
    obtain ⟨valueText, w, after, split', -, denotes, h⟩ :=
      Progress.readsValues (rest.length + 1) depthLimit [] (Nat.zero_add _) t text rest v isToken
        (Nat.lt_succ_self _) h
    obtain ⟨isGapAfter, rfl⟩ := Progress.gap_of_feed_complete h
    rw [split, split']
    exact .padded isGap denotes isGapAfter
  · exact read?_of_denotes

/-- A text that denotes nothing is not read. -/
theorem read?_eq_none_iff (s : String) :
    read? s = none ↔ ¬ ∃ v, Denotes depthLimit s.toList v := by
  simp only [← read?_eq_some_iff, Option.eq_none_iff_forall_ne_some, not_exists, ne_eq]

/-- A text denotes one value at most. -/
theorem Denotes.unique {s : String} {v w : Json} (hv : Denotes depthLimit s.toList v)
    (hw : Denotes depthLimit s.toList w) : v = w :=
  Option.some.inj ((read?_of_denotes hv).symm.trans (read?_of_denotes hw))

end WeatherTables.Json
