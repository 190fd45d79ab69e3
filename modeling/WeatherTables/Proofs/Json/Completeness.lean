import WeatherTables.Json.Reader
import WeatherTables.Proofs.Json.Tokens

/-!
# Every text of the grammar is read

The reader goes from token to token, so what is proved by induction on the spelling of a value is about
a reader in the middle of its work: `Progress.ReadsAs` says that a text, wherever a value may stand and
whatever follows it, takes the reader to where it is after that value. There is one lemma for each way
of spelling a value; `feed_elements` and `feed_members` go through the parts of a container after the
first.
-/

set_option autoImplicit false

namespace WeatherTables.Json

/-- A number ends with the text. -/
theorem stops_nil : Stops [] := nofun

/-- A number ends before a character that is no digit, no point and no letter of an exponent. -/
theorem stops_cons {c : Char} (h : c.isDigit = false ∧ c ≠ '.' ∧ c ≠ 'e' ∧ c ≠ 'E')
    (rest : List Char) : Stops (c :: rest) := by
  rintro c' ⟨⟩
  exact h

/-- A blank ends a number too. -/
theorem Stops.gap_append {gap rest : List Char} (isGap : Gap gap) (stops : Stops rest) :
    Stops (gap ++ rest) := by
  cases gap with
  | nil => exact stops
  | cons c gap =>
    have blank : Json.isGap c = true := isGap c List.mem_cons_self
    simp only [Json.isGap, Bool.or_eq_true, beq_iff_eq] at blank
    apply stops_cons
    obtain ((rfl | rfl) | rfl) | rfl := blank
    all_goals decide

namespace Progress

/-- The progress after the tokens of some more text. -/
def feed (p : Progress) (cs : List Char) : Option Progress :=
  (tokens cs).bind p.run

/-- Without any text the progress stays as it is. -/
theorem feed_nil (p : Progress) : p.feed [] = some p := rfl

/-- Blanks between tokens do not change the progress. -/
theorem feed_gap (p : Progress) {gap : List Char} (isGap : Gap gap) (rest : List Char) :
    p.feed (gap ++ rest) = p.feed rest := by
  induction gap with
  | nil => rfl
  | cons c gap ih =>
    obtain ⟨blank, others⟩ := List.forall_mem_cons.1 isGap
    rw [← ih others]
    unfold feed
    rw [List.cons_append, tokens_gap blank]

/-- A token is taken in before the text after it. -/
theorem feed_token {c : Char} {rest after : List Char} {t : Token} (p : Progress)
    (hc : isGap c = false) (ht : token? c rest = some (t, after)) :
    p.feed (c :: rest) = (p.step t).bind fun q => q.feed after := by
  unfold feed
  rw [tokens_token hc ht]
  cases tokens after with
  | none => cases p.step t <;> rfl
  | some ts => simp [run]

/-- A mark is a token of one character. -/
theorem feed_mark (p : Progress) (c : Char) (rest : List Char) {t : Token} (hc : isGap c = false)
    (ht : ∀ rest, token? c rest = some (t, rest)) :
    p.feed (c :: rest) = (p.step t).bind fun q => q.feed rest :=
  feed_token p hc (ht rest)

/-- A name is read as a string, with the blanks around it. -/
theorem feed_name (p : Progress) {text : List Char} {name : String} (h : NameText text name)
    (rest : List Char) :
    p.feed (text ++ rest) = (p.step (.scalar (.string name))).bind fun q => q.feed rest := by
  obtain ⟨gapBefore, isInside, gapAfter⟩ := h
  rename_i before inside chars after
  have token : token? '"' (inside ++ '"' :: (after ++ rest)) =
      some (.scalar (.string (String.ofList chars)), after ++ rest) := by
    simp only [token?, readString_append isInside, Option.map_some]
  have shape : before ++ '"' :: (inside ++ '"' :: after) ++ rest =
      before ++ '"' :: (inside ++ '"' :: (after ++ rest)) := by
    simp only [List.append_assoc, List.cons_append]
  rw [shape, feed_gap p gapBefore, feed_token p rfl token]
  simp only [feed_gap _ gapAfter]

/-- Where a value may stand: anywhere one is expected, also first in an array. -/
def startsValue (e : Expected) : Prop :=
  e = .value ∨ e = .elementOrEnd

/-- Where a value may stand, every token but the end of an array starts one. -/
theorem step_startsValue {e : Expected} (he : startsValue e) (frames : List Frame) {t : Token}
    (ht : t ≠ .closeArray) : step (.reading e frames) t = startValue frames t := by
  rcases he with rfl | rfl
  · rfl
  · simp only [step]
    split
    · exact absurd rfl ht
    · rfl

/-- A container is opened while there is room for it. -/
theorem feed_open {e : Expected} (he : startsValue e) {frames : List Frame}
    (room : frames.length < depthLimit) (c : Char) {t : Token} (frame : Frame) (inside : Expected)
    (hc : isGap c = false) (ht : ∀ rest, token? c rest = some (t, rest)) (hclose : t ≠ .closeArray)
    (hstart : startValue frames t = afterOpening frame inside frames) (rest : List Char) :
    (reading e frames).feed (c :: rest) = (reading inside (frame :: frames)).feed rest := by
  rw [feed_mark _ c rest hc ht, step_startsValue he frames hclose, hstart, afterOpening,
    if_pos room, Option.bind_some]

/-- The text is read as the value wherever one may stand, as long as `room` more containers may be
opened there. -/
def ReadsAs (room : Nat) (text : List Char) (v : Json) : Prop :=
  ∀ (e : Expected) (frames : List Frame), startsValue e → frames.length + room ≤ depthLimit →
    ∀ rest, Stops rest →
      (reading e frames).feed (text ++ rest) = (afterValue v frames).bind fun q => q.feed rest

/-- A scalar ends as soon as it is read. -/
theorem readsAs_scalar (room : Nat) {text : List Char} {v : Json} (isScalar : ScalarText text v) :
    ReadsAs room text v := by
  intro e frames he _ rest stops
  cases text with
  | nil => exact absurd rfl (TokenText.scalar isScalar).ne_nil
  | cons c text =>
    obtain ⟨notGap, token⟩ := token?_scalar isScalar stops
    rw [List.cons_append, feed_token _ notGap token, step_startsValue he frames (by simp)]
    rfl

/-- A text is read as the same value with blanks around it. -/
theorem ReadsAs.padded {room : Nat} {before text after : List Char} {v : Json}
    (gapBefore : Gap before) (read : ReadsAs room text v) (gapAfter : Gap after) :
    ReadsAs room (before ++ (text ++ after)) v := by
  intro e frames he depth rest stops
  have inner := read e frames he depth (after ++ rest) (stops.gap_append gapAfter)
  rw [List.append_assoc, List.append_assoc, feed_gap _ gapBefore, inner]
  simp only [feed_gap _ gapAfter]

/-- What follows an element ends it. -/
theorem stops_elements (more : List (List Char × Json)) (rest : List Char) :
    Stops (more.flatMap (fun p => ',' :: p.1) ++ ']' :: rest) := by
  cases more with
  | nil => exact stops_cons (by decide) rest
  | cons p more => exact stops_cons (by decide) _

/-- The elements after the first are read one by one, and then the array ends. -/
theorem feed_elements {room : Nat} {more : List (List Char × Json)} {frames : List Frame}
    (each : ∀ p ∈ more, ReadsAs room p.1 p.2) (depth : frames.length + (room + 1) ≤ depthLimit)
    (done : List Json) (rest : List Char) :
    (reading .separator (.array done :: frames)).feed
        (more.flatMap (fun p => ',' :: p.1) ++ ']' :: rest) =
      (afterValue (.array (done.reverse ++ more.map Prod.snd)) frames).bind fun q =>
        q.feed rest := by
  induction more generalizing done with
  | nil =>
    have close := feed_mark (reading .separator (.array done :: frames)) ']' rest rfl fun _ => rfl
    simpa [step] using close
  | cons p more ih =>
    obtain ⟨first, others⟩ := List.forall_mem_cons.1 each
    have comma := feed_mark (reading .separator (.array done :: frames)) ','
      (p.1 ++ (more.flatMap (fun p => ',' :: p.1) ++ ']' :: rest)) rfl fun _ => rfl
    have element := first .value (.array done :: frames) (.inl rfl)
      (by simp only [List.length_cons]; omega) _ (stops_elements more rest)
    simp only [step, Option.bind_some] at comma
    simp only [afterValue, Option.bind_some] at element
    rw [List.flatMap_cons, List.append_assoc, List.cons_append, comma, element,
      ih others (p.2 :: done), List.reverse_cons, List.append_assoc]
    rfl

/-- The members of an object under construction after some more were read. -/
def insertAll (done : Members) (more : List SpelledMember) : Members :=
  more.foldl (fun done m => done.insert m.name m.value) done

/-- After a member of an object a number has ended, be it at a comma or at the closing brace. -/
theorem stops_members (more : List SpelledMember) (rest : List Char) :
    Stops (more.flatMap (fun m => ',' :: m.text) ++ '\x7d' :: rest) := by
  cases more with
  | nil => exact stops_cons (by decide) rest
  | cons m more => exact stops_cons (by decide) _

/-- A member is read after its name, up to the end of its value. -/
theorem feed_member {room : Nat} {m : SpelledMember} (read : ReadsAs room m.valueText m.value)
    {frames : List Frame} (depth : frames.length + (room + 1) ≤ depthLimit) (done : Members)
    {rest : List Char} (stops : Stops rest) :
    (reading .colon (.field done m.name :: frames)).feed (':' :: (m.valueText ++ rest)) =
      (reading .separator (.object (done.insert m.name m.value) :: frames)).feed rest := by
  have colon := feed_mark (reading .colon (.field done m.name :: frames)) ':' (m.valueText ++ rest)
    rfl fun _ => rfl
  have value := read .value (.field done m.name :: frames) (.inl rfl)
    (by simp only [List.length_cons]; omega) rest stops
  simp only [step, Option.bind_some] at colon
  simp only [afterValue, Option.bind_some] at value
  rw [colon, value]

/-- The members after the first are read one by one, and then the object ends. -/
theorem feed_members {room : Nat} {more : List SpelledMember} {frames : List Frame}
    (names : ∀ m ∈ more, NameText m.nameText m.name)
    (each : ∀ m ∈ more, ReadsAs room m.valueText m.value)
    (depth : frames.length + (room + 1) ≤ depthLimit) (done : Members) (rest : List Char) :
    (reading .separator (.object done :: frames)).feed
        (more.flatMap (fun m => ',' :: m.text) ++ '\x7d' :: rest) =
      (afterValue (.object (insertAll done more)) frames).bind fun q => q.feed rest := by
  induction more generalizing done with
  | nil =>
    have close := feed_mark (reading .separator (.object done :: frames)) '\x7d' rest rfl
      fun _ => rfl
    simpa [step, insertAll] using close
  | cons m more ih =>
    obtain ⟨name, names⟩ := List.forall_mem_cons.1 names
    obtain ⟨first, others⟩ := List.forall_mem_cons.1 each
    have comma := feed_mark (reading .separator (.object done :: frames)) ','
      (m.nameText ++ (':' :: (m.valueText ++
        (more.flatMap (fun m => ',' :: m.text) ++ '\x7d' :: rest)))) rfl fun _ => rfl
    have member := feed_member first depth done (stops_members more rest)
    have shape : (m :: more).flatMap (fun m => ',' :: m.text) ++ '\x7d' :: rest =
        ',' :: (m.nameText ++ (':' :: (m.valueText ++
          (more.flatMap (fun m => ',' :: m.text) ++ '\x7d' :: rest)))) := by
      simp only [List.flatMap_cons, SpelledMember.text, List.append_assoc, List.cons_append]
    simp only [step, Option.bind_some] at comma
    rw [shape, comma, feed_name _ name]
    simp only [step, Option.bind_some]
    rw [member, ih names others (done.insert m.name m.value)]
    rfl

/-- The members of an object are those of its first member and then those of the others. -/
theorem ofMembers_spelled (first : SpelledMember) (more : List SpelledMember) :
    ofMembers ((first :: more).map fun m => (m.name, m.value)) =
      .object (insertAll (Members.insert first.name first.value []) more) := by
  simp only [ofMembers, Members.ofList, List.foldl_map, insertAll, List.foldl_cons]

/-- Brackets with nothing but blanks between them are read as the empty array. -/
theorem readsAs_emptyArray (room : Nat) {gap : List Char} (isGap : Gap gap) :
    ReadsAs (room + 1) ('[' :: (gap ++ [']'])) (.array []) := by
  intro e frames he depth rest _
  have free : frames.length < depthLimit := by omega
  have opened := feed_open he free '[' (.array []) .elementOrEnd rfl (fun _ => rfl) (by simp) rfl
  have close := feed_mark (reading .elementOrEnd (.array [] :: frames)) ']' rest rfl fun _ => rfl
  have shape : '[' :: (gap ++ [']']) ++ rest = '[' :: (gap ++ ']' :: rest) := by simp
  rw [shape, opened, feed_gap _ isGap, close]
  rfl

/-- Texts in brackets, with commas between them, are read as the array of their values. -/
theorem readsAs_array {room : Nat} {first : List Char × Json} {more : List (List Char × Json)}
    (each : ∀ p ∈ first :: more, ReadsAs room p.1 p.2) :
    ReadsAs (room + 1) ('[' :: (first.1 ++ (more.flatMap (fun p => ',' :: p.1) ++ [']'])))
      (.array (first.2 :: more.map Prod.snd)) := by
  intro e frames he depth rest _
  obtain ⟨firstRead, othersRead⟩ := List.forall_mem_cons.1 each
  have free : frames.length < depthLimit := by omega
  have opened := feed_open he free '[' (.array []) .elementOrEnd rfl (fun _ => rfl) (by simp) rfl
  -- The first element stands where the array could still end, the others after a comma.
  have element := firstRead .elementOrEnd (.array [] :: frames) (.inr rfl)
    (by simp only [List.length_cons]; omega) _ (stops_elements more rest)
  have others := feed_elements othersRead depth [first.2] rest
  have shape : '[' :: (first.1 ++ (more.flatMap (fun p => ',' :: p.1) ++ [']'])) ++ rest =
      '[' :: (first.1 ++ (more.flatMap (fun p => ',' :: p.1) ++ ']' :: rest)) := by simp
  simp only [afterValue, Option.bind_some] at element
  rw [shape, opened, element, others]
  rfl

/-- Braces with nothing but blanks between them are read as the empty object. -/
theorem readsAs_emptyObject (room : Nat) {gap : List Char} (isGap : Gap gap) :
    ReadsAs (room + 1) ('\x7b' :: (gap ++ ['\x7d'])) (.object []) := by
  intro e frames he depth rest _
  have free : frames.length < depthLimit := by omega
  have opened := feed_open he free '\x7b' (.object []) .nameOrEnd rfl (fun _ => rfl) (by simp) rfl
  have close := feed_mark (reading .nameOrEnd (.object [] :: frames)) '\x7d' rest rfl fun _ => rfl
  have shape : '\x7b' :: (gap ++ ['\x7d']) ++ rest = '\x7b' :: (gap ++ '\x7d' :: rest) := by simp
  rw [shape, opened, feed_gap _ isGap, close]
  rfl

/-- Members in braces, with commas between them, are read as the object that they make. -/
theorem readsAs_object {room : Nat} {first : SpelledMember} {more : List SpelledMember}
    (names : ∀ m ∈ first :: more, NameText m.nameText m.name)
    (each : ∀ m ∈ first :: more, ReadsAs room m.valueText m.value) :
    ReadsAs (room + 1)
      ('\x7b' :: (first.text ++ (more.flatMap (fun m => ',' :: m.text) ++ ['\x7d'])))
      (ofMembers ((first :: more).map fun m => (m.name, m.value))) := by
  intro e frames he depth rest _
  obtain ⟨name, names⟩ := List.forall_mem_cons.1 names
  obtain ⟨firstRead, othersRead⟩ := List.forall_mem_cons.1 each
  have free : frames.length < depthLimit := by omega
  have opened := feed_open he free '\x7b' (.object []) .nameOrEnd rfl (fun _ => rfl) (by simp) rfl
  have member := feed_member firstRead depth [] (stops_members more rest)
  have others := feed_members names othersRead depth
    (Members.insert first.name first.value []) rest
  have shape :
      '\x7b' :: (first.text ++ (more.flatMap (fun m => ',' :: m.text) ++ ['\x7d'])) ++ rest =
        '\x7b' :: (first.nameText ++ (':' :: (first.valueText ++
          (more.flatMap (fun m => ',' :: m.text) ++ '\x7d' :: rest)))) := by
    simp [SpelledMember.text]
  rw [shape, opened, feed_name _ name, ofMembers_spelled]
  simp only [step, Option.bind_some]
  rw [member, others]

/-- Every text of the grammar is read as what it denotes. -/
theorem readsAs_of_denotes {room : Nat} {text : List Char} {v : Json} (h : Denotes room text v) :
    ReadsAs room text v := by
  induction h with
  | scalar room isScalar => exact readsAs_scalar room isScalar
  | padded gapBefore _ gapAfter ih => exact ih.padded gapBefore gapAfter
  | emptyArray room isGap => exact readsAs_emptyArray room isGap
  | array _ ih => exact readsAs_array ih
  | emptyObject room isGap => exact readsAs_emptyObject room isGap
  | object names _ ih => exact readsAs_object names ih

end Progress

/-- A text is read by feeding it to a reader that has read nothing. -/
theorem read?_eq_feed (s : String) :
    read? s = ((Progress.reading .value []).feed s.toList).bind Progress.value? := by
  unfold read? Progress.feed
  cases tokens s.toList <;> rfl

/-- A text of the grammar is read as the value it denotes. -/
theorem read?_of_denotes {s : String} {v : Json} (h : Denotes depthLimit s.toList v) :
    read? s = some v := by
  have fed := Progress.readsAs_of_denotes h .value [] (.inl rfl) (by simp) [] stops_nil
  rw [List.append_nil] at fed
  rw [read?_eq_feed, fed]
  rfl

end WeatherTables.Json
