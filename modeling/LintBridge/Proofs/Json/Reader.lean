import LintBridge.Proofs.Json.Document

/-!
The reader of documents, by the rules for them.

`read_eq_ok_iff` is its contract: it gives the document that the text starts with, if that document
fits the two limits, and it fails if there is none or if it does not fit. In particular the fuel of
the reader never runs out on a document.
-/

namespace LintBridge.Json

/-- A document that nests at most `depth` deep and holds no whole number out of range. -/
inductive Fits : Nat → Json → Prop where
  | scalar {depth : Nat} {v : Json} (hs : isScalar v = true) (h : InRange v) : Fits depth v
  | arr {depth : Nat} {items : List Json} (h : ∀ v ∈ items, Fits depth v) :
      Fits (depth + 1) (.arr items)
  | obj {depth : Nat} {members : List (String × Json)} (h : ∀ m ∈ members, Fits depth m.2) :
      Fits (depth + 1) (.obj members)

theorem Fits.inRange {depth : Nat} {v : Json} (h : Fits depth v) : InRange v := by
  cases h with
  | scalar hs h => exact h
  | arr h => trivial
  | obj h => trivial

/-! ### Scalars -/

theorem readScalar_string {cs rest : List Char} {content : Content} (h : Body cs content rest) :
    readScalar ('"' :: cs) = .ok (ofContent content, rest) := by
  simp [readScalar, readString_eq_ok_iff.mpr h]

theorem readScalar_bare {cs rest : List Char} {v : Json} (h : bare? cs = some (v, rest))
    (hr : InRange v) : readScalar cs = .ok (v, rest) := by
  unfold readScalar
  split
  · cases isBare_of_bare? h
  · unfold bare? at h
    split
    · next found hw =>
      rw [hw, Option.some_or] at h
      cases h
      rfl
    · next hw =>
      rw [hw, Option.none_or] at h
      exact readNumber_eq_ok_iff.mpr ⟨h, hr⟩

theorem readValue_scalar {c : Char} (hc : c ≠ '[' ∧ c ≠ '{') (fuel depth : Nat) (cs : List Char) :
    readValue (fuel + 1) depth (c :: cs) = readScalar (c :: cs) := by
  unfold readValue
  split <;> simp_all

/-! ### What is read is a document -/

theorem readScalar_sound {cs rest : List Char} {v : Json} (h : readScalar cs = .ok (v, rest)) :
    Document cs v rest ∧ isScalar v = true ∧ InRange v := by
  unfold readScalar at h
  split at h
  · next tail =>
    split at h
    · next content rest' hs =>
      cases h
      exact ⟨.string (readString_sound hs), ofContent_isScalar content⟩
    · cases h
  · split at h
    · next found hw =>
      cases h
      obtain ⟨word, hmem, rfl⟩ := exists_word hw
      obtain ⟨-, -, hs, hr⟩ := word_spelling hmem
      exact ⟨.bare (by rw [bare?, hw, Option.some_or]), hs, hr⟩
    · next hw =>
      obtain ⟨hn, hr⟩ := readNumber_eq_ok_iff.mp h
      obtain ⟨_, _, _, _, _, _, hs, _⟩ := number?_exists_text hn
      exact ⟨.bare (by rw [bare?, hw, Option.none_or, hn]), hs, hr⟩

/-- How a document is read: by a nested reader behind an opening bracket, or as a scalar. -/
theorem readValue_cases {fuel depth : Nat} {cs rest : List Char} {v : Json}
    (h : readValue (fuel + 1) depth cs = .ok (v, rest)) :
    (∃ d tail, depth = d + 1 ∧ cs = '[' :: tail ∧
        ((skipGap tail = ']' :: rest ∧ v = .arr []) ∨
          ∃ values, readItems fuel d (skipGap tail) = .ok (values, rest) ∧ v = .arr values)) ∨
      (∃ d tail, depth = d + 1 ∧ cs = '{' :: tail ∧
        ((skipGap tail = '}' :: rest ∧ v = .obj []) ∨
          ∃ members, readMembers fuel d (skipGap tail) = .ok (members, rest) ∧
            v = .obj members)) ∨
      readScalar cs = .ok (v, rest) := by
  unfold readValue at h
  split at h
  case h_4 _ _ fuel' d tail hfuel =>
    cases hfuel
    refine .inl ⟨d, tail, rfl, rfl, ?_⟩
    split at h
    · next hskip =>
      cases h
      exact .inl ⟨hskip, rfl⟩
    · split at h
      · next hitems =>
        cases h
        exact .inr ⟨_, hitems, rfl⟩
      · cases h
  case h_5 _ _ fuel' d tail hfuel =>
    cases hfuel
    refine .inr (.inl ⟨d, tail, rfl, rfl, ?_⟩)
    split at h
    · next hskip =>
      cases h
      exact .inl ⟨hskip, rfl⟩
    · split at h
      · next hmembers =>
        cases h
        exact .inr ⟨_, hmembers, rfl⟩
      · cases h
  case h_6 => exact .inr (.inr h)
  all_goals cases h

/-- How the items of an array are read: one, and then its closing bracket or a comma and more. -/
theorem readItems_cases {fuel depth : Nat} {cs rest : List Char} {values : List Json}
    (h : readItems (fuel + 1) depth cs = .ok (values, rest)) :
    ∃ v mid, readValue fuel depth cs = .ok (v, mid) ∧
      ((skipGap mid = ']' :: rest ∧ values = [v]) ∨
        ∃ next tail, skipGap mid = ',' :: next ∧
          readItems fuel depth (skipGap next) = .ok (tail, rest) ∧ values = v :: tail) := by
  unfold readItems at h
  split at h
  · cases h
  · next v mid hv =>
    refine ⟨v, mid, hv, ?_⟩
    split at h
    · next hskip =>
      cases h
      exact .inl ⟨hskip, rfl⟩
    · next next hskip =>
      split at h
      · next hitems =>
        cases h
        exact .inr ⟨next, _, hskip, hitems, rfl⟩
      · cases h
    · cases h

/-- How the members of an object are read: a name, a colon and a value, and then the closing brace
or a comma and more. -/
theorem readMembers_cases {fuel depth : Nat} {cs rest : List Char}
    {members : List (String × Json)}
    (h : readMembers (fuel + 1) depth cs = .ok (members, rest)) :
    ∃ tail name afterName value v mid, cs = '"' :: tail ∧
      readString (tail.length + 1) tail = .ok (name, afterName) ∧
      skipGap afterName = ':' :: value ∧ readValue fuel depth (skipGap value) = .ok (v, mid) ∧
      ((skipGap mid = '}' :: rest ∧ members = [(name.text, v)]) ∨
        ∃ next more, skipGap mid = ',' :: next ∧
          readMembers fuel depth (skipGap next) = .ok (more, rest) ∧
          members = (name.text, v) :: more) := by
  unfold readMembers at h
  split at h
  case h_2 _ fuel' tail hfuel =>
    cases hfuel
    split at h
    · cases h
    · next name afterName hname =>
      split at h
      · next value hcolon =>
        split at h
        · cases h
        · next v mid hv =>
          refine ⟨tail, name, afterName, value, v, mid, rfl, hname, hcolon, hv, ?_⟩
          split at h
          · next hskip =>
            cases h
            exact .inl ⟨hskip, rfl⟩
          · next next hskip =>
            split at h
            · next hmembers =>
              cases h
              exact .inr ⟨next, _, hskip, hmembers, rfl⟩
            · cases h
          · cases h
      · cases h
  all_goals cases h

/-- What the three readers give, for one amount of fuel. -/
theorem read_sound_aux (fuel : Nat) :
    (∀ depth cs v rest, readValue fuel depth cs = .ok (v, rest) →
        Document cs v rest ∧ Fits depth v) ∧
      (∀ depth cs values rest, readItems fuel depth cs = .ok (values, rest) →
        Items cs values rest ∧ ∀ v ∈ values, Fits depth v) ∧
      (∀ depth cs members rest, readMembers fuel depth cs = .ok (members, rest) →
        Members cs members rest ∧ ∀ m ∈ members, Fits depth m.2) := by
  induction fuel with
  | zero =>
    refine ⟨?_, ?_, ?_⟩
    · intro depth cs v rest h
      simp [readValue] at h
    · intro depth cs values rest h
      simp [readItems] at h
    · intro depth cs members rest h
      simp [readMembers] at h
  | succ fuel ih =>
    obtain ⟨ihv, ihi, ihm⟩ := ih
    refine ⟨?_, ?_, ?_⟩
    · intro depth cs v rest h
      rcases readValue_cases h with ⟨d, tail, rfl, rfl, ⟨hskip, rfl⟩ | ⟨values, hv, rfl⟩⟩ |
        ⟨d, tail, rfl, rfl, ⟨hskip, rfl⟩ | ⟨members, hm, rfl⟩⟩ | hs
      · exact ⟨.emptyArray hskip, .arr (by simp)⟩
      · obtain ⟨hitems, hfits⟩ := ihi d _ values rest hv
        exact ⟨.array hitems, .arr hfits⟩
      · exact ⟨.emptyObject hskip, .obj (by simp)⟩
      · obtain ⟨hmembers, hfits⟩ := ihm d _ members rest hm
        exact ⟨.object hmembers, .obj hfits⟩
      · obtain ⟨hdoc, hscalar, hrange⟩ := readScalar_sound hs
        exact ⟨hdoc, .scalar hscalar hrange⟩
    · intro depth cs values rest h
      obtain ⟨v, mid, hv, hnext⟩ := readItems_cases h
      obtain ⟨hdoc, hfit⟩ := ihv depth cs v mid hv
      rcases hnext with ⟨hskip, rfl⟩ | ⟨next, tail, hskip, ht, rfl⟩
      · exact ⟨.last hdoc hskip, by simpa using hfit⟩
      · obtain ⟨hitems, hfits⟩ := ihi depth _ tail rest ht
        exact ⟨.more hdoc hskip hitems, List.forall_mem_cons.mpr ⟨hfit, hfits⟩⟩
    · intro depth cs members rest h
      obtain ⟨tail, name, afterName, value, v, mid, rfl, hname, hcolon, hv, hnext⟩ :=
        readMembers_cases h
      obtain ⟨hdoc, hfit⟩ := ihv depth _ v mid hv
      have hmember := Member.intro (readString_sound hname) hcolon hdoc
      rcases hnext with ⟨hskip, rfl⟩ | ⟨next, more, hskip, ht, rfl⟩
      · exact ⟨.last hmember hskip, by simpa using hfit⟩
      · obtain ⟨hmembers, hfits⟩ := ihm depth _ more rest ht
        exact ⟨.more hmember hskip hmembers, List.forall_mem_cons.mpr ⟨hfit, hfits⟩⟩

/-! ### Every document that fits is read -/

theorem length_le_of_skipGap {cs rest : List Char} (h : skipGap cs = rest) :
    rest.length ≤ cs.length := by
  rw [← h]
  exact (List.dropWhile_sublist isGap).length_le

/-- A document uses text up. -/
theorem Document.length_lt {cs rest : List Char} {v : Json} (h : Document cs v rest) :
    rest.length < cs.length := by
  obtain ⟨text, rfl, hsolid, -⟩ := h.exists_text
  exact hsolid.length_lt_append rest

theorem Member.length_lt {cs rest : List Char} {m : String × Json} (h : Member cs m rest) :
    rest.length < cs.length := by
  obtain ⟨text, rfl, hsolid, -⟩ := h.exists_text
  exact hsolid.length_lt_append rest

theorem Items.length_lt {cs rest : List Char} {values : List Json} (h : Items cs values rest) :
    rest.length < cs.length := by
  obtain ⟨text, rfl, hsolid, -⟩ := h.exists_text
  exact hsolid.length_lt_append rest

theorem Members.length_lt {cs rest : List Char} {members : List (String × Json)}
    (h : Members cs members rest) : rest.length < cs.length := by
  obtain ⟨text, rfl, hsolid, -⟩ := h.exists_text
  exact hsolid.length_lt_append rest

theorem Body.length_lt {cs rest : List Char} {content : Content} (h : Body cs content rest) :
    rest.length < cs.length := by
  obtain ⟨text, rfl, -⟩ := h.exists_text
  simp
  omega

/-- Two units of fuel for each character leave one for the next call. -/
theorem exists_fuel {fuel used left : Nat} (hlt : left < used) (h : 2 * used ≤ fuel + 2 * left) :
    ∃ less, fuel = less + 1 ∧ 2 * used ≤ less + 1 + 2 * left :=
  ⟨fuel - 1, by omega, by omega⟩

mutual

/-- A document that fits is read if there are two units of fuel for each of its characters. -/
theorem Document.read {cs rest : List Char} {v : Json} :
    Document cs v rest → ∀ fuel depth : Nat, Fits depth v →
      2 * cs.length ≤ fuel + 2 * rest.length → readValue fuel depth cs = .ok (v, rest)
  | .bare h, fuel, depth, hfits, hfuel => by
    obtain ⟨less, rfl, -⟩ := exists_fuel (Document.bare h).length_lt hfuel
    obtain ⟨c, tail, rfl, -, -⟩ := bare?_exists_text h
    have hc : c ≠ '[' ∧ c ≠ '{' := by
      constructor <;> rintro rfl <;> cases isBare_of_bare? h
    rw [List.cons_append, readValue_scalar hc]
    exact readScalar_bare h hfits.inRange
  | .string h, fuel, depth, hfits, hfuel => by
    obtain ⟨less, rfl, -⟩ := exists_fuel (Document.string h).length_lt hfuel
    rw [readValue_scalar (by decide)]
    exact readScalar_string h
  | .emptyArray h, fuel, depth, hfits, hfuel => by
    obtain ⟨less, rfl, -⟩ := exists_fuel (Document.emptyArray h).length_lt hfuel
    cases hfits with
    | scalar hs => cases hs
    | arr hitems => simp only [readValue, h]
  | @Document.array cs _ _ h, fuel, depth, hfits, hfuel => by
    obtain ⟨less, rfl, hless⟩ := exists_fuel (Document.array h).length_lt hfuel
    cases hfits with
    | scalar hs => cases hs
    | arr hitems =>
      have hskip := length_le_of_skipGap (rfl : skipGap cs = skipGap cs)
      rw [List.length_cons] at hless
      have hread := h.read less _ hitems (by omega)
      simp only [readValue]
      split
      · next hclose => exact absurd hclose h.head_ne
      · rw [hread]
  | .emptyObject h, fuel, depth, hfits, hfuel => by
    obtain ⟨less, rfl, -⟩ := exists_fuel (Document.emptyObject h).length_lt hfuel
    cases hfits with
    | scalar hs => cases hs
    | obj hmembers => simp only [readValue, h]
  | @Document.object cs _ _ h, fuel, depth, hfits, hfuel => by
    obtain ⟨less, rfl, hless⟩ := exists_fuel (Document.object h).length_lt hfuel
    cases hfits with
    | scalar hs => cases hs
    | obj hmembers =>
      have hskip := length_le_of_skipGap (rfl : skipGap cs = skipGap cs)
      rw [List.length_cons] at hless
      have hread := h.read less _ hmembers (by omega)
      simp only [readValue]
      split
      · next hclose => exact absurd hclose h.head_ne
      · rw [hread]

theorem Items.read {cs rest : List Char} {values : List Json} :
    Items cs values rest → ∀ fuel depth : Nat, (∀ v ∈ values, Fits depth v) →
      2 * cs.length ≤ fuel + 2 * rest.length → readItems fuel depth cs = .ok (values, rest)
  | .last hv hend, fuel, depth, hfits, hfuel => by
    obtain ⟨less, rfl, hless⟩ := exists_fuel (Items.last hv hend).length_lt hfuel
    have hmid := length_le_of_skipGap hend
    rw [List.length_cons] at hmid
    have hread := hv.read less depth (hfits _ List.mem_cons_self) (by omega)
    simp only [readItems, hread, hend]
  | @Items.more _ _ next _ _ _ hv hcomma ht, fuel, depth, hfits, hfuel => by
    obtain ⟨less, rfl, hless⟩ := exists_fuel (Items.more hv hcomma ht).length_lt hfuel
    obtain ⟨hfit, hrest⟩ := List.forall_mem_cons.mp hfits
    have hmid := length_le_of_skipGap hcomma
    have hnext := length_le_of_skipGap (rfl : skipGap next = skipGap next)
    have hfirst := hv.length_lt
    have htail := ht.length_lt
    rw [List.length_cons] at hmid
    have hread := hv.read less depth hfit (by omega)
    have hreadTail := ht.read less depth hrest (by omega)
    simp only [readItems, hread, hcomma, hreadTail]

theorem Members.read {cs rest : List Char} {members : List (String × Json)} :
    Members cs members rest → ∀ fuel depth : Nat, (∀ m ∈ members, Fits depth m.2) →
      2 * cs.length ≤ fuel + 2 * rest.length → readMembers fuel depth cs = .ok (members, rest)
  | .last hm hend, fuel, depth, hfits, hfuel => by
    obtain ⟨less, rfl, hless⟩ := exists_fuel (Members.last hm hend).length_lt hfuel
    have hmid := length_le_of_skipGap hend
    rw [List.length_cons] at hmid
    obtain ⟨tail, name, afterName, value, rfl, hname, hcolon, hread, hm'⟩ :=
      hm.read less depth (hfits _ List.mem_cons_self) (by omega)
    simp only [readMembers, hname, hcolon, hread, hend, ← hm']
  | @Members.more _ _ next _ _ _ hm hcomma ht, fuel, depth, hfits, hfuel => by
    obtain ⟨less, rfl, hless⟩ := exists_fuel (Members.more hm hcomma ht).length_lt hfuel
    obtain ⟨hfit, hrest⟩ := List.forall_mem_cons.mp hfits
    have hmid := length_le_of_skipGap hcomma
    have hnext := length_le_of_skipGap (rfl : skipGap next = skipGap next)
    have hfirst := hm.length_lt
    have htail := ht.length_lt
    rw [List.length_cons] at hmid
    have hreadTail := ht.read less depth hrest (by omega)
    obtain ⟨tail, name, afterName, value, rfl, hname, hcolon', hread, hm'⟩ :=
      hm.read less depth hfit (by omega)
    simp only [readMembers, hname, hcolon', hread, hcomma, hreadTail, ← hm']

theorem Member.read {cs rest : List Char} {m : String × Json} :
    Member cs m rest → ∀ fuel depth : Nat, Fits depth m.2 →
      2 * cs.length ≤ fuel + 2 * rest.length → ∃ tail name afterName value, cs = '"' :: tail ∧
        readString (tail.length + 1) tail = .ok (name, afterName) ∧
        skipGap afterName = ':' :: value ∧
        readValue fuel depth (skipGap value) = .ok (m.2, rest) ∧ m = (name.text, m.2)
  | @Member.intro _ afterName value _ _ _ hname hcolon hv, fuel, depth, hfits, hfuel => by
    have hafter := length_le_of_skipGap hcolon
    have hvalue := length_le_of_skipGap (rfl : skipGap value = skipGap value)
    have hbody := hname.length_lt
    rw [List.length_cons] at hafter
    rw [List.length_cons] at hfuel
    have hread := hv.read fuel depth hfits (by omega)
    exact ⟨_, _, afterName, value, rfl, readString_eq_ok_iff.mpr hname, hcolon, hread, rfl⟩

end

/-- The contract of the reader. -/
theorem read_eq_ok_iff {cs rest : List Char} {v : Json} :
    read cs = .ok (v, rest) ↔ Document cs v rest ∧ Fits maxDepth v := by
  constructor
  · intro h
    unfold read at h
    split at h
    · next hread =>
      cases h
      exact (read_sound_aux _).1 _ _ _ _ hread
    · cases h
  · rintro ⟨hdoc, hfits⟩
    simp only [read, hdoc.read (2 * cs.length + 1) maxDepth hfits (by omega)]

end LintBridge.Json
