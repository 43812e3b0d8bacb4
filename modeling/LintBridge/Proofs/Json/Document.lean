import LintBridge.Proofs.Json.Numeral
import LintBridge.Proofs.Json.StringBody
import LintBridge.Proofs.Text.Blank
import LintBridge.Proofs.Text.Search

/-!
What a document is, by rules that know neither fuel nor limits.

`Document cs v rest` says that the text `cs` starts with a document that means `v`, and that `rest`
is the text behind it. What a document says does not depend on what comes behind it
(`Document.exists_text`), and a text starts with one document at most (`Document.unique`).
-/

namespace LintBridge.Json

/-! ### The rules -/

/-- A document without quotes and brackets: a word or a number. -/
def bare? (cs : List Char) : Option (Json × List Char) :=
  (readWord? cs).or (number? cs)

mutual

/-- A document that a text starts with, and the text behind it. -/
inductive Document : List Char → Json → List Char → Prop where
  | bare {cs rest : List Char} {v : Json} (h : bare? cs = some (v, rest)) : Document cs v rest
  | string {cs rest : List Char} {content : Content} (h : Body cs content rest) :
      Document ('"' :: cs) (ofContent content) rest
  | emptyArray {cs rest : List Char} (h : skipGap cs = ']' :: rest) :
      Document ('[' :: cs) (.arr []) rest
  | array {cs rest : List Char} {values : List Json} (h : Items (skipGap cs) values rest) :
      Document ('[' :: cs) (.arr values) rest
  | emptyObject {cs rest : List Char} (h : skipGap cs = '}' :: rest) :
      Document ('{' :: cs) (.obj []) rest
  | object {cs rest : List Char} {members : List (String × Json)}
      (h : Members (skipGap cs) members rest) : Document ('{' :: cs) (.obj members) rest

/-- The items of an array, from one of them on to behind the closing bracket. -/
inductive Items : List Char → List Json → List Char → Prop where
  | last {cs mid rest : List Char} {v : Json} (hv : Document cs v mid)
      (hend : skipGap mid = ']' :: rest) : Items cs [v] rest
  | more {cs mid next rest : List Char} {v : Json} {values : List Json} (hv : Document cs v mid)
      (hcomma : skipGap mid = ',' :: next) (ht : Items (skipGap next) values rest) :
      Items cs (v :: values) rest

/-- The members of an object, from one of them on to behind the closing brace. -/
inductive Members : List Char → List (String × Json) → List Char → Prop where
  | last {cs mid rest : List Char} {m : String × Json} (hm : Member cs m mid)
      (hend : skipGap mid = '}' :: rest) : Members cs [m] rest
  | more {cs mid next rest : List Char} {m : String × Json} {members : List (String × Json)}
      (hm : Member cs m mid) (hcomma : skipGap mid = ',' :: next)
      (ht : Members (skipGap next) members rest) : Members cs (m :: members) rest

/-- A member of an object: its name, a colon, and its value. -/
inductive Member : List Char → String × Json → List Char → Prop where
  | intro {cs afterName value rest : List Char} {name : Content} {v : Json}
      (hname : Body cs name afterName) (hcolon : skipGap afterName = ':' :: value)
      (hv : Document (skipGap value) v rest) : Member ('"' :: cs) (name.text, v) rest

end

/-! ### Words and numbers -/

/-- The characters that words and numbers are written with. -/
def isBare (c : Char) : Bool :=
  isNumeric c || "nultrefasNIiy".toList.contains c

/-- A text that starts like a number: with a digit or a minus sign. -/
def startsNumber (cs : List Char) : Bool :=
  cs.head?.any fun c => c.isDigit || c == '-'

theorem exists_word {cs rest : List Char} {v : Json} (h : readWord? cs = some (v, rest)) :
    ∃ word, (word, v) ∈ wordDocuments ∧ cs = word ++ rest := by
  obtain ⟨⟨word, w⟩, hmem, hw⟩ := List.exists_of_findSome?_eq_some h
  simp only [Option.map_eq_some_iff, Prod.mk.injEq] at hw
  obtain ⟨after, hafter, rfl, rfl⟩ := hw
  exact ⟨word, hmem, Text.isPrefixOf?_eq_some hafter⟩

theorem readWord?_append {word : List Char} {v : Json} (h : (word, v) ∈ wordDocuments)
    (rest : List Char) : readWord? (word ++ rest) = some (v, rest) := by
  simp only [wordDocuments, List.mem_cons, Prod.mk.injEq, List.not_mem_nil, or_false] at h
  rcases h with ⟨rfl, rfl⟩ | ⟨rfl, rfl⟩ | ⟨rfl, rfl⟩ | ⟨rfl, rfl⟩ | ⟨rfl, rfl⟩ | ⟨rfl, rfl⟩ <;> rfl

/-- What is written of a word: a bare character first and last, and no others between. -/
theorem word_spelling {word : List Char} {v : Json} (h : (word, v) ∈ wordDocuments) :
    (∃ c tail, word = c :: tail) ∧ (∀ c ∈ word, isBare c = true) ∧ isScalar v = true ∧
      InRange v := by
  simp only [wordDocuments, List.mem_cons, Prod.mk.injEq, List.not_mem_nil, or_false] at h
  rcases h with ⟨rfl, rfl⟩ | ⟨rfl, rfl⟩ | ⟨rfl, rfl⟩ | ⟨rfl, rfl⟩ | ⟨rfl, rfl⟩ | ⟨rfl, rfl⟩ <;>
    exact ⟨⟨_, _, rfl⟩, List.all_eq_true.mp rfl, rfl, trivial⟩

/-- No word starts like a number with a digit in it. -/
theorem readWord?_number (negative : Bool) {d : Char} (hd : d.isDigit = true) (rest : List Char) :
    readWord? (signText negative ++ d :: rest) = none := by
  cases hr : readWord? (signText negative ++ d :: rest) with
  | none => rfl
  | some found =>
    obtain ⟨word, hmem, heq⟩ := exists_word hr
    simp only [wordDocuments, List.mem_cons, Prod.mk.injEq, List.not_mem_nil, or_false] at hmem
    rcases hmem with ⟨rfl, -⟩ | ⟨rfl, -⟩ | ⟨rfl, -⟩ | ⟨rfl, -⟩ | ⟨rfl, -⟩ | ⟨rfl, -⟩ <;>
      cases negative <;> cases heq <;> cases hd

/-- A bare document is cut off its rest, and it is the same document in front of any rest; if it
starts like a number, in front of any rest that stops numbers. -/
theorem bare?_exists_text {cs rest : List Char} {v : Json} (h : bare? cs = some (v, rest)) :
    ∃ c tail, cs = c :: tail ++ rest ∧ (∀ x ∈ c :: tail, isBare x = true) ∧
      ∀ rest', (startsNumber (c :: tail) = true → Stops rest') →
        bare? (c :: tail ++ rest') = some (v, rest') := by
  unfold bare? at h
  cases hw : readWord? cs with
  | some found =>
    rw [hw, Option.some_or] at h
    cases h
    obtain ⟨word, hmem, rfl⟩ := exists_word hw
    obtain ⟨⟨c, tail, rfl⟩, hbare, -, -⟩ := word_spelling hmem
    refine ⟨c, tail, rfl, hbare, fun rest' _ => ?_⟩
    rw [bare?, readWord?_append hmem, Option.some_or]
  | none =>
    rw [hw, Option.none_or] at h
    obtain ⟨negative, d, text, rfl, hd, htext, -, hagain⟩ := number?_exists_text h
    have hbare : ∀ x ∈ signText negative ++ d :: text, isBare x = true := by
      intro x hx
      rw [isBare, Bool.or_eq_true]
      refine .inl ?_
      rcases List.mem_append.mp hx with hx | hx
      · cases negative with
        | true =>
          rw [List.mem_singleton.mp hx]
          rfl
        | false => cases hx
      · rcases List.mem_cons.mp hx with rfl | hx
        · exact isNumeric_of_isDigit hd
        · exact htext x hx
    have hstart : startsNumber (signText negative ++ d :: text) = true := by
      cases negative with
      | true => rfl
      | false => simp [startsNumber, signText, hd]
    obtain ⟨c, tail, hct⟩ : ∃ c tail, signText negative ++ d :: text = c :: tail := by
      cases negative with
      | true => exact ⟨_, _, rfl⟩
      | false => exact ⟨_, _, rfl⟩
    rw [hct] at hbare hstart hagain ⊢
    refine ⟨c, tail, rfl, hbare, fun rest' hr => ?_⟩
    have hnoword : readWord? (c :: tail ++ rest') = none := by
      rw [← hct, List.append_assoc]
      exact readWord?_number negative hd _
    rw [bare?, hnoword, Option.none_or]
    exact hagain rest' (hr hstart)

theorem bare?_isScalar {cs rest : List Char} {v : Json} (h : bare? cs = some (v, rest)) :
    isScalar v = true := by
  unfold bare? at h
  cases hw : readWord? cs with
  | some found =>
    rw [hw, Option.some_or] at h
    cases h
    obtain ⟨word, hmem, rfl⟩ := exists_word hw
    exact (word_spelling hmem).2.2.1
  | none =>
    rw [hw, Option.none_or] at h
    obtain ⟨_, _, _, _, _, _, hs, _⟩ := number?_exists_text h
    exact hs

theorem ofContent_isScalar (content : Content) :
    isScalar (ofContent content) = true ∧ InRange (ofContent content) := by
  unfold ofContent
  split
  · exact ⟨rfl, trivial⟩
  · exact ⟨rfl, trivial⟩

/-! ### The text of a document -/

theorem isBlank_of_isGap {c : Char} (h : isGap c = true) : Text.isBlank c = true := by
  simp only [isGap, Bool.or_eq_true, beq_iff_eq] at h
  rcases h with ((rfl | rfl) | rfl) | rfl <;> rfl

/-- Bare characters lie between the first blanks of all and the next ones. -/
theorem isBare_toNat {c : Char} (h : isBare c = true) : 0x2B ≤ c.toNat ∧ c.toNat ≤ 0x79 := by
  have hspelled : ∀ x ∈ "-+.eEnultrefasNIiy".toList,
      decide (0x2B ≤ x.toNat ∧ x.toNat ≤ 0x79) = true := List.all_eq_true.mp rfl
  simp only [isBare, isNumeric, Bool.or_eq_true, List.contains_iff_mem] at h
  rcases h with (h | h) | h
  · simp only [Char.isDigit, Bool.and_eq_true, decide_eq_true_eq] at h
    have hlow : 0x30 ≤ c.toNat := h.1
    have hhigh : c.toNat ≤ 0x39 := h.2
    omega
  · exact of_decide_eq_true (hspelled c (List.mem_append_left "nultrefasNIiy".toList h))
  · exact of_decide_eq_true (hspelled c (List.mem_append_right "-+.eE".toList h))

theorem isBlank_of_isBare {c : Char} (h : isBare c = true) : Text.isBlank c = false := by
  obtain ⟨hlow, hhigh⟩ := isBare_toNat h
  simp [Text.isBlank, Text.isSpace]
  omega

theorem isNumeric_of_isGap {c : Char} (h : isGap c = true) : isNumeric c = false := by
  simp only [isGap, Bool.or_eq_true, beq_iff_eq] at h
  rcases h with ((rfl | rfl) | rfl) | rfl <;> rfl

/-- What is skipped of a text is a gap in front of the rest. -/
theorem exists_gap {cs rest : List Char} (h : skipGap cs = rest) :
    ∃ gap, cs = gap ++ rest ∧ ∀ c ∈ gap, isGap c = true := by
  refine ⟨cs.takeWhile isGap, ?_, List.all_eq_true.mp List.all_takeWhile⟩
  rw [← h, skipGap, List.takeWhile_append_dropWhile]

/-- The gap in front of a text that is not itself one is all that is skipped. -/
theorem skipGap_append {gap : List Char} (hg : ∀ c ∈ gap, isGap c = true) {c : Char}
    (hc : isGap c = false) (rest : List Char) : skipGap (gap ++ c :: rest) = c :: rest := by
  rw [skipGap, List.dropWhile_append_of_pos hg, List.dropWhile_cons_of_neg (by simp [hc])]

theorem skipGap_of_solid {text : List Char} (ht : Text.Solid text) (rest : List Char) :
    skipGap (text ++ rest) = text ++ rest := by
  obtain ⟨⟨c, tail, rfl, hc⟩, -⟩ := ht
  refine List.dropWhile_cons_of_neg ?_
  intro hgap
  rw [isBlank_of_isGap hgap] at hc
  cases hc

theorem skipGap_append_solid {gap : List Char} (hg : ∀ c ∈ gap, isGap c = true)
    {text : List Char} (ht : Text.Solid text) (rest : List Char) :
    skipGap (gap ++ (text ++ rest)) = text ++ rest := by
  rw [skipGap, List.dropWhile_append_of_pos hg]
  exact skipGap_of_solid ht rest

theorem stops_gap_append {gap : List Char} (hg : ∀ c ∈ gap, isGap c = true) {c : Char}
    (hc : isNumeric c = false) (rest : List Char) : Stops (gap ++ c :: rest) := by
  cases gap with
  | nil => exact stops_cons hc
  | cons g gap => exact stops_cons (isNumeric_of_isGap (hg g List.mem_cons_self))

mutual

/-- A document is cut off its rest, and it is the same document in front of any rest; if it starts
like a number, in front of any rest that stops numbers. -/
theorem Document.exists_text {cs rest : List Char} {v : Json} :
    Document cs v rest → ∃ text, cs = text ++ rest ∧ Text.Solid text ∧
      ∀ rest', (startsNumber text = true → Stops rest') → Document (text ++ rest') v rest'
  | .bare h => by
    obtain ⟨c, tail, rfl, hbare, hagain⟩ := bare?_exists_text h
    refine ⟨c :: tail, rfl, ?_, fun rest' hr => .bare (hagain rest' hr)⟩
    exact Text.solid_of_forall (List.cons_ne_nil c tail) fun x hx => isBlank_of_isBare (hbare x hx)
  | .string h => by
    obtain ⟨text, rfl, hagain⟩ := h.exists_text
    refine ⟨'"' :: text ++ ['"'], by simp, ?_, fun rest' _ => ?_⟩
    · exact (Text.solid_singleton rfl).between text (Text.solid_singleton rfl)
    · rw [List.append_assoc]
      exact .string (hagain rest')
  | .emptyArray h => by
    obtain ⟨gap, rfl, hgap⟩ := exists_gap h
    refine ⟨'[' :: gap ++ [']'], by simp, ?_, fun rest' _ => ?_⟩
    · exact (Text.solid_singleton rfl).between gap (Text.solid_singleton rfl)
    · rw [List.append_assoc]
      exact .emptyArray (skipGap_append hgap rfl rest')
  | .array h => by
    obtain ⟨text, htext, hsolid, hagain⟩ := h.exists_text
    obtain ⟨gap, rfl, hgap⟩ := exists_gap htext
    refine ⟨'[' :: (gap ++ text), by simp, ?_, fun rest' _ => ?_⟩
    · exact (Text.solid_singleton rfl).between gap hsolid
    · rw [List.cons_append, List.append_assoc]
      refine .array ?_
      rw [skipGap_append_solid hgap hsolid]
      exact hagain rest'
  | .emptyObject h => by
    obtain ⟨gap, rfl, hgap⟩ := exists_gap h
    refine ⟨'{' :: gap ++ ['}'], by simp, ?_, fun rest' _ => ?_⟩
    · exact (Text.solid_singleton rfl).between gap (Text.solid_singleton rfl)
    · rw [List.append_assoc]
      exact .emptyObject (skipGap_append hgap rfl rest')
  | .object h => by
    obtain ⟨text, htext, hsolid, hagain⟩ := h.exists_text
    obtain ⟨gap, rfl, hgap⟩ := exists_gap htext
    refine ⟨'{' :: (gap ++ text), by simp, ?_, fun rest' _ => ?_⟩
    · exact (Text.solid_singleton rfl).between gap hsolid
    · rw [List.cons_append, List.append_assoc]
      refine .object ?_
      rw [skipGap_append_solid hgap hsolid]
      exact hagain rest'

theorem Items.exists_text {cs rest : List Char} {values : List Json} :
    Items cs values rest → ∃ text, cs = text ++ rest ∧ Text.Solid text ∧
      ∀ rest', Items (text ++ rest') values rest'
  | .last hv hend => by
    obtain ⟨text, rfl, hsolid, hagain⟩ := hv.exists_text
    obtain ⟨gap, rfl, hgap⟩ := exists_gap hend
    refine ⟨text ++ (gap ++ [']']), by simp, ?_, fun rest' => ?_⟩
    · exact hsolid.between gap (Text.solid_singleton rfl)
    · have hdoc := hagain (gap ++ ']' :: rest') fun _ => stops_gap_append hgap rfl rest'
      simpa using Items.last hdoc (skipGap_append hgap rfl rest')
  | .more hv hcomma ht => by
    obtain ⟨text, rfl, hsolid, hagain⟩ := hv.exists_text
    obtain ⟨tail, htail, htsolid, htagain⟩ := ht.exists_text
    obtain ⟨gap, rfl, hgap⟩ := exists_gap hcomma
    obtain ⟨gap', rfl, hgap'⟩ := exists_gap htail
    refine ⟨text ++ (gap ++ ',' :: gap' ++ tail), by simp, ?_, fun rest' => ?_⟩
    · exact hsolid.between (gap ++ ',' :: gap') htsolid
    · have hdoc := hagain (gap ++ ',' :: (gap' ++ (tail ++ rest'))) fun _ =>
        stops_gap_append hgap rfl _
      have hitems := htagain rest'
      rw [← skipGap_append_solid hgap' htsolid] at hitems
      simpa using Items.more hdoc (skipGap_append hgap rfl _) hitems

theorem Members.exists_text {cs rest : List Char} {members : List (String × Json)} :
    Members cs members rest → ∃ text, cs = text ++ rest ∧ Text.Solid text ∧
      ∀ rest', Members (text ++ rest') members rest'
  | .last hm hend => by
    obtain ⟨text, rfl, hsolid, hagain⟩ := hm.exists_text
    obtain ⟨gap, rfl, hgap⟩ := exists_gap hend
    refine ⟨text ++ (gap ++ ['}']), by simp, ?_, fun rest' => ?_⟩
    · exact hsolid.between gap (Text.solid_singleton rfl)
    · have hmember := hagain (gap ++ '}' :: rest') (stops_gap_append hgap rfl rest')
      simpa using Members.last hmember (skipGap_append hgap rfl rest')
  | .more hm hcomma ht => by
    obtain ⟨text, rfl, hsolid, hagain⟩ := hm.exists_text
    obtain ⟨tail, htail, htsolid, htagain⟩ := ht.exists_text
    obtain ⟨gap, rfl, hgap⟩ := exists_gap hcomma
    obtain ⟨gap', rfl, hgap'⟩ := exists_gap htail
    refine ⟨text ++ (gap ++ ',' :: gap' ++ tail), by simp, ?_, fun rest' => ?_⟩
    · exact hsolid.between (gap ++ ',' :: gap') htsolid
    · have hmember := hagain (gap ++ ',' :: (gap' ++ (tail ++ rest')))
        (stops_gap_append hgap rfl _)
      have hmembers := htagain rest'
      rw [← skipGap_append_solid hgap' htsolid] at hmembers
      simpa using Members.more hmember (skipGap_append hgap rfl _) hmembers

theorem Member.exists_text {cs rest : List Char} {m : String × Json} :
    Member cs m rest → ∃ text, cs = text ++ rest ∧ Text.Solid text ∧
      ∀ rest', Stops rest' → Member (text ++ rest') m rest'
  | .intro hname hcolon hv => by
    obtain ⟨name, rfl, hnameAgain⟩ := hname.exists_text
    obtain ⟨text, htext, hsolid, hagain⟩ := hv.exists_text
    obtain ⟨gap, rfl, hgap⟩ := exists_gap hcolon
    obtain ⟨gap', rfl, hgap'⟩ := exists_gap htext
    refine ⟨'"' :: (name ++ '"' :: gap ++ ':' :: gap' ++ text), by simp, ?_, fun rest' hr => ?_⟩
    · exact (Text.solid_singleton rfl).between (name ++ '"' :: gap ++ ':' :: gap') hsolid
    · have hdoc := hagain rest' fun _ => hr
      rw [← skipGap_append_solid hgap' hsolid] at hdoc
      simpa using Member.intro (hnameAgain (gap ++ ':' :: (gap' ++ (text ++ rest'))))
        (skipGap_append hgap rfl _) hdoc

end

/-! ### No text starts with two documents -/

/-- A bare document starts with a bare character. -/
theorem isBare_of_bare? {c : Char} {cs rest : List Char} {v : Json}
    (h : bare? (c :: cs) = some (v, rest)) : isBare c = true := by
  obtain ⟨d, tail, hcs, hbare, -⟩ := bare?_exists_text h
  rw [(List.cons.inj hcs).1]
  exact hbare d List.mem_cons_self

/-- A text that starts with a document starts with a quote, a bracket or a bare character. -/
theorem Document.head {c : Char} {cs rest : List Char} {v : Json} (h : Document (c :: cs) v rest) :
    c = '"' ∨ c = '[' ∨ c = '{' ∨ isBare c = true := by
  cases h with
  | bare h => exact .inr (.inr (.inr (isBare_of_bare? h)))
  | string h => exact .inl rfl
  | emptyArray h => exact .inr (.inl rfl)
  | array h => exact .inr (.inl rfl)
  | emptyObject h => exact .inr (.inr (.inl rfl))
  | object h => exact .inr (.inr (.inl rfl))

theorem Items.head_ne {cs rest rest' : List Char} {values : List Json}
    (h : Items cs values rest) : cs ≠ ']' :: rest' := by
  rintro rfl
  cases h with
  | last hv hend => rcases hv.head with h | h | h | h <;> cases h
  | more hv hcomma ht => rcases hv.head with h | h | h | h <;> cases h

theorem Members.head_ne {cs rest rest' : List Char} {members : List (String × Json)}
    (h : Members cs members rest) : cs ≠ '}' :: rest' := by
  rintro rfl
  cases h with
  | last hm hend => cases hm
  | more hm hcomma ht => cases hm

theorem Body.unique {cs rest rest' : List Char} {content content' : Content}
    (h : Body cs content rest) (h' : Body cs content' rest') :
    content = content' ∧ rest = rest' := by
  have heq : readString 0 cs = .ok (content, rest) := readString_eq_ok_iff.mpr h
  rw [readString_eq_ok_iff.mpr h'] at heq
  cases heq
  exact ⟨rfl, rfl⟩

mutual

/-- A text starts with one document at most. -/
theorem Document.unique {cs rest rest' : List Char} {v v' : Json} :
    Document cs v rest → Document cs v' rest' → v = v' ∧ rest = rest'
  | .bare h, h' => by
    cases h' with
    | bare h' =>
      rw [h] at h'
      cases h'
      exact ⟨rfl, rfl⟩
    | string => cases isBare_of_bare? h
    | emptyArray => cases isBare_of_bare? h
    | array => cases isBare_of_bare? h
    | emptyObject => cases isBare_of_bare? h
    | object => cases isBare_of_bare? h
  | .string h, h' => by
    cases h' with
    | bare h' => cases isBare_of_bare? h'
    | string h' =>
      obtain ⟨rfl, rfl⟩ := h.unique h'
      exact ⟨rfl, rfl⟩
  | .emptyArray h, h' => by
    cases h' with
    | bare h' => cases isBare_of_bare? h'
    | emptyArray h' =>
      rw [h] at h'
      cases h'
      exact ⟨rfl, rfl⟩
    | array h' => exact absurd h h'.head_ne
  | .array h, h' => by
    cases h' with
    | bare h' => cases isBare_of_bare? h'
    | emptyArray h' => exact absurd h' h.head_ne
    | array h' =>
      obtain ⟨rfl, rfl⟩ := h.unique h'
      exact ⟨rfl, rfl⟩
  | .emptyObject h, h' => by
    cases h' with
    | bare h' => cases isBare_of_bare? h'
    | emptyObject h' =>
      rw [h] at h'
      cases h'
      exact ⟨rfl, rfl⟩
    | object h' => exact absurd h h'.head_ne
  | .object h, h' => by
    cases h' with
    | bare h' => cases isBare_of_bare? h'
    | emptyObject h' => exact absurd h' h.head_ne
    | object h' =>
      obtain ⟨rfl, rfl⟩ := h.unique h'
      exact ⟨rfl, rfl⟩

theorem Items.unique {cs rest rest' : List Char} {values values' : List Json} :
    Items cs values rest → Items cs values' rest' → values = values' ∧ rest = rest'
  | .last hv hend, h' => by
    cases h' with
    | last hv' hend' =>
      obtain ⟨rfl, rfl⟩ := hv.unique hv'
      rw [hend] at hend'
      cases hend'
      exact ⟨rfl, rfl⟩
    | more hv' hcomma' ht' =>
      obtain ⟨rfl, rfl⟩ := hv.unique hv'
      rw [hend] at hcomma'
      cases hcomma'
  | .more hv hcomma ht, h' => by
    cases h' with
    | last hv' hend' =>
      obtain ⟨rfl, rfl⟩ := hv.unique hv'
      rw [hcomma] at hend'
      cases hend'
    | more hv' hcomma' ht' =>
      obtain ⟨rfl, rfl⟩ := hv.unique hv'
      rw [hcomma] at hcomma'
      cases hcomma'
      obtain ⟨rfl, rfl⟩ := ht.unique ht'
      exact ⟨rfl, rfl⟩

theorem Members.unique {cs rest rest' : List Char} {members members' : List (String × Json)} :
    Members cs members rest → Members cs members' rest' → members = members' ∧ rest = rest'
  | .last hm hend, h' => by
    cases h' with
    | last hm' hend' =>
      obtain ⟨rfl, rfl⟩ := hm.unique hm'
      rw [hend] at hend'
      cases hend'
      exact ⟨rfl, rfl⟩
    | more hm' hcomma' ht' =>
      obtain ⟨rfl, rfl⟩ := hm.unique hm'
      rw [hend] at hcomma'
      cases hcomma'
  | .more hm hcomma ht, h' => by
    cases h' with
    | last hm' hend' =>
      obtain ⟨rfl, rfl⟩ := hm.unique hm'
      rw [hcomma] at hend'
      cases hend'
    | more hm' hcomma' ht' =>
      obtain ⟨rfl, rfl⟩ := hm.unique hm'
      rw [hcomma] at hcomma'
      cases hcomma'
      obtain ⟨rfl, rfl⟩ := ht.unique ht'
      exact ⟨rfl, rfl⟩

theorem Member.unique {cs rest rest' : List Char} {m m' : String × Json} :
    Member cs m rest → Member cs m' rest' → m = m' ∧ rest = rest'
  | .intro hname hcolon hv, h' => by
    cases h' with
    | intro hname' hcolon' hv' =>
      obtain ⟨rfl, rfl⟩ := hname.unique hname'
      rw [hcolon] at hcolon'
      cases hcolon'
      obtain ⟨rfl, rfl⟩ := hv.unique hv'
      exact ⟨rfl, rfl⟩

end

end LintBridge.Json
