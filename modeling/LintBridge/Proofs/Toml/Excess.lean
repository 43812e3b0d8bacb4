import LintBridge.Proofs.Toml.Limits

/-!
Documents that are refused for a limit.

The limits are no mere possibility: a document whose first value opens too many arrays, one in the
other, is refused for its depth (`read_tooDeep`), and one whose first value is a numeral of too many
digits is refused for the numeral (`read_tooLong`), whatever stands behind.
-/

namespace LintBridge.Toml

/-! ### The first entry of a document -/

/-- A key that is written without quotes. -/
structure IsBareKey (key : List Char) : Prop where
  ne_nil : key ≠ []
  bare : ∀ c ∈ key, isBare c = true

/-- Such a key holds no blank, and no part of a line end. -/
theorem not_blank_of_isBare {c : Char} (h : isBare c = true) : isBlank c = false ∧ c ≠ '\r' := by
  have hne : c ≠ ' ' ∧ c ≠ '\t' ∧ c ≠ '\r' := by
    refine ⟨?_, ?_, ?_⟩ <;>
    · rintro rfl
      cases h
  exact ⟨by simp [isBlank, hne], hne.2.2⟩

/-- The text of an entry from its key and the text of its value. -/
def entryText (key value : List Char) : List Char :=
  key ++ ' ' :: '=' :: ' ' :: value

variable {key value : List Char}

theorem readKey_entryText (h : IsBareKey key) (fuel : Nat) :
    readKey (fuel + 1) (entryText key value) = .ok ([String.ofList key], '=' :: ' ' :: value) := by
  have htake : (entryText key value).takeWhile isBare = key := by
    rw [entryText, List.takeWhile_append_of_pos h.bare]
    exact List.append_nil key
  have hdrop : (entryText key value).dropWhile isBare = ' ' :: '=' :: ' ' :: value := by
    rw [entryText, List.dropWhile_append_of_pos h.bare]
    rfl
  have hpart : readKeyPart (entryText key value) =
      .ok (String.ofList key, ' ' :: '=' :: ' ' :: value) := by
    obtain ⟨c, more, rfl⟩ := List.exists_cons_of_ne_nil h.ne_nil
    rw [entryText, List.cons_append] at htake hdrop ⊢
    rw [readKeyPart, if_pos (h.bare c List.mem_cons_self), htake, hdrop]
  rw [readKey, hpart]
  rfl

/-- A document whose first entry has a value that is not read is refused as the value is. -/
theorem readStatements_entryText (h : IsBareKey key) {stop : Stop} {c : Char} {rest : List Char}
    (hc : isBlank c = false)
    (hvalue : ∀ fuel, readValue (fuel + 1) nestingRoom (c :: rest) = .error stop) (fuel : Nat) :
    Document.readStatements (fuel + 1) .empty (entryText key (c :: rest)) = .error stop := by
  have hentry : readEntry (entryText key (c :: rest)) = .error stop := by
    have hequals : skipEquals ('=' :: ' ' :: c :: rest) = .ok (c :: rest) := by
      rw [skipEquals, skipBlanks, List.dropWhile_cons_of_pos rfl,
        List.dropWhile_cons_of_neg (by simp [hc])]
    rw [readEntry, readKey_entryText h]
    show (skipEquals ('=' :: ' ' :: c :: rest) >>= fun body => _ >>= _) = _
    rw [hequals]
    show (readValue _ nestingRoom (c :: rest) >>= _) = _
    rw [hvalue]
    rfl
  obtain ⟨k, more, rfl⟩ := List.exists_cons_of_ne_nil h.ne_nil
  have hk : isBare k = true := h.bare k List.mem_cons_self
  have hblanks : skipBlanks (entryText (k :: more) (c :: rest)) = entryText (k :: more) (c :: rest) :=
    List.dropWhile_cons_of_neg (by simp [not_blank_of_isBare hk])
  rw [Document.readStatements, hblanks]
  rw [entryText, List.cons_append] at hentry ⊢
  rw [Document.readStatement, if_pos (by simp [startsKey, hk]), hentry]
  rfl

theorem read_entryText (h : IsBareKey key) {e : ReadError} {c : Char} {front rest : List Char}
    (hc : isBlank c = false) (hfront : '\r' ∉ c :: front) (stop : Stop)
    (hvalue : ∀ fuel, readValue (fuel + 1) nestingRoom (c :: front ++ Text.joinReturns rest) =
      .error stop) (he : ∀ text, stop.toReadError text = e) :
    read (entryText key (c :: front ++ rest)) = .error e := by
  have hjoin : Text.joinReturns (entryText key (c :: front ++ rest)) =
      entryText key (c :: (front ++ Text.joinReturns rest)) := by
    have hkey : '\r' ∉ key := fun hmem => (not_blank_of_isBare (h.bare _ hmem)).2 rfl
    have hentry : '\r' ∉ key ++ [' ', '=', ' '] ++ c :: front := by
      rw [List.mem_append, List.mem_append]
      rintro ((hmem | hmem) | hmem)
      · exact hkey hmem
      · exact absurd hmem (by decide)
      · exact hfront hmem
    simpa [entryText] using Text.joinReturns_append hentry rest
  have hread : Document.readStatements
      ((entryText key (c :: (front ++ Text.joinReturns rest))).length + 1) .empty
      (entryText key (c :: (front ++ Text.joinReturns rest))) = .error stop :=
    readStatements_entryText h hc hvalue _
  rw [read, hjoin, hread]
  exact congrArg Except.error (he _)

/-! ### Nested arrays -/

theorem skipGaps_bracket (fuel : Nat) (rest : List Char) :
    skipGaps fuel ('[' :: rest) = .ok ('[' :: rest) := by
  cases fuel with
  | zero => rfl
  | succ fuel =>
    have hskip : skipComment (skipBlankLines ('[' :: rest)) = .ok ('[' :: rest) := rfl
    rw [skipGaps, hskip]
    exact if_pos rfl

/-- Arrays that are opened one in the other are refused where they have used up the room. -/
theorem readValue_openings {count room : Nat} (h : room < 2 * count) (fuel : Nat)
    (rest : List Char) :
    readValue fuel room (List.replicate count '[' ++ rest) = .error .tooDeep := by
  induction count generalizing fuel room with
  | zero => omega
  | succ count ih =>
    cases fuel with
    | zero => rfl
    | succ fuel =>
      rw [List.replicate_succ, List.cons_append, readValue]
      by_cases hroom : room < 2
      · rw [if_pos hroom]
      · rw [if_neg hroom]
        have hitems : readItems fuel (room - 2) (List.replicate count '[' ++ rest) =
            .error .tooDeep := by
          cases fuel with
          | zero => rfl
          | succ fuel =>
            rw [readItems, ih (by omega)]
            rfl
        obtain ⟨less, rfl⟩ : ∃ less, count = less + 1 := ⟨count - 1, by omega⟩
        rw [List.replicate_succ, List.cons_append] at hitems ⊢
        rw [skipGaps_bracket]
        show (readItems fuel (room - 2) ('[' :: (List.replicate less '[' ++ rest)) >>= _) = _
        rw [hitems]
        rfl

/-- A document is refused for its depth if its first value opens more arrays, one in the other, than
there is room for. -/
theorem read_tooDeep (h : IsBareKey key) {count : Nat} (hcount : nestingRoom < 2 * count)
    (rest : List Char) :
    read (entryText key (List.replicate count '[' ++ rest)) = .error .tooDeep := by
  obtain ⟨less, rfl⟩ : ∃ less, count = less + 1 := ⟨count - 1, by omega⟩
  refine read_entryText h rfl ?_ .tooDeep (fun fuel => ?_) fun _ => rfl
  · rw [← List.replicate_succ]
    intro hmem
    cases List.eq_of_mem_replicate hmem
  · rw [← List.replicate_succ]
    exact readValue_openings hcount (fuel + 1) _

/-! ### Long numerals -/

/-- What ends a numeral: the end of the text or of the line. -/
def EndsLine (rest : List Char) : Prop :=
  rest = [] ∨ ∃ more, rest = '\n' :: more

theorem takeMoreDigits_run {digits rest : List Char} (hdigits : ∀ c ∈ digits, c.isDigit = true)
    (hrest : EndsLine rest) : takeMoreDigits Char.isDigit (digits ++ rest) = (digits, rest) := by
  induction digits with
  | nil => rcases hrest with rfl | ⟨more, rfl⟩ <;> rfl
  | cons d digits ih =>
    obtain ⟨hd, hmore⟩ := List.forall_mem_cons.mp hdigits
    rw [List.cons_append, takeMoreDigits, if_pos hd, ih hmore]
    rintro c more rfl
    cases hd

theorem takeGrouped_run {digits rest : List Char} (hdigits : ∀ c ∈ digits, c.isDigit = true)
    (hrest : EndsLine rest) : takeGrouped Char.isDigit (digits ++ rest) = (digits, rest) := by
  cases digits with
  | nil => rcases hrest with rfl | ⟨more, rfl⟩ <;> rfl
  | cons d digits =>
    rw [takeGrouped.eq_def]
    simp only [List.cons_append, hdigits d List.mem_cons_self, if_true]
    exact takeMoreDigits_run hdigits hrest

theorem ne_of_isDigit {d c : Char} (hd : d.isDigit = true) (hc : c.isDigit = false) : d ≠ c := by
  rintro rfl
  rw [hd] at hc
  cases hc

theorem takeChar?_digit {c : Char} (hc : c.isDigit = true) (mark : Char)
    (hmark : mark.isDigit = false) (rest : List Char) : takeChar? mark (c :: rest) = none :=
  if_neg (ne_of_isDigit hc hmark)

/-- Five digits on end start no date, and no time of day. -/
theorem readMoment?_digits {a b c d e : Char} (h : ∀ x ∈ [a, b, c, d, e], x.isDigit = true)
    (rest : List Char) : readMoment? (a :: b :: c :: d :: e :: rest) = none := by
  simp only [List.forall_mem_cons, List.not_mem_nil, false_implies, implies_true, and_true] at h
  obtain ⟨ha, hb, hc, hd, he⟩ := h
  have hdate : takeDate? (a :: b :: c :: d :: e :: rest) = none := by
    simp [takeDate?, takeDigits?, ha, hb, hc, hd, takeChar?_digit he '-' rfl]
  have htime : skipTime? (a :: b :: c :: d :: e :: rest) = none := by
    simp only [skipTime?, takeRange?, takeDigits?]
    simp [ha, hb, takeChar?_digit hc ':' rfl]
  rw [readMoment?, hdate, htime]
  rfl

/-- Digits on end, too many for a whole number, and no zero in front. -/
structure IsLongRun (digits : List Char) : Prop where
  isDigit : ∀ c ∈ digits, c.isDigit = true
  head_ne : digits.head? ≠ some '0'
  long : Decimal.maxDigits < digits.length

variable {digits rest : List Char}

theorem IsLongRun.exists_five (h : IsLongRun digits) :
    ∃ a b c d e more, digits = a :: b :: c :: d :: e :: more := by
  have hlong := h.long
  rcases digits with _ | ⟨a, _ | ⟨b, _ | ⟨c, _ | ⟨d, _ | ⟨e, more⟩⟩⟩⟩⟩
  case cons.cons.cons.cons.cons => exact ⟨a, b, c, d, e, more, rfl⟩
  all_goals simp [Decimal.maxDigits] at hlong

/-- The first of the digits is a digit, and no zero. -/
theorem IsLongRun.exists_cons (h : IsLongRun digits) :
    ∃ d more, digits = d :: more ∧ d.isDigit = true ∧ d ≠ '0' := by
  obtain ⟨a, b, c, d, e, more, rfl⟩ := h.exists_five
  exact ⟨a, _, rfl, h.isDigit a List.mem_cons_self, fun ha => h.head_ne (congrArg some ha)⟩

theorem readMoment?_run (h : IsLongRun digits) (rest : List Char) :
    readMoment? (digits ++ rest) = none := by
  obtain ⟨a, b, c, d, e, more, rfl⟩ := h.exists_five
  have hfirst : ∀ x ∈ [a, b, c, d, e], x.isDigit = true :=
    fun x hx => h.isDigit x (List.mem_append_left more hx)
  exact readMoment?_digits hfirst (more ++ rest)

theorem readBased?_run (h : IsLongRun digits) (rest : List Char) :
    readBased? (digits ++ rest) = none := by
  obtain ⟨d, more, rfl, -, hzero⟩ := h.exists_cons
  rw [readBased?.eq_def]
  split
  · next heq => exact absurd (List.cons.inj heq).1 hzero
  · rfl

theorem readDecimal?_run (h : IsLongRun digits) (hrest : EndsLine rest) :
    readDecimal? (digits ++ rest) = some (.error (.numeralTooLong digits.length)) := by
  obtain ⟨d, more, rfl, hd, hzero⟩ := h.exists_cons
  have hsign : Decimal.takeSign (d :: more ++ rest) = (false, d :: more ++ rest) := by
    rw [List.cons_append, Decimal.takeSign]
    · exact fun tail heq => ne_of_isDigit hd rfl (List.cons.inj heq).1
    · exact fun tail heq => ne_of_isDigit hd rfl (List.cons.inj heq).1
  have hwhole : takeWhole (d :: more ++ rest) = (d :: more, rest) := by
    rw [takeWhole.eq_def]
    split
    · next heq => exact absurd (List.cons.inj heq).1 hzero
    · exact takeGrouped_run h.isDigit hrest
  have hfraction : takeFraction rest = ([], rest) := by
    rcases hrest with rfl | ⟨tail, rfl⟩ <;> rfl
  have hexponent : takeExponent rest = (0, rest) := by
    rcases hrest with rfl | ⟨tail, rfl⟩ <;> rfl
  rw [readDecimal?_of_parts hsign hwhole hfraction hexponent, if_neg (List.cons_ne_nil d more),
    if_pos rfl, if_pos h.long]

theorem readValue_run (h : IsLongRun digits) (hrest : EndsLine rest) (fuel room : Nat) :
    readValue (fuel + 1) room (digits ++ rest) = .error (.numeralTooLong digits.length) := by
  have hnumeric : readNumeric? (digits ++ rest) =
      some (.error (.numeralTooLong digits.length)) := by
    rw [readNumeric?, readMoment?_run h, readBased?_run h, readDecimal?_run h hrest]
  obtain ⟨d, more, rfl, hd, -⟩ := h.exists_cons
  have hne {c : Char} (hc : c.isDigit = false) : d ≠ c := ne_of_isDigit hd hc
  have hword {c : Char} (hc : c.isDigit = false) (word : List Char) :
      (c :: word).isPrefixOf? (d :: more ++ rest) = none :=
    Text.isPrefixOf?_eq_none_iff.mpr fun h => hne hc (List.cons_prefix_cons.mp h).1.symm
  have htruth : readTruth? (d :: more ++ rest) = none := by
    have htrue : "true".toList.isPrefixOf? (d :: more ++ rest) = none := hword rfl _
    have hfalse : "false".toList.isPrefixOf? (d :: more ++ rest) = none := hword rfl _
    rw [readTruth?, htrue, hfalse]
    rfl
  rw [List.cons_append] at htruth hnumeric ⊢
  rw [readValue, readScalar, if_neg, htruth, hnumeric]
  · simp [hne (c := '"') rfl, hne (c := '\'') rfl]
  · exact fun tail heq => hne (c := '[') rfl (List.cons.inj heq).1
  · exact fun tail heq => hne (c := '\x7b') rfl (List.cons.inj heq).1

/-- A document is refused for a numeral if its first value is one that is too long. -/
theorem read_tooLong (hkey : IsBareKey key) (h : IsLongRun digits) (hrest : EndsLine rest) :
    read (entryText key (digits ++ rest)) = .error (.numeralTooLong digits.length) := by
  have hjoined : EndsLine (Text.joinReturns rest) := by
    rcases hrest with rfl | ⟨tail, rfl⟩
    · exact .inl rfl
    · exact .inr ⟨Text.joinReturns tail, rfl⟩
  have hvalue (fuel : Nat) := readValue_run h hjoined fuel nestingRoom
  have hreturn : '\r' ∉ digits := fun hmem => ne_of_isDigit (h.isDigit _ hmem) rfl rfl
  obtain ⟨d, more, rfl, hd, -⟩ := h.exists_cons
  refine read_entryText hkey ?_ hreturn (.numeralTooLong (d :: more).length) hvalue fun _ => rfl
  simp [isBlank, ne_of_isDigit hd (c := ' ') rfl, ne_of_isDigit hd (c := '\t') rfl]

end LintBridge.Toml
