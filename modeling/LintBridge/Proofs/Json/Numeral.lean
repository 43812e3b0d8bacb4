import LintBridge.Json.Reader
import LintBridge.Proofs.Decimal.Digits

/-!
Numbers, apart from the limit on their digits.

`number?` reads a number of any length. `readNumber_eq_ok_iff` says what the limit leaves of it: the
numbers that are fractions, and the whole numbers below `10 ^ maxDigits`.

A number ends where the text goes on with a character that no number holds, so it is the same number
in front of any rest that does; `number?_exists_text` cuts it off its rest.
-/

namespace LintBridge.Json

/-- The characters that numbers are written with. -/
def isNumeric (c : Char) : Bool :=
  c.isDigit || ['-', '+', '.', 'e', 'E'].contains c

/-- A text that does not carry on a number in front of it. -/
def Stops (rest : List Char) : Prop :=
  rest.head?.any isNumeric = false

/-- A document that holds no other. -/
def isScalar : Json → Bool
  | .arr _ => false
  | .obj _ => false
  | _ => true

/-- The number of a sign, digits, a fraction and an exponent; a whole one if it has neither of the
last two. -/
def numberOf (negative isWhole : Bool) (whole fraction : List Char) (exponent : Int) : Json :=
  if isWhole then
    let size := Decimal.digitsValue whole
    .int (if negative then -(size : Int) else size)
  else .real (Decimal.Numeral.toBinary64 ⟨negative, whole, fraction, exponent⟩)

theorem numberOf_isScalar (negative isWhole : Bool) (whole fraction : List Char) (exponent : Int) :
    isScalar (numberOf negative isWhole whole fraction exponent) = true := by
  unfold numberOf
  split <;> rfl

/-- A number of any length, and the text behind it. -/
def number? (cs : List Char) : Option (Json × List Char) :=
  let negative := cs.head? = some '-'
  let (whole, afterWhole) := takeWhole (if negative then cs.drop 1 else cs)
  let (fraction, afterFraction) := takeFraction afterWhole
  let (exponent, rest) := Decimal.takeExponent afterFraction
  if whole = [] then none
  else some (numberOf negative (rest.length = afterWhole.length) whole fraction exponent, rest)

theorem isNumeric_of_isDigit {c : Char} (h : c.isDigit = true) : isNumeric c = true := by
  simp [isNumeric, h]

theorem stops_cons {c : Char} {rest : List Char} (h : isNumeric c = false) : Stops (c :: rest) :=
  h

/-- A text that stops numbers does not start with a character of any narrower class. -/
theorem Stops.head {rest : List Char} (h : Stops rest) {p : Char → Bool}
    (hp : ∀ c, p c = true → isNumeric c = true) : rest.head?.any p = false := by
  cases rest with
  | nil => rfl
  | cons c rest =>
    have hc : isNumeric c = false := h
    cases hpc : p c with
    | false => exact hpc
    | true => rw [hp c hpc] at hc; cases hc

/-! ### The parts of a number -/

/-- Digits that start with a zero only if they are one are taken as a whole number. -/
theorem takeWhole_append {whole rest : List Char} (hd : ∀ c ∈ whole, c.isDigit = true)
    (hz : whole.head? = some '0' → whole = ['0']) (hr : rest.head?.any Char.isDigit = false) :
    takeWhole (whole ++ rest) = (whole, rest) := by
  by_cases hzero : whole.head? = some '0'
  · rw [hz hzero]
    rfl
  · obtain ⟨htake, hdrop⟩ := Decimal.takeWhile_append_of_stop hd hr
    unfold takeWhole
    split
    · next tail heq =>
      -- a zero in front would be the first of the digits, or a digit of the rest
      cases whole with
      | nil =>
        rw [List.nil_append] at heq
        rw [heq] at hr
        cases hr
      | cons c more =>
        rw [(List.cons.inj heq).1] at hzero
        exact absurd rfl hzero
    · rw [htake, hdrop]

theorem takeWhole_cases {cs whole rest : List Char} (h : takeWhole cs = (whole, rest)) :
    cs = whole ++ rest ∧ (∀ c ∈ whole, c.isDigit = true) ∧
      (whole.head? = some '0' → whole = ['0']) := by
  unfold takeWhole at h
  split at h
  · next tail =>
    cases h
    exact ⟨rfl, List.all_eq_true.mp rfl, fun _ => rfl⟩
  · next hzero =>
    cases h
    refine ⟨List.takeWhile_append_dropWhile.symm, List.all_eq_true.mp List.all_takeWhile, ?_⟩
    intro hz
    cases cs with
    | nil => cases hz
    | cons c cs =>
      rw [List.takeWhile_cons] at hz
      split at hz
      · exact absurd (by rw [Option.some.inj hz]) (hzero cs)
      · cases hz

/-- Nothing is taken as a fraction where no point and no digit stands. -/
theorem takeFraction_of_stop {rest : List Char}
    (hr : rest.head?.any (fun c => c.isDigit || c == '.') = false) :
    takeFraction rest = ([], rest) := by
  unfold takeFraction
  split
  · simp at hr
  · rfl

theorem takeFraction_cases {cs fraction rest : List Char} (h : takeFraction cs = (fraction, rest)) :
    ∃ text, cs = text ++ rest ∧ (∀ c ∈ text, isNumeric c = true) ∧
      (text = [] ∨ text.head? = some '.') ∧
      ∀ rest', rest'.head?.any (fun c => c.isDigit || c == '.') = false →
        takeFraction (text ++ rest') = (fraction, rest') := by
  unfold takeFraction at h
  split at h
  · next tail =>
    split at h
    · next hdigit =>
      cases h
      have hdigits : ∀ c ∈ tail.takeWhile Char.isDigit, c.isDigit = true :=
        List.all_eq_true.mp List.all_takeWhile
      refine ⟨'.' :: tail.takeWhile Char.isDigit, ?_, ?_, .inr rfl, ?_⟩
      · rw [List.cons_append, List.takeWhile_append_dropWhile]
      · intro c hc
        rcases List.mem_cons.mp hc with rfl | hc
        · rfl
        · exact isNumeric_of_isDigit (hdigits c hc)
      · intro rest' hr
        have hr' : rest'.head?.any Char.isDigit = false := by
          cases rest' <;> simp_all
        obtain ⟨htake, hdrop⟩ := Decimal.takeWhile_append_of_stop hdigits hr'
        have hhead : (tail.takeWhile Char.isDigit ++ rest').head?.any Char.isDigit = true := by
          cases tail with
          | nil => simp at hdigit
          | cons d tail =>
            have hd : d.isDigit = true := by simpa using hdigit
            simp [List.takeWhile_cons_of_pos hd, hd]
        rw [List.cons_append, takeFraction, if_pos hhead, htake, hdrop]
    · cases h
      exact ⟨[], rfl, by simp, .inl rfl, fun rest' => takeFraction_of_stop⟩
  · cases h
    exact ⟨[], rfl, by simp, .inl rfl, fun rest' => takeFraction_of_stop⟩

theorem takeSign_cases {cs body : List Char} {negative : Bool}
    (h : Decimal.takeSign cs = (negative, body)) :
    ∃ sign, cs = sign ++ body ∧ (∀ c ∈ sign, isNumeric c = true) ∧
      ∀ d rest, d.isDigit = true →
        Decimal.takeSign (sign ++ d :: rest) = (negative, d :: rest) := by
  unfold Decimal.takeSign at h
  split at h
  · cases h
    exact ⟨['-'], rfl, List.all_eq_true.mp rfl, fun d rest _ => rfl⟩
  · cases h
    exact ⟨['+'], rfl, List.all_eq_true.mp rfl, fun d rest _ => rfl⟩
  · cases h
    refine ⟨[], rfl, by simp, ?_⟩
    intro d rest hd
    rw [List.nil_append]
    unfold Decimal.takeSign
    split
    · next heq => rw [(List.cons.inj heq).1] at hd; cases hd
    · next heq => rw [(List.cons.inj heq).1] at hd; cases hd
    · rfl

/-- Nothing is taken as an exponent where a text stops numbers. -/
theorem takeExponent_of_stop {rest : List Char} (hr : Stops rest) :
    Decimal.takeExponent rest = (0, rest) := by
  cases rest with
  | nil => rfl
  | cons mark tail =>
    have hmark : ¬ (mark = 'e' ∨ mark = 'E') := by
      rintro (rfl | rfl) <;> cases hr
    simp [Decimal.takeExponent, hmark]

theorem takeExponent_cases {cs rest : List Char} {exponent : Int}
    (h : Decimal.takeExponent cs = (exponent, rest)) :
    ∃ text, cs = text ++ rest ∧ (∀ c ∈ text, isNumeric c = true) ∧
      (text = [] ∨ text.head? = some 'e' ∨ text.head? = some 'E') ∧
      ∀ rest', Stops rest' → Decimal.takeExponent (text ++ rest') = (exponent, rest') := by
  cases cs with
  | nil =>
    cases h
    exact ⟨[], rfl, by simp, .inl rfl, fun rest' => takeExponent_of_stop⟩
  | cons mark tail =>
    rcases hsign : Decimal.takeSign tail with ⟨negative, body⟩
    simp only [Decimal.takeExponent, hsign] at h
    split at h
    · next htaken =>
      obtain ⟨hmark, hne⟩ := htaken
      obtain ⟨sign, rfl, hsignNumeric, hsigned⟩ := takeSign_cases hsign
      have hdigits : ∀ c ∈ body.takeWhile Char.isDigit, c.isDigit = true :=
        List.all_eq_true.mp List.all_takeWhile
      obtain ⟨d, digits, hd⟩ := List.exists_cons_of_ne_nil hne
      cases h
      refine ⟨mark :: sign ++ body.takeWhile Char.isDigit, ?_, ?_, ?_, ?_⟩
      · simp
      · intro c hc
        rcases List.mem_append.mp hc with hc | hc
        · rcases List.mem_cons.mp hc with rfl | hc
          · rcases hmark with rfl | rfl <;> rfl
          · exact hsignNumeric c hc
        · exact isNumeric_of_isDigit (hdigits c hc)
      · rcases hmark with rfl | rfl <;> simp
      · intro rest' hr
        have hdd : d.isDigit = true := hdigits d (by simp [hd])
        have hstop := hr.head (p := Char.isDigit) fun c => isNumeric_of_isDigit
        obtain ⟨htake, hdrop⟩ := Decimal.takeWhile_append_of_stop hdigits hstop
        have htail : Decimal.takeSign (sign ++ body.takeWhile Char.isDigit ++ rest') =
            (negative, body.takeWhile Char.isDigit ++ rest') := by
          rw [List.append_assoc, hd, List.cons_append]
          exact hsigned d _ hdd
        simp only [List.cons_append, Decimal.takeExponent, htail, htake, hdrop]
        rw [if_pos ⟨hmark, hne⟩]
    · cases h
      exact ⟨[], rfl, by simp, .inl rfl, fun rest' => takeExponent_of_stop⟩

/-! ### Whole numerals -/

/-- The sign of a number as it is written. -/
def signText (negative : Bool) : List Char :=
  if negative then ['-'] else []

/-- A number is whole if its fraction and its exponent take nothing. -/
theorem nothing_taken_iff (pointText markText rest : List Char) :
    decide (rest.length = (pointText ++ (markText ++ rest)).length) =
      decide (pointText ++ markText = []) := by
  rw [decide_eq_decide, ← List.append_assoc, List.length_append, ← List.length_eq_zero_iff]
  omega

theorem signText_append (cs : List Char) :
    signText (cs.head? = some '-') ++ (if cs.head? = some '-' then cs.drop 1 else cs) = cs := by
  cases cs with
  | nil => rfl
  | cons c cs => by_cases h : c = '-' <;> simp [signText, h]

/-- A number from the texts of its parts, each of which is taken off what is left. -/
theorem number?_of_parts {negative : Bool} {whole pointText markText fraction rest : List Char}
    {exponent : Int} (hne : whole ≠ []) (hdigits : ∀ c ∈ whole, c.isDigit = true)
    (hw : takeWhole (whole ++ (pointText ++ (markText ++ rest))) =
      (whole, pointText ++ (markText ++ rest)))
    (hf : takeFraction (pointText ++ (markText ++ rest)) = (fraction, markText ++ rest))
    (he : Decimal.takeExponent (markText ++ rest) = (exponent, rest)) :
    number? (signText negative ++ (whole ++ (pointText ++ (markText ++ rest)))) =
      some (numberOf negative (pointText ++ markText = []) whole fraction exponent, rest) := by
  rw [← nothing_taken_iff pointText markText rest]
  cases negative with
  | true => simp [number?, signText, hw, hf, he, hne]
  | false =>
    obtain ⟨d, digits, rfl⟩ := List.exists_cons_of_ne_nil hne
    have hd : d ≠ '-' := by
      rintro rfl
      exact absurd (hdigits '-' List.mem_cons_self) (by decide)
    simp only [List.cons_append] at hw
    simp [number?, signText, hw, hf, he, hd]

/-- A number is cut off its rest, and it is the same number in front of any rest that stops it. -/
theorem number?_exists_text {cs rest : List Char} {v : Json} (h : number? cs = some (v, rest)) :
    ∃ negative d text, cs = signText negative ++ d :: text ++ rest ∧ d.isDigit = true ∧
      (∀ c ∈ text, isNumeric c = true) ∧ isScalar v = true ∧
      ∀ rest', Stops rest' →
        number? (signText negative ++ d :: text ++ rest') = some (v, rest') := by
  rcases hw : takeWhole (if cs.head? = some '-' then cs.drop 1 else cs) with ⟨whole, afterWhole⟩
  rcases hf : takeFraction afterWhole with ⟨fraction, afterFraction⟩
  rcases he : Decimal.takeExponent afterFraction with ⟨exponent, afterExponent⟩
  obtain ⟨pointText, hpoint, hpointNumeric, hpointHead, hpointAgain⟩ := takeFraction_cases hf
  obtain ⟨markText, hmark, hmarkNumeric, hmarkHead, hmarkAgain⟩ := takeExponent_cases he
  obtain ⟨hwhole, hdigits, hzero⟩ := takeWhole_cases hw
  have hne : whole ≠ [] := by
    rintro rfl
    simp only [number?, hw, hf, he] at h
    cases h
  -- a part that is not there leaves the next one, or the rest, to stop the part before it
  have hmarkStops : ∀ rest', Stops rest' →
      (markText ++ rest').head?.any (fun c => c.isDigit || c == '.') = false := by
    intro rest' hr
    rcases hmarkHead with rfl | hm | hm
    · refine hr.head fun c hc => ?_
      rcases Bool.or_eq_true_iff.mp hc with hc | hc
      · exact isNumeric_of_isDigit hc
      · rw [eq_of_beq hc]
        rfl
    · simp [List.head?_append, hm]
    · simp [List.head?_append, hm]
  have hpointStops : ∀ rest', Stops rest' →
      (pointText ++ (markText ++ rest')).head?.any Char.isDigit = false := by
    intro rest' hr
    rcases hpointHead with rfl | hp
    · have hm := hmarkStops rest' hr
      cases hh : markText ++ rest' with
      | nil => rfl
      | cons c tail =>
        rw [hh] at hm
        have hc : (c.isDigit || c == '.') = false := hm
        exact (Bool.or_eq_false_iff.mp hc).1
    · simp [List.head?_append, hp]
  have hagain : ∀ rest', Stops rest' →
      number? (signText (cs.head? = some '-') ++ (whole ++ (pointText ++ (markText ++ rest')))) =
        some (numberOf (cs.head? = some '-') (pointText ++ markText = []) whole fraction exponent,
          rest') := fun rest' hr =>
    number?_of_parts hne hdigits (takeWhole_append hdigits hzero (hpointStops rest' hr))
      (hpointAgain _ (hmarkStops rest' hr)) (hmarkAgain rest' hr)
  have hcs : cs = signText (cs.head? = some '-') ++
      (whole ++ (pointText ++ (markText ++ afterExponent))) := by
    rw [← hmark, ← hpoint, ← hwhole, signText_append]
  have hv : numberOf (cs.head? = some '-') (pointText ++ markText = []) whole fraction exponent =
      v ∧ afterExponent = rest := by
    simp only [number?, hw, hf, he, hne, if_false, Option.some.injEq, Prod.mk.injEq] at h
    rw [hpoint, hmark, nothing_taken_iff] at h
    exact h
  obtain ⟨rfl, rfl⟩ := hv
  obtain ⟨d, digits, rfl⟩ := List.exists_cons_of_ne_nil hne
  refine ⟨cs.head? = some '-', d, digits ++ (pointText ++ markText), ?_,
    hdigits d List.mem_cons_self, ?_, numberOf_isScalar .., ?_⟩
  · simpa using hcs
  · intro c hc
    simp only [List.mem_append] at hc
    rcases hc with hc | hc | hc
    · exact isNumeric_of_isDigit (hdigits c (List.mem_cons_of_mem d hc))
    · exact hpointNumeric c hc
    · exact hmarkNumeric c hc
  · intro rest' hr
    simpa using hagain rest' hr

/-! ### The limit on digits -/

/-- A document that is not a whole number beyond the limit on digits. -/
def InRange : Json → Prop
  | .int n => n.natAbs < 10 ^ Decimal.maxDigits
  | _ => True

theorem natAbs_signed (negative : Prop) [Decidable negative] (size : Nat) :
    (if negative then -(size : Int) else (size : Int)).natAbs = size := by
  split <;> simp

/-- The reader takes the numbers that are in range. -/
theorem readNumber_eq_ok_iff {cs rest : List Char} {v : Json} :
    readNumber cs = .ok (v, rest) ↔ number? cs = some (v, rest) ∧ InRange v := by
  rcases hw : takeWhole (if cs.head? = some '-' then cs.drop 1 else cs) with ⟨whole, afterWhole⟩
  rcases hf : takeFraction afterWhole with ⟨fraction, afterFraction⟩
  rcases he : Decimal.takeExponent afterFraction with ⟨exponent, afterExponent⟩
  obtain ⟨-, hdigits, hzero⟩ := takeWhole_cases hw
  have hlimit := Decimal.digitsValue_lt_pow_iff hdigits hzero (k := Decimal.maxDigits) (by decide)
  simp only [readNumber, number?, hw, hf, he]
  by_cases hne : whole = []
  · simp [hne]
  by_cases hlen : afterExponent.length = afterWhole.length
  · by_cases hlong : Decimal.maxDigits < whole.length
    · have hout : ¬ Decimal.digitsValue whole < 10 ^ Decimal.maxDigits := fun hlt =>
        Nat.not_lt.mpr (hlimit.mp hlt) hlong
      simp only [hne, hlen, hlong, numberOf, if_false, if_true, decide_true, decide_eq_true_eq]
      constructor
      · rintro ⟨⟩
      · rintro ⟨⟨⟩, hrange⟩
        rw [InRange, natAbs_signed] at hrange
        exact absurd hrange hout
    · have hin : Decimal.digitsValue whole < 10 ^ Decimal.maxDigits :=
        hlimit.mpr (Nat.not_lt.mp hlong)
      simp only [hne, hlen, hlong, numberOf, if_false, if_true, decide_true, decide_eq_true_eq]
      constructor
      · rintro ⟨⟩
        refine ⟨rfl, ?_⟩
        rw [InRange, natAbs_signed]
        exact hin
      · rintro ⟨⟨⟩, -⟩
        rfl
  · simp only [hne, hlen, numberOf, if_false, decide_false]
    constructor
    · rintro ⟨⟩
      exact ⟨rfl, trivial⟩
    · rintro ⟨⟨⟩, -⟩
      rfl

end LintBridge.Json
