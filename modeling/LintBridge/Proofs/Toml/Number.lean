import LintBridge.Proofs.Toml.Reading

/-!
What is left behind a number, a date or a time, and which numerals are too long.

Digits that are taken in groups stand in the text with single underscores between them
(`takeGrouped_spec`), so a numeral that is refused for its length stands in the text as a whole.
-/

namespace LintBridge.Toml

/-- A chain of suffixes, for calculations. -/
instance transSuffix {α : Type} : Trans (List.IsSuffix : List α → List α → Prop) List.IsSuffix List.IsSuffix :=
  ⟨List.IsSuffix.trans⟩

/-! ### Dates and times -/

theorem takeDigits?_suffix {count n : Nat} {cs rest : List Char}
    (h : takeDigits? count cs = some (n, rest)) : rest <:+ cs := by
  simp only [takeDigits?, Option.ite_none_right_eq_some, Option.some.injEq, Prod.mk.injEq] at h
  exact h.2.2 ▸ List.drop_suffix count cs

theorem takeRange?_suffix {count low high n : Nat} {cs rest : List Char}
    (h : takeRange? count low high cs = some (n, rest)) : rest <:+ cs := by
  simp only [takeRange?, Option.bind_eq_bind, Option.bind_eq_some_iff, Prod.exists] at h
  obtain ⟨n', rest', hdigits, h⟩ := h
  split at h
  · cases h
    exact takeDigits?_suffix hdigits
  · cases h

theorem takeChar?_suffix {mark : Char} {cs rest : List Char} (h : takeChar? mark cs = some rest) :
    rest <:+ cs := by
  unfold takeChar? at h
  split at h
  · split at h <;> cases h
    exact List.suffix_cons _ _
  · cases h

theorem skipFraction_suffix (cs : List Char) : skipFraction cs <:+ cs := by
  unfold skipFraction
  split
  · next c rest =>
    split
    · exact (List.dropWhile_suffix _).trans ⟨['.', c], rfl⟩
    · exact List.suffix_refl _
  · exact List.suffix_refl cs

theorem skipTime?_suffix {cs rest : List Char} (h : skipTime? cs = some rest) : rest <:+ cs := by
  simp only [skipTime?, Option.bind_eq_bind, Option.bind_eq_some_iff, Prod.exists] at h
  obtain ⟨_, r₁, hour, r₂, colon, _, r₃, minute, r₄, colon', _, r₅, second, h⟩ := h
  cases h
  calc skipFraction r₅ <:+ r₅ := skipFraction_suffix r₅
    _ <:+ r₄ := takeRange?_suffix second
    _ <:+ r₃ := takeChar?_suffix colon'
    _ <:+ r₂ := takeRange?_suffix minute
    _ <:+ r₁ := takeChar?_suffix colon
    _ <:+ cs := takeRange?_suffix hour

theorem skipOffset?_suffix {cs rest : List Char} (h : skipOffset? cs = some rest) : rest <:+ cs := by
  unfold skipOffset? at h
  split at h
  · next c more =>
    refine List.IsSuffix.trans ?_ (List.suffix_cons c more)
    split at h
    · cases h
      exact List.suffix_refl _
    · split at h
      · simp only [Option.bind_eq_bind, Option.bind_eq_some_iff, Prod.exists] at h
        obtain ⟨_, r₁, hour, r₂, colon, _, r₃, minute, h⟩ := h
        cases h
        exact (takeRange?_suffix minute).trans
          ((takeChar?_suffix colon).trans (takeRange?_suffix hour))
      · cases h
  · cases h

theorem skipTimeOfDate_suffix (cs : List Char) : skipTimeOfDate cs <:+ cs := by
  unfold skipTimeOfDate
  split
  · next c rest =>
    split
    · split
      · next after htime =>
        have hafter : after <:+ c :: rest :=
          (skipTime?_suffix htime).trans (List.suffix_cons c rest)
        cases hoffset : skipOffset? after with
        | none => exact hafter
        | some behind => exact (skipOffset?_suffix hoffset).trans hafter
      · exact List.suffix_refl _
    · exact List.suffix_refl _
  · exact List.suffix_refl _

theorem takeDate?_suffix {date : Nat × Nat × Nat} {cs rest : List Char}
    (h : takeDate? cs = some (date, rest)) : rest <:+ cs := by
  simp only [takeDate?, Option.bind_eq_bind, Option.bind_eq_some_iff, Prod.exists] at h
  obtain ⟨_, r₁, year, r₂, dash, _, r₃, month, r₄, dash', _, r₅, day, h⟩ := h
  cases h
  calc rest <:+ r₄ := takeRange?_suffix day
    _ <:+ r₃ := takeChar?_suffix dash'
    _ <:+ r₂ := takeRange?_suffix month
    _ <:+ r₁ := takeChar?_suffix dash
    _ <:+ cs := takeDigits?_suffix year

variable {room : Nat} {cs : List Char} {reading : Except Stop (Value × List Char)}

theorem reads_readMoment? (h : readMoment? cs = some reading) : Reads cs room Prod.snd reading := by
  unfold readMoment? at h
  split at h
  · next year month day rest hdate =>
    dsimp only at h
    split at h
    · cases h
      exact .ok ((skipTimeOfDate_suffix rest).trans (takeDate?_suffix hdate))
    · cases h
      exact .broken _ _
  · obtain ⟨after, htime, rfl⟩ := Option.map_eq_some_iff.mp h
    exact .ok (skipTime?_suffix htime)

/-! ### Numbers -/

/-- What is taken of a text as digits in groups: the digits of a front part of it, which holds
nothing but them and underscores. -/
def TakesGrouped (isDigit : Char → Bool) (cs : List Char) (taken : List Char × List Char) : Prop :=
  ∃ numeral, cs = numeral ++ taken.2 ∧ taken.1 = numeral.filter isDigit ∧
    ∀ c ∈ numeral, isDigit c = true ∨ c = '_'

theorem TakesGrouped.suffix {isDigit : Char → Bool} {taken : List Char × List Char}
    (h : TakesGrouped isDigit cs taken) : taken.2 <:+ cs := by
  obtain ⟨numeral, htext, -, -⟩ := h
  exact ⟨numeral, htext.symm⟩

theorem takesGrouped_nil (isDigit : Char → Bool) (cs : List Char) :
    TakesGrouped isDigit cs ([], cs) :=
  ⟨[], rfl, rfl, by simp⟩

theorem TakesGrouped.cons {isDigit : Char → Bool} {taken : List Char × List Char} {c : Char}
    (h : TakesGrouped isDigit cs taken) (hc : isDigit c = true) :
    TakesGrouped isDigit (c :: cs) (c :: taken.1, taken.2) := by
  obtain ⟨numeral, rfl, hdigits, hgrouped⟩ := h
  refine ⟨c :: numeral, rfl, ?_, List.forall_mem_cons.mpr ⟨.inl hc, hgrouped⟩⟩
  rw [List.filter_cons_of_pos hc, hdigits]

theorem TakesGrouped.underscore {isDigit : Char → Bool} {taken : List Char × List Char}
    (h : TakesGrouped isDigit cs taken) (hu : isDigit '_' = false) :
    TakesGrouped isDigit ('_' :: cs) taken := by
  obtain ⟨numeral, rfl, hdigits, hgrouped⟩ := h
  refine ⟨'_' :: numeral, rfl, ?_, List.forall_mem_cons.mpr ⟨.inr rfl, hgrouped⟩⟩
  rw [List.filter_cons_of_neg (by simp [hu]), hdigits]

theorem takesGrouped_takeMoreDigits {isDigit : Char → Bool} (hu : isDigit '_' = false)
    (cs : List Char) : TakesGrouped isDigit cs (takeMoreDigits isDigit cs) := by
  fun_induction takeMoreDigits isDigit cs with
  | case1 c rest hc digits after heq ih => exact ((heq ▸ ih).cons hc).underscore hu
  | case2 c rest hc => exact takesGrouped_nil _ _
  | case3 c rest hne hc digits after heq ih => exact (heq ▸ ih).cons hc
  | case4 c rest hne hc => exact takesGrouped_nil _ _
  | case5 => exact takesGrouped_nil _ _

theorem takesGrouped_takeGrouped {isDigit : Char → Bool} (hu : isDigit '_' = false)
    (cs : List Char) : TakesGrouped isDigit cs (takeGrouped isDigit cs) := by
  unfold takeGrouped
  split
  · split
    · exact takesGrouped_takeMoreDigits hu _
    · exact takesGrouped_nil _ _
  · exact takesGrouped_nil _ _

theorem readBased?_suffix {rest : List Char} {v : Value} (h : readBased? cs = some (v, rest)) :
    rest <:+ cs := by
  unfold readBased? at h
  split at h
  · next letter more =>
    simp only [Option.bind_eq_bind, Option.bind_eq_some_iff] at h
    obtain ⟨base, -, h⟩ := h
    have hu : isDigitOf base '_' = false := rfl
    split at h
    · cases h
    · cases h
      exact (takesGrouped_takeGrouped hu more).suffix.trans ⟨['0', letter], rfl⟩
  · cases h

theorem takeFraction_suffix (cs : List Char) : (takeFraction cs).2 <:+ cs := by
  unfold takeFraction
  split
  · next rest =>
    dsimp only
    split
    · exact List.suffix_refl _
    · exact (takesGrouped_takeGrouped rfl rest).suffix.trans (List.suffix_cons '.' rest)
  · exact List.suffix_refl cs

theorem takeSign_suffix (cs : List Char) : (Decimal.takeSign cs).2 <:+ cs := by
  unfold Decimal.takeSign
  split
  · exact List.suffix_cons _ _
  · exact List.suffix_cons _ _
  · exact List.suffix_refl _

theorem takeExponent_suffix (cs : List Char) : (takeExponent cs).2 <:+ cs := by
  unfold takeExponent
  split
  · next mark rest =>
    split
    · dsimp only
      split
      · exact List.suffix_refl _
      · calc _ <:+ (Decimal.takeSign rest).2 := (takesGrouped_takeGrouped rfl _).suffix
          _ <:+ rest := takeSign_suffix rest
          _ <:+ mark :: rest := List.suffix_cons mark rest
    · exact List.suffix_refl _
  · exact List.suffix_refl _

/-- The whole part of a decimal number, and the text behind it. -/
def takeWhole (body : List Char) : List Char × List Char :=
  match body with
  | '0' :: rest => (['0'], rest)
  | _ => takeGrouped Char.isDigit body

theorem takesGrouped_takeWhole (body : List Char) :
    TakesGrouped Char.isDigit body (takeWhole body) := by
  unfold takeWhole
  split
  · next rest => exact (takesGrouped_nil Char.isDigit rest).cons rfl
  · exact takesGrouped_takeGrouped rfl body

/-- A decimal number from its parts. -/
theorem readDecimal?_of_parts {negative : Bool} {body whole afterWhole fraction afterFraction after :
    List Char} {exponent : Int} (hsign : Decimal.takeSign cs = (negative, body))
    (hwhole : takeWhole body = (whole, afterWhole))
    (hfraction : takeFraction afterWhole = (fraction, afterFraction))
    (hexponent : takeExponent afterFraction = (exponent, after)) :
    readDecimal? cs =
      if whole = [] then none
      else if after.length = afterWhole.length then
        if Decimal.maxDigits < whole.length then some (.error (.numeralTooLong whole.length))
        else
          let size : Int := Decimal.digitsValue whole
          some (.ok (.int (if negative then -size else size), after))
      else
        let numeral : Decimal.Numeral := ⟨negative, whole, fraction, exponent⟩
        some (.ok (.real numeral.toBinary64, after)) := by
  have hparts : readDecimal? cs =
      if (takeWhole (Decimal.takeSign cs).2).1 = [] then none
      else
        let taken := takeWhole (Decimal.takeSign cs).2
        let fraction := takeFraction taken.2
        let exponent := takeExponent fraction.2
        if exponent.2.length = taken.2.length then
          if Decimal.maxDigits < taken.1.length then some (.error (.numeralTooLong taken.1.length))
          else
            let size : Int := Decimal.digitsValue taken.1
            some (.ok (.int (if (Decimal.takeSign cs).1 then -size else size), exponent.2))
        else
          let numeral : Decimal.Numeral := ⟨(Decimal.takeSign cs).1, taken.1, fraction.1, exponent.1⟩
          some (.ok (.real numeral.toBinary64, exponent.2)) := rfl
  rw [hparts]
  simp only [hsign, hwhole, hfraction, hexponent]

/-- A decimal number leaves a suffix of the text; if it is too long, it stands in the text. -/
theorem reads_readDecimal? (h : readDecimal? cs = some reading) :
    Reads cs room Prod.snd reading := by
  rcases hsign : Decimal.takeSign cs with ⟨negative, body⟩
  rcases hwhole : takeWhole body with ⟨whole, afterWhole⟩
  rcases hfraction : takeFraction afterWhole with ⟨fraction, afterFraction⟩
  rcases hexponent : takeExponent afterFraction with ⟨exponent, after⟩
  have hbody : body <:+ cs := by simpa [hsign] using takeSign_suffix cs
  have htakes : TakesGrouped Char.isDigit body (whole, afterWhole) :=
    hwhole ▸ takesGrouped_takeWhole body
  have hafter : after <:+ cs :=
    calc after <:+ afterFraction := by simpa [hexponent] using takeExponent_suffix afterFraction
      _ <:+ afterWhole := by simpa [hfraction] using takeFraction_suffix afterWhole
      _ <:+ body := htakes.suffix
      _ <:+ cs := hbody
  rw [readDecimal?_of_parts hsign hwhole hfraction hexponent] at h
  split at h
  · cases h
  · split at h
    · split at h
      · next hlong =>
        obtain ⟨numeral, htext, hdigits, hgrouped⟩ := htakes
        have hcount : whole.length = numeral.countP Char.isDigit := by
          rw [List.countP_eq_length_filter, ← hdigits]
        have hwithin : numeral <:+: cs :=
          (htext ▸ List.prefix_append numeral afterWhole).isInfix.trans hbody.isInfix
        rw [hcount] at h hlong
        cases h
        exact .error (.numeralTooLong hwithin ⟨hgrouped, hlong⟩)
      · cases h
        exact .ok hafter
    · cases h
      exact .ok hafter

theorem readWordNumber?_suffix {rest : List Char} {v : Value}
    (h : readWordNumber? cs = some (v, rest)) : rest <:+ cs := by
  obtain ⟨⟨word, number⟩, -, hword⟩ := List.exists_of_findSome?_eq_some h
  obtain ⟨after, hrest, heq⟩ := Option.map_eq_some_iff.mp hword
  cases heq
  rw [Text.isPrefixOf?_eq_some hrest]
  exact List.suffix_append word rest

theorem reads_readNumeric? (h : readNumeric? cs = some reading) :
    Reads cs room Prod.snd reading := by
  unfold readNumeric? at h
  split at h
  · next hmoment =>
    cases h
    exact reads_readMoment? hmoment
  · split at h
    · next hbased =>
      cases h
      exact .ok (readBased?_suffix hbased)
    · split at h
      · next hdecimal =>
        cases h
        exact reads_readDecimal? hdecimal
      · obtain ⟨found, hword, rfl⟩ := Option.map_eq_some_iff.mp h
        exact .ok (readWordNumber?_suffix hword)

end LintBridge.Toml
