import LintBridge.Json.Reader
import LintBridge.Proofs.Text.Hexadecimal

/-!
The body of a string, from behind its opening quote to behind its closing one.

`PieceAt` and `Body` are the rules for it: a body is pieces up to a quote, and a piece is a
character as it is, an escape of one character, or escapes of code units. The first half of a
surrogate pair stays alone exactly where no second half follows. `readString_eq_ok_iff` says that
the reader takes what the rules allow and nothing else.

What a body says does not depend on what comes behind it: `Body.exists_text` cuts it off the rest,
and it is the same body in front of any other rest.
-/

namespace LintBridge.Json

/-! ### The rules -/

/-- The text starts with an escape of the second half of a surrogate pair. -/
def StartsLow (cs : List Char) : Prop :=
  ∃ a b c d rest low, cs = '\\' :: 'u' :: a :: b :: c :: d :: rest ∧
    Text.hexValue? [a, b, c, d] = some low ∧ isLowSurrogate low = true

/-- A piece that a body may go on with, and the text behind the piece. -/
inductive PieceAt : List Char → Piece → List Char → Prop where
  | plain {c : Char} {rest : List Char} (hq : c ≠ '"') (hb : c ≠ '\\') (hc : ¬ c.toNat ≤ 0x1F) :
      PieceAt (c :: rest) (.char c) rest
  | escape {c d : Char} {rest : List Char} (hu : c ≠ 'u') (hd : escaped? c = some d) :
      PieceAt ('\\' :: c :: rest) (.char d) rest
  | unit {a b c d : Char} {rest : List Char} {unit : Nat}
      (hx : Text.hexValue? [a, b, c, d] = some unit) (hh : isHighSurrogate unit = false) :
      PieceAt ('\\' :: 'u' :: a :: b :: c :: d :: rest) (.ofUnit unit) rest
  | pair {a b c d a' b' c' d' : Char} {rest : List Char} {high low : Nat}
      (hx : Text.hexValue? [a, b, c, d] = some high) (hh : isHighSurrogate high = true)
      (hx' : Text.hexValue? [a', b', c', d'] = some low) (hl : isLowSurrogate low = true) :
      PieceAt ('\\' :: 'u' :: a :: b :: c :: d :: '\\' :: 'u' :: a' :: b' :: c' :: d' :: rest)
        (.char (Char.ofNat (joinSurrogates high low))) rest
  | alone {a b c d : Char} {rest : List Char} {high : Nat}
      (hx : Text.hexValue? [a, b, c, d] = some high) (hh : isHighSurrogate high = true)
      (hl : ¬ StartsLow rest) :
      PieceAt ('\\' :: 'u' :: a :: b :: c :: d :: rest) (.half high) rest

/-- A body: its content, and the text behind its closing quote. -/
inductive Body : List Char → Content → List Char → Prop where
  | close {rest : List Char} : Body ('"' :: rest) [] rest
  | piece {cs tail rest : List Char} {p : Piece} {content : Content}
      (hp : PieceAt cs p tail) (ht : Body tail content rest) : Body cs (p :: content) rest

theorem Body.exists_cons {cs rest : List Char} {content : Content} (h : Body cs content rest) :
    ∃ c tail, cs = c :: tail := by
  cases h with
  | close => exact ⟨_, _, rfl⟩
  | piece hp ht => cases hp <;> exact ⟨_, _, rfl⟩

/-- A body that starts with a code unit's escape holds all of the escape and something behind. -/
theorem Body.unit_escape {cs rest : List Char} {content : Content}
    (h : Body ('\\' :: 'u' :: cs) content rest) :
    ∃ a b c d e tail unit, cs = a :: b :: c :: d :: e :: tail ∧
      Text.hexValue? [a, b, c, d] = some unit := by
  cases h with
  | piece hp ht =>
    cases hp with
    | plain hq hb hc => exact absurd rfl hb
    | escape hu hd => exact absurd rfl hu
    | @unit a b c d _ unit hx hh =>
      obtain ⟨e, tail, rfl⟩ := ht.exists_cons
      exact ⟨a, b, c, d, e, tail, unit, rfl, hx⟩
    | @pair a b c d a' b' c' d' _ high low hx hh hx' hl =>
      exact ⟨a, b, c, d, _, _, high, rfl, hx⟩
    | @alone a b c d _ high hx hh hl =>
      obtain ⟨e, tail, rfl⟩ := ht.exists_cons
      exact ⟨a, b, c, d, e, tail, high, rfl, hx⟩

/-! ### The reader takes what the rules allow -/

theorem readStringPart_eq_close {opening : Nat} {cs rest : List Char}
    (h : readStringPart opening cs = .ok (.close rest)) : cs = '"' :: rest := by
  unfold readStringPart at h
  split at h
  case h_2 => cases h; rfl
  case h_4 =>
    split at h
    · cases h
    · split at h
      · unfold readSecondHalf at h
        split at h
        · split at h
          · cases h
          · split at h <;> cases h
        · cases h
      · cases h
  case h_6 => split at h <;> cases h
  case h_7 => split at h <;> cases h
  all_goals cases h

/-- The second half of a pair, or none of it, as long as the body goes on. -/
theorem readSecondHalf_piece {high : Nat} {cs tail rest : List Char} {p : Piece}
    {content : Content} (h : readSecondHalf high cs = .ok (.piece p tail))
    (ht : Body tail content rest) :
    (∃ a b c d low, cs = '\\' :: 'u' :: a :: b :: c :: d :: tail ∧
        Text.hexValue? [a, b, c, d] = some low ∧ isLowSurrogate low = true ∧
        p = .char (Char.ofNat (joinSurrogates high low))) ∨
      (¬ StartsLow cs ∧ p = .half high ∧ tail = cs) := by
  unfold readSecondHalf at h
  split at h
  · next a b c d e more =>
    cases hx : Text.hexValue? [a, b, c, d] with
    | none => simp [hx] at h
    | some low =>
      simp only [hx] at h
      split at h
      · next hl =>
        cases h
        exact .inl ⟨a, b, c, d, low, rfl, hx, hl, rfl⟩
      · next hl =>
        cases h
        refine .inr ⟨?_, rfl, rfl⟩
        rintro ⟨a', b', c', d', rest', low', heq, hx', hl'⟩
        cases heq
        rw [hx] at hx'
        cases hx'
        exact hl hl'
  · next hshort =>
    cases h
    refine .inr ⟨?_, rfl, rfl⟩
    rintro ⟨a, b, c, d, rest', low, rfl, hx, hl⟩
    obtain ⟨a', b', c', d', e, tail, unit, heq, -⟩ := ht.unit_escape
    exact hshort a' b' c' d' e tail (by rw [heq])

theorem readStringPart_sound {opening : Nat} {cs tail rest : List Char} {p : Piece}
    {content : Content} (h : readStringPart opening cs = .ok (.piece p tail))
    (ht : Body tail content rest) : PieceAt cs p tail := by
  unfold readStringPart at h
  split at h
  case h_4 a b c d e more =>
    cases hx : Text.hexValue? [a, b, c, d] with
    | none => simp [hx] at h
    | some unit =>
      simp only [hx] at h
      split at h
      · next hh =>
        rcases readSecondHalf_piece h ht with ⟨a', b', c', d', low, heq, hx', hl, rfl⟩ |
          ⟨hn, rfl, rfl⟩
        · rw [heq]
          exact .pair hx hh hx' hl
        · exact .alone hx hh hn
      · next hh =>
        cases h
        exact .unit hx (by simpa using hh)
  case h_6 c more _ hu =>
    cases hd : escaped? c with
    | none => simp [hd] at h
    | some d =>
      simp only [hd] at h
      cases h
      exact .escape hu hd
  case h_7 c more hq hlast _ _ hescape =>
    split at h
    · cases h
    · next hc =>
      cases h
      refine .plain hq ?_ hc
      intro hb
      cases tail with
      | nil => exact hlast hb rfl
      | cons x tail => exact hescape x tail hb rfl
  all_goals cases h

theorem readString_sound {opening : Nat} {cs : List Char} {content : Content} {rest : List Char}
    (h : readString opening cs = .ok (content, rest)) : Body cs content rest := by
  fun_induction readString opening cs generalizing content rest with
  | case1 cs stop hs => cases h
  | case2 cs tail hp =>
    cases h
    rw [readStringPart_eq_close hp]
    exact .close
  | case3 cs p tail hp _ stop hs ih => cases h
  | case4 cs p tail hp _ content' rest' ht ih =>
    cases h
    have hbody := ih ht
    exact .piece (readStringPart_sound hp hbody) hbody

theorem readString_close (opening : Nat) (rest : List Char) :
    readString opening ('"' :: rest) = .ok ([], rest) := by
  rw [readString]
  rfl

theorem readString_piece {opening : Nat} {cs tail rest : List Char} {p : Piece} {content : Content}
    (hp : readStringPart opening cs = .ok (.piece p tail))
    (ht : readString opening tail = .ok (content, rest)) :
    readString opening cs = .ok (p :: content, rest) := by
  rw [readString]
  split <;> simp_all

/-- The first half of a pair stays alone where the body goes on without a second half. -/
theorem readSecondHalf_alone {cs rest : List Char} {content : Content} (high : Nat)
    (hb : Body cs content rest) (hl : ¬ StartsLow cs) :
    readSecondHalf high cs = .ok (.piece (.half high) cs) := by
  unfold readSecondHalf
  split
  · next a b c d e more =>
    obtain ⟨a', b', c', d', e', tail, unit, heq, hx⟩ := hb.unit_escape
    cases heq
    have hnl : ¬ isLowSurrogate unit = true := fun hlow =>
      hl ⟨a, b, c, d, e :: more, unit, rfl, hx, hlow⟩
    simp [hx, hnl]
  · rfl

theorem readStringPart_complete {cs tail rest : List Char} {p : Piece} {content : Content}
    (opening : Nat) (hp : PieceAt cs p tail) (ht : Body tail content rest) :
    readStringPart opening cs = .ok (.piece p tail) := by
  obtain ⟨e, more, htail⟩ := ht.exists_cons
  cases hp with
  | plain hq hb hc =>
    rw [readStringPart, if_neg hc]
    all_goals simp_all
  | escape hu hd =>
    rw [readStringPart, hd]
    all_goals simp_all
  | unit hx hh => simp [htail, readStringPart, hx, hh]
  | pair hx hh hx' hl => simp [htail, readStringPart, hx, hh, readSecondHalf, hx', hl]
  | @alone _ _ _ _ _ high hx hh hl =>
    have halone := readSecondHalf_alone high ht hl
    rw [htail] at halone ⊢
    simp [readStringPart, hx, hh, halone]

theorem readString_eq_ok_iff {opening : Nat} {cs : List Char} {content : Content}
    {rest : List Char} :
    readString opening cs = .ok (content, rest) ↔ Body cs content rest := by
  refine ⟨readString_sound, fun h => ?_⟩
  induction h with
  | close => exact readString_close opening _
  | piece hp ht ih => exact readString_piece (readStringPart_complete opening hp ht) ih

/-! ### A body in front of another rest -/

/-- A second half that shows in a text behind a string's end shows before it. -/
theorem StartsLow.of_append {text rest rest' : List Char} (h : StartsLow (text ++ '"' :: rest)) :
    StartsLow (text ++ '"' :: rest') := by
  obtain ⟨a, b, c, d, more, low, heq, hx, hl⟩ := h
  have hdigit := Text.isHexDigit_of_hexValue? hx
  have hquote : Text.isHexDigit '"' = false := by decide
  -- the escape takes six characters and none of them is a quote, so they all lie before the quote
  rcases text with _ | ⟨t₁, _ | ⟨t₂, _ | ⟨t₃, _ | ⟨t₄, _ | ⟨t₅, _ | ⟨t₆, text⟩⟩⟩⟩⟩⟩
  case cons.cons.cons.cons.cons.cons =>
    cases heq
    exact ⟨_, _, _, _, _, low, rfl, hx, hl⟩
  all_goals
    cases heq
    try simp [hquote] at hdigit

/-- A body is cut off by its closing quote, and it is the same body in front of any rest. -/
theorem Body.exists_text {cs rest : List Char} {content : Content} (h : Body cs content rest) :
    ∃ text, cs = text ++ '"' :: rest ∧ ∀ rest', Body (text ++ '"' :: rest') content rest' := by
  induction h with
  | close => exact ⟨[], rfl, fun rest' => .close⟩
  | piece hp ht ih =>
    obtain ⟨text, rfl, hbody⟩ := ih
    cases hp with
    | @plain c _ hq hb hc =>
      exact ⟨c :: text, rfl, fun rest' => .piece (.plain hq hb hc) (hbody rest')⟩
    | @escape c d _ hu hd =>
      exact ⟨'\\' :: c :: text, rfl, fun rest' => .piece (.escape hu hd) (hbody rest')⟩
    | @unit a b c d _ unit hx hh =>
      exact ⟨'\\' :: 'u' :: a :: b :: c :: d :: text, rfl,
        fun rest' => .piece (.unit hx hh) (hbody rest')⟩
    | @pair a b c d a' b' c' d' _ high low hx hh hx' hl =>
      exact ⟨'\\' :: 'u' :: a :: b :: c :: d :: '\\' :: 'u' :: a' :: b' :: c' :: d' :: text, rfl,
        fun rest' => .piece (.pair hx hh hx' hl) (hbody rest')⟩
    | @alone a b c d _ high hx hh hl =>
      exact ⟨'\\' :: 'u' :: a :: b :: c :: d :: text, rfl,
        fun rest' => .piece (.alone hx hh fun hlow => hl hlow.of_append) (hbody rest')⟩

end LintBridge.Json
