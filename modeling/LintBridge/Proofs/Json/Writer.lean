import LintBridge.Proofs.Json.Reader
import LintBridge.Text.Quoted
import Mathlib.Data.List.Forall2

/-!
Documents as they are written: printable ASCII only, with escapes for all other characters, and a
blank behind each comma and colon.

`Writes text v` says that a text is read as `v` whatever comes behind it, unless that carries on a
number. There is one lemma for each kind of document that is written, and the parts may be any
texts that are read as the parts of the document.
-/

namespace LintBridge.Json

/-! ### The writer -/

/-- The escape of a code unit. -/
def writeUnit (unit : Nat) : List Char :=
  '\\' :: 'u' :: Text.hex 4 unit

/-- The letter that escapes a character, if it has one of its own. -/
def shortEscape? : Char → Option Char
  | '"' => some '"'
  | '\\' => some '\\'
  | '\x08' => some 'b'
  | '\x0c' => some 'f'
  | '\n' => some 'n'
  | '\r' => some 'r'
  | '\t' => some 't'
  | _ => none

/-- A character in a string. Characters beyond the first plane are written as surrogate pairs. -/
def writeChar (c : Char) : List Char :=
  match shortEscape? c with
  | some letter => ['\\', letter]
  | none =>
      if 0x20 ≤ c.toNat ∧ c.toNat ≤ 0x7E then [c]
      else if c.toNat ≤ 0xFFFF then writeUnit c.toNat
      else
        let offset := c.toNat - 0x10000
        writeUnit (0xD800 + offset / 0x400) ++ writeUnit (0xDC00 + offset % 0x400)

/-- A string between its quotes. -/
def writeString (s : String) : List Char :=
  '"' :: (s.toList.flatMap writeChar ++ ['"'])

/-- A whole number that is not negative. -/
def writeNat (n : Nat) : List Char :=
  Nat.toDigits 10 n

/-- A member of an object, by the text of its value. -/
def writeMember (name : String) (value : List Char) : List Char :=
  writeString name ++ [':', ' '] ++ value

/-- Texts with a comma and a blank between them. -/
def separated (texts : List (List Char)) : List Char :=
  List.intercalate [',', ' '] texts

/-- An array, by the texts of its items. -/
def writeArray (items : List (List Char)) : List Char :=
  '[' :: (separated items ++ [']'])

/-- An object, by the texts of its members. -/
def writeObject (members : List (List Char)) : List Char :=
  '{' :: (separated members ++ ['}'])

/-- The text is read as a document, whatever follows that does not carry on a number. -/
def Writes (text : List Char) (v : Json) : Prop :=
  ∀ rest, Stops rest → Document (text ++ rest) v rest

/-- The text is read as a member of an object. -/
def WritesMember (text : List Char) (m : String × Json) : Prop :=
  ∀ rest, Stops rest → Member (text ++ rest) m rest

/-! ### Strings -/

theorem exists_hex_four {unit : Nat} (h : unit < 0x10000) :
    ∃ a b c d, Text.hex 4 unit = [a, b, c, d] ∧ Text.hexValue? [a, b, c, d] = some unit := by
  have hlength : (Text.hex 4 unit).length = 4 := Text.length_hex (by decide) h
  have hvalue := Text.hexValue?_hex 4 unit
  match hhex : Text.hex 4 unit, hlength with
  | [a, b, c, d], _ =>
    rw [hhex] at hvalue
    exact ⟨a, b, c, d, rfl, hvalue⟩

/-- The escape of a code unit that is no half of a surrogate pair is its character. -/
theorem pieceAt_writeUnit {c : Char} (h : c.toNat ≤ 0xFFFF) (rest : List Char) :
    PieceAt (writeUnit c.toNat ++ rest) (.char c) rest := by
  obtain ⟨x, y, z, w, hhex, hvalue⟩ := exists_hex_four (Nat.lt_succ_of_le h)
  have hvalid : c.toNat < 0xD800 ∨ 0xDFFF < c.toNat := by
    rcases c.valid with hlow | ⟨hhigh, -⟩
    · exact .inl hlow
    · exact .inr hhigh
  have hhigh : isHighSurrogate c.toNat = false := by
    simp only [isHighSurrogate, Bool.and_eq_false_iff, decide_eq_false_iff_not]
    omega
  have hlow : isLowSurrogate c.toNat = false := by
    simp only [isLowSurrogate, Bool.and_eq_false_iff, decide_eq_false_iff_not]
    omega
  have hunit : Piece.ofUnit c.toNat = .char c := by
    simp [Piece.ofUnit, hhigh, hlow, Char.ofNat_toNat]
  rw [writeUnit, hhex, ← hunit]
  exact .unit hvalue hhigh

/-- The escapes of the two halves of a surrogate pair are its character. -/
theorem pieceAt_writePair {c : Char} (h : 0xFFFF < c.toNat) (rest : List Char) :
    PieceAt (writeUnit (0xD800 + (c.toNat - 0x10000) / 0x400) ++
      writeUnit (0xDC00 + (c.toNat - 0x10000) % 0x400) ++ rest) (.char c) rest := by
  have hbound : c.toNat < 0x110000 := by
    rcases c.valid with hlow | ⟨-, hhigh⟩
    · have hlow' : c.toNat < 0xD800 := hlow
      omega
    · exact hhigh
  have hdiv : 0xD800 + (c.toNat - 0x10000) / 0x400 < 0x10000 := by omega
  have hmod : 0xDC00 + (c.toNat - 0x10000) % 0x400 < 0x10000 := by omega
  obtain ⟨a, b, e, d, hhex, hvalue⟩ := exists_hex_four hdiv
  obtain ⟨a', b', e', d', hhex', hvalue'⟩ := exists_hex_four hmod
  have hhigh : isHighSurrogate (0xD800 + (c.toNat - 0x10000) / 0x400) = true := by
    simp only [isHighSurrogate, Bool.and_eq_true, decide_eq_true_eq]
    omega
  have hlow : isLowSurrogate (0xDC00 + (c.toNat - 0x10000) % 0x400) = true := by
    simp only [isLowSurrogate, Bool.and_eq_true, decide_eq_true_eq]
    omega
  have hjoin : joinSurrogates (0xD800 + (c.toNat - 0x10000) / 0x400)
      (0xDC00 + (c.toNat - 0x10000) % 0x400) = c.toNat := by
    unfold joinSurrogates
    omega
  have hpair : PieceAt _ _ rest := .pair hvalue hhigh hvalue' hlow
  rw [hjoin, Char.ofNat_toNat] at hpair
  rw [writeUnit, writeUnit, hhex, hhex']
  exact hpair

theorem escaped?_of_shortEscape? {c letter : Char} (h : shortEscape? c = some letter) :
    letter ≠ 'u' ∧ escaped? letter = some c := by
  unfold shortEscape? at h
  split at h <;> cases h <;> exact ⟨by decide, rfl⟩

theorem pieceAt_writeChar (c : Char) (rest : List Char) :
    PieceAt (writeChar c ++ rest) (.char c) rest := by
  unfold writeChar
  split
  · next letter hshort =>
    obtain ⟨hu, hescaped⟩ := escaped?_of_shortEscape? hshort
    exact .escape hu hescaped
  · next hshort =>
    split
    · next hprintable =>
      refine .plain ?_ ?_ (by omega)
      · rintro rfl
        cases hshort
      · rintro rfl
        cases hshort
    · split
      · next hplane => exact pieceAt_writeUnit hplane rest
      · next hplane => exact pieceAt_writePair (Nat.lt_of_not_le hplane) rest

theorem body_writeString (cs rest : List Char) :
    Body (cs.flatMap writeChar ++ '"' :: rest) (cs.map .char) rest := by
  induction cs with
  | nil => exact .close
  | cons c cs ih =>
    rw [List.flatMap_cons, List.append_assoc]
    exact .piece (pieceAt_writeChar c _) ih

theorem content_text_chars (s : String) : Content.text (s.toList.map .char) = s := by
  simp [Content.text, Function.comp_def, Piece.shown]

theorem writes_string (s : String) : Writes (writeString s) (.str s) := by
  intro rest _
  have hcontent : ofContent (s.toList.map .char) = .str s := by
    rw [ofContent, content_text_chars, if_pos (by simp [Piece.isChar])]
  have hdoc := Document.string (body_writeString s.toList rest)
  rw [hcontent] at hdoc
  simpa [writeString] using hdoc

/-! ### Numbers -/

theorem writes_nat (n : Nat) : Writes (writeNat n) (.int n) := by
  intro rest hr
  have hdigits : ∀ c ∈ Nat.toDigits 10 n, c.isDigit = true := Decimal.isDigit_of_mem_toDigits
  have htaken : takeWhole (Nat.toDigits 10 n ++ rest) = (Nat.toDigits 10 n, rest) :=
    takeWhole_append hdigits Decimal.toDigits_head (hr.head fun c => isNumeric_of_isDigit)
  have hpoint : rest.head?.any (fun c => c.isDigit || c == '.') = false := by
    refine hr.head fun c hc => ?_
    rcases Bool.or_eq_true_iff.mp hc with hc | hc
    · exact isNumeric_of_isDigit hc
    · rw [eq_of_beq hc]
      rfl
  have hnumber : number? (signText false ++ (Nat.toDigits 10 n ++ ([] ++ ([] ++ rest)))) =
      some (numberOf false (([] : List Char) ++ [] = []) (Nat.toDigits 10 n) [] 0, rest) :=
    number?_of_parts Nat.toDigits_ne_nil hdigits htaken (takeFraction_of_stop hpoint)
      (takeExponent_of_stop hr)
  obtain ⟨d, digits, hd⟩ := List.exists_cons_of_ne_nil (Nat.toDigits_ne_nil (b := 10) (n := n))
  have hnoword : readWord? (Nat.toDigits 10 n ++ rest) = none := by
    rw [hd]
    exact readWord?_number false (hdigits d (by simp [hd])) (digits ++ rest)
  refine .bare ?_
  rw [bare?, writeNat, hnoword, Option.none_or]
  simpa [numberOf, signText, Decimal.digitsValue_toDigits] using hnumber

/-! ### Arrays and objects -/

theorem Document.skipGap_eq {cs rest : List Char} {v : Json} (h : Document cs v rest) :
    skipGap cs = cs := by
  obtain ⟨text, rfl, hsolid, -⟩ := h.exists_text
  exact skipGap_of_solid hsolid rest

theorem Items.skipGap_eq {cs rest : List Char} {values : List Json} (h : Items cs values rest) :
    skipGap cs = cs := by
  obtain ⟨text, rfl, hsolid, -⟩ := h.exists_text
  exact skipGap_of_solid hsolid rest

theorem Members.skipGap_eq {cs rest : List Char} {members : List (String × Json)}
    (h : Members cs members rest) : skipGap cs = cs := by
  obtain ⟨text, rfl, hsolid, -⟩ := h.exists_text
  exact skipGap_of_solid hsolid rest

theorem items_separated {text : List Char} {v : Json} {texts : List (List Char)}
    {values : List Json} (hv : Writes text v) (ht : List.Forall₂ Writes texts values)
    (rest : List Char) : Items (separated (text :: texts) ++ ']' :: rest) (v :: values) rest := by
  induction ht generalizing text v with
  | nil =>
    rw [separated, List.intercalate_singleton]
    exact .last (hv _ (stops_cons rfl)) rfl
  | cons hw _ ih =>
    have htail := ih hw
    rw [← htail.skipGap_eq] at htail
    rw [separated, List.intercalate_cons_cons, List.append_assoc, List.append_assoc]
    exact .more (hv _ (stops_cons rfl)) rfl htail

theorem writes_array {texts : List (List Char)} {values : List Json}
    (h : List.Forall₂ Writes texts values) : Writes (writeArray texts) (.arr values) := by
  intro rest _
  cases h with
  | nil => exact .emptyArray rfl
  | cons hv ht =>
    have hitems := items_separated hv ht rest
    rw [← hitems.skipGap_eq] at hitems
    simpa [writeArray] using Document.array hitems

theorem writesMember_member {text : List Char} {v : Json} (name : String) (h : Writes text v) :
    WritesMember (writeMember name text) (name, v) := by
  intro rest hr
  have hdoc := h rest hr
  rw [← hdoc.skipGap_eq] at hdoc
  have hname := body_writeString name.toList (':' :: ' ' :: (text ++ rest))
  have hmember := Member.intro hname rfl hdoc
  rw [content_text_chars] at hmember
  simpa [writeMember, writeString] using hmember

theorem members_separated {text : List Char} {m : String × Json} {texts : List (List Char)}
    {members : List (String × Json)} (hm : WritesMember text m)
    (ht : List.Forall₂ WritesMember texts members) (rest : List Char) :
    Members (separated (text :: texts) ++ '}' :: rest) (m :: members) rest := by
  induction ht generalizing text m with
  | nil =>
    rw [separated, List.intercalate_singleton]
    exact .last (hm _ (stops_cons rfl)) rfl
  | cons hw _ ih =>
    have htail := ih hw
    rw [← htail.skipGap_eq] at htail
    rw [separated, List.intercalate_cons_cons, List.append_assoc, List.append_assoc]
    exact .more (hm _ (stops_cons rfl)) rfl htail

theorem writes_object {texts : List (List Char)} {members : List (String × Json)}
    (h : List.Forall₂ WritesMember texts members) :
    Writes (writeObject texts) (.obj members) := by
  intro rest _
  cases h with
  | nil => exact .emptyObject rfl
  | cons hm ht =>
    have hmembers := members_separated hm ht rest
    rw [← hmembers.skipGap_eq] at hmembers
    simpa [writeObject] using Document.object hmembers

end LintBridge.Json
