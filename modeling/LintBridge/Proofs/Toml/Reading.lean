import LintBridge.Proofs.Text.Search
import LintBridge.Toml.Number
import LintBridge.Toml.Text

/-!
What the readers leave of a text, and what stops them.

A reader gives back a suffix of the text that it was given. If it stops for another reason than a
flaw, then the text shows it: the numeral that is too long stands in it, or its brackets could take
up more room than there is for nested values. `Reads` puts both into one property, which passes from
the parts of a reader to the whole (`Reads.bind`).
-/

namespace LintBridge.Toml

/-! ### What a text shows -/

/-- The room that the brackets of a text could take up, if each were in all before it: two for an
array, three for an inline table. -/
def roomFor (cs : List Char) : Nat :=
  2 * cs.count '[' + 3 * cs.count '\x7b'

theorem roomFor_le_of_suffix {cs rest : List Char} (h : rest <:+ cs) : roomFor rest ≤ roomFor cs := by
  have hbracket := h.sublist.count_le '['
  have hbrace := h.sublist.count_le '\x7b'
  unfold roomFor
  omega

/-- Digits, maybe in groups, of which there are more than are read. -/
structure IsLongNumeral (numeral : List Char) : Prop where
  grouped : ∀ c ∈ numeral, c.isDigit = true ∨ c = '_'
  long : Decimal.maxDigits < numeral.countP Char.isDigit

/-- A stop for which there is a reason in the text, `room` being left for nesting. -/
inductive ShownBy (cs : List Char) (room : Nat) : Stop → Prop
  | broken (flaw : Flaw) (left : Nat) : ShownBy cs room (.broken flaw left)
  | numeralTooLong {numeral : List Char} : numeral <:+: cs → IsLongNumeral numeral →
      ShownBy cs room (.numeralTooLong (numeral.countP Char.isDigit))
  | tooDeep : room < roomFor cs → ShownBy cs room .tooDeep

/-- What stops the reading of a part is shown by the whole text, if the part can be too deep for its
room only where the text is too deep for its own. -/
theorem ShownBy.mono {cs rest : List Char} {room room' : Nat} {stop : Stop}
    (h : ShownBy rest room' stop) (hrest : rest <:+ cs)
    (hroom : room' < roomFor rest → room < roomFor cs) : ShownBy cs room stop := by
  cases h with
  | broken flaw left => exact .broken flaw left
  | numeralTooLong hwithin hlong => exact .numeralTooLong (hwithin.trans hrest.isInfix) hlong
  | tooDeep hlt => exact .tooDeep (hroom hlt)

/-- A reading of a text that leaves a suffix of it, or stops for a reason that the text shows. -/
structure Reads {α : Type} (cs : List Char) (room : Nat) (left : α → List Char)
    (reading : Except Stop α) : Prop where
  suffix : ∀ a, reading = .ok a → left a <:+ cs
  stop : ∀ stop, reading = .error stop → ShownBy cs room stop

namespace Reads

variable {α β : Type} {cs rest : List Char} {room room' : Nat} {left : α → List Char}
  {left' : β → List Char} {reading : Except Stop α}

theorem ok {a : α} (h : left a <:+ cs) : Reads cs room left (.ok a) where
  suffix _ ha := Except.ok.inj ha ▸ h
  stop _ hstop := nomatch hstop

theorem error {stop : Stop} (h : ShownBy cs room stop) : Reads cs room left (.error stop) where
  suffix _ ha := nomatch ha
  stop _ hstop := Except.error.inj hstop ▸ h

theorem broken (flaw : Flaw) (count : Nat) :
    Reads cs room left (.error (.broken flaw count)) :=
  .error (.broken flaw count)

theorem mono (h : Reads rest room' left reading) (hrest : rest <:+ cs)
    (hroom : room' < roomFor rest → room < roomFor cs) : Reads cs room left reading where
  suffix a ha := (h.suffix a ha).trans hrest
  stop stop hstop := (h.stop stop hstop).mono hrest hroom

theorem of_suffix (h : Reads rest room left reading) (hrest : rest <:+ cs) :
    Reads cs room left reading :=
  h.mono hrest fun hlt => Nat.lt_of_lt_of_le hlt (roomFor_le_of_suffix hrest)

theorem bind {next : α → Except Stop β} (h : Reads cs room left reading)
    (hnext : ∀ a, left a <:+ cs → Reads (left a) room left' (next a)) :
    Reads cs room left' (reading >>= next) := by
  cases hreading : reading with
  | error stop => exact .error (h.stop stop hreading)
  | ok a =>
    have hleft := h.suffix a hreading
    exact (hnext a hleft).of_suffix hleft

end Reads

/-! ### Gaps -/

theorem skipBlanks_suffix (cs : List Char) : skipBlanks cs <:+ cs :=
  List.dropWhile_suffix isBlank

theorem skipBlankLines_suffix (cs : List Char) : skipBlankLines cs <:+ cs :=
  List.dropWhile_suffix fun c => isBlank c || c == '\n'

variable {room : Nat}

theorem reads_refuseIn (isRefused : Char → Bool) (content : List Char) (behind : Nat)
    (cs : List Char) : Reads cs room (fun _ => cs) (refuseIn isRefused content behind) := by
  unfold refuseIn
  split
  · exact .ok (List.suffix_refl cs)
  · exact .broken _ _

theorem reads_skipComment (cs : List Char) : Reads cs room id (skipComment cs) := by
  unfold skipComment
  split
  · next rest =>
    refine (reads_refuseIn isControl _ _ _).bind fun _ _ => .ok ?_
    exact (List.dropWhile_suffix _).trans (List.suffix_cons '#' rest)
  · exact .ok (List.suffix_refl cs)

theorem reads_skipGaps (fuel : Nat) (cs : List Char) : Reads cs room id (skipGaps fuel cs) := by
  induction fuel generalizing cs with
  | zero => exact .ok (List.suffix_refl cs)
  | succ fuel ih =>
    have hskip : Reads cs room id (skipComment (skipBlankLines cs)) :=
      (reads_skipComment (skipBlankLines cs)).of_suffix (skipBlankLines_suffix cs)
    refine hskip.bind fun after _ => ?_
    split
    · exact .ok (List.suffix_refl after)
    · exact ih after

/-! ### Strings -/

theorem reads_readCodePoint (width : Nat) (cs : List Char) :
    Reads cs room Prod.snd (readCodePoint width cs) := by
  dsimp only [readCodePoint]
  split
  · exact .broken _ _
  · split
    · exact .ok (List.drop_suffix width cs)
    · exact .broken _ _

theorem reads_readEscape (multiline : Bool) (cs : List Char) :
    Reads cs room Prod.snd (readEscape multiline cs) := by
  unfold readEscape
  split
  · exact .broken _ _
  · next c rest =>
    have hrest : rest <:+ c :: rest := List.suffix_cons c rest
    split
    · have hblanks : (if c = '\n' then '\n' :: rest else skipBlanks rest) <:+ c :: rest := by
        split
        · next hc =>
          subst hc
          exact List.suffix_refl _
        · exact (skipBlanks_suffix rest).trans hrest
      split
      · exact .ok List.nil_suffix
      · next after heq =>
        have hafter : after <:+ c :: rest := (List.suffix_cons '\n' after).trans (heq ▸ hblanks)
        exact .ok ((skipBlankLines_suffix after).trans hafter)
      · exact .broken _ _
    · split
      · exact (reads_readCodePoint 4 rest).of_suffix hrest
      · split
        · exact (reads_readCodePoint 8 rest).of_suffix hrest
        · split
          · exact .ok hrest
          · exact .broken _ _

/-- Reading goes on behind a piece of a basic string. -/
theorem reads_piece {multiline : Bool} {fuel : Nat} {cs rest : List Char} (piece : List Char)
    (h : Reads rest room Prod.snd (readBasic multiline fuel rest)) (hrest : rest <:+ cs) :
    Reads cs room Prod.snd (do
      let (content, after) ← readBasic multiline fuel rest
      return (piece ++ content, after)) := by
  refine (h.bind fun ⟨content, after⟩ _ => ?_).of_suffix hrest
  exact .ok (List.suffix_refl after)

theorem reads_readBasic (multiline : Bool) (fuel : Nat) (cs : List Char) :
    Reads cs room Prod.snd (readBasic multiline fuel cs) := by
  induction fuel generalizing cs with
  | zero => exact .broken _ _
  | succ fuel ih =>
    rw [readBasic.eq_def]
    split
    case h_1 => exact .broken _ _
    case h_2 => exact .broken _ _
    case h_3 fuel' rest hfuel =>
      cases hfuel
      have hrest : rest <:+ '"' :: rest := List.suffix_cons _ rest
      split
      · split
        · next after => exact .ok ⟨['"', '"', '"'], rfl⟩
        · exact reads_piece ['"'] (ih rest) hrest
      · exact .ok hrest
    case h_4 fuel' rest hfuel =>
      cases hfuel
      refine ((reads_readEscape multiline rest).bind fun ⟨piece, after⟩ _ => ?_).of_suffix
        (List.suffix_cons _ rest)
      exact reads_piece piece (ih after) (List.suffix_refl after)
    case h_5 fuel' c rest _ _ hfuel =>
      cases hfuel
      have hgo := reads_piece [c] (ih rest) (List.suffix_cons c rest)
      split
      · split
        · exact .broken _ _
        · exact hgo
      · split
        · exact .broken _ _
        · exact hgo

theorem reads_readLiteral (mark : List Char) (isRefused : Char → Bool) (cs : List Char) :
    Reads cs room Prod.snd (readLiteral mark isRefused cs) := by
  unfold readLiteral
  split
  · exact .broken _ _
  · next content after hbreak =>
    refine (reads_refuseIn isRefused content _ cs).bind fun _ _ => .ok ?_
    rw [Text.breakAt?_eq_some hbreak]
    exact List.suffix_append _ after

theorem takeMoreQuotes_suffix (quote : Char) (content after : List Char) :
    (takeMoreQuotes quote content after).2 <:+ after := by
  unfold takeMoreQuotes
  split
  · next c d rest =>
    split
    · split
      · exact ⟨[c, d], rfl⟩
      · exact List.suffix_cons c (d :: rest)
    · exact List.suffix_refl _
  · next c =>
    split
    · exact List.nil_suffix
    · exact List.suffix_refl _
  · exact List.suffix_refl _

theorem dropLineFeed_suffix (cs : List Char) : dropLineFeed cs <:+ cs := by
  unfold dropLineFeed
  split
  · exact List.suffix_cons _ _
  · exact List.suffix_refl _

theorem reads_readMultiline (quote : Char) (cs : List Char) :
    Reads cs room Prod.snd (readMultiline quote cs) := by
  refine Reads.of_suffix ?_ (dropLineFeed_suffix cs)
  dsimp only [readMultiline]
  split
  · exact (reads_readBasic true _ _).bind fun _ _ => .ok (takeMoreQuotes_suffix quote _ _)
  · exact (reads_readLiteral _ _ _).bind fun _ _ => .ok (takeMoreQuotes_suffix quote _ _)

theorem reads_readLine (quote : Char) (cs : List Char) :
    Reads cs room Prod.snd (readLine quote cs) := by
  unfold readLine
  split
  · exact reads_readBasic false _ _
  · exact reads_readLiteral _ _ _

theorem reads_readText (quote : Char) (cs : List Char) :
    Reads cs room Prod.snd (readText quote cs) := by
  unfold readText
  split
  · next c d after =>
    split
    · exact (reads_readMultiline quote after).of_suffix ⟨[c, d], rfl⟩
    · exact reads_readLine quote _
  · exact reads_readLine quote cs

/-! ### Keys -/

theorem reads_readKeyPart (cs : List Char) : Reads cs room Prod.snd (readKeyPart cs) := by
  unfold readKeyPart
  split
  · exact .broken _ _
  · next c rest =>
    split
    · exact .ok (List.dropWhile_suffix isBare)
    · split
      · refine ((reads_readLine c rest).bind fun ⟨_, after⟩ _ => ?_).of_suffix
          (List.suffix_cons c rest)
        exact .ok (List.suffix_refl after)
      · exact .broken _ _

theorem reads_readKey (fuel : Nat) (cs : List Char) : Reads cs room Prod.snd (readKey fuel cs) := by
  induction fuel generalizing cs with
  | zero => exact .broken _ _
  | succ fuel ih =>
    refine (reads_readKeyPart cs).bind fun ⟨part, after⟩ _ => ?_
    have hblanks := skipBlanks_suffix after
    dsimp only
    split
    · next rest heq =>
      rw [heq] at hblanks
      have hrest : skipBlanks rest <:+ after :=
        (skipBlanks_suffix rest).trans ((List.suffix_cons '.' rest).trans hblanks)
      refine ((ih (skipBlanks rest)).bind fun ⟨parts, left⟩ _ => ?_).of_suffix hrest
      exact .ok (List.suffix_refl left)
    · exact .ok hblanks

end LintBridge.Toml
