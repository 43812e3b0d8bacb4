import LintBridge.Terminal.Markup
import LintBridge.Proofs.Machine.Ran

/-!
What markup shows of a text.

It shows nothing that does not stand in the text, and all in the order of the text: markup can only
take away (`text_sublist_of_render`). What it takes away are tags, backslashes in front of brackets
and control characters. So the text is shown as it is exactly if it is literal, that is, if it holds
no tag and no backslash in front of a bracket, and no control character (`render_eq_plain_iff`).
Other brackets are text like any other: around nothing, around a digit or a capital letter, or
around brackets.
-/

namespace LintBridge.Terminal

open Ran

/-! ### Tags -/

/-- What can stand between the brackets of a tag. -/
structure IsTag (inside : List Char) : Prop where
  starts : inside.head?.any startsTag = true
  unclosed : ']' ∉ inside
  unopened : '[' ∉ inside

/-- Whether a character is no bracket, so that the inside of a tag goes on with it. -/
def isInside (c : Char) : Bool :=
  c != ']' && c != '['

theorem isInside_iff {c : Char} : isInside c = true ↔ c ≠ ']' ∧ c ≠ '[' := by
  simp [isInside]

theorem isInside_of_startsTag {c : Char} (h : startsTag c = true) : isInside c = true := by
  apply isInside_iff.mpr
  constructor
  · rintro rfl
    cases h
  · rintro rfl
    cases h

/-- A tag is taken from behind its opening bracket exactly where one stands. -/
theorem takeTag?_eq_some_iff {cs inside rest : List Char} :
    takeTag? cs = some (inside, rest) ↔ IsTag inside ∧ cs = inside ++ ']' :: rest := by
  constructor
  · intro h
    unfold takeTag? at h
    split at h
    · next hstart =>
      split at h
      · next behind hbehind =>
        cases h
        have hcs := List.takeWhile_append_dropWhile (p := isInside) (l := cs)
        have hinside : ∀ c ∈ cs.takeWhile isInside, isInside c = true :=
          List.all_eq_true.mp List.all_takeWhile
        refine ⟨⟨?starts, ?unclosed, ?unopened⟩, hcs.symm.trans (congrArg _ hbehind)⟩
        case unclosed => exact fun hmem => (isInside_iff.mp (hinside _ hmem)).1 rfl
        case unopened => exact fun hmem => (isInside_iff.mp (hinside _ hmem)).2 rfl
        case starts =>
          cases cs with
          | nil => cases hstart
          | cons c more =>
            change ((c :: more).takeWhile isInside).head?.any startsTag = true
            rw [List.takeWhile_cons_of_pos (isInside_of_startsTag hstart)]
            exact hstart
      · cases h
    · cases h
  · rintro ⟨htag, rfl⟩
    have hinside : ∀ c ∈ inside, isInside c = true := fun c hc =>
      isInside_iff.mpr ⟨fun heq => htag.unclosed (heq ▸ hc), fun heq => htag.unopened (heq ▸ hc)⟩
    have hstart : (inside ++ ']' :: rest).head?.any startsTag = true := by
      cases inside with
      | nil => exact absurd htag.starts (by decide)
      | cons c more => exact htag.starts
    have hstop : isInside ']' = false := by decide
    have htake : (inside ++ ']' :: rest).takeWhile isInside = inside := by
      rw [List.takeWhile_append_of_pos hinside, List.takeWhile_cons_of_neg (by simp [hstop]),
        List.append_nil]
    have hdrop : (inside ++ ']' :: rest).dropWhile isInside = ']' :: rest := by
      rw [List.dropWhile_append_of_pos hinside, List.dropWhile_cons_of_neg (by simp [hstop])]
    have hclass : (fun c => c != ']' && c != '[') = isInside := rfl
    rw [takeTag?, if_pos hstart, hclass, hdrop, htake]
    rfl

/-! ### What is taken away -/

/-- What a piece shows, its control characters included. -/
def MarkupPiece.shown : MarkupPiece → List Char
  | .text content => content
  | .tag _ _ => []

theorem drop_length_takeWhile (p : Char → Bool) (cs : List Char) :
    cs.drop (cs.takeWhile p).length = cs.dropWhile p := by
  have h : (cs.takeWhile p ++ cs.dropWhile p).drop (cs.takeWhile p).length = cs.dropWhile p :=
    List.drop_left
  rwa [List.takeWhile_append_dropWhile] at h

/-- What is taken for backslashes and a tag ends in the tag, and shows less than stands there, in
its order. -/
theorem takeEscaped?_eq_some {position : Nat} {cs after : List Char} {pieces : List MarkupPiece}
    (h : takeEscaped? position cs = some (pieces, after)) :
    ∃ front inside, cs = front ++ after ∧ IsTag inside ∧ '[' :: inside ++ [']'] <:+ front ∧
      (pieces.flatMap MarkupPiece.shown).Sublist front ∧
      (pieces.flatMap MarkupPiece.shown).length < front.length := by
  simp only [takeEscaped?] at h
  split at h
  · next body hbody =>
    obtain ⟨⟨inside, rest⟩, htake, heq⟩ := Option.map_eq_some_iff.mp h
    obtain ⟨htag, rfl⟩ := takeTag?_eq_some_iff.mp htake
    obtain ⟨slashes, hslashes⟩ : ∃ n, cs.takeWhile (· == '\\') = List.replicate n '\\' := by
      refine ⟨_, List.eq_replicate_of_mem fun c hc => ?_⟩
      exact eq_of_beq (List.all_eq_true.mp List.all_takeWhile c hc)
    have hcs : List.replicate slashes '\\' ++ '[' :: (inside ++ ']' :: rest) = cs := by
      rw [← hslashes, ← hbody, drop_length_takeWhile, List.takeWhile_append_dropWhile]
    rw [hslashes, List.length_replicate] at heq
    simp only [Prod.mk.injEq] at heq
    obtain ⟨rfl, rfl⟩ := heq
    refine ⟨List.replicate slashes '\\' ++ ('[' :: inside ++ [']']), inside, by simp [← hcs], htag,
      List.suffix_append _ _, ?_⟩
    have hslash : (List.replicate (slashes / 2) '\\').Sublist (List.replicate slashes '\\') :=
      List.replicate_sublist_replicate '\\' |>.mpr (Nat.div_le_self slashes 2)
    split
    · next hodd =>
      refine ⟨hslash.append (by simp [MarkupPiece.shown]), ?_⟩
      simp [MarkupPiece.shown]
      omega
    · refine ⟨hslash.append (List.nil_sublist _), ?_⟩
      simp [MarkupPiece.shown]
      omega
  · cases h

/-- A tag is taken where it stands. -/
theorem takeEscaped?_of_tag {inside : List Char} (h : IsTag inside) (position : Nat)
    (rest : List Char) : takeEscaped? position ('[' :: inside ++ [']'] ++ rest) ≠ none := by
  have htake : takeTag? (inside ++ ']' :: rest) = some (inside, rest) :=
    takeTag?_eq_some_iff.mpr ⟨h, rfl⟩
  simp [takeEscaped?, htake]

/-- A text without tags and without backslashes in front of brackets. -/
structure IsLiteral (cs : List Char) : Prop where
  untagged : ∀ inside, IsTag inside → ¬ '[' :: inside ++ [']'] <:+: cs
  unescaped : ¬ ['\\', '['] <:+: cs

theorem isLiteral_nil : IsLiteral [] := by
  constructor
  · intro inside htag hinfix
    cases List.eq_nil_of_infix_nil hinfix
  · intro hinfix
    cases List.eq_nil_of_infix_nil hinfix

theorem isLiteral_cons_iff {c : Char} {cs : List Char} :
    IsLiteral (c :: cs) ↔ (∀ inside, IsTag inside → ¬ '[' :: inside ++ [']'] <+: c :: cs) ∧
      ¬ ['\\', '['] <+: c :: cs ∧ IsLiteral cs := by
  constructor
  · intro h
    refine ⟨fun inside htag hprefix => h.untagged inside htag hprefix.isInfix,
      fun hprefix => h.unescaped hprefix.isInfix, ?_, ?_⟩
    · exact fun inside htag hinfix => h.untagged inside htag (List.infix_cons hinfix)
    · exact fun hinfix => h.unescaped (List.infix_cons hinfix)
  · rintro ⟨htag, hslash, h⟩
    constructor
    · intro inside hinside hinfix
      rcases List.infix_cons_iff.mp hinfix with hprefix | hinfix
      · exact htag inside hinside hprefix
      · exact h.untagged inside hinside hinfix
    · intro hinfix
      rcases List.infix_cons_iff.mp hinfix with hprefix | hinfix
      · exact hslash hprefix
      · exact h.unescaped hinfix

/-- Markup shows of a text only what stands there, in its order. -/
theorem shown_piecesFrom (fuel position : Nat) (cs : List Char) :
    ((piecesFrom fuel position cs).flatMap MarkupPiece.shown).Sublist cs := by
  fun_induction piecesFrom fuel position cs with
  | case1 => exact List.nil_sublist _
  | case2 => exact List.nil_sublist _
  | case3 fuel position c rest pieces after htake ih =>
    obtain ⟨front, inside, hcs, -, -, hshown, -⟩ := takeEscaped?_eq_some htake
    rw [List.flatMap_append, hcs]
    exact hshown.append ih
  | case4 fuel position more htake ih => exact (ih.cons_cons '[').cons '\\'
  | case5 fuel position c rest htake hslash ih => exact ih.cons_cons c

/-- If all of a text is shown, it is literal: a tag or a backslash in front of a bracket makes what
is shown shorter. -/
theorem isLiteral_of_shown {fuel position : Nat} {cs : List Char} (hfuel : cs.length ≤ fuel)
    (h : (piecesFrom fuel position cs).flatMap MarkupPiece.shown = cs) : IsLiteral cs := by
  fun_induction piecesFrom fuel position cs with
  | case1 position cs =>
    rw [List.length_eq_zero_iff.mp (Nat.le_zero.mp hfuel)]
    exact isLiteral_nil
  | case2 => exact isLiteral_nil
  | case3 fuel position c rest pieces after htake ih =>
    obtain ⟨front, inside, hcs, -, -, -, hshorter⟩ := takeEscaped?_eq_some htake
    have hrest :=
      (shown_piecesFrom fuel (position + (rest.length + 1 - after.length)) after).length_le
    have hlength := congrArg List.length h
    rw [List.flatMap_append, hcs, List.length_append, List.length_append] at hlength
    omega
  | case4 fuel position more htake ih =>
    have hrest := (shown_piecesFrom fuel (position + 2) more).length_le
    have hlength := congrArg List.length h
    rw [List.flatMap_cons, List.length_append] at hlength
    simp only [MarkupPiece.shown, List.length_cons, List.length_nil] at hlength
    omega
  | case5 fuel position c rest htake hslash ih =>
    refine isLiteral_cons_iff.mpr ⟨?_, ?_, ih (Nat.le_of_succ_le_succ hfuel) (List.cons.inj h).2⟩
    · rintro inside htag ⟨behind, hcs⟩
      exact takeEscaped?_of_tag htag position behind (hcs ▸ htake)
    · rintro ⟨more, hcs⟩
      obtain ⟨rfl, hrest⟩ := List.cons.inj hcs
      exact hslash more rfl hrest.symm

/-- A literal text is taken apart into its characters. -/
theorem piecesFrom_of_literal {cs : List Char} (h : IsLiteral cs) (fuel position : Nat)
    (hfuel : cs.length ≤ fuel) : piecesFrom fuel position cs = cs.map fun c => .text [c] := by
  fun_induction piecesFrom fuel position cs with
  | case1 position cs =>
    rw [List.length_eq_zero_iff.mp (Nat.le_zero.mp hfuel)]
    rfl
  | case2 => rfl
  | case3 fuel position c rest pieces after htake ih =>
    obtain ⟨front, inside, hcs, htag, hsuffix, -, -⟩ := takeEscaped?_eq_some htake
    rw [hcs] at h
    exact absurd (hsuffix.isInfix.trans (List.prefix_append front after).isInfix)
      (h.untagged inside htag)
  | case4 fuel position more htake ih =>
    exact absurd (List.prefix_append ['\\', '['] more).isInfix h.unescaped
  | case5 fuel position c rest htake hslash ih =>
    obtain ⟨-, -, hrest⟩ := isLiteral_cons_iff.mp h
    rw [ih hrest (Nat.le_of_succ_le_succ hfuel), List.map_cons]

/-! ### What is shown -/

theorem text_of_shownFrom {opened : List OpenTag} {length : Nat} {pieces : List MarkupPiece}
    {shown : Shown} (h : shownFrom opened length pieces = .ok shown) :
    shown.text = (pieces.flatMap MarkupPiece.shown).filter (!isDropped ·) := by
  induction pieces generalizing opened length shown with
  | nil =>
    cases h
    rfl
  | cons piece rest ih =>
    cases piece with
    | text content =>
      obtain ⟨more, hmore, heq⟩ := except_bind_eq_ok.mp h
      cases heq
      rw [List.flatMap_cons, List.filter_append, ← ih hmore]
      rfl
    | tag position content =>
      obtain ⟨⟨stain, opened⟩, -, h⟩ := except_bind_eq_ok.mp h
      obtain ⟨more, hmore, heq⟩ := except_bind_eq_ok.mp h
      cases heq
      change more.text = _
      exact ih hmore

theorem shownFrom_of_characters (opened : List OpenTag) (length : Nat) {cs : List Char}
    (h : ∀ c ∈ cs, isDropped c = false) :
    shownFrom opened length (cs.map fun c => .text [c]) =
      .ok ⟨cs, opened.filterMap (·.stain? (length + cs.length))⟩ := by
  induction cs generalizing length with
  | nil => rfl
  | cons c rest ih =>
    have hc : [c].filter (!isDropped ·) = [c] := by simp [h c List.mem_cons_self]
    have hrest := ih (length + 1) fun d hd => h d (List.mem_cons_of_mem c hd)
    rw [List.map_cons, shownFrom, hc]
    change (shownFrom opened (length + 1) _).bind _ = _
    rw [hrest, Nat.add_assoc, Nat.add_comm 1]
    rfl

/-- Whatever markup stands in a text, it shows nothing else. -/
theorem text_sublist_of_render {markup : String} {shown : Shown} (h : render markup = .ok shown) :
    shown.text.Sublist markup.toList := by
  obtain ⟨drawn, hdrawn, heq⟩ := except_bind_eq_ok.mp h
  cases heq
  change drawn.text.Sublist _
  rw [text_of_shownFrom hdrawn]
  exact List.filter_sublist.trans (shown_piecesFrom _ _ _)

/-- Markup shows a text as it is, and leaves no stain on it, exactly if it is literal and has no
control characters that are left out. -/
theorem render_eq_plain_iff {markup : String} :
    render markup = .ok ⟨markup.toList, []⟩ ↔
      IsLiteral markup.toList ∧ ∀ c ∈ markup.toList, isDropped c = false := by
  constructor
  · intro h
    obtain ⟨shown, hshown, heq⟩ := except_bind_eq_ok.mp h
    have htext : shown.text = markup.toList := (Shown.mk.inj (Except.ok.inj heq)).1
    have hfilter := (text_of_shownFrom hshown).symm.trans htext
    have hsublist := shown_piecesFrom markup.toList.length 0 markup.toList
    have hall : (piecesFrom markup.toList.length 0 markup.toList).flatMap MarkupPiece.shown =
        markup.toList := by
      have hlength := Nat.le_of_eq (congrArg List.length hfilter.symm)
      exact hsublist.eq_of_length_le (Nat.le_trans hlength (List.length_filter_le _ _))
    rw [hall] at hfilter
    refine ⟨isLiteral_of_shown (Nat.le_refl _) hall, fun c hc => ?_⟩
    simpa using List.filter_eq_self.mp hfilter c hc
  · rintro ⟨hliteral, hdropped⟩
    have hpieces := piecesFrom_of_literal hliteral markup.toList.length 0 (Nat.le_refl _)
    have hshown := shownFrom_of_characters [] 0 hdropped
    rw [← hpieces] at hshown
    refine except_bind_eq_ok.mpr ⟨_, hshown, ?_⟩
    rw [List.filterMap_nil, List.reverse_nil, List.mergeSort_nil]
    rfl

end LintBridge.Terminal
