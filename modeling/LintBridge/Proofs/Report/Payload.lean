import LintBridge.Proofs.Report.Envelope
import LintBridge.Proofs.Text.Blank
import LintBridge.Proofs.Text.Occurrence
import Mathlib.Logic.Function.Iterate

/-!
The payload of an output, by where its marks stand.

`IsPayload` says what the payload is in terms of first occurrences and blanks, and the payload is
that and nothing else (`payload_eq_iff`). A payload that holds a banner is no end: it is taken for
an output again, and loses its first banner with what stands before it. So a payload is its own
payload exactly if no banner is left in it, and there are no more passes to that than banners in the
output (`no_banner_of_iterate`).
-/

namespace LintBridge.Report

open Text (BreaksFirst Stripped occurrences)

/-- What the payload of an output is. Without a banner it is the output as it is; with one it is
what stands behind the first banner, up to the first section mark there if there is one, without the
blanks around. -/
inductive IsPayload (output : List Char) : List Char → Prop where
  | bare (hbanner : ¬ banner <:+: output) : IsPayload output output
  | opened {before after result : List Char} (hbanner : BreaksFirst banner output before after)
      (hmark : ¬ sectionMark <:+: after) (hresult : Stripped after result) :
      IsPayload output result
  | enclosed {before after inside rest result : List Char}
      (hbanner : BreaksFirst banner output before after)
      (hmark : BreaksFirst sectionMark after inside rest) (hresult : Stripped inside result) :
      IsPayload output result

theorem isPayload_payload (output : List Char) : IsPayload output (payload output) := by
  cases hbanner : Text.breakAt? banner output with
  | none =>
    have hnone := Text.breakAt?_eq_none_iff.mp hbanner
    rw [payload_of_no_banner hnone]
    exact .bare hnone
  | some found =>
    obtain ⟨before, after⟩ := found
    rw [payload_of_break hbanner, beforeMark]
    have hfirst := Text.breakAt?_eq_some_iff.mp hbanner
    cases hmark : Text.breakAt? sectionMark after with
    | none => exact .opened hfirst (Text.breakAt?_eq_none_iff.mp hmark) (Text.stripped_trim after)
    | some found =>
      exact .enclosed hfirst (Text.breakAt?_eq_some_iff.mp hmark) (Text.stripped_trim _)

theorem payload_eq_iff {output result : List Char} :
    payload output = result ↔ IsPayload output result := by
  constructor
  · rintro rfl
    exact isPayload_payload output
  · intro h
    cases h with
    | bare hbanner => exact payload_of_no_banner hbanner
    | opened hbanner hmark hresult =>
      rw [payload_of_break (Text.breakAt?_eq_some_iff.mpr hbanner), beforeMark,
        Text.breakAt?_eq_none_iff.mpr hmark, Option.elim_none, Text.trim_eq_iff]
      exact hresult
    | enclosed hbanner hmark hresult =>
      rw [payload_of_break (Text.breakAt?_eq_some_iff.mpr hbanner), beforeMark,
        Text.breakAt?_eq_some_iff.mpr hmark, Option.elim_some, Text.trim_eq_iff]
      exact hresult

/-! ### More passes -/

theorem beforeMark_isInfix (after : List Char) : beforeMark after <:+: after := by
  rw [beforeMark]
  cases hmark : Text.breakAt? sectionMark after with
  | none => exact List.infix_refl after
  | some found =>
    refine ⟨[], sectionMark ++ found.2, ?_⟩
    rw [Option.elim_some, List.nil_append, ← List.append_assoc]
    exact (Text.breakAt?_eq_some hmark).symm

/-- The payload behind a banner is a part of what stands there. -/
theorem payload_isInfix {output before after : List Char}
    (h : Text.breakAt? banner output = some (before, after)) : payload output <:+: after := by
  rw [payload_of_break h]
  exact (Text.stripped_trim _).isInfix.trans (beforeMark_isInfix after)

/-- The first character of the banner does not come again in it. -/
theorem exists_banner : ∃ rest, banner = 'T' :: rest ∧ 'T' ∉ rest :=
  ⟨banner.tail, by decide +kernel, by decide +kernel⟩

/-- With a banner, less is left than there was. -/
theorem length_payload_lt {output : List Char} (h : banner <:+: output) :
    (payload output).length < output.length := by
  obtain ⟨before, after, hbreak⟩ := Text.exists_breakAt? h
  have hlength := congrArg List.length (Text.breakAt?_eq_some hbreak)
  have hle := (payload_isInfix hbreak).length_le
  obtain ⟨rest, hbanner, -⟩ := exists_banner
  rw [List.length_append, List.length_append, hbanner, List.length_cons] at hlength
  omega

/-- Every payload that is taken uses up a banner. -/
theorem occurrences_payload_lt {output : List Char} (h : banner <:+: output) :
    occurrences banner (payload output) < occurrences banner output := by
  obtain ⟨before, after, hbreak⟩ := Text.exists_breakAt? h
  have hle := Text.occurrences_le_of_isInfix banner (payload_isInfix hbreak)
  obtain ⟨rest, hbanner, hrest⟩ := exists_banner
  rw [hbanner] at hbreak hle ⊢
  rw [Text.occurrences_of_breakAt? hrest hbreak]
  exact Nat.lt_succ_of_le hle

/-- As many passes as there are banners leave none. -/
theorem no_banner_of_iterate {output : List Char} {passes : Nat}
    (h : occurrences banner output ≤ passes) : ¬ banner <:+: payload^[passes] output := by
  induction passes generalizing output with
  | zero => exact Text.occurrences_eq_zero_iff.mp (Nat.le_zero.mp h)
  | succ passes ih =>
    rw [Function.iterate_succ_apply]
    refine ih ?_
    by_cases hbanner : banner <:+: output
    · have hlt := occurrences_payload_lt hbanner
      omega
    · rw [payload_of_no_banner hbanner, Text.occurrences_eq_zero_iff.mpr hbanner]
      exact Nat.zero_le _

theorem payload_payload_eq_iff (output : List Char) :
    payload (payload output) = payload output ↔ ¬ banner <:+: payload output := by
  constructor
  · intro hfixed hbanner
    have hlt := length_payload_lt hbanner
    rw [hfixed] at hlt
    exact Nat.lt_irrefl _ hlt
  · exact payload_of_no_banner

/-! ### What counts -/

/-- What stands before the first banner does not count. -/
theorem payload_append_banner {before : List Char} (h : ¬ banner <:+: before)
    (after : List Char) : payload (before ++ banner ++ after) = payload (banner ++ after) := by
  obtain ⟨rest, hbanner, hrest⟩ := exists_banner
  have hbreak : Text.breakAt? banner (before ++ banner ++ after) = some (before, after) := by
    rw [hbanner] at h ⊢
    exact Text.breakAt?_of_absent hrest h after
  rw [payload_of_break hbreak, payload_banner_append]

/-- What stands behind the first section mark does not count. -/
theorem payload_append_mark {inside : List Char} (h : ¬ sectionMark <:+: inside)
    (rest : List Char) :
    payload (banner ++ (inside ++ sectionMark ++ rest)) = payload (banner ++ inside) := by
  rw [List.append_assoc, payload_of_section h, payload_of_no_mark h]

/-- The payload is the text between the first banner and the first section mark behind it, whatever
stands around the two, and is its own payload exactly if it holds no banner. Otherwise its payload is
shorter, and after as many passes as there are banners one more pass changes nothing. -/
theorem payload_exact (output : List Char) :
    (∀ result, payload output = result ↔ IsPayload output result) ∧
      (∀ before after, ¬ banner <:+: before →
        payload (before ++ banner ++ after) = payload (banner ++ after)) ∧
      (∀ inside rest, ¬ sectionMark <:+: inside →
        payload (banner ++ (inside ++ sectionMark ++ rest)) = payload (banner ++ inside)) ∧
      (payload (payload output) = payload output ↔ ¬ banner <:+: payload output) ∧
      (banner <:+: payload output →
        (payload (payload output)).length < (payload output).length) ∧
      ∀ passes, occurrences banner output ≤ passes →
        payload (payload^[passes] output) = payload^[passes] output :=
  ⟨fun _ => payload_eq_iff, fun _ after h => payload_append_banner h after,
    fun _ rest h => payload_append_mark h rest, payload_payload_eq_iff output, length_payload_lt,
    fun _ h => payload_of_no_banner (no_banner_of_iterate h)⟩

/-- With a second banner behind the first one, and with a section mark. -/
theorem payload_exact_of_two_banners :
    ¬ banner <:+: ['a'] ∧ ¬ sectionMark <:+: ['x'] ∧
      banner <:+: payload (['a'] ++ banner ++ (banner ++ ['x'])) ∧
      (payload (payload (['a'] ++ banner ++ (banner ++ ['x'])))).length <
        (payload (['a'] ++ banner ++ (banner ++ ['x']))).length ∧
      payload (banner ++ (['x'] ++ sectionMark ++ ['y'])) = payload (banner ++ ['x']) := by
  obtain ⟨-, hbefore, hbehind, -, hshorter, -⟩ :=
    payload_exact (['a'] ++ banner ++ (banner ++ ['x']))
  have hfront : ¬ banner <:+: ['a'] := by decide +kernel
  have hinside : ¬ sectionMark <:+: ['x'] := by decide +kernel
  have hpayload : payload (banner ++ (banner ++ ['x'])) = banner ++ ['x'] := by decide +kernel
  have hagain : banner <:+: payload (['a'] ++ banner ++ (banner ++ ['x'])) := by
    rw [hbefore ['a'] _ hfront, hpayload]
    exact (List.prefix_append banner ['x']).isInfix
  exact ⟨hfront, hinside, hagain, hshorter hagain, hbehind ['x'] ['y'] hinside⟩

end LintBridge.Report
