import LintBridge.Proofs.Json.Limits
import LintBridge.Proofs.Report.Envelope
import LintBridge.Proofs.Report.Translation

/-!
How the translation of an output fails.

Output that gives no problems is malformed, whatever is wrong with it, but for the two limits of the
reader: a document that nests too deep and a whole numeral that is too long are errors of their own
(`translate_fails_by_text_or_limit`). Both need a text of some size, so output that stays within the
limits gives problems or is malformed.
-/

namespace LintBridge.Report

open Json (Reaches StartsTooLong maxDepth isOpening)

/-- Why a text gives no report: it is malformed, or its first document is beyond a limit. -/
inductive Fails (text : List Char) : ReadError → Prop where
  | malformed (reason : Reason) : Fails text (.malformed reason (String.ofList text))
  | tooDeep {container : Json.Container} {tail : List Char}
      (h : Reaches (Text.trimStart text) maxDepth (container.opening :: tail)) :
      Fails text (.tooDeep container)
  | tooLong {n : Nat} {digits place : List Char} (h : Reaches (Text.trimStart text) n place)
      (hlong : StartsTooLong digits place) : Fails text (.numeralTooLong digits.length)

theorem fails_of_firstDocument {text : List Char} {e : ReadError}
    (h : firstDocument text = .error e) : Fails text e := by
  unfold firstDocument at h
  split at h
  · cases h
    exact .malformed .noDocument
  · split at h
    · cases h
    · cases h
      exact .malformed _
    · next hread =>
      cases h
      obtain ⟨n, digits, place, hreaches, hlong, rfl⟩ := Json.reaches_of_tooLong hread
      exact .tooLong hreaches hlong
    · next hread =>
      cases h
      obtain ⟨tail, hreaches⟩ := Json.reaches_of_tooDeep hread
      exact .tooDeep hreaches

/-- How a text gives no report: its first document is not read, or it holds none. -/
theorem parse_eq_error {text : List Char} {e : ReadError} (h : parse text = .error e) :
    firstDocument text = .error e ∨ ∃ reason, e = .malformed reason (String.ofList text) := by
  unfold parse at h
  cases hdocument : firstDocument text with
  | error e' =>
    rw [hdocument] at h
    cases h
    exact .inl rfl
  | ok document =>
    rw [hdocument] at h
    simp only [bind, Except.bind] at h
    refine .inr ?_
    split at h
    · cases h
      exact ⟨_, rfl⟩
    -- the first item of an array, and anything else, is decoded
    all_goals
      simp only [pure, Except.pure] at h
      split at h
      · cases h
      · cases h
        exact ⟨_, rfl⟩

theorem fails_of_translate {owner : Owner} {output : List Char} {e : ReadError}
    (h : translate owner output = .error e) : Fails (payload output) e := by
  unfold translate at h
  cases hparse : parse (payload output) with
  | ok r =>
    rw [hparse] at h
    cases h
  | error e' =>
    rw [hparse] at h
    cases h
    obtain hdocument | ⟨reason, rfl⟩ := parse_eq_error hparse
    · exact fails_of_firstDocument hdocument
    · exact .malformed reason

/-- Blanks in front of a text hide nothing of what stands in it. -/
theorem trimStart_suffix (text : List Char) : Text.trimStart text <:+ text :=
  List.dropWhile_suffix Text.isBlank

/-- A text within the limits is a report or malformed. -/
theorem Fails.malformed_of_small {text : List Char} {e : ReadError} (h : Fails text e)
    (hopenings : text.countP isOpening ≤ maxDepth)
    (hnumerals : ∀ digits, digits <:+: text → (∀ c ∈ digits, c.isDigit = true) →
      digits.length ≤ Decimal.maxDigits) :
    ∃ reason, e = .malformed reason (String.ofList text) := by
  cases h with
  | malformed reason => exact ⟨reason, rfl⟩
  | tooDeep hreaches =>
    have hlt := Json.lt_countP_of_reaches hreaches
    have hle : (Text.trimStart text).countP isOpening ≤ text.countP isOpening :=
      (trimStart_suffix text).sublist.countP_le
    omega
  | tooLong hreaches hlong =>
    have hinfix := (Json.infix_of_reaches hreaches hlong).trans (trimStart_suffix text).isInfix
    exact absurd hlong.1 (Nat.not_lt.mpr (hnumerals _ hinfix hlong.2.1))

/-! ### Beyond the limits -/

theorem translate_of_firstDocument {owner : Owner} {output : List Char} {e : ReadError}
    (h : firstDocument (payload output) = .error e) : translate owner output = .error e := by
  rw [translate, parse, h]
  rfl

/-- Output that opens too many arrays, one in the other, is told as too deep. -/
theorem translate_openings {owner : Owner} {output rest : List Char}
    (h : Text.trimStart (payload output) = List.replicate (maxDepth + 1) '[' ++ rest) :
    translate owner output = .error (.tooDeep .array) := by
  refine translate_of_firstDocument ?_
  have hread := Json.read_openings rest
  rw [List.replicate_succ, List.cons_append] at h hread
  rw [firstDocument, h]
  dsimp only
  rw [hread]

/-- Output that starts with too many digits is told as too long a numeral. -/
theorem translate_tooLong {owner : Owner} {output : List Char} {d : Char} {digits rest : List Char}
    (h : Text.trimStart (payload output) = d :: digits ++ rest)
    (hdigits : ∀ c ∈ d :: digits, c.isDigit = true) (hzero : d ≠ '0') (hstops : Json.Stops rest)
    (hlong : Decimal.maxDigits < (d :: digits).length) :
    translate owner output = .error (.numeralTooLong (d :: digits).length) := by
  refine translate_of_firstDocument ?_
  have hread := Json.read_tooLong hlong hdigits hzero hstops
  rw [List.cons_append] at h hread
  rw [firstDocument, h]
  dsimp only
  rw [hread]

/-- Output gives its problems or is malformed, unless it goes beyond a limit: unless it opens more
containers one in the other than documents may nest, or comes to a whole numeral of more digits than
are read. That takes as many opening brackets, or as many digits on end; and output that starts with
so many brackets or with such a numeral is not told as malformed. -/
theorem translate_fails_by_text_or_limit (owner : Owner) (output : List Char) :
    (∀ e, translate owner output = .error e → Fails (payload output) e) ∧
    ((payload output).countP isOpening ≤ maxDepth →
      (∀ digits, digits <:+: payload output → (∀ c ∈ digits, c.isDigit = true) →
        digits.length ≤ Decimal.maxDigits) →
      (∃ problems, translate owner output = .ok problems) ∨
        ∃ reason, translate owner output =
          .error (.malformed reason (String.ofList (payload output)))) ∧
    (∀ rest, Text.trimStart (payload output) = List.replicate (maxDepth + 1) '[' ++ rest →
      translate owner output = .error (.tooDeep .array)) ∧
    ∀ d digits rest, Text.trimStart (payload output) = d :: digits ++ rest →
      (∀ c ∈ d :: digits, c.isDigit = true) → d ≠ '0' → Json.Stops rest →
      Decimal.maxDigits < (d :: digits).length →
      translate owner output = .error (.numeralTooLong (d :: digits).length) := by
  refine ⟨fun e => fails_of_translate, ?within, fun rest => translate_openings,
    fun d digits rest => translate_tooLong⟩
  intro hopenings hnumerals
  cases h : translate owner output with
  | ok problems => exact .inl ⟨problems, rfl⟩
  | error e =>
    obtain ⟨reason, rfl⟩ := (fails_of_translate h).malformed_of_small hopenings hnumerals
    exact .inr ⟨reason, rfl⟩

/-- Output that breaks off is malformed. -/
theorem translate_fails_by_text_broken_off :
    (∃ problems, translate ⟨"biome", none, none⟩ "\x7b\"diagnostics\": [17".toList =
        .ok problems) ∨
      ∃ reason, translate ⟨"biome", none, none⟩ "\x7b\"diagnostics\": [17".toList =
        .error (.malformed reason (String.ofList (payload "\x7b\"diagnostics\": [17".toList))) := by
  refine (translate_fails_by_text_or_limit ⟨"biome", none, none⟩ _).2.1 (by decide) ?_
  intro digits hinfix _
  exact Nat.le_trans hinfix.length_le (by decide)

/-- One bracket too many and one digit too many are not told as malformed output. -/
theorem limits_are_not_malformed :
    translate ⟨"biome", none, none⟩ (List.replicate (maxDepth + 1) '[') =
        .error (.tooDeep .array) ∧
      translate ⟨"biome", none, none⟩ (List.replicate (Decimal.maxDigits + 1) '1') =
        .error (.numeralTooLong (Decimal.maxDigits + 1)) := by
  have hpayload (c : Char) (n : Nat) (hc : c ≠ 'T') (hsolid : Text.isBlank c = false) :
      Text.trimStart (payload (List.replicate (n + 1) c)) = List.replicate (n + 1) c ++ [] := by
    rw [payload_of_no_banner fun h => hc (List.eq_of_mem_replicate (h.subset (by decide))).symm,
      List.append_nil, List.replicate_succ, Text.trimStart,
      List.dropWhile_cons_of_neg (by simp [hsolid])]
  refine ⟨translate_openings (hpayload '[' maxDepth (by decide) rfl), ?_⟩
  have hnumeral : Text.trimStart (payload (List.replicate (Decimal.maxDigits + 1) '1')) =
      '1' :: List.replicate Decimal.maxDigits '1' ++ [] := by
    rw [hpayload '1' _ (by decide) rfl, List.replicate_succ]
  have hdigits : ∀ c ∈ '1' :: List.replicate Decimal.maxDigits '1', c.isDigit = true := by
    intro c hc
    rw [← List.replicate_succ] at hc
    rw [List.eq_of_mem_replicate hc]
    rfl
  have hlength : ('1' :: List.replicate Decimal.maxDigits '1').length = Decimal.maxDigits + 1 := by
    rw [List.length_cons, List.length_replicate]
  have hlong : translate ⟨"biome", none, none⟩ _ = _ :=
    translate_tooLong hnumeral hdigits (by decide) rfl (hlength ▸ Nat.lt_succ_self _)
  rwa [hlength] at hlong

end LintBridge.Report
