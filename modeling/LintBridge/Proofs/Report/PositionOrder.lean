import LintBridge.Proofs.Report.Acceptance
import LintBridge.Proofs.Report.Position
import LintBridge.Proofs.Report.Trailing
import Mathlib.Data.Prod.Lex

/-!
The order of places.

A place comes before another by its line, and on one line by its column (`LineColumn.pair`). The
place behind a text moves on with every character: a line feed takes it to the next line, whatever
the column was, and every other character to the next column (`LineColumn.behind_concat`). So of two
starts of one source the longer one ends at a later place, and since a larger offset has more
characters before it, or as many, places keep the order of offsets
(`positions_keep_their_order`).
-/

namespace LintBridge

open Text

/-- The line and the column, in the lexicographic order. -/
def LineColumn.pair (place : LineColumn) : Lex (Nat × Nat) :=
  toLex (place.line, place.column)

theorem LineColumn.pair_inj {p q : LineColumn} : p.pair = q.pair ↔ p = q := by
  cases p
  cases q
  simp [pair]

/-! ### Places behind texts -/

theorem behindLastFeed_concat (cs : List Char) (c : Char) :
    behindLastFeed (cs ++ [c]) = if c = '\n' then [] else behindLastFeed cs ++ [c] := by
  rw [behindLastFeed, List.reverse_append, List.reverse_singleton, List.singleton_append,
    List.takeWhile_cons]
  by_cases hc : c = '\n' <;> simp [hc, behindLastFeed]

/-- One more character leads to the next line or to the next column. -/
theorem LineColumn.behind_concat (cs : List Char) (c : Char) :
    behind (cs ++ [c]) =
      if c = '\n' then ⟨(behind cs).line + 1, 1⟩
      else ⟨(behind cs).line, (behind cs).column + 1⟩ := by
  rw [behind, behindLastFeed_concat, List.count_append]
  by_cases hc : c = '\n' <;> simp [hc, behind]

theorem LineColumn.pair_behind_lt_concat (cs : List Char) (c : Char) :
    (behind cs).pair < (behind (cs ++ [c])).pair := by
  rw [behind_concat]
  split
  · exact Prod.Lex.toLex_lt_toLex.mpr (.inl (Nat.lt_succ_self _))
  · exact Prod.Lex.toLex_lt_toLex.mpr (.inr ⟨rfl, Nat.lt_succ_self _⟩)

/-- The place behind a text comes before every place further on. -/
theorem LineColumn.pair_behind_lt_append (front : List Char) (c : Char) (back : List Char) :
    (behind front).pair < (behind (front ++ c :: back)).pair := by
  induction back generalizing front c with
  | nil => exact pair_behind_lt_concat front c
  | cons d back ih =>
    have hrest := ih (front ++ [c]) d
    rw [List.append_assoc, List.singleton_append] at hrest
    exact (pair_behind_lt_concat front c).trans hrest

theorem LineColumn.pair_behind_lt_of_isPrefix {front whole : List Char} (h : front <+: whole)
    (hne : front ≠ whole) : (behind front).pair < (behind whole).pair := by
  obtain ⟨back, rfl⟩ := h
  cases back with
  | nil => exact absurd (List.append_nil front).symm hne
  | cons c back => exact pair_behind_lt_append front c back

theorem LineColumn.pair_behind_le_of_isPrefix {front whole : List Char} (h : front <+: whole) :
    (behind front).pair ≤ (behind whole).pair := by
  by_cases heq : front = whole
  · rw [heq]
  · exact (pair_behind_lt_of_isPrefix h heq).le

/-! ### Places of offsets -/

theorem LineColumn.pair_ofOffset_le {offset offset' : Int} (h : offset ≤ offset')
    (source : List Char) : (ofOffset source offset).pair ≤ (ofOffset source offset').pair := by
  rw [ofOffset_eq, ofOffset_eq]
  exact pair_behind_le_of_isPrefix (Utf8.complete_mono (by omega) source)

/-- The offset, from one on, at which a character of a source starts, or the end of the source. -/
def startOffset (source : List Char) (index : Nat) : Int :=
  (Utf8.encode (source.take index)).length + 1

theorem LineColumn.ofOffset_startOffset (source : List Char) (index : Nat) :
    ofOffset source (startOffset source index) = behind (source.take index) := by
  have hcount : (startOffset source index - 1).toNat =
      (Utf8.encode (source.take index)).length := by
    rw [startOffset]
    omega
  have htaken := Utf8.complete_length_encode (source.take index) (source.drop index)
  rw [List.take_append_drop] at htaken
  rw [ofOffset_eq, hcount, htaken]

/-- The starts of characters keep their order strictly. -/
theorem LineColumn.pair_startOffset_lt {source : List Char} {i j : Nat} (hij : i < j)
    (hj : j ≤ source.length) :
    (ofOffset source (startOffset source i)).pair <
      (ofOffset source (startOffset source j)).pair := by
  rw [ofOffset_startOffset, ofOffset_startOffset]
  refine pair_behind_lt_of_isPrefix (List.take_prefix_take_left hij.le) fun heq => ?_
  have hlength := congrArg List.length heq
  rw [List.length_take_of_le (hij.le.trans hj), List.length_take_of_le hj] at hlength
  exact hij.ne hlength

/-! ### Sorting -/

/-- Items in the order of their keys; those with one key stay in the order in which they come. -/
def sortBy {α β : Type} [LinearOrder β] (key : α → β) (items : List α) : List α :=
  items.mergeSort fun a b => key a ≤ key b

theorem pairwise_sortBy {α β : Type} [LinearOrder β] (key : α → β) (items : List α) :
    (sortBy key items).Pairwise fun a b => key a ≤ key b := by
  have hsorted : (sortBy key items).Pairwise fun a b => decide (key a ≤ key b) = true := by
    apply List.pairwise_mergeSort
    · intro a b c hab hbc
      rw [decide_eq_true_eq] at hab hbc ⊢
      exact hab.trans hbc
    · intro a b
      simpa using le_total (key a) (key b)
  exact hsorted.imp of_decide_eq_true

/-- What keeps the order of keys takes sorted items to sorted items. -/
theorem map_sortBy {α β γ δ : Type} [LinearOrder β] [LinearOrder δ] {key : α → β} {key' : γ → δ}
    {f : α → γ} (hmono : ∀ a b, key a ≤ key b → key' (f a) ≤ key' (f b))
    (hinj : Function.Injective key') (items : List α) :
    (sortBy key items).map f = sortBy key' (items.map f) := by
  refine List.Perm.eq_of_pairwise ?antisymm ?sorted (pairwise_sortBy key' _) ?perm
  case antisymm =>
    intro p q _ _ hpq hqp
    exact hinj (hpq.antisymm hqp)
  case sorted =>
    apply List.pairwise_map.mpr
    exact (pairwise_sortBy key items).imp (hmono _ _)
  case perm =>
    have hitems : (sortBy key items).Perm items := List.mergeSort_perm items _
    exact (hitems.map f).trans (List.mergeSort_perm _ _).symm

/-! ### Problems -/

/-- The positions of problems, as offsets into a source. -/
def positionsOf (problems : List Problem) : List Int :=
  problems.map fun p => p.position

theorem Problem.position_le_of_mem_translate {owner : Owner} {output : List Char}
    {problems : List Problem} (h : Report.translate owner output = .ok problems) :
    ∀ p ∈ problems, p.position ≤ p.endPosition := by
  obtain ⟨r, -, rfl⟩ := Report.translate_eq_ok_iff.mp h
  intro p hp
  obtain ⟨d, -, rfl⟩ := List.mem_map.mp hp
  exact (Report.Problem.ofDiagnostic_ordered owner d).2

/-- The places of problems are those of their starts, unless the source cannot be written. -/
theorem LineColumn.ofOffsets_eq (source : List Char) {problems : List Problem}
    (hne : problems ≠ []) : ofOffsets source (positionsOf problems) =
      (Text.withBytes source).map fun source => problems.map (·.start source) := by
  have hoffsets : positionsOf problems ≠ [] := by simpa [positionsOf] using hne
  rw [ofOffsets, if_neg hoffsets, positionsOf]
  cases Text.withBytes source with
  | error halves => rfl
  | ok source => exact congrArg _ List.map_map

/-- Where the places of problems are told, they are those of the starts in the source itself. -/
theorem LineColumn.eq_of_ofOffsets {source : List Char} {problems : List Problem}
    {places : List LineColumn} (h : ofOffsets source (positionsOf problems) = .ok places) :
    places = problems.map (·.start source) := by
  by_cases hnil : problems = []
  · subst hnil
    cases h
    rfl
  · rw [ofOffsets_eq source hnil, Text.withBytes] at h
    split at h
    · cases h
    · cases h
      rfl

theorem Problem.pair_start_le {p q : Problem} (h : p.position ≤ q.position) (source : List Char) :
    (p.start source).pair ≤ (q.start source).pair :=
  LineColumn.pair_ofOffset_le (Int.ofNat_le.mpr h) source

/-- The places of sorted problems are the sorted places of the problems. -/
theorem LineColumn.ofOffsets_sortBy (source : List Char) (problems : List Problem) :
    ofOffsets source (positionsOf (sortBy (·.position) problems)) =
      (ofOffsets source (positionsOf problems)).map (sortBy pair) := by
  by_cases hnil : problems = []
  · subst hnil
    simp [sortBy, positionsOf, ofOffsets, Except.map]
  · have hsorted : sortBy (·.position) problems ≠ [] := by
      rw [sortBy, Ne, ← List.length_eq_zero_iff, List.length_mergeSort, List.length_eq_zero_iff]
      exact hnil
    rw [ofOffsets_eq source hsorted, ofOffsets_eq source hnil]
    cases Text.withBytes source with
    | error halves => rfl
    | ok source =>
      exact congrArg Except.ok (map_sortBy (fun p q h => Problem.pair_start_le h source)
        (fun _ _ => pair_inj.mp) problems)

/-- Places keep the order of offsets. A larger offset of a source has the same place or a later one,
and offsets at which different characters start, or the source ends, have different places. So each
problem that is translated starts no later than it ends, in whatever source, and places of problems
that are sorted by their positions are sorted too. -/
theorem positions_keep_their_order (source : List Char) :
    (∀ offset offset' : Int, offset ≤ offset' →
      (LineColumn.ofOffset source offset).pair ≤ (LineColumn.ofOffset source offset').pair) ∧
    (∀ i ≤ source.length, ∀ j ≤ source.length, i ≠ j →
      LineColumn.ofOffset source (startOffset source i) ≠
        LineColumn.ofOffset source (startOffset source j)) ∧
    (∀ owner output problems, Report.translate owner output = .ok problems → ∀ p ∈ problems,
      (LineColumn.ofOffset source p.position).pair ≤
        (LineColumn.ofOffset source p.endPosition).pair) ∧
    ∀ problems,
      (∀ places, LineColumn.ofOffsets source (positionsOf problems) = .ok places →
        problems.Pairwise (fun p q => p.position ≤ q.position) →
          places.Pairwise fun p q => p.pair ≤ q.pair) ∧
      LineColumn.ofOffsets source (positionsOf (sortBy (·.position) problems)) =
        (LineColumn.ofOffsets source (positionsOf problems)).map (sortBy LineColumn.pair) := by
  refine ⟨?offsets, ?starts, ?problems, ?sorted⟩
  case offsets =>
    intro offset offset' h
    exact LineColumn.pair_ofOffset_le h source
  case starts =>
    intro i hi j hj hne heq
    rcases Nat.lt_or_gt_of_ne hne with hlt | hgt
    · exact (LineColumn.pair_startOffset_lt hlt hj).ne (congrArg _ heq)
    · exact (LineColumn.pair_startOffset_lt hgt hi).ne' (congrArg _ heq)
  case problems =>
    intro owner output problems htranslate p hp
    have hle := Problem.position_le_of_mem_translate htranslate p hp
    exact LineColumn.pair_ofOffset_le (Int.ofNat_le.mpr hle) source
  case sorted =>
    intro problems
    constructor
    · intro places hplaces hsorted
      rw [LineColumn.eq_of_ofOffsets hplaces, List.pairwise_map]
      exact hsorted.imp fun h => Problem.pair_start_le h source
    · exact LineColumn.ofOffsets_sortBy source problems

/-- An offset inside a character and its start, the end of a line and the start of the next one, and
two problems on two lines. -/
theorem positions_keep_their_order_over_lines :
    (LineColumn.ofOffset "é\nb".toList 2).pair ≤ (LineColumn.ofOffset "é\nb".toList 3).pair ∧
      LineColumn.ofOffset "é\nb".toList (startOffset "é\nb".toList 1) ≠
        LineColumn.ofOffset "é\nb".toList (startOffset "é\nb".toList 2) ∧
      (LineColumn.ofOffset "é\nb".toList 4).pair ≤ (LineColumn.ofOffset "é\nb".toList 9).pair ∧
      LineColumn.ofOffsets "é\nb".toList [3, 4] = .ok [⟨1, 2⟩, ⟨2, 1⟩] ∧
      [(⟨1, 2⟩ : LineColumn), ⟨2, 1⟩].Pairwise fun p q => p.pair ≤ q.pair := by
  obtain ⟨hoffsets, hstarts, hproblems, hsorted⟩ := positions_keep_their_order "é\nb".toList
  have hplaces : LineColumn.ofOffsets "é\nb".toList [3, 4] = .ok [⟨1, 2⟩, ⟨2, 1⟩] := by
    decide +kernel
  have hlater : LineColumn.ofOffsets "é\nb".toList (positionsOf
      [⟨3, 3, .error, "", "", "", none, none⟩, ⟨4, 4, .error, "", "", "", none, none⟩]) = _ :=
    hplaces
  exact ⟨hoffsets 2 3 (by decide), hstarts 1 (by decide) 2 (by decide) (by decide),
    hproblems _ _ _ Report.translate_brokenOff _ List.mem_cons_self, hplaces,
    (hsorted _).1 _ hlater (by simp)⟩

end LintBridge
