import LintBridge.Proofs.Text.Utf8
import LintBridge.Report.Position
import LintBridge.Text.Newline

/-!
Places by the bytes of a source.

`LineColumn.ofByte` says what the place of a byte is: its line by the line feeds before it, its
column by the whole characters behind the last of these. An offset that counts from one stands for
the byte before it in that count (`LineColumn.ofOffset_succ`), for every source and offset.

`LineColumn.behind` counts characters only. The place of an offset is the one behind the characters
whose bytes all stand before it (`LineColumn.ofOffset_by_characters`), so the bytes that are cut off
inside a character never count.

Writing all line ends as line feeds keeps the bytes up to the first carriage return, and with them
the places there (`take_encode_unifyNewlines`).
-/

namespace LintBridge

open Text

/-- The part of a text behind its last line feed. -/
def behindLastFeed (cs : List Char) : List Char :=
  (cs.reverse.takeWhile (· != '\n')).reverse

/-- The place of a byte of a source, which counts from zero: one line for each line feed before the
byte, one column for each character that ends before it on its line, and one more of both. -/
def LineColumn.ofByte (source : List Char) (start : Nat) : LineColumn :=
  ⟨((Utf8.encode source).take start).count 0x0A + 1,
    (behindLastFeed (Utf8.complete source start)).length + 1⟩

/-- The place behind a text, by its characters: one line for each line feed, one column for each
character behind the last of these, and one more of both. -/
def LineColumn.behind (cs : List Char) : LineColumn :=
  ⟨cs.count '\n' + 1, (behindLastFeed cs).length + 1⟩

/-! ### Last lines -/

/-- A text is what ends in its last line feed, if it has one, and what stands behind that. -/
theorem exists_behindLastFeed (cs : List Char) :
    ∃ front, cs = front ++ behindLastFeed cs ∧ '\n' ∉ behindLastFeed cs ∧
      (front = [] ∨ ∃ lines, front = lines ++ ['\n']) := by
  refine ⟨(cs.reverse.dropWhile (· != '\n')).reverse, ?_, ?_, ?_⟩
  · rw [behindLastFeed, ← List.reverse_append, List.takeWhile_append_dropWhile,
      List.reverse_reverse]
  · intro h
    have hfeed :=
      List.all_eq_true.mp (List.all_takeWhile (l := cs.reverse)) _ (List.mem_reverse.mp h)
    simp at hfeed
  · cases hd : cs.reverse.dropWhile (· != '\n') with
    | nil => exact .inl rfl
    | cons c rest =>
      have hhead : c = '\n' := by
        have hne : cs.reverse.dropWhile (· != '\n') ≠ [] := by simp [hd]
        simpa [hd] using List.head_dropWhile_not (· != '\n') hne
      exact .inr ⟨rest.reverse, by rw [List.reverse_cons, hhead]⟩

/-- The last line of bytes that end in a line feed, with more bytes behind that. -/
theorem lastLine_append {front bytes : List UInt8} (hbytes : 0x0A ∉ bytes)
    (hfront : front = [] ∨ ∃ lines, front = lines ++ [0x0A]) :
    lastLine (front ++ bytes) = bytes := by
  have htake : ∀ b ∈ bytes.reverse, (b != 0x0A) = true := by
    intro b hb
    rw [bne_iff_ne]
    rintro rfl
    exact hbytes (List.mem_reverse.mp hb)
  have hstop : front.reverse.takeWhile (· != 0x0A) = [] := by
    rcases hfront with rfl | ⟨lines, rfl⟩
    · rfl
    · simp
  rw [lastLine, List.reverse_append, List.takeWhile_append_of_pos htake, hstop, List.append_nil,
    List.reverse_reverse]

/-- The last line of the bytes of whole characters and of one that was begun. -/
theorem lastLine_encode_append (cs : List Char) {more : List UInt8} (h : Utf8.Begun more) :
    lastLine (Utf8.encode cs ++ more) = Utf8.encode (behindLastFeed cs) ++ more := by
  obtain ⟨front, hcs, hfeed, hfront⟩ := exists_behindLastFeed cs
  have hsplit : Utf8.encode cs = Utf8.encode front ++ Utf8.encode (behindLastFeed cs) :=
    (congrArg _ hcs).trans (Utf8.encode_append _ _)
  rw [hsplit, List.append_assoc]
  apply lastLine_append
  · intro hmem
    rcases List.mem_append.mp hmem with hmem | hmem
    · obtain ⟨c, hc, hb⟩ := List.mem_flatMap.mp hmem
      have hcode := (Utf8.encodeChar_of_mem hb (by decide)).2
      have hc' : c = '\n' := by
        rw [← Char.ofNat_toNat c, hcode]
        rfl
      exact hfeed (hc' ▸ hc)
    · exact h.not_mem (by decide) hmem
  · rcases hfront with rfl | ⟨lines, rfl⟩
    · exact .inl rfl
    · refine .inr ⟨Utf8.encode lines, ?_⟩
      rw [Utf8.encode_append]
      rfl

/-! ### Offsets -/

/-- The offset that counts from one stands for the byte that counts from zero. -/
theorem LineColumn.ofOffset_succ (source : List Char) (start : Nat) :
    LineColumn.ofOffset source (start + 1 : Nat) = LineColumn.ofByte source start := by
  obtain ⟨more, hmore, hbegun⟩ := Utf8.exists_begun source start
  have hstart : (((start + 1 : Nat) : Int) - 1).toNat = start := by omega
  rw [ofOffset, ofByte, hstart]
  congr 2
  rw [hmore, lastLine_encode_append _ hbegun, Utf8.decodeSkipping_append hbegun]

/-- The place of a byte is the one behind the characters that end before it. -/
theorem LineColumn.ofByte_eq (source : List Char) (start : Nat) :
    ofByte source start = behind (Utf8.complete source start) := by
  obtain ⟨more, hmore, hbegun⟩ := Utf8.exists_begun source start
  have hfeeds : (Utf8.encode (Utf8.complete source start)).count 0x0A =
      (Utf8.complete source start).count '\n' := Utf8.count_encode (by decide) rfl _
  have hnone : more.count 0x0A = 0 := List.count_eq_zero.mpr (hbegun.not_mem (by decide))
  rw [ofByte, behind, hmore, List.count_append, hfeeds, hnone, Nat.add_zero]

/-- Only how far an offset is behind the first one counts; offsets before that stand for it. -/
theorem LineColumn.ofOffset_eq (source : List Char) (offset : Int) :
    ofOffset source offset = behind (Utf8.complete source (offset - 1).toNat) := by
  have hcount : (offset - 1).toNat = (((offset - 1).toNat + 1 : Nat) - 1 : Int).toNat := by omega
  rw [← ofByte_eq, ← ofOffset_succ, ofOffset, ofOffset, ← hcount]

/-- For every source and offset, the place is the one behind the most characters whose bytes end
before the offset. Inside a character it is the place of that character, and behind the source the
place behind its last character. -/
theorem LineColumn.ofOffset_by_characters (source : List Char) (offset : Int) :
    (∃ k, IsGreatest {n | n ≤ source.length ∧ ((Utf8.encode (source.take n)).length : Int) ≤
          max 0 (min (offset - 1) (Utf8.encode source).length)} k ∧
        ofOffset source offset = behind (source.take k)) ∧
      (∀ front c back, source = front ++ c :: back → (Utf8.encode front).length < offset →
        offset ≤ (Utf8.encode front).length + c.utf8Size →
          ofOffset source offset = behind front) ∧
      ((Utf8.encode source).length < offset → ofOffset source offset = behind source) := by
  refine ⟨⟨(Utf8.complete source (offset - 1).toNat).length, ?_, ?_⟩, ?_, ?_⟩
  · have hset : {n | n ≤ source.length ∧ ((Utf8.encode (source.take n)).length : Int) ≤
          max 0 (min (offset - 1) (Utf8.encode source).length)} =
        {n | n ≤ source.length ∧ (Utf8.encode (source.take n)).length ≤ (offset - 1).toNat} := by
      ext n
      have hle := Utf8.length_encode_take_le source n
      refine and_congr_right fun _ => ?_
      omega
    rw [hset]
    exact Utf8.isGreatest_complete source _
  · rw [← List.prefix_iff_eq_take.mp (Utf8.complete_isPrefix source _)]
    exact ofOffset_eq source offset
  · rintro front c back rfl hlow hhigh
    rw [ofOffset_eq, Utf8.complete_of_cut (by omega) (by omega)]
  · intro hbehind
    rw [ofOffset_eq, Utf8.complete_of_length_le (by omega)]

/-- Inside a character of three bytes, behind one of two, and behind the end. -/
theorem LineColumn.ofOffset_by_characters_inside :
    "a\né€".toList = "a\né".toList ++ '€' :: [] ∧
      ((Utf8.encode "a\né".toList).length : Int) < 6 ∧
      LineColumn.ofOffset "a\né€".toList 6 = ⟨2, 2⟩ ∧
      ((Utf8.encode "a\né€".toList).length : Int) < 9 ∧
      LineColumn.ofOffset "a\né€".toList 9 = ⟨2, 3⟩ := by
  obtain ⟨-, hinside, -⟩ := LineColumn.ofOffset_by_characters "a\né€".toList 6
  obtain ⟨-, -, hbehind⟩ := LineColumn.ofOffset_by_characters "a\né€".toList 9
  have hsplit : "a\né€".toList = "a\né".toList ++ '€' :: [] := by decide +kernel
  have hlow : ((Utf8.encode "a\né".toList).length : Int) < 6 := by decide +kernel
  have hhigh : (6 : Int) ≤ (Utf8.encode "a\né".toList).length + '€'.utf8Size := by decide +kernel
  have hend : ((Utf8.encode "a\né€".toList).length : Int) < 9 := by decide +kernel
  refine ⟨hsplit, hlow, ?_, hend, ?_⟩
  · rw [hinside "a\né".toList '€' [] hsplit hlow hhigh]
    decide +kernel
  · rw [hbehind hend]
    decide +kernel

/-- A problem starts at the place of the first byte of its span. -/
theorem Problem.start_ofDiagnostic (source : List Char) (owner : Owner) (d : Diagnostic) :
    (Problem.ofDiagnostic owner d).start source = LineColumn.ofByte source d.span.start :=
  LineColumn.ofOffset_succ source d.span.start

/-! ### Line ends -/

/-- No byte may be taken of a text that starts with a carriage return, if none is to be taken. -/
theorem eq_zero_of_return {cs : List Char} {count : Nat}
    (h : 0x0D ∉ (Utf8.encode ('\r' :: cs)).take count) : count = 0 := by
  cases count with
  | zero => rfl
  | succ count =>
    rw [Utf8.encode_cons] at h
    exact absurd List.mem_cons_self h

/-- Unified line ends leave the bytes before the first carriage return as they are. -/
theorem take_encode_unifyNewlines {cs : List Char} {count : Nat}
    (h : 0x0D ∉ (Utf8.encode cs).take count) :
    (Utf8.encode (unifyNewlines cs)).take count = (Utf8.encode cs).take count := by
  fun_induction unifyNewlines cs generalizing count with
  | case1 => rfl
  | case2 rest ih =>
    obtain rfl := eq_zero_of_return h
    rfl
  | case3 rest hfeed ih =>
    obtain rfl := eq_zero_of_return h
    rfl
  | case4 c rest hc hreturn ih =>
    rw [Utf8.encode_cons, List.take_append, List.mem_append, not_or] at h
    rw [Utf8.encode_cons, Utf8.encode_cons, List.take_append, List.take_append, ih h.2]

/-- The place of a byte depends on no byte from there on. -/
theorem LineColumn.ofByte_congr {source source' : List Char} {start : Nat}
    (h : (Utf8.encode source).take start = (Utf8.encode source').take start) :
    ofByte source start = ofByte source' start := by
  rw [← ofOffset_succ, ← ofOffset_succ, ofOffset, ofOffset]
  have hstart : (((start + 1 : Nat) : Int) - 1).toNat = start := by omega
  rw [hstart, h]

end LintBridge
