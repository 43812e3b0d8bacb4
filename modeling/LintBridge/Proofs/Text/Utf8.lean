import LintBridge.Text.Utf8
import Mathlib.Order.Bounds.Defs

/-!
Reading back what is written as UTF-8.

The bytes of a character are one byte, or a byte that begins the character and bytes that lead on to
it (`exists_start`). So behind the bytes of whole characters a scan goes on as if it started there
(`scan_encode_append`), and of the first bytes of one more character it makes a single damaged
stretch (`scan_take_char`). Decoding undoes encoding, and what is cut off inside a character leaves
the characters before: the most whose bytes are all there (`isGreatest_complete`).
-/

namespace LintBridge.Text.Utf8

/-! ### The bytes of one character -/

/-- Bytes that carry a character begun on to its end. -/
inductive Leads (c : Char) : Pending → List UInt8 → Prop where
  | last {p : Pending} {b : UInt8} (hwindow : p.low ≤ b.toNat ∧ b.toNat ≤ p.high)
      (howed : p.owed = 1) (hc : Char.ofNat (p.bits * 64 + (b.toNat - 0x80)) = c) : Leads c p [b]
  | more {p : Pending} {b : UInt8} {tail : List UInt8}
      (hwindow : p.low ≤ b.toNat ∧ b.toNat ≤ p.high) (howed : p.owed ≠ 1)
      (h : Leads c ⟨p.bits * 64 + (b.toNat - 0x80), p.owed - 1, 0x80, 0xBF, p.seen + 1⟩ tail) :
      Leads c p (b :: tail)

theorem toNat_ofNat_of_lt {n : Nat} (h : n < 256) : (UInt8.ofNat n).toNat = n := by
  rw [UInt8.toNat_ofNat']
  exact Nat.mod_eq_of_lt h

/-- A character is below the end of all code points, and none of the surrogates. -/
theorem toNat_valid (c : Char) :
    c.toNat < 0x110000 ∧ ¬ (0xD800 ≤ c.toNat ∧ c.toNat ≤ 0xDFFF) := by
  rcases c.valid with h | ⟨h, h'⟩
  · have hlow : c.toNat < 0xD800 := h
    omega
  · have hlow : 0xDFFF < c.toNat := h
    have hhigh : c.toNat < 0x110000 := h'
    omega

/-- A byte that is owed holds six bits of a code point. -/
theorem toNat_owed (n : Nat) : (UInt8.ofNat (n % 64 + 128)).toNat = n % 64 + 128 :=
  toNat_ofNat_of_lt (by omega)

theorem start_two {n : Nat} (h : 0x80 ≤ n ∧ n ≤ 0x7FF) :
    start (UInt8.ofNat (n / 64 % 32 + 192)).toNat = .inr ⟨n / 64, 1, 0x80, 0xBF, 1⟩ := by
  have hbits : n / 64 % 32 + 192 - 0xC0 = n / 64 := by omega
  rw [toNat_ofNat_of_lt (by omega), start, if_neg (by omega), if_neg (by omega), if_pos (by omega),
    hbits]

theorem start_three {n : Nat} (h : 0x800 ≤ n ∧ n ≤ 0xFFFF) :
    start (UInt8.ofNat (n / 4096 % 16 + 224)).toNat =
      .inr ⟨n / 4096, 2, if n / 4096 = 0 then 0xA0 else 0x80,
        if n / 4096 = 0xD then 0x9F else 0xBF, 1⟩ := by
  have hbits : n / 4096 % 16 + 224 - 0xE0 = n / 4096 := by omega
  have hlow : n / 4096 % 16 + 224 = 0xE0 ↔ n / 4096 = 0 := by omega
  have hhigh : n / 4096 % 16 + 224 = 0xED ↔ n / 4096 = 0xD := by omega
  rw [toNat_ofNat_of_lt (by omega), start, if_neg (by omega), if_neg (by omega), if_neg (by omega),
    if_pos (by omega), hbits]
  simp only [hlow, hhigh]

theorem start_four {n : Nat} (h : 0x10000 ≤ n ∧ n < 0x110000) :
    start (UInt8.ofNat (n / 262144 % 8 + 240)).toNat =
      .inr ⟨n / 262144, 3, if n / 262144 = 0 then 0x90 else 0x80,
        if n / 262144 = 4 then 0x8F else 0xBF, 1⟩ := by
  have hbits : n / 262144 % 8 + 240 - 0xF0 = n / 262144 := by omega
  have hlow : n / 262144 % 8 + 240 = 0xF0 ↔ n / 262144 = 0 := by omega
  have hhigh : n / 262144 % 8 + 240 = 0xF4 ↔ n / 262144 = 4 := by omega
  rw [toNat_ofNat_of_lt (by omega), start, if_neg (by omega), if_neg (by omega), if_neg (by omega),
    if_neg (by omega), if_pos (by omega), hbits]
  simp only [hlow, hhigh]

/-- The bytes of a character, by its code point. -/
theorem encodeChar_eq (c : Char) : String.utf8EncodeChar c =
    if c.toNat ≤ 127 then [UInt8.ofNat c.toNat]
    else if c.toNat ≤ 2047 then
      [UInt8.ofNat (c.toNat / 64 % 32 + 192), UInt8.ofNat (c.toNat % 64 + 128)]
    else if c.toNat ≤ 65535 then
      [UInt8.ofNat (c.toNat / 4096 % 16 + 224), UInt8.ofNat (c.toNat / 64 % 64 + 128),
        UInt8.ofNat (c.toNat % 64 + 128)]
    else
      [UInt8.ofNat (c.toNat / 262144 % 8 + 240), UInt8.ofNat (c.toNat / 4096 % 64 + 128),
        UInt8.ofNat (c.toNat / 64 % 64 + 128), UInt8.ofNat (c.toNat % 64 + 128)] := rfl

/-- A byte below the ones that begin or go on is a character of its own. -/
theorem encodeChar_of_mem {c : Char} {b : UInt8} (h : b ∈ String.utf8EncodeChar c)
    (hb : b.toNat < 128) : String.utf8EncodeChar c = [b] ∧ c.toNat = b.toNat := by
  have hc := toNat_valid c
  rw [encodeChar_eq] at h ⊢
  split at h
  · next hle =>
    obtain rfl := List.mem_singleton.mp h
    rw [if_pos hle, toNat_ofNat_of_lt (by omega)]
    exact ⟨rfl, rfl⟩
  · -- all other bytes are too high
    exfalso
    have hhigh {n : Nat} (hn : 128 ≤ n ∧ n < 256) : b ≠ UInt8.ofNat n := by
      rintro rfl
      rw [toNat_ofNat_of_lt hn.2] at hb
      omega
    split at h
    · simp only [List.mem_cons, List.not_mem_nil, or_false] at h
      rcases h with h | h <;> exact hhigh (by omega) h
    split at h
    · simp only [List.mem_cons, List.not_mem_nil, or_false] at h
      rcases h with h | h | h <;> exact hhigh (by omega) h
    · simp only [List.mem_cons, List.not_mem_nil, or_false] at h
      rcases h with h | h | h | h <;> exact hhigh (by omega) h

/-- A character is one byte, or a byte that begins it and bytes that lead on to it. -/
theorem exists_start (c : Char) :
    (∃ b, String.utf8EncodeChar c = [b] ∧ start b.toNat = .inl (.char c)) ∨
      ∃ b p tail, String.utf8EncodeChar c = b :: tail ∧ start b.toNat = .inr p ∧ p.seen = 1 ∧
        Leads c p tail := by
  obtain ⟨hlt, hsurrogate⟩ := toNat_valid c
  have hvalue {n : Nat} (h : n = c.toNat) : Char.ofNat n = c := by rw [h, Char.ofNat_toNat]
  have hbytes := encodeChar_eq c
  generalize c.toNat = n at *
  split at hbytes
  · refine .inl ⟨_, hbytes, ?_⟩
    rw [toNat_ofNat_of_lt (by omega), start, if_pos (by omega), hvalue rfl]
  split at hbytes
  · refine .inr ⟨_, _, _, hbytes, start_two (by omega), rfl, ?_⟩
    refine .last ?_ rfl (hvalue ?_) <;> simp only [toNat_owed] <;> omega
  split at hbytes
  · refine .inr ⟨_, _, _, hbytes, start_three (by omega), rfl, ?_⟩
    refine .more ?_ (by simp) (.last ?_ rfl (hvalue ?_)) <;> simp only [toNat_owed]
    · split <;> split <;> omega
    · omega
    · omega
  · refine .inr ⟨_, _, _, hbytes, start_four (by omega), rfl, ?_⟩
    refine .more ?_ (by simp) (.more ?_ (by simp) (.last ?_ rfl (hvalue ?_))) <;>
      simp only [toNat_owed]
    · split <;> split <;> omega
    · omega
    · omega
    · omega

/-! ### Scans -/

/-- Bytes that lead on to a character end it, whatever follows. -/
theorem Leads.scanFrom_append {c : Char} {p : Pending} {tail : List UInt8} (h : Leads c p tail)
    (rest : List UInt8) : scanFrom (some p) (tail ++ rest) = .char c :: scanFrom none rest := by
  induction h with
  | last hwindow howed hc =>
    rw [List.singleton_append, scanFrom, if_pos hwindow]
    simp only [howed, if_true, hc]
  | more hwindow howed h ih =>
    rw [List.cons_append, scanFrom, if_pos hwindow]
    simp only [if_neg howed]
    exact ih

/-- Where such bytes are cut off, all that has been read is damaged. -/
theorem Leads.scanFrom_take {c : Char} {p : Pending} {tail : List UInt8} (h : Leads c p tail)
    {count : Nat} (hcount : count < tail.length) :
    scanFrom (some p) (tail.take count) = [.damage .endOfData (p.seen + count)] := by
  induction h generalizing count with
  | last hwindow howed hc =>
    obtain rfl : count = 0 := by simpa using hcount
    rfl
  | @more p b tail hwindow howed h ih =>
    cases count with
    | zero => rfl
    | succ count =>
      rw [List.take_succ_cons, scanFrom, if_pos hwindow]
      simp only [if_neg howed]
      rw [ih (by simpa using hcount)]
      simp only [Nat.add_assoc, Nat.add_comm 1 count]

theorem scan_char_append (c : Char) (rest : List UInt8) :
    scan (String.utf8EncodeChar c ++ rest) = .char c :: scan rest := by
  unfold scan
  rcases exists_start c with ⟨b, hbytes, hstart⟩ | ⟨b, p, tail, hbytes, hstart, -, hleads⟩
  · rw [hbytes, List.singleton_append, scanFrom, hstart]
  · rw [hbytes, List.cons_append, scanFrom, hstart]
    exact hleads.scanFrom_append rest

/-- The first bytes of a character, short of all of them, are one damaged stretch. -/
theorem scan_take_char {c : Char} {count : Nat} (hpos : 0 < count) (hcount : count < c.utf8Size) :
    scan ((String.utf8EncodeChar c).take count) = [.damage .endOfData count] := by
  obtain ⟨count, rfl⟩ : ∃ n, count = n + 1 := ⟨count - 1, by omega⟩
  rw [← String.length_utf8EncodeChar] at hcount
  unfold scan
  rcases exists_start c with ⟨b, hbytes, hstart⟩ | ⟨b, p, tail, hbytes, hstart, hseen, hleads⟩
  · rw [hbytes, List.length_singleton] at hcount
    omega
  · rw [hbytes] at hcount
    rw [hbytes, List.take_succ_cons, scanFrom, hstart]
    show scanFrom (some p) (tail.take count) = _
    rw [hleads.scanFrom_take (by simpa using hcount), hseen, Nat.add_comm]

theorem encode_cons (c : Char) (cs : List Char) :
    encode (c :: cs) = String.utf8EncodeChar c ++ encode cs :=
  List.flatMap_cons

theorem encode_append (cs ds : List Char) : encode (cs ++ ds) = encode cs ++ encode ds :=
  List.flatMap_append

/-- Behind whole characters a scan goes on as if it started there. -/
theorem scan_encode_append (cs : List Char) (rest : List UInt8) :
    scan (encode cs ++ rest) = cs.map .char ++ scan rest := by
  induction cs with
  | nil => rfl
  | cons c cs ih =>
    rw [encode_cons, List.append_assoc, scan_char_append, ih]
    rfl

/-- A byte of a character that takes one byte stands only where the character stands. -/
theorem count_encode {c : Char} {b : UInt8} (hb : b.toNat < 128) (hc : c.toNat = b.toNat)
    (cs : List Char) : (encode cs).count b = cs.count c := by
  induction cs with
  | nil => rfl
  | cons d cs ih =>
    rw [encode_cons, List.count_append, ih, List.count_cons, Nat.add_comm]
    congr 1
    by_cases hd : d = c
    · subst hd
      rw [encodeChar_eq, if_pos (by omega), hc, UInt8.ofNat_toNat]
      simp
    · rw [if_neg (by simpa using hd), List.count_eq_zero]
      intro hmem
      have hcode := (encodeChar_of_mem hmem hb).2
      exact hd (Char.toNat_inj.mp (hcode.trans hc.symm))

/-! ### Decoding -/

theorem decodePieces_chars (position : Nat) (cs : List Char) :
    decodePieces position (cs.map .char) = .ok cs := by
  induction cs generalizing position with
  | nil => rfl
  | cons c cs ih =>
    rw [List.map_cons, decodePieces, ih]
    rfl

/-- Decoding undoes encoding. -/
theorem decode_encode (cs : List Char) : decode (encode cs) = .ok cs := by
  have hscan : scan (encode cs) = cs.map .char := by
    simpa [scan, scanFrom] using scan_encode_append cs []
  rw [decode, hscan, decodePieces_chars]

/-! ### The first bytes of a text -/

/-- The characters that end within the first `count` bytes of a text. -/
def complete : List Char → Nat → List Char
  | [], _ => []
  | c :: cs, count => if c.utf8Size ≤ count then c :: complete cs (count - c.utf8Size) else []

theorem complete_isPrefix (cs : List Char) (count : Nat) : complete cs count <+: cs := by
  induction cs generalizing count with
  | nil => exact List.prefix_refl []
  | cons c cs ih =>
    rw [complete]
    split
    · exact List.cons_prefix_cons.mpr ⟨rfl, ih _⟩
    · exact List.nil_prefix

/-- More bytes take the same characters, and perhaps more behind them. -/
theorem complete_mono {count count' : Nat} (h : count ≤ count') (cs : List Char) :
    complete cs count <+: complete cs count' := by
  induction cs generalizing count count' with
  | nil => exact List.prefix_refl []
  | cons c cs ih =>
    rw [complete, complete]
    split
    · rw [if_pos (by omega)]
      exact List.cons_prefix_cons.mpr ⟨rfl, ih (by omega)⟩
    · exact List.nil_prefix

theorem length_encode_complete_le (cs : List Char) (count : Nat) :
    (encode (complete cs count)).length ≤ count := by
  induction cs generalizing count with
  | nil => exact Nat.zero_le count
  | cons c cs ih =>
    rw [complete]
    split
    · next hfits =>
      have hrest := ih (count - c.utf8Size)
      rw [encode_cons, List.length_append, String.length_utf8EncodeChar]
      omega
    · exact Nat.zero_le count

/-- Characters whose bytes fit are taken, and then as many more as fit behind them. -/
theorem complete_append {front : List Char} {count : Nat} (h : (encode front).length ≤ count)
    (rest : List Char) :
    complete (front ++ rest) count = front ++ complete rest (count - (encode front).length) := by
  induction front generalizing count with
  | nil => rfl
  | cons c front ih =>
    rw [encode_cons, List.length_append, String.length_utf8EncodeChar] at h ⊢
    rw [List.cons_append, complete, if_pos (by omega), ih (by omega), Nat.sub_sub]
    rfl

/-- Bytes that reach into a character and not to its end take the characters before it. -/
theorem complete_of_cut {front : List Char} {c : Char} {count : Nat}
    (hfront : (encode front).length ≤ count) (hcut : count < (encode front).length + c.utf8Size)
    (back : List Char) : complete (front ++ c :: back) count = front := by
  rw [complete_append hfront, complete, if_neg (by omega), List.append_nil]

theorem complete_of_length_le {cs : List Char} {count : Nat} (h : (encode cs).length ≤ count) :
    complete cs count = cs := by
  have hall := complete_append h []
  rwa [List.append_nil, complete, List.append_nil] at hall

/-- As many bytes as characters in front take up take these characters. -/
theorem complete_length_encode (front back : List Char) :
    complete (front ++ back) (encode front).length = front := by
  cases back with
  | nil =>
    rw [List.append_nil]
    exact complete_of_length_le (Nat.le_refl _)
  | cons c back => exact complete_of_cut (Nat.le_refl _) (by have := c.utf8Size_pos; omega) back

theorem length_encode_take_le (cs : List Char) (k : Nat) :
    (encode (cs.take k)).length ≤ (encode cs).length := by
  have hsplit := encode_append (cs.take k) (cs.drop k)
  rw [List.take_append_drop] at hsplit
  rw [hsplit, List.length_append]
  exact Nat.le_add_right _ _

/-- The characters that end within a number of bytes are as many as fit into it. -/
theorem isGreatest_complete (cs : List Char) (count : Nat) :
    IsGreatest {k | k ≤ cs.length ∧ (encode (cs.take k)).length ≤ count}
      (complete cs count).length := by
  have htaken := complete_isPrefix cs count
  refine ⟨⟨htaken.length_le, ?_⟩, ?_⟩
  · rw [← List.prefix_iff_eq_take.mp htaken]
    exact length_encode_complete_le cs count
  · rintro k ⟨hk, hfits⟩
    have hmore := complete_append hfits (cs.drop k)
    rw [List.take_append_drop] at hmore
    rw [hmore, List.length_append, List.length_take_of_le hk]
    exact Nat.le_add_right _ _

/-- Bytes of a character that was begun, short of all of them; or none. -/
def Begun (bytes : List UInt8) : Prop :=
  bytes = [] ∨ ∃ c count, 0 < count ∧ count < c.utf8Size ∧
    bytes = (String.utf8EncodeChar c).take count

/-- The first bytes of a text are those of whole characters and of one that was begun. -/
theorem exists_begun (cs : List Char) (count : Nat) :
    ∃ more, (encode cs).take count = encode (complete cs count) ++ more ∧ Begun more := by
  induction cs generalizing count with
  | nil => exact ⟨[], by simp [encode, complete], .inl rfl⟩
  | cons c cs ih =>
    rw [complete, encode_cons]
    split
    · next hfits =>
      obtain ⟨more, hmore, hbegun⟩ := ih (count - c.utf8Size)
      refine ⟨more, ?_, hbegun⟩
      rw [List.take_append, String.length_utf8EncodeChar,
        List.take_of_length_le (by rw [String.length_utf8EncodeChar]; exact hfits)]
      rw [hmore, encode_cons, List.append_assoc]
    · next hcut =>
      refine ⟨(String.utf8EncodeChar c).take count, ?_, ?_⟩
      · exact List.take_append_of_le_length (by rw [String.length_utf8EncodeChar]; omega)
      · cases count with
        | zero => exact .inl rfl
        | succ count => exact .inr ⟨c, count + 1, by omega, by omega, rfl⟩

/-- What was begun behind whole characters is skipped. -/
theorem decodeSkipping_append {bytes : List UInt8} (h : Begun bytes) (cs : List Char) :
    decodeSkipping (encode cs ++ bytes) = cs := by
  have hskip : decodeSkipping bytes = [] := by
    rcases h with rfl | ⟨c, count, hpos, hcount, rfl⟩
    · rfl
    · rw [decodeSkipping, scan_take_char hpos hcount]
      rfl
  rw [decodeSkipping] at hskip ⊢
  rw [scan_encode_append, List.filterMap_append, hskip, List.append_nil, List.filterMap_map]
  exact List.filterMap_some

/-- A character that takes one byte is not begun before it is whole. -/
theorem Begun.not_mem {bytes : List UInt8} (h : Begun bytes) {b : UInt8} (hb : b.toNat < 128) :
    b ∉ bytes := by
  intro hmem
  rcases h with rfl | ⟨c, count, hpos, hcount, rfl⟩
  · cases hmem
  · have hone := (encodeChar_of_mem (List.mem_of_mem_take hmem) hb).1
    rw [← String.length_utf8EncodeChar, hone, List.length_singleton] at hcount
    omega

end LintBridge.Text.Utf8
