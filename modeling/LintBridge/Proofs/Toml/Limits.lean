import LintBridge.Proofs.Text.Newline
import LintBridge.Proofs.Toml.Number
import LintBridge.Toml.Document

/-!
The limits of the reader of documents.

A document is refused for its depth only if its brackets could take up more room than there is, and
for a numeral only if a numeral that is too long stands in it (`refused_of_read`). The fuel of the nested
readers is no limit of its own: each of them is given two for every character that is left, and each
step down or to the next item takes a character (`reads_nested`).
-/

namespace LintBridge.Toml

variable {room : Nat}

/-! ### Values -/

theorem reads_atPlace {α : Type} (left : Nat) (made : Except Flaw α) (cs : List Char) :
    Reads cs room (fun _ => cs) (atPlace left made) := by
  cases made with
  | ok a => exact .ok (List.suffix_refl cs)
  | error flaw => exact .broken flaw left

theorem readTruth?_suffix {cs rest : List Char} {v : Value} (h : readTruth? cs = some (v, rest)) :
    rest <:+ cs := by
  unfold readTruth? at h
  split at h
  · next hword =>
    cases h
    rw [Text.isPrefixOf?_eq_some hword]
    exact List.suffix_append _ rest
  · obtain ⟨after, hword, heq⟩ := Option.map_eq_some_iff.mp h
    cases heq
    rw [Text.isPrefixOf?_eq_some hword]
    exact List.suffix_append _ rest

theorem reads_readScalar (cs : List Char) : Reads cs room Prod.snd (readScalar cs) := by
  unfold readScalar
  split
  · exact .broken _ _
  · next c rest =>
    split
    · refine ((reads_readText c rest).bind fun ⟨content, after⟩ _ => ?_).of_suffix
        (List.suffix_cons c rest)
      exact .ok (List.suffix_refl after)
    · split
      · next found hword => exact .ok (readTruth?_suffix hword)
      · split
        · next reading hnumeric => exact reads_readNumeric? hnumeric
        · exact .broken _ _

theorem reads_skipEquals (cs : List Char) : Reads cs room id (skipEquals cs) := by
  unfold skipEquals
  split
  · next rest => exact .ok ((skipBlanks_suffix rest).trans (List.suffix_cons '=' rest))
  · exact .broken _ _

/-- A bracket takes up room of its own. -/
theorem Reads.below {α : Type} {cs rest : List Char} (used : Nat) {left : α → List Char}
    {reading : Except Stop α} (h : Reads rest (room - used) left reading) (hrest : rest <:+ cs)
    (hused : used ≤ room) (hroom : roomFor rest + used ≤ roomFor cs) :
    Reads cs room left reading :=
  h.mono hrest fun hlt => by omega

theorem roomFor_array (cs : List Char) : roomFor ('[' :: cs) = roomFor cs + 2 := by
  simp [roomFor]
  omega

theorem roomFor_table (cs : List Char) : roomFor ('\x7b' :: cs) = roomFor cs + 3 := by
  simp [roomFor]
  omega

/-- What is read with `fuel` stays within the room: two steps of it for each character that is left,
and one more for a value, two more for the items or entries behind a bracket. -/
structure ReadsNested (fuel : Nat) : Prop where
  value : ∀ room cs, 2 * cs.length + 1 ≤ fuel → Reads cs room Prod.snd (readValue fuel room cs)
  items : ∀ room cs, 2 * cs.length + 2 ≤ fuel → Reads cs room Prod.snd (readItems fuel room cs)
  members : ∀ room marks entries cs, 2 * cs.length + 2 ≤ fuel →
    Reads cs room Prod.snd (readMembers fuel room marks entries cs)

namespace ReadsNested

variable {fuel : Nat}

theorem array_succ (ih : ReadsNested fuel) {rest : List Char}
    (hfuel : 2 * ('[' :: rest).length + 1 ≤ fuel + 1) :
    Reads ('[' :: rest) room Prod.snd (readValue (fuel + 1) room ('[' :: rest)) := by
  rw [List.length_cons] at hfuel
  have hrest : rest <:+ '[' :: rest := List.suffix_cons '[' rest
  rw [readValue]
  split
  · next hroom =>
    refine .error (.tooDeep ?_)
    rw [roomFor_array]
    omega
  · next hroom =>
    refine Reads.below 2 ?_ hrest (by omega) (Nat.le_of_eq (roomFor_array rest).symm)
    refine (reads_skipGaps _ rest).bind fun items hitems => ?_
    split
    · next after => exact .ok (List.suffix_cons ']' after)
    · have hle : items.length ≤ rest.length := hitems.length_le
      refine (ih.items _ items (by omega)).bind fun ⟨values, after⟩ _ => ?_
      exact .ok (List.suffix_refl after)

theorem table_succ (ih : ReadsNested fuel) {rest : List Char}
    (hfuel : 2 * ('\x7b' :: rest).length + 1 ≤ fuel + 1) :
    Reads ('\x7b' :: rest) room Prod.snd (readValue (fuel + 1) room ('\x7b' :: rest)) := by
  rw [List.length_cons] at hfuel
  have hrest : rest <:+ '\x7b' :: rest := List.suffix_cons '\x7b' rest
  have hblanks : skipBlanks rest <:+ rest := skipBlanks_suffix rest
  have hle : (skipBlanks rest).length ≤ rest.length := hblanks.length_le
  rw [readValue]
  split
  · next hroom =>
    refine .error (.tooDeep ?_)
    rw [roomFor_table]
    omega
  · next hroom =>
    refine Reads.below 3 ?_ hrest (by omega) (Nat.le_of_eq (roomFor_table rest).symm)
    refine Reads.of_suffix ?_ hblanks
    split
    · next after heq => exact .ok (heq ▸ List.suffix_cons '\x7d' after)
    · refine (ih.members _ _ _ _ (by omega)).bind fun ⟨entries, after⟩ _ => ?_
      exact .ok (List.suffix_refl after)

theorem value_succ (ih : ReadsNested fuel) (room : Nat) (cs : List Char)
    (hfuel : 2 * cs.length + 1 ≤ fuel + 1) :
    Reads cs room Prod.snd (readValue (fuel + 1) room cs) := by
  rw [readValue.eq_def]
  split
  case h_1 hzero => cases hzero
  case h_2 fuel' rest hfuel' =>
    cases hfuel'
    exact ih.array_succ hfuel
  case h_3 fuel' rest hfuel' =>
    cases hfuel'
    exact ih.table_succ hfuel
  case h_4 => exact reads_readScalar _

theorem items_succ (ih : ReadsNested fuel) (room : Nat) (cs : List Char)
    (hfuel : 2 * cs.length + 2 ≤ fuel + 1) :
    Reads cs room Prod.snd (readItems (fuel + 1) room cs) := by
  rw [readItems]
  refine (ih.value room cs (by omega)).bind fun ⟨value, rest⟩ hrest => ?_
  refine (reads_skipGaps _ rest).bind fun behind hbehind => ?_
  split
  · next after => exact .ok (List.suffix_cons ']' after)
  · next more =>
    refine Reads.of_suffix ?_ (List.suffix_cons ',' more)
    refine (reads_skipGaps _ more).bind fun items hitems => ?_
    split
    · next after => exact .ok (List.suffix_cons ']' after)
    · have hlength : items.length + 1 ≤ cs.length :=
        calc items.length + 1 ≤ more.length + 1 := Nat.succ_le_succ hitems.length_le
          _ ≤ rest.length := hbehind.length_le
          _ ≤ cs.length := hrest.length_le
      refine (ih.items room items (by omega)).bind fun ⟨values, after⟩ _ => ?_
      exact .ok (List.suffix_refl after)
  · exact .broken _ _

theorem members_succ (ih : ReadsNested fuel) (room : Nat) (marks : Marks) (entries : Entries)
    (cs : List Char) (hfuel : 2 * cs.length + 2 ≤ fuel + 1) :
    Reads cs room Prod.snd (readMembers (fuel + 1) room marks entries cs) := by
  rw [readMembers]
  refine (reads_readKey _ cs).bind fun ⟨key, rest⟩ hkey => ?_
  refine (reads_skipEquals rest).bind fun body hbody => ?_
  have hlength : body.length ≤ cs.length := Nat.le_trans hbody.length_le hkey.length_le
  refine (ih.value room body (by omega)).bind fun ⟨value, behind⟩ hvalue => ?_
  have hblanks := skipBlanks_suffix behind
  dsimp only at hvalue ⊢
  split
  · exact .broken _ _
  · refine (reads_atPlace _ _ behind).bind fun entries _ => ?_
    split
    · next after heq =>
      rw [heq] at hblanks
      exact .ok ((List.suffix_cons '\x7d' after).trans hblanks)
    · next more heq =>
      rw [heq] at hblanks
      have hmore : skipBlanks more <:+ more := skipBlanks_suffix more
      have hshorter : (skipBlanks more).length + 1 ≤ cs.length :=
        calc (skipBlanks more).length + 1 ≤ more.length + 1 := Nat.succ_le_succ hmore.length_le
          _ ≤ behind.length := hblanks.length_le
          _ ≤ body.length := hvalue.length_le
          _ ≤ cs.length := hlength
      exact (ih.members room _ _ _ (by omega)).of_suffix
        (hmore.trans ((List.suffix_cons ',' more).trans hblanks))
    · exact .broken _ _

theorem succ (ih : ReadsNested fuel) : ReadsNested (fuel + 1) where
  value := ih.value_succ
  items := ih.items_succ
  members := ih.members_succ

end ReadsNested

/-- The nested readers, whatever the fuel. -/
theorem reads_nested (fuel : Nat) : ReadsNested fuel := by
  induction fuel with
  | zero =>
    exact ⟨fun _ _ h => by omega, fun _ _ h => by omega, fun _ _ _ _ h => by omega⟩
  | succ fuel ih => exact ih.succ

theorem reads_readEntry (cs : List Char) : Reads cs nestingRoom Prod.snd (readEntry cs) := by
  refine (reads_readKey _ cs).bind fun ⟨key, rest⟩ hkey => ?_
  refine (reads_skipEquals rest).bind fun body hbody => ?_
  have hlength : body.length ≤ cs.length := Nat.le_trans hbody.length_le hkey.length_le
  refine ((reads_nested _).value nestingRoom body (by omega)).bind fun ⟨value, after⟩ _ => ?_
  exact .ok (List.suffix_refl after)

/-! ### Statements -/

namespace Document

theorem reads_addEntry (d : Document) (key : Key) (value : Value) (left : Nat) (cs : List Char) :
    Reads cs room (fun _ => cs) (d.addEntry key value left) := by
  unfold addEntry
  dsimp only
  split
  · exact .broken _ _
  · split
    · exact .broken _ _
    · exact (reads_atPlace _ _ cs).bind fun entries _ => .ok (List.suffix_refl cs)

theorem reads_readHeader (d : Document) (cs : List Char) :
    Reads cs room Prod.snd (d.readHeader cs) := by
  refine Reads.of_suffix ?_ (skipBlanks_suffix cs)
  refine (reads_readKey _ (skipBlanks cs)).bind fun ⟨key, rest⟩ _ => ?_
  dsimp only
  split
  · exact .broken _ _
  · refine (reads_atPlace _ _ rest).bind fun entries _ => ?_
    split
    · exact .ok (List.suffix_cons ']' _)
    · exact .broken _ _

theorem reads_readArrayHeader (d : Document) (cs : List Char) :
    Reads cs room Prod.snd (d.readArrayHeader cs) := by
  refine Reads.of_suffix ?_ (skipBlanks_suffix cs)
  refine (reads_readKey _ (skipBlanks cs)).bind fun ⟨key, rest⟩ _ => ?_
  dsimp only
  split
  · exact .broken _ _
  · refine (reads_atPlace _ _ rest).bind fun entries _ => ?_
    split
    · exact .ok ⟨[']', ']'], rfl⟩
    · exact .broken _ _

theorem reads_readStatement (d : Document) (cs : List Char) :
    Reads cs nestingRoom Prod.snd (d.readStatement cs) := by
  unfold readStatement
  split
  · exact .ok (List.suffix_refl _)
  · next c rest =>
    split
    · refine (reads_readEntry (c :: rest)).bind fun ⟨⟨key, value⟩, after⟩ _ => ?_
      exact (reads_addEntry d key value after.length after).bind fun _ _ =>
        .ok (List.suffix_refl after)
    · split
      · dsimp only
        split
        · next more => exact (reads_readArrayHeader _ more).of_suffix ⟨[c, '['], rfl⟩
        · exact (reads_readHeader _ rest).of_suffix (List.suffix_cons c rest)
      · split
        · exact .ok (List.suffix_refl _)
        · exact .broken _ _

theorem reads_readStatements (fuel : Nat) (d : Document) (cs : List Char) :
    Reads cs nestingRoom (fun _ => []) (readStatements fuel d cs) := by
  induction fuel generalizing d cs with
  | zero => exact .ok List.nil_suffix
  | succ fuel ih =>
    refine Reads.of_suffix ?_ (skipBlanks_suffix cs)
    refine (reads_readStatement d (skipBlanks cs)).bind fun ⟨d', rest⟩ _ => ?_
    refine ((reads_skipComment (skipBlanks rest)).of_suffix (skipBlanks_suffix rest)).bind
      fun behind _ => ?_
    split
    · exact .ok List.nil_suffix
    · exact (ih d' _).of_suffix (List.suffix_cons '\n' _)
    · exact .broken _ _

end Document

/-! ### Documents -/

theorem roomFor_joinReturns (cs : List Char) : roomFor (Text.joinReturns cs) = roomFor cs := by
  simp only [roomFor, Text.count_joinReturns (c := '[') (by decide),
    Text.count_joinReturns (c := '\x7b') (by decide)]

/-- Why a document is refused: for a flaw, or because of one of the limits, which the text shows. -/
inductive Refused (cs : List Char) : ReadError → Prop
  | malformed (flaw : Flaw) (place : Place) : Refused cs (.malformed flaw place)
  | numeralTooLong {numeral : List Char} : numeral <:+: cs → IsLongNumeral numeral →
      Refused cs (.numeralTooLong (numeral.countP Char.isDigit))
  | tooDeep : nestingRoom < roomFor cs → Refused cs .tooDeep

theorem refused_of_read {cs : List Char} {e : ReadError} (h : read cs = .error e) : Refused cs e := by
  unfold read at h
  dsimp only at h
  split at h
  · cases h
  · next stop hstop =>
    have hshown := (Document.reads_readStatements _ _ _).stop stop hstop
    cases h
    cases hshown with
    | broken flaw left => exact .malformed flaw _
    | numeralTooLong hwithin hlong =>
      refine .numeralTooLong (Text.infix_of_joinReturns (fun hmem => ?_) hwithin) hlong
      rcases hlong.grouped _ hmem with hdigit | hunderscore
      · cases hdigit
      · cases hunderscore
    | tooDeep hroom => exact .tooDeep (roomFor_joinReturns cs ▸ hroom)

theorem numeral_of_tooLong {cs : List Char} {k : Nat} (h : read cs = .error (.numeralTooLong k)) :
    ∃ numeral, numeral <:+: cs ∧ IsLongNumeral numeral ∧ numeral.countP Char.isDigit = k := by
  cases refused_of_read h with
  | numeralTooLong hwithin hlong => exact ⟨_, hwithin, hlong, rfl⟩

theorem room_of_tooDeep {cs : List Char} (h : read cs = .error .tooDeep) :
    nestingRoom < roomFor cs := by
  cases refused_of_read h with
  | tooDeep hroom => exact hroom

end LintBridge.Toml
