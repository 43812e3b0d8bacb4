import LintBridge.Machine.Description
import LintBridge.Proofs.Machine.Lookup
import LintBridge.Proofs.Machine.Ran
import LintBridge.Proofs.Text.Utf8
import LintBridge.Proofs.Toml.Excess
import LintBridge.Settings.Load

/-!
How the loading of settings fails, by the content of the project file.

Whatever stands in a file that can be read, settings are loaded from it or it is told as bad, but
for three cases: bytes that are no UTF-8, and documents beyond one of the two limits of the reader
(`load_fails_by_content`). These three are errors of their own, which a command does not take for
bad settings, although the fault lies in what the file says.
-/

namespace LintBridge.Settings

open Toml (EndsLine IsBareKey IsLongNumeral IsLongRun entryText nestingRoom roomFor)

variable {m : Machine} {root : Option String} {environment : List (String × String)}
  {bytes : List UInt8}

/-- The project file that settings are loaded from. -/
def projectFile (m : Machine) (root : Option String) : Path :=
  (match root with
  | some text => Path.parse text
  | none => m.cwdPath).join fileName

/-- Why settings are not loaded from a file of these bytes. -/
inductive LoadFails (bytes : List UInt8) : LoadError → Prop
  | config {e : LoadError} : e.isConfig = true → LoadFails bytes e
  | undecodable {e : Text.Utf8.DecodeError} : Text.Utf8.decode bytes = .error e →
      LoadFails bytes (.undecodable e)
  | numeralTooLong {cs numeral : List Char} : Text.Utf8.decode bytes = .ok cs →
      numeral <:+: cs → IsLongNumeral numeral →
      LoadFails bytes (.numeralTooLong (numeral.countP Char.isDigit))
  | tooDeep {cs : List Char} : Text.Utf8.decode bytes = .ok cs → nestingRoom < roomFor cs →
      LoadFails bytes .tooDeep

theorem fails_of_readTable {path : String} {e : LoadError}
    (h : readTable path bytes = .error e) : LoadFails bytes e := by
  unfold readTable at h
  split at h
  · next hdecode =>
    cases h
    exact .undecodable hdecode
  · next cs hdecode =>
    split at h
    · cases h
    · cases h
      exact .config rfl
    · next hread =>
      cases h
      obtain ⟨numeral, hwithin, hlong, rfl⟩ := Toml.numeral_of_tooLong hread
      exact .numeralTooLong hdecode hwithin hlong
    · next hread =>
      cases h
      exact .tooDeep hdecode (Toml.room_of_tooDeep hread)

theorem isConfig_of_sectionOf {path : String} {entries : Toml.Entries} {e : LoadError}
    (h : sectionOf path entries = .error e) : e.isConfig = true := by
  unfold sectionOf at h
  split at h
  · split at h
    · cases h
    · cases h
      rfl
    · cases h
  · cases h

/-- What is read is a file. -/
theorem isFile_of_read? {p : Path} (h : m.read? p = .ok (some bytes)) : m.isFile p = .ok true := by
  obtain ⟨place?, hlocate, h⟩ := Ran.except_bind_eq_ok.mp h
  cases place? with
  | none => cases h
  | some place =>
    cases hentry : m.entry? place with
    | none => simp [hentry, pure, Except.pure] at h
    | some entry =>
      cases entry with
      | directory => simp [hentry, pure, Except.pure] at h
      | file content => exact Machine.isFile_eq_ok_true_iff.mpr ⟨place, hlocate, content, hentry⟩

theorem fileValues_of_read? {p : Path} (h : m.read? p = .ok (some bytes)) :
    fileValues m p =
      (readTable p.text bytes).bind fun entries =>
        (sectionOf p.text entries).bind fun settings => .ok (valuesOf settings) := by
  rw [fileValues, isFile_of_read? h, h]
  rfl

theorem load_of_read? (h : m.read? (projectFile m root) = .ok (some bytes)) :
    load m root environment =
      ((readTable (projectFile m root).text bytes).bind fun entries =>
        (sectionOf (projectFile m root).text entries).bind fun settings =>
          .ok (valuesOf settings)).bind fun values =>
        match check (withVariable environment values) with
        | .ok settings => .ok settings
        | .error mismatches => .error (.invalid mismatches) := by
  rw [← fileValues_of_read? h]
  rfl

theorem load_of_readTable (h : m.read? (projectFile m root) = .ok (some bytes)) {e : LoadError}
    (he : readTable (projectFile m root).text bytes = .error e) :
    load m root environment = .error e := by
  rw [load_of_read? h, he]
  rfl

theorem loadFails_of_load (h : m.read? (projectFile m root) = .ok (some bytes)) {e : LoadError}
    (he : load m root environment = .error e) : LoadFails bytes e := by
  rw [load_of_read? h] at he
  rcases Ran.except_bind_eq_error.mp he with he | ⟨values, -, he⟩
  · rcases Ran.except_bind_eq_error.mp he with he | ⟨entries, -, he⟩
    · exact fails_of_readTable he
    · rcases Ran.except_bind_eq_error.mp he with he | ⟨settings, -, he⟩
      · exact .config (isConfig_of_sectionOf he)
      · cases he
  · split at he
    · cases he
    · cases he
      exact .config rfl

/-- The content of a project file that can be read decides how settings are loaded. They are loaded,
or the file is told as bad, unless its bytes are no UTF-8, its brackets could take up more room than
there is for nested values, or a numeral of too many digits stands in it. Bytes that are no UTF-8
are always told so, and so are documents that start with a value which nests too deep or with a
numeral that is too long: none of these is told as bad settings. -/
theorem load_fails_by_content (h : m.read? (projectFile m root) = .ok (some bytes))
    (environment : List (String × String)) :
    (∀ e, load m root environment = .error e → LoadFails bytes e) ∧
    (∀ cs, Text.Utf8.decode bytes = .ok cs → roomFor cs ≤ nestingRoom →
      (∀ numeral, numeral <:+: cs → ¬ IsLongNumeral numeral) →
      (∃ s, load m root environment = .ok s) ∨
        ∃ e, load m root environment = .error e ∧ e.isConfig = true) ∧
    (∀ e, Text.Utf8.decode bytes = .error e →
      load m root environment = .error (.undecodable e)) ∧
    (∀ key count rest, IsBareKey key → nestingRoom < 2 * count →
      Text.Utf8.decode bytes = .ok (entryText key (List.replicate count '[' ++ rest)) →
      load m root environment = .error .tooDeep) ∧
    ∀ key digits rest, IsBareKey key → IsLongRun digits → EndsLine rest →
      Text.Utf8.decode bytes = .ok (entryText key (digits ++ rest)) →
      load m root environment = .error (.numeralTooLong digits.length) := by
  refine ⟨fun e => loadFails_of_load h, ?within, ?undecodable, ?deep, ?long⟩
  case within =>
    intro cs hcs hroom hnumerals
    cases hload : load m root environment with
    | ok s => exact .inl ⟨s, rfl⟩
    | error e =>
      refine .inr ⟨e, rfl, ?_⟩
      cases loadFails_of_load h hload with
      | config he => exact he
      | undecodable hdecode => cases hcs.symm.trans hdecode
      | numeralTooLong hdecode hwithin hlong =>
        cases hcs.symm.trans hdecode
        exact absurd hlong (hnumerals _ hwithin)
      | tooDeep hdecode hlt =>
        cases hcs.symm.trans hdecode
        exact absurd hroom (Nat.not_le.mpr hlt)
  case undecodable =>
    intro e he
    exact load_of_readTable h (by rw [readTable, he])
  case deep =>
    intro key count rest hkey hcount hcs
    have hread := Toml.read_tooDeep hkey hcount rest
    exact load_of_readTable h (by simp only [readTable, hcs, hread])
  case long =>
    intro key digits rest hkey hdigits hrest hcs
    have hread := Toml.read_tooLong hkey hdigits hrest
    exact load_of_readTable h (by simp only [readTable, hcs, hread])

/-- A machine whose working directory has a project file of some bytes. -/
def withProjectFile (bytes : List UInt8) : Machine :=
  (Machine.standard.enter "/work").put ["work", fileName] (.file bytes)

/-- A file with a bracket that is not closed is told as bad. -/
theorem load_fails_by_content_unclosed :
    (∃ s, load (withProjectFile (Text.Utf8.encode "[tool".toList)) none [] = .ok s) ∨
      ∃ e, load (withProjectFile (Text.Utf8.encode "[tool".toList)) none [] = .error e ∧
        e.isConfig = true := by
  have hread : (withProjectFile (Text.Utf8.encode "[tool".toList)).read?
      (projectFile (withProjectFile (Text.Utf8.encode "[tool".toList)) none) =
        .ok (some (Text.Utf8.encode "[tool".toList)) := by decide +kernel
  refine (load_fails_by_content hread []).2.1 _ (Text.Utf8.decode_encode _) (by decide) ?_
  intro numeral hwithin hlong
  have hlength : numeral.countP Char.isDigit ≤ Decimal.maxDigits :=
    Nat.le_trans List.countP_le_length (Nat.le_trans hwithin.length_le (by decide))
  exact absurd hlong.long (Nat.not_lt.mpr hlength)

/-- A file of one byte that starts no character gives no settings, and is not told as bad. -/
theorem load_of_stray_byte :
    (withProjectFile [0xFF]).read? (projectFile (withProjectFile [0xFF]) none) =
        .ok (some [0xFF]) ∧
      load (withProjectFile [0xFF]) none [] =
        .error (.undecodable ⟨0xFF, 0, 1, "invalid start byte"⟩) ∧
      (LoadError.undecodable ⟨0xFF, 0, 1, "invalid start byte"⟩).isConfig = false := by
  decide +kernel

end LintBridge.Settings
