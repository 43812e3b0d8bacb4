import LintBridge.Proofs.Assoc
import LintBridge.Proofs.Settings.Check
import LintBridge.Proofs.Settings.Load

/-!
Which value counts for a setting.

A setting may be given in three places: by the environment, by a key of the section, and by its
standard value. `chosen?` says which of them counts. Loading is the validation of what is chosen,
and of nothing else (`load_follows_precedence`): a value that is not chosen, because the environment
or a later spelling of its key comes before it, may be anything at all, and neither the settings nor
the mismatches that are told change with it.
-/

namespace LintBridge.Settings

variable {m : Machine} {root : Option String} {environment : List (String × String)}
  {entries settings before after : Toml.Entries} {values values' : List (String × Given)}
  {s : Settings} {name key : String}

/-! ### What is chosen -/

/-- The executable that the environment names, if that is not empty. -/
def namedExecutable? (environment : List (String × String)) : Option String :=
  (List.lookup executableVariable environment).filter (· != "")

/-- The value that a section gives for a name: that of its last key that is spelled so. -/
def lastSpelled? (settings : Toml.Entries) (name : String) : Option Toml.Value :=
  ((settings.filter (plainName ·.1 == name)).getLast?).map (·.2)

/-- The value that counts for a setting: for the executable that of the environment, and otherwise
that of the section. Without either, the standard value applies. -/
def chosen? (environment : List (String × String)) (settings : Toml.Entries) (name : String) :
    Option Given :=
  (if name = "executable" then (namedExecutable? environment).map .text else none).or
    ((lastSpelled? settings name).map .ofToml)

/-- What overrides the value of a key in a section: the environment, if the key is that of the
executable, or a key behind it that is another spelling of it. -/
def IsOverridden (environment : List (String × String)) (key : String) (after : Toml.Entries) :
    Prop :=
  (plainName key = "executable" ∧ (namedExecutable? environment).isSome = true) ∨
    ∃ e ∈ after, plainName e.1 = plainName key

theorem lookup_valuesOf (settings : Toml.Entries) (name : String) :
    List.lookup name (valuesOf settings) = (lastSpelled? settings name).map .ofToml := by
  rw [valuesOf, Assoc.lookup_ofList, lastSpelled?, List.filter_map, List.getLast?_map]
  simp only [Option.map_map]
  rfl

theorem withVariable_eq (environment : List (String × String)) (values : List (String × Given)) :
    withVariable environment values =
      match namedExecutable? environment with
      | some text => Assoc.put "executable" (.text text) values
      | none => values := by
  rw [withVariable, namedExecutable?]
  cases List.lookup executableVariable environment with
  | none => rfl
  | some text => by_cases h : text = "" <;> simp [Option.filter, h]

/-- What is handed on for validation is what is chosen. -/
theorem lookup_withVariable (environment : List (String × String)) (settings : Toml.Entries)
    (name : String) : List.lookup name (withVariable environment (valuesOf settings)) =
      chosen? environment settings name := by
  rw [withVariable_eq, chosen?]
  cases namedExecutable? environment with
  | none => simp [lookup_valuesOf]
  | some text =>
    by_cases hname : name = "executable"
    · subst hname
      simp [Assoc.lookup_put_self]
    · simp [Assoc.lookup_put_of_ne hname, hname, lookup_valuesOf]

/-- The names that are handed on are those that the keys of the section spell, and perhaps that of
the executable. -/
theorem forall_mem_withVariable_iff :
    (∀ p ∈ withVariable environment (valuesOf settings), p.1 ∈ names) ↔
      ∀ e ∈ settings, plainName e.1 ∈ names := by
  have hkeys : (∀ p ∈ valuesOf settings, p.1 ∈ names) ↔ ∀ e ∈ settings, plainName e.1 ∈ names := by
    have hmem (name : String) : name ∈ (valuesOf settings).map Prod.fst ↔
        name ∈ settings.map (plainName ·.1) := by
      rw [valuesOf, Assoc.mem_keys_ofList_iff, List.map_map]
      rfl
    rw [← List.forall_mem_map (f := Prod.fst) (P := (· ∈ names))]
    simp only [hmem, List.forall_mem_map]
  rw [← hkeys, withVariable_eq]
  cases namedExecutable? environment with
  | none => rfl
  | some text =>
    rw [← List.forall_mem_map (f := Prod.fst) (P := (· ∈ names)), Assoc.keys_put]
    simp only [Assoc.mem_addKey_iff, or_imp, forall_and, List.forall_mem_map]
    exact and_iff_left (by rintro _ rfl; decide)

/-! ### What is validated -/

/-- A setting is what the check of the value that is given for it makes of that value, or its
standard value if none is given. -/
def Yields {α : Type} (check : Given → Checked Fault α) (standard : α) : Option Given → α → Prop
  | some given, a => check given = .ok a
  | none, a => a = standard

/-- Each of the settings is what the value that is given for its name yields. -/
structure Validates (given? : String → Option Given) (s : Settings) : Prop where
  executable : Yields checkFilled standard.executable (given? "executable") s.executable
  versionFlag : Yields checkText standard.versionFlag (given? "version_flag") s.versionFlag
  minVersion : Yields checkVersion standard.minVersion (given? "min_version") s.minVersion
  subcommand : Yields checkFilled standard.subcommand (given? "subcommand") s.subcommand
  reporterFlag : Yields checkText standard.reporterFlag (given? "reporter_flag") s.reporterFlag
  primary :
    Yields checkText MarkerNames.standard.primary (given? "primary_config") s.markers.primary
  secondary :
    Yields checkText MarkerNames.standard.secondary (given? "secondary_config") s.markers.secondary
  dependencies :
    Yields checkText MarkerNames.standard.dependencies (given? "dependency_dir")
      s.markers.dependencies
  timeout : Yields checkTimeout standard.timeout (given? "timeout") s.timeout
  checkerName : Yields checkFilled standard.checkerName (given? "checker_name") s.checkerName

/-- Whether the check of the setting with a name takes a value. -/
def isTaken (name : String) (given : Given) : Bool :=
  if name ∈ ["executable", "subcommand", "checker_name"] then (checkFilled given).isOk
  else if name = "min_version" then (checkVersion given).isOk
  else if name = "timeout" then (checkTimeout given).isOk
  else (checkText given).isOk

theorem setting_eq_ok_iff {α : Type} {standard a : α} {check : Given → Checked Fault α} :
    setting values name standard check = .ok a ↔
      Yields check standard (List.lookup name values) a := by
  unfold setting
  cases List.lookup name values with
  | none => simp [Yields, eq_comm]
  | some given => exact Checked.under_eq_ok

theorem exists_yields_iff {α : Type} {standard : α} {check : Given → Checked Fault α}
    {given? : Option Given} :
    (∃ a, Yields check standard given? a) ↔ ∀ given ∈ given?, (check given).isOk = true := by
  cases given? with
  | none => simp [Yields]
  | some given => cases h : check given <;> simp [Yields, h, Except.isOk, Except.toBool]

theorem checkNames_eq_ok_iff : checkNames values = .ok () ↔ ∀ p ∈ values, p.1 ∈ names := by
  induction values with
  | nil => simp [checkNames]
  | cons p rest ih =>
    obtain ⟨name, given⟩ := p
    rw [checkNames, List.forall_mem_cons, ← ih, Checked.map_eq_ok]
    simp only [and_true, Prod.exists, Checked.both_eq_ok, exists_and_left, exists_and_right]
    by_cases hname : name ∈ names <;> simp [hname, Checked.under, Checked.refuse, Unique.exists_iff]

theorem checkMarkers_eq_ok_iff {markers : MarkerNames} : checkMarkers values = .ok markers ↔
    Yields checkText MarkerNames.standard.primary (List.lookup "primary_config" values)
        markers.primary ∧
      Yields checkText MarkerNames.standard.secondary (List.lookup "secondary_config" values)
        markers.secondary ∧
      Yields checkText MarkerNames.standard.dependencies (List.lookup "dependency_dir" values)
        markers.dependencies := by
  rw [checkMarkers, Checked.map_eq_ok]
  constructor
  · rintro ⟨⟨primary, secondary, dependencies⟩, h, rfl⟩
    simpa only [Checked.both_eq_ok, setting_eq_ok_iff] using h
  · intro h
    exact ⟨(markers.primary, markers.secondary, markers.dependencies),
      by simpa only [Checked.both_eq_ok, setting_eq_ok_iff] using h, rfl⟩

/-- Values pass as settings if each of them yields its setting and none has another name. -/
theorem check_eq_ok_iff_validates : check values = .ok s ↔
    Validates (List.lookup · values) s ∧ ∀ p ∈ values, p.1 ∈ names := by
  rw [check_eq_ok_iff, checkMarkers_eq_ok_iff, checkNames_eq_ok_iff]
  simp only [setting_eq_ok_iff]
  constructor
  · rintro ⟨hexecutable, hflag, hversion, hsubcommand, hreporter,
      ⟨hprimary, hsecondary, hdirectory⟩, htimeout, hname, hnames⟩
    exact ⟨⟨hexecutable, hflag, hversion, hsubcommand, hreporter, hprimary, hsecondary, hdirectory,
      htimeout, hname⟩, hnames⟩
  · rintro ⟨h, hnames⟩
    exact ⟨h.executable, h.versionFlag, h.minVersion, h.subcommand, h.reporterFlag,
      ⟨h.primary, h.secondary, h.dependencies⟩, h.timeout, h.checkerName, hnames⟩

/-- There are settings for what is given exactly if each value is taken by the check of its name. -/
theorem exists_validates_iff {given? : String → Option Given} :
    (∃ s, Validates given? s) ↔
      ∀ name ∈ names, ∀ given ∈ given? name, isTaken name given = true := by
  simp only [names, List.forall_mem_cons, List.not_mem_nil, false_imp_iff, implies_true, and_true]
  simp only [isTaken, List.mem_cons, List.not_mem_nil, String.reduceEq, or_false, or_true, or_self,
    if_true, if_false]
  constructor
  · rintro ⟨s, h⟩
    exact ⟨exists_yields_iff.mp ⟨_, h.executable⟩, exists_yields_iff.mp ⟨_, h.versionFlag⟩,
      exists_yields_iff.mp ⟨_, h.minVersion⟩, exists_yields_iff.mp ⟨_, h.subcommand⟩,
      exists_yields_iff.mp ⟨_, h.reporterFlag⟩, exists_yields_iff.mp ⟨_, h.primary⟩,
      exists_yields_iff.mp ⟨_, h.secondary⟩, exists_yields_iff.mp ⟨_, h.dependencies⟩,
      exists_yields_iff.mp ⟨_, h.timeout⟩, exists_yields_iff.mp ⟨_, h.checkerName⟩⟩
  · rintro ⟨hexecutable, hflag, hversion, hsubcommand, hreporter, hprimary, hsecondary, hdirectory,
      htimeout, hname⟩
    obtain ⟨executable, hexecutable⟩ := exists_yields_iff.mpr hexecutable
    obtain ⟨versionFlag, hflag⟩ := exists_yields_iff.mpr hflag
    obtain ⟨minVersion, hversion⟩ := exists_yields_iff.mpr hversion
    obtain ⟨subcommand, hsubcommand⟩ := exists_yields_iff.mpr hsubcommand
    obtain ⟨reporterFlag, hreporter⟩ := exists_yields_iff.mpr hreporter
    obtain ⟨primary, hprimary⟩ := exists_yields_iff.mpr hprimary
    obtain ⟨secondary, hsecondary⟩ := exists_yields_iff.mpr hsecondary
    obtain ⟨dependencies, hdirectory⟩ := exists_yields_iff.mpr hdirectory
    obtain ⟨timeout, htimeout⟩ := exists_yields_iff.mpr htimeout
    obtain ⟨checkerName, hname⟩ := exists_yields_iff.mpr hname
    exact ⟨⟨executable, versionFlag, minVersion, subcommand, reporterFlag,
      ⟨primary, secondary, dependencies⟩, timeout, checkerName⟩,
      ⟨hexecutable, hflag, hversion, hsubcommand, hreporter, hprimary, hsecondary, hdirectory,
        htimeout, hname⟩⟩

/-! ### What makes no difference -/

theorem checkNames_congr (h : values.map Prod.fst = values'.map Prod.fst) :
    checkNames values = checkNames values' := by
  induction values generalizing values' with
  | nil =>
    rw [List.map_nil, eq_comm, List.map_eq_nil_iff] at h
    rw [h]
  | cons p rest ih =>
    cases values' with
    | nil => cases h
    | cons p' rest' =>
      obtain ⟨hname, hrest⟩ := List.cons.inj h
      rw [checkNames, checkNames, ih hrest, hname]

/-- A check depends on the values of the names, and on which names there are in which order. -/
theorem check_congr (hvalues : ∀ name, List.lookup name values = List.lookup name values')
    (hnames : values.map Prod.fst = values'.map Prod.fst) : check values = check values' := by
  have hsetting {α : Type} (name : String) (standard : α) (check : Given → Checked Fault α) :
      setting values name standard check = setting values' name standard check := by
    rw [setting, setting, hvalues]
  simp only [check, checkMarkers, hsetting, checkNames_congr hnames]

/-- Sections with the same keys, of which the same values are chosen, are checked alike. -/
theorem check_withVariable_congr {settings' : Toml.Entries}
    (hkeys : settings.map Prod.fst = settings'.map Prod.fst)
    (hchosen : ∀ name, chosen? environment settings name = chosen? environment settings' name) :
    check (withVariable environment (valuesOf settings)) =
      check (withVariable environment (valuesOf settings')) := by
  have hplain : (valuesOf settings).map Prod.fst = (valuesOf settings').map Prod.fst := by
    have hspelled (settings : Toml.Entries) : (valuesOf settings).map Prod.fst =
        ((settings.map Prod.fst).map plainName).foldl Assoc.addKey [] := by
      rw [valuesOf, Assoc.keys_ofList, List.map_map, List.map_map]
      rfl
    rw [hspelled, hspelled, hkeys]
  apply check_congr
  · intro name
    rw [lookup_withVariable, lookup_withVariable, hchosen]
  · rw [withVariable_eq, withVariable_eq]
    cases namedExecutable? environment with
    | none => exact hplain
    | some text => simp only [Assoc.keys_put, hplain]

theorem lastSpelled?_append (front back : Toml.Entries) (name : String) :
    lastSpelled? (front ++ back) name = (lastSpelled? back name).or (lastSpelled? front name) := by
  simp only [lastSpelled?, List.filter_append, List.getLast?_append]
  cases (back.filter (plainName ·.1 == name)).getLast? <;> rfl

theorem isSome_lastSpelled?_iff :
    (lastSpelled? settings name).isSome = true ↔ ∃ e ∈ settings, plainName e.1 = name := by
  simp [lastSpelled?]

/-- An overridden value is never chosen, whatever it is. -/
theorem chosen?_of_isOverridden (h : IsOverridden environment key after) (value value' : Toml.Value)
    (name : String) : chosen? environment (before ++ (key, value) :: after) name =
      chosen? environment (before ++ (key, value') :: after) name := by
  have hspelled (value : Toml.Value) : lastSpelled? (before ++ (key, value) :: after) name =
      (lastSpelled? after name).or ((if plainName key = name then some value else none).or
        (lastSpelled? before name)) := by
    rw [lastSpelled?_append, ← List.singleton_append, lastSpelled?_append, Option.or_assoc]
    congr 2
    by_cases hkey : plainName key = name <;> simp [lastSpelled?, hkey]
  by_cases hkey : plainName key = name
  · subst hkey
    rcases h with ⟨hname, hvariable⟩ | hlater
    · obtain ⟨text, htext⟩ := Option.isSome_iff_exists.mp hvariable
      simp [chosen?, hname, htext]
    · obtain ⟨later, hlast⟩ := Option.isSome_iff_exists.mp (isSome_lastSpelled?_iff.mpr hlater)
      rw [chosen?, chosen?, hspelled, hspelled, hlast]
      rfl
  · rw [chosen?, chosen?, hspelled, hspelled, if_neg hkey, if_neg hkey]

/-! ### Loading -/

/-- The table of the project file: what its text says, or nothing at all if there is no file. -/
inductive HasTable (m : Machine) (root : Option String) : Toml.Entries → Prop
  | read {bytes : List UInt8} {entries : Toml.Entries} :
      m.read? (projectFile m root) = .ok (some bytes) →
      readTable (projectFile m root).text bytes = .ok entries → HasTable m root entries
  | absent : m.isFile (projectFile m root) = .ok false → HasTable m root []

/-- What a table has as the section for the checker: a table below that of the tools, or nothing at
all if there is none. What stands there and is no table makes no section. -/
inductive IsSection (entries : Toml.Entries) : Toml.Entries → Prop
  | table {tools settings : Toml.Entries} : entries.get? "tool" = some (.table tools) →
      tools.get? "biomecheck" = some (.table settings) → IsSection entries settings
  | missing {tools : Toml.Entries} : entries.get? "tool" = some (.table tools) →
      tools.get? "biomecheck" = none → IsSection entries []
  | noTools : (∀ tools, entries.get? "tool" ≠ some (.table tools)) → IsSection entries []

theorem sectionOf_eq_ok_iff {path : String} :
    sectionOf path entries = .ok settings ↔ IsSection entries settings := by
  constructor
  · intro h
    unfold sectionOf at h
    split at h
    · next tools htools =>
      split at h
      · next found hfound =>
        cases h
        exact .table htools hfound
      · cases h
      · next hnone =>
        cases h
        exact .missing htools hnone
    · next htools =>
      cases h
      exact .noTools htools
  · rintro (⟨htools, hsettings⟩ | ⟨htools, hnone⟩ | htools)
    · simp only [sectionOf, htools, hsettings]
    · simp only [sectionOf, htools, hnone]
    · unfold sectionOf
      split
      · next tools h => exact absurd h (htools tools)
      · rfl

/-- Settings are loaded by checking what the project file gives, with the executable that the
environment names. -/
theorem load_eq (m : Machine) (root : Option String) (environment : List (String × String)) :
    load m root environment = (fileValues m (projectFile m root)).bind fun values =>
      (check (withVariable environment values)).mapError .invalid := by
  show Except.bind (fileValues m (projectFile m root)) _ = _
  congr
  funext values
  cases check (withVariable environment values) <;> rfl

/-- From a table settings are loaded by taking its section and validating what is chosen. -/
theorem load_of_hasTable (h : HasTable m root entries) (environment : List (String × String)) :
    load m root environment =
      (sectionOf (projectFile m root).text entries).bind fun settings =>
        (check (withVariable environment (valuesOf settings))).mapError .invalid := by
  rw [load_eq]
  cases h with
  | read hread htable =>
    rw [fileValues_of_read? hread, htable]
    show Except.bind (Except.bind (sectionOf (projectFile m root).text entries) _) _ = _
    cases sectionOf (projectFile m root).text entries <;> rfl
  | absent hfile =>
    have hvalues : fileValues m (projectFile m root) = .ok [] := by rw [fileValues, hfile]
    rw [hvalues]
    rfl

theorem load_of_isSection (h : HasTable m root entries) (hsection : IsSection entries settings)
    (environment : List (String × String)) : load m root environment =
      (check (withVariable environment (valuesOf settings))).mapError .invalid := by
  rw [load_of_hasTable h, sectionOf_eq_ok_iff.mpr hsection]
  rfl

/-- Settings are loaded from a table if it has a section whose keys all spell names of settings, and
then they are what is chosen, validated. -/
theorem load_eq_ok_iff (h : HasTable m root entries) : load m root environment = .ok s ↔
    ∃ settings, IsSection entries settings ∧ (∀ e ∈ settings, plainName e.1 ∈ names) ∧
      Validates (chosen? environment settings) s := by
  rw [load_of_hasTable h, Ran.except_bind_eq_ok]
  simp only [sectionOf_eq_ok_iff, Ran.except_mapError_eq_ok, check_eq_ok_iff_validates,
    lookup_withVariable, forall_mem_withVariable_iff]
  exact exists_congr fun settings => and_congr_right fun _ => and_comm

/-- Each setting that is loaded is what the value chosen for it is validated as, or its standard
value: the environment comes before the section, for the executable only, and of the keys that spell
one name the last one counts. Settings are loaded if and only if the section is a table or missing,
its keys spell names of settings, and every chosen value is taken. A value that is overridden makes
no difference, neither to the settings nor to the mismatches, in whatever file it stands. -/
theorem load_follows_precedence (h : HasTable m root entries)
    (environment : List (String × String)) :
    (∀ s, load m root environment = .ok s →
      ∃ settings, IsSection entries settings ∧ Validates (chosen? environment settings) s) ∧
    ((∃ s, load m root environment = .ok s) ↔
      ∃ settings, IsSection entries settings ∧ (∀ e ∈ settings, plainName e.1 ∈ names) ∧
        ∀ name ∈ names, ∀ given ∈ chosen? environment settings name, isTaken name given = true) ∧
    ∀ before key value after, IsSection entries (before ++ (key, value) :: after) →
      IsOverridden environment key after →
      ∀ m' root' entries' value', HasTable m' root' entries' →
        IsSection entries' (before ++ (key, value') :: after) →
        load m' root' environment = load m root environment := by
  refine ⟨?result, ?success, ?overridden⟩
  case result =>
    intro s hload
    obtain ⟨settings, hsection, -, hvalidates⟩ := (load_eq_ok_iff h).mp hload
    exact ⟨settings, hsection, hvalidates⟩
  case success =>
    simp only [load_eq_ok_iff h, ← exists_validates_iff]
    constructor
    · rintro ⟨s, settings, hsection, hnames, hvalidates⟩
      exact ⟨settings, hsection, hnames, s, hvalidates⟩
    · rintro ⟨settings, hsection, hnames, s, hvalidates⟩
      exact ⟨s, settings, hsection, hnames, hvalidates⟩
  case overridden =>
    intro before key value after hsection hoverridden m' root' entries' value' h' hsection'
    rw [load_of_isSection h hsection, load_of_isSection h' hsection']
    congr 1
    apply check_withVariable_congr
    · simp
    · exact chosen?_of_isOverridden hoverridden value' value

/-- A machine whose project file has some text. -/
def withProjectText (text : String) : Machine :=
  withProjectFile (Text.Utf8.encode text.toList)

/-- A machine whose project file spells the minimum version twice, first with some value. -/
def spelledTwice (earlier : String) : Machine :=
  withProjectText ("[tool.biomecheck]\nmin-version = " ++ earlier ++ "\nmin_version = '2.0.0'\n")

theorem hasTable_withProjectText {text : String} {entries : Toml.Entries}
    (h : Toml.read text.toList = .ok entries) : HasTable (withProjectText text) none entries := by
  have hread : (withProjectText text).read? (projectFile (withProjectText text) none) =
      .ok (some (Text.Utf8.encode text.toList)) := rfl
  refine .read hread ?_
  rw [readTable, Text.Utf8.decode_encode]
  dsimp only
  rw [h]

/-- The table that such a file has. -/
def tableOfTwice (earlier : Toml.Value) : Toml.Entries :=
  [("tool", .table [("biomecheck", .table
    ([] ++ ("min-version", earlier) :: [("min_version", .text "2.0.0")]))])]

/-- A number for a version is overridden by the text behind it, and so is a truth value. -/
theorem load_follows_precedence_of_two_spellings :
    HasTable (spelledTwice "1") none (tableOfTwice (.int 1)) ∧
      HasTable (spelledTwice "true") none (tableOfTwice (.bool true)) ∧
      load (spelledTwice "1") none [] = .ok { standard with minVersion := "2.0.0" } ∧
      (∃ settings, IsSection (tableOfTwice (.int 1)) settings ∧
        Validates (chosen? [] settings) { standard with minVersion := "2.0.0" }) ∧
      load (spelledTwice "true") none [] = load (spelledTwice "1") none [] := by
  have hnumber : HasTable (spelledTwice "1") none (tableOfTwice (.int 1)) :=
    hasTable_withProjectText (by decide +kernel)
  have htruth : HasTable (spelledTwice "true") none (tableOfTwice (.bool true)) :=
    hasTable_withProjectText (by decide +kernel)
  have hload : load (spelledTwice "1") none [] = .ok { standard with minVersion := "2.0.0" } := by
    decide +kernel
  have hoverridden : IsOverridden [] "min-version" [("min_version", .text "2.0.0")] :=
    .inr ⟨_, List.mem_cons_self, by decide⟩
  obtain ⟨hresult, -, hsame⟩ := load_follows_precedence hnumber []
  exact ⟨hnumber, htruth, hload, hresult _ hload,
    hsame _ _ _ _ (.table rfl rfl) hoverridden _ _ _ _ htruth (.table rfl rfl)⟩

end LintBridge.Settings
