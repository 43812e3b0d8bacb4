import LintBridge.Proofs.Machine.Path
import LintBridge.Proofs.Project

/-!
The nearest marker.

A search goes up from the directory of a path. What it finds lies in the first directory that holds
any of the markers, and of those that this directory holds it is the first of the list
(`IsNearest`): how near a marker is counts before its place in the list, which only decides within
one directory. The search for a config takes the secondary name first and the search for the
linter's directory the primary one; the dependencies, for which there is a search of their own, are
an answer only where there is no config at all (`nearest_marker_wins`).
-/

namespace LintBridge.Project

variable {m : Machine} {directories : List Path} {markers : List Marker} {names : MarkerNames}
  {path : String} {p : Project} {k l : Marker}

/-- A look for a marker in a directory finds it. -/
def Holds (m : Machine) (directory : Path) (k : Marker) : Prop :=
  m.pathExists (directory.join k.name) = .ok true

/-- A look for a marker in a directory finds nothing. -/
def Lacks (m : Machine) (directory : Path) (k : Marker) : Prop :=
  m.pathExists (directory.join k.name) = .ok false

/-- A project is what is nearest: no directory before its own has any of the markers, and it is
marked by the first of the markers that its own directory has. -/
structure IsNearest (m : Machine) (directories : List Path) (markers : List Marker) (p : Project) :
    Prop where
  directory : ∃ before after, directories = before ++ p.directory :: after ∧
    ∀ d ∈ before, ∀ k ∈ markers, Lacks m d k
  marker : ∃ before k after, markers = before ++ k :: after ∧
    (∀ k' ∈ before, Lacks m p.directory k') ∧ Holds m p.directory k ∧
    p.marker = k.kind ∧ p.path = p.directory.join k.name

/-- A project is marked by one of two markers, and by the second only where the first is not. -/
def Prefers (m : Machine) (first second : Marker) (p : Project) : Prop :=
  (Holds m p.directory first ∧ p.marker = first.kind ∧ p.path = p.directory.join first.name) ∨
    Lacks m p.directory first ∧ Holds m p.directory second ∧ p.marker = second.kind ∧
      p.path = p.directory.join second.name

/-! ### Searches along directories -/

theorem firstIn_eq_none_iff_lacks : firstIn m markers directories = .ok none ↔
    ∀ d ∈ directories, ∀ k ∈ markers, Lacks m d k := by
  simp only [firstIn_eq_none_iff, markerIn_eq_none_iff, Lacks]

theorem firstIn_eq_some_iff_isNearest :
    firstIn m markers directories = .ok (some p) ↔ IsNearest m directories markers p := by
  simp only [firstIn_eq_some_iff, markerIn_eq_none_iff]
  constructor
  · rintro ⟨before, after, hsplit, hbefore, hmarker⟩
    obtain ⟨front, k, back, hmarkers, hfront, hk, hp⟩ := markerIn_eq_some_iff.mp hmarker
    refine ⟨⟨before, after, hsplit, hbefore⟩, front, k, back, hmarkers, hfront, hk, ?_, ?_⟩
    · rw [hp]
    · rw [hp]
  · rintro ⟨⟨before, after, hsplit, hbefore⟩, front, k, back, hmarkers, hfront, hk, hkind, hpath⟩
    refine ⟨before, after, hsplit, hbefore, ?_⟩
    apply markerIn_eq_some_iff.mpr
    refine ⟨front, k, back, hmarkers, hfront, hk, ?_⟩
    obtain ⟨directory, marker, path⟩ := p
    exact congrArg₂ (Project.mk directory) hkind hpath

/-- A path at which a search stops is one that it was to look at, and it cannot be looked up. -/
theorem StopsAt.mem_barred {paths : List Path} {q : Path} (h : StopsAt m paths q) :
    q ∈ paths ∧ m.Barred q := by
  induction h with
  | here hbarred => exact ⟨List.mem_cons_self, hbarred⟩
  | later _ _ ih => exact ⟨List.mem_cons_of_mem _ ih.1, ih.2⟩

/-- A search fails only with the error of a look at a marker. -/
theorem exists_of_firstIn_eq_error {e : AccessError}
    (h : firstIn m markers directories = .error e) :
    ∃ d ∈ directories, ∃ k ∈ markers, m.pathExists (d.join k.name) = .error e := by
  obtain ⟨q, hstops, rfl⟩ := firstIn_eq_error_iff.mp h
  obtain ⟨hmem, hbarred⟩ := hstops.mem_barred
  obtain ⟨d, hd, hq⟩ := List.mem_flatMap.mp hmem
  obtain ⟨k, hk, rfl⟩ := List.mem_map.mp hq
  exact ⟨d, hd, k, hk, Machine.pathExists_eq_error_iff.mpr ⟨hbarred, rfl⟩⟩

/-- Of two markers the one that stands first is preferred. -/
theorem IsNearest.prefers (h : IsNearest m directories [k, l] p) : Prefers m k l p := by
  obtain ⟨front, found, back, hmarkers, hfront, hfound, hkind, hpath⟩ := h.marker
  cases front with
  | nil =>
    cases hmarkers
    exact .inl ⟨hfound, hkind, hpath⟩
  | cons first front =>
    obtain ⟨rfl, hrest⟩ := List.cons.inj hmarkers
    cases front with
    | nil =>
      cases hrest
      exact .inr ⟨hfront k (by simp), hfound, hkind, hpath⟩
    | cons second front => simp at hrest

/-! ### Searches from a path -/

/-- The directories of an anchored path are absolute, and they go up from the path itself, if it is
a directory, or else from its parent. -/
theorem exists_directories {target : Path} {isDirectory : Bool}
    (htarget : m.anchored path = .ok target) (hdir : m.isDirectory target = .ok isDirectory) :
    ∃ above, Project.directories m path = .ok above ∧ (∀ d ∈ above, d.isAbsolute = true) ∧
      (if isDirectory then target else target.parent).GoesUp above := by
  have habs : target.isAbsolute = true := Machine.isAbsolute_of_anchored htarget
  refine ⟨(if isDirectory then target else target.parent).ancestors, ?_, ?_,
    Path.goesUp_ancestors _⟩
  · rw [directories_of_anchored htarget, hdir]
    rfl
  · intro d hd
    obtain ⟨count, rfl⟩ := Path.exists_take_of_mem_ancestors hd
    cases isDirectory with
    | true => exact habs
    | false => exact habs

theorem search_of_directories {above : List Path}
    (h : Project.directories m path = .ok above) (markers : List Marker) :
    search m markers path = firstIn m markers above := by
  rw [search, h]
  rfl

theorem mem_configs : k ∈ configs names ↔
    k = ⟨names.primary, .primaryConfig⟩ ∨ k = ⟨names.secondary, .secondaryConfig⟩ := by
  simp [configs]

/-- Where a path is known to be a directory or not, the directories above it go up from there to the
root. A search by any markers fails only if a look at one of them fails in one of these directories.
It finds nothing exactly if none of the directories has any of the markers, and otherwise exactly
what is nearest. So the config that applies is the secondary one rather than the primary one in the
same directory, and for the linter the other way round; and the linter is sent to the dependencies
only if no directory has a config. -/
theorem nearest_marker_wins (m : Machine) {path : String} {target : Path} {isDirectory : Bool}
    (htarget : m.anchored path = .ok target) (hdir : m.isDirectory target = .ok isDirectory) :
    ∃ above, Project.directories m path = .ok above ∧ (∀ d ∈ above, d.isAbsolute = true) ∧
      (if isDirectory then target else target.parent).GoesUp above ∧
      (∀ markers,
        (∀ e, search m markers path = .error e →
          ∃ d ∈ above, ∃ k ∈ markers, m.pathExists (d.join k.name) = .error e) ∧
        (search m markers path = .ok none ↔ ∀ d ∈ above, ∀ k ∈ markers, Lacks m d k) ∧
        ∀ p, search m markers path = .ok (some p) ↔ IsNearest m above markers p) ∧
      ∀ (names : MarkerNames) (p : Project),
        (find m names path = .ok (some p) →
          Prefers m ⟨names.secondary, .secondaryConfig⟩ ⟨names.primary, .primaryConfig⟩ p) ∧
        ((forLinter m names path).result = .ok (some p) → p.marker ≠ .dependencies →
          Prefers m ⟨names.primary, .primaryConfig⟩ ⟨names.secondary, .secondaryConfig⟩ p) ∧
        ((forLinter m names path).result = .ok (some p) → p.marker = .dependencies →
          ∀ d ∈ above, Lacks m d ⟨names.primary, .primaryConfig⟩ ∧
            Lacks m d ⟨names.secondary, .secondaryConfig⟩) := by
  obtain ⟨above, habove, habs, hup⟩ := exists_directories htarget hdir
  have hsearch : ∀ markers, search m markers path = firstIn m markers above :=
    search_of_directories habove
  refine ⟨above, habove, habs, hup, ?searches, ?preferences⟩
  case searches =>
    intro markers
    rw [hsearch markers]
    exact ⟨fun e => exists_of_firstIn_eq_error, firstIn_eq_none_iff_lacks,
      fun p => firstIn_eq_some_iff_isNearest⟩
  case preferences =>
    intro names p
    refine ⟨?config, ?linter, ?dependencies⟩
    case config =>
      intro hfind
      rw [find, hsearch] at hfind
      exact (firstIn_eq_some_iff_isNearest.mp hfind).prefers
    case linter =>
      intro hlinter hkind
      rw [result_forLinter] at hlinter
      rcases locate_eq_ok_iff.mp hlinter with ⟨q, hq, hpq⟩ | ⟨-, hdependencies⟩
      · cases hpq
        rw [hsearch] at hq
        exact (firstIn_eq_some_iff_isNearest.mp hq).prefers
      · obtain ⟨k, hk, hpk⟩ := kind_of_search hdependencies
        cases List.mem_singleton.mp hk
        exact absurd hpk hkind
    case dependencies =>
      intro hlinter hkind
      rw [result_forLinter] at hlinter
      rcases locate_eq_ok_iff.mp hlinter with ⟨q, hq, hpq⟩ | ⟨hnone, -⟩
      · cases hpq
        obtain ⟨k, hk, hpk⟩ := kind_of_search hq
        rcases mem_configs.mp hk with rfl | rfl
        · cases hkind.symm.trans hpk
        · cases hkind.symm.trans hpk
      · rw [hsearch, firstIn_eq_none_iff_lacks] at hnone
        intro d hd
        exact ⟨hnone d hd _ (mem_configs.mpr (.inl rfl)), hnone d hd _ (mem_configs.mpr (.inr rfl))⟩

/-- A machine in a directory with dependencies, below one with a config. -/
def nested : Machine where
  cwd := ["work", "web"]
  isPathName_of_mem_cwd := by decide
  environment := []
  account := "dev"
  homes := []
  entries := [(["work"], .directory), (["work", "biome.json"], .file []),
    (["work", "web"], .directory), (["work", "web", "node_modules"], .directory)]
  executable := []
  unreadable := []
  sealed := []
  scripts := []

/-- Of a path there, the config is the nearest one of the configs, and the dependencies beside the
path are no answer for the linter. -/
theorem nearest_marker_wins_in_nested :
    nested.anchored "app.js" = .ok (.parse "/work/web/app.js") ∧
      nested.isDirectory (.parse "/work/web/app.js") = .ok false ∧
      IsNearest nested [.parse "/work/web", .parse "/work", .parse "/"] (configs .standard)
        ⟨.parse "/work", .primaryConfig, .parse "/work/biome.json"⟩ ∧
      Prefers nested ⟨"biome.json", .primaryConfig⟩ ⟨"biome.jsonc", .secondaryConfig⟩
        ⟨.parse "/work", .primaryConfig, .parse "/work/biome.json"⟩ := by
  have htarget : nested.anchored "app.js" = .ok (.parse "/work/web/app.js") := by decide +kernel
  have hdir : nested.isDirectory (.parse "/work/web/app.js") = .ok false := by decide +kernel
  obtain ⟨above, habove, -, -, hsearch, hprefers⟩ := nearest_marker_wins nested htarget hdir
  have hdirectories : Project.directories nested "app.js" =
      .ok [.parse "/work/web", .parse "/work", .parse "/"] := by decide +kernel
  cases habove.symm.trans hdirectories
  refine ⟨htarget, hdir, ?_, ?_⟩
  · exact ((hsearch (configs .standard)).2.2 _).mp (by decide +kernel)
  · exact (hprefers .standard _).2.1 (by decide +kernel) (by decide)

end LintBridge.Project
