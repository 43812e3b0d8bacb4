import LintBridge.Proofs.Machine.Place
import LintBridge.Proofs.Project.Nearest

/-!
Whether a path lies in the project that is found for it.

The directories in which a search looks have the first names of the path, however many of them. Two
points count as a name there, so such a directory need not be above what the path leads to: of
`lib/../c.js` the search looks into `lib`. A path lies in or below the directory that is found
unless two points climb above that directory on the rest of the path (`found_directory_contains`);
where they do, it can lie outside (`climbing_path_leaves_project`).
-/

namespace LintBridge.Project

open Machine (climb placeOf)

variable {m : Machine} {markers : List Marker} {path : String} {target : Path} {p : Project}

/-- A project that is found has the first names of the path for its directory. -/
theorem exists_take_of_search (htarget : m.anchored path = .ok target)
    (h : search m markers path = .ok (some p)) : ∃ count, p.directory = target.take count := by
  obtain ⟨above, habove, hfirst⟩ := Ran.except_bind_eq_ok.mp h
  rw [directories_of_anchored htarget] at habove
  obtain ⟨isDirectory, -, rfl⟩ := Ran.except_map_eq_ok.mp habove
  obtain ⟨before, after, hsplit, -, -⟩ := firstIn_eq_some_iff.mp hfirst
  have hmem : p.directory ∈ (if isDirectory then target else target.parent).ancestors := by
    rw [hsplit]
    exact List.mem_append_right before List.mem_cons_self
  obtain ⟨count, hcount⟩ := Path.exists_take_of_mem_ancestors hmem
  cases isDirectory with
  | true => exact ⟨count, hcount⟩
  | false =>
    refine ⟨min count (target.names.length - 1), hcount.trans ?_⟩
    simp [Path.parent, Path.take, List.take_take]

/-- Where names lead that stand behind those of another path: first where that leads, and on from
there. -/
theorem placeOf_eq_foldl {q d : Path} {rest : List String} (h : q.names = d.names ++ rest) :
    placeOf q = rest.foldl Machine.placeBelow (placeOf d) := by
  rw [placeOf, placeOf, h, List.foldl_append]

/-- For a path that leads to something, the directory of the project that applies is one that the
path comes through, and both are where their names lead. The path is in or below the directory that
lies above the project's by as many steps as the rest of the path climbs; so it is in or below the
directory of the project itself if the rest does not climb above it. -/
theorem found_directory_contains (m : Machine) (names : MarkerNames) {path : String}
    {target : Path} {p : Project} (htarget : m.anchored path = .ok target)
    (hthere : m.pathExists target = .ok true)
    (hfind : find m names path = .ok (some p)) :
    ∃ rest, target.names = p.directory.names ++ rest ∧ p.directory.anchor = target.anchor ∧
      m.locate p.directory = .ok (some (placeOf p.directory)) ∧
      m.locate target = .ok (some (placeOf target)) ∧
      (placeOf p.directory).take ((placeOf p.directory).length - climb rest) <+: placeOf target ∧
      (climb rest = 0 → placeOf p.directory <+: placeOf target) := by
  have habs : target.isAbsolute = true := Machine.isAbsolute_of_anchored htarget
  obtain ⟨count, hdirectory⟩ := exists_take_of_search htarget hfind
  have hnames : target.names = p.directory.names ++ target.names.drop count := by
    rw [hdirectory]
    exact (List.take_append_drop count target.names).symm
  obtain ⟨place, hplace⟩ := Machine.exists_locate_of_pathExists hthere
  have hlocate (count : Nat) := Machine.locate_take habs hplace count
  have hcontains : (placeOf p.directory).take
      ((placeOf p.directory).length - climb (target.names.drop count)) <+: placeOf target := by
    rw [placeOf_eq_foldl hnames]
    exact Machine.take_isPrefix_foldl_placeBelow _ _
  refine ⟨target.names.drop count, hnames, ?anchor, ?directory, ?target, hcontains, ?within⟩
  case anchor =>
    rw [hdirectory]
    rfl
  case directory =>
    rw [hdirectory]
    exact hlocate count
  case target =>
    have hwhole := hlocate target.names.length
    rwa [Path.take_length] at hwhole
  case within =>
    intro hclimb
    rw [hclimb, Nat.sub_zero, List.take_length] at hcontains
    exact hcontains

/-- A machine in a directory with a config, beside which there is a file. -/
def besideProject : Machine where
  cwd := ["work", "lib"]
  isPathName_of_mem_cwd := by decide
  environment := []
  account := "dev"
  homes := []
  entries := [(["work"], .directory), (["work", "c.js"], .file []),
    (["work", "lib"], .directory), (["work", "lib", "app.js"], .file []),
    (["work", "lib", "biome.json"], .file [])]
  executable := []
  unreadable := []
  sealed := []
  scripts := []

/-- A path that leaves the directory and comes back to it lies in the project that is found. -/
theorem found_directory_contains_after_return :
    besideProject.anchored "../lib/app.js" = .ok (.parse "/work/lib/../lib/app.js") ∧
      besideProject.pathExists (.parse "/work/lib/../lib/app.js") = .ok true ∧
      find besideProject .standard "../lib/app.js" =
        .ok (some ⟨.parse "/work/lib/../lib", .primaryConfig,
          .parse "/work/lib/../lib/biome.json"⟩) ∧
      placeOf (.parse "/work/lib/../lib") <+: placeOf (.parse "/work/lib/../lib/app.js") := by
  have htarget : besideProject.anchored "../lib/app.js" =
      .ok (.parse "/work/lib/../lib/app.js") := by decide +kernel
  have hthere : besideProject.pathExists (.parse "/work/lib/../lib/app.js") = .ok true := by
    decide +kernel
  have hfind : find besideProject .standard "../lib/app.js" =
      .ok (some ⟨.parse "/work/lib/../lib", .primaryConfig,
        .parse "/work/lib/../lib/biome.json"⟩) := by decide +kernel
  obtain ⟨rest, hrest, -, -, -, -, hwithin⟩ :=
    found_directory_contains besideProject .standard htarget hthere hfind
  have hbehind : ["work", "lib", "..", "lib"] ++ rest =
      ["work", "lib", "..", "lib"] ++ ["app.js"] := hrest.symm
  have happ : rest = ["app.js"] := List.append_cancel_left hbehind
  exact ⟨htarget, hthere, hfind, hwithin (by rw [happ]; decide)⟩

/-- A path that leaves the directory for a file beside it does not lie in the project that is found,
which is that of the directory. -/
theorem climbing_path_leaves_project :
    besideProject.anchored "../c.js" = .ok (.parse "/work/lib/../c.js") ∧
      besideProject.isFile (.parse "/work/lib/../c.js") = .ok true ∧
      find besideProject .standard "../c.js" =
        .ok (some ⟨.parse "/work/lib", .primaryConfig, .parse "/work/lib/biome.json"⟩) ∧
      ¬ placeOf (.parse "/work/lib") <+: placeOf (.parse "/work/lib/../c.js") := by
  decide +kernel

end LintBridge.Project
