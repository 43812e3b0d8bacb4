import LintBridge.Text.Search

/-!
Paths as texts name them, without a look at any file.

A path is an anchor and names. Slashes in a row count as one, empty names and single points are left
out, and a name of two points stays, since what it leads to depends on the files. At the start of a
path exactly two slashes are an anchor of their own.
-/

namespace LintBridge

/-- Where a path starts. -/
inductive Anchor where
  | here
  | root
  | doubleRoot
deriving DecidableEq, Repr

def Anchor.text : Anchor → String
  | .here => ""
  | .root => "/"
  | .doubleRoot => "//"

/-- The anchor that some characters stand at. -/
def Anchor.of (cs : List Char) : Anchor :=
  match (cs.takeWhile (· == '/')).length with
  | 0 => .here
  | 2 => .doubleRoot
  | _ => .root

/-- Whether a text can be a name on a path: it has no slash, and it is neither empty nor a single
point. -/
def isPathName (text : String) : Bool :=
  text != "" && text != "." && !text.toList.contains '/'

/-- A path: where it starts, and the names on it. -/
structure Path where
  anchor : Anchor
  names : List String
  isPathName_of_mem : ∀ name ∈ names, isPathName name = true
deriving DecidableEq, Repr

namespace Path

/-- The parts of a text between slashes. -/
def steps (text : String) : List String :=
  (Text.splitAt '/' text.toList).map String.ofList

/-- The path that a text names. -/
def parse (text : String) : Path :=
  ⟨.of text.toList, (steps text).filter isPathName, fun _ h => (List.mem_filter.mp h).2⟩

/-- The text of a path; a path without anchor and names is a single point. -/
def text (p : Path) : String :=
  match p.anchor, p.names with
  | .here, [] => "."
  | anchor, names => anchor.text ++ String.intercalate "/" names

/-- Whether a path starts at a root. -/
def isAbsolute (p : Path) : Bool :=
  p.anchor != .here

theorem isPathName_of_mem_tail (p : Path) : ∀ name ∈ p.names.tail, isPathName name = true :=
  fun name h => p.isPathName_of_mem name (List.mem_of_mem_tail h)

/-- The path with more names behind its own. -/
def append (p : Path) (names : List String) (h : ∀ name ∈ names, isPathName name = true) : Path where
  anchor := p.anchor
  names := p.names ++ names
  isPathName_of_mem := List.forall_mem_append.mpr ⟨p.isPathName_of_mem, h⟩

/-- The path with the first of its names only. -/
def take (p : Path) (count : Nat) : Path where
  anchor := p.anchor
  names := p.names.take count
  isPathName_of_mem name h := p.isPathName_of_mem name (List.mem_of_mem_take h)

/-- The path below `p` that a text names; an absolute one stands for itself. -/
def join (p : Path) (text : String) : Path :=
  let q := parse text
  if q.isAbsolute then q else p.append q.names q.isPathName_of_mem

/-- The path without its last name. -/
def parent (p : Path) : Path :=
  p.take (p.names.length - 1)

/-- The path itself, its parent, and so on up to its anchor. -/
def ancestors (p : Path) : List Path :=
  (List.range (p.names.length + 1)).reverse.map p.take

end Path
end LintBridge
