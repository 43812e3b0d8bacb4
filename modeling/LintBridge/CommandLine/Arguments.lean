import LintBridge.Machine.Lookup

/-!
The arguments of the command line.

A command is followed by one file and by options in any order; behind two hyphens all is taken as it
is. Of an option given several times the last one counts. Files are checked before a command runs: a
file to lint must be there and be readable, and every file must have a name that can be one.
-/

namespace LintBridge.CommandLine

/-- The commands. -/
inductive Verb where
  | lint
  | verify
deriving DecidableEq, Repr

/-- What arguments ask for. -/
structure Request where
  verb : Verb
  file : Path
  root : Option String
  emoji : Bool
deriving DecidableEq, Repr

/-- Arguments as far as they are read: what is no option, and the options. -/
structure Options where
  files : List String
  root : Option String
  emoji : Bool
  verbose : Bool
deriving DecidableEq, Repr

/-- The options that apply where none are given. -/
def Options.standard : Options := ⟨[], none, true, false⟩

/-- The value of an argument that names the root behind an equals sign. -/
def rootValue? (argument : String) : Option String :=
  ("--root=".toList.isPrefixOf? argument.toList).map String.ofList

/-- Whether an argument is one hyphen and letters that each ask for more notes. -/
def isVerbose (argument : String) : Bool :=
  argument = "--verbose" ||
    match argument.toList with
    | '-' :: 'v' :: more => more.all (· == 'v')
    | _ => false

/-- Whether an argument is an option, by its looks. -/
def looksLikeOption (argument : String) : Bool :=
  argument.toList.head? = some '-' && argument != "-"

/-- Reads the arguments behind a command's name. -/
def readOptions (verb : Verb) : Options → List String → Option Options
  | o, [] => some o
  | o, "--" :: rest => some { o with files := o.files ++ rest }
  | o, "--root" :: value :: rest => readOptions verb { o with root := some value } rest
  | o, argument :: rest =>
      if let some value := rootValue? argument then
        readOptions verb { o with root := some value } rest
      else if isVerbose argument then readOptions verb { o with verbose := true } rest
      else if verb = .lint ∧ argument = "--emoji" then
        readOptions verb { o with emoji := true } rest
      else if verb = .lint ∧ argument = "--no-emoji" then
        readOptions verb { o with emoji := false } rest
      else if looksLikeOption argument then none
      else readOptions verb { o with files := o.files ++ [argument] } rest

/-- Reads the name of a command. -/
def readVerb? : List String → Option (Verb × List String)
  | "--" :: "lint" :: rest => some (.lint, rest)
  | "--" :: "verify" :: rest => some (.verify, rest)
  | "lint" :: rest => some (.lint, rest)
  | "verify" :: rest => some (.verify, rest)
  | _ => none

/-! ### Files -/

/-- The absolute path of a file, with two points taken as one name up. -/
def realPath (m : Machine) (text : String) : Path :=
  let p := m.absolute (.parse text)
  ⟨.root, Machine.placeOf p, Machine.isPathName_of_mem_placeOf p⟩

/-- What stands at a path; a directory on the way that may not be searched counts as nothing. -/
def visible? (m : Machine) (p : Path) : Option Entry :=
  match m.stat p with
  | .ok entry => entry
  | .error _ => none

/-- Whether a place may be read, if anything is there. -/
def mayRead (m : Machine) (place : Option Place) : Bool :=
  !place.any m.unreadable.contains

/-- Whether a command takes a file. -/
def takesFile (m : Machine) (verb : Verb) (file : Path) : Bool :=
  let place := (m.locate file).toOption.join
  match verb, visible? m file with
  | .lint, some (.file _) => mayRead m place
  | .lint, _ => false
  | .verify, _ => mayRead m place

/-- What arguments ask for, or `none` if they are no use of the program. -/
def Request.of? (m : Machine) (arguments : List String) : Option Request := do
  let (verb, rest) ← readVerb? arguments
  let options ← readOptions verb .standard rest
  match options.files with
  | [text] =>
      let file := realPath m text
      let rootMayBeRead := options.root.all fun root => mayRead m (m.locateText? root)
      let named := Machine.isFileName text && options.root.all Machine.isFileName
      if named && takesFile m verb file && rootMayBeRead then
        some ⟨verb, file, options.root, options.emoji⟩
      else none
  | _ => none

end LintBridge.CommandLine
