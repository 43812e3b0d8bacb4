import LintBridge.Machine.Lookup

/-!
Finding the program that a name stands for.

An absolute name only has to lead to a file. Any other name is searched for: with a slash in it, it
is taken as it is, otherwise it is looked for in the directories of the search path, one after the
other. What is found must be executable; errors on the way count as not found.
-/

namespace LintBridge.Machine

/-- Whether a text leads to a file that may be executed. -/
def isProgram (m : Machine) (text : String) : Bool :=
  match m.locateText? text with
  | some place => m.entry? place != some .directory && m.executable.contains place
  | none => false

/-- The search path that is used when the environment names none. -/
def defaultSearchPath : String := "/bin:/usr/bin"

/-- The directories of the search path, each once. -/
def searchDirectories (m : Machine) : List String :=
  let path := (m.valueOf? "PATH").getD defaultSearchPath
  if path = "" then []
  else ((Text.splitAt ':' path.toList).map String.ofList).eraseDups

/-- A name in a directory of the search path. An empty entry leaves the name alone. -/
def inDirectory (directory name : String) : String :=
  if directory = "" then name
  else if directory.toList.getLast? = some '/' then directory ++ name
  else directory ++ "/" ++ name

/-- The program that a name stands for by the search path. -/
def search? (m : Machine) (name : String) : Option String :=
  if name.toList.contains '/' then if m.isProgram name then some name else none
  else (m.searchDirectories.map (inDirectory · name)).find? m.isProgram

/-- The program that a name stands for. -/
def resolve (m : Machine) (name : String) : Except AccessError (Option String) := do
  let path := Path.parse name
  if path.isAbsolute then return if ← m.isFile path then some path.text else none
  else return m.search? name

end LintBridge.Machine
