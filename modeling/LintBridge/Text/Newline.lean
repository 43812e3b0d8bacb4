/-!
Line ends. A line may end with a line feed, a carriage return or both; `unifyNewlines` leaves line
feeds only, `joinReturns` makes one line end of the two together. `isLineEnd` are all characters
that end a line or a paragraph by their meaning.
-/

namespace LintBridge.Text

/-- The text with every carriage return, and every carriage return before a line feed, written as
one line feed. -/
def unifyNewlines : List Char → List Char
  | [] => []
  | '\r' :: '\n' :: rest => '\n' :: unifyNewlines rest
  | '\r' :: rest => '\n' :: unifyNewlines rest
  | c :: rest => c :: unifyNewlines rest

/-- The text with every carriage return that stands before a line feed taken away. -/
def joinReturns : List Char → List Char
  | [] => []
  | '\r' :: '\n' :: rest => '\n' :: joinReturns rest
  | c :: rest => c :: joinReturns rest

/-- Line feeds, tabulations and feeds of lines and pages, returns, separators of files, groups and
records, the next-line character, and the separators of lines and paragraphs. -/
def isLineEnd (c : Char) : Bool :=
  (0x0A ≤ c.toNat && c.toNat ≤ 0x0D) || (0x1C ≤ c.toNat && c.toNat ≤ 0x1E) ||
    [0x85, 0x2028, 0x2029].contains c.toNat

/-- The lines of a text: what stands before, between and after its line feeds. -/
def lines : List Char → List (List Char)
  | [] => [[]]
  | c :: rest =>
      if c = '\n' then [] :: lines rest
      else
        match lines rest with
        | line :: more => (c :: line) :: more
        | [] => [[c]]

theorem lines_ne_nil (cs : List Char) : lines cs ≠ [] := by
  cases cs with
  | nil => simp [lines]
  | cons c rest =>
    simp only [lines]
    split
    · simp
    · split <;> simp

end LintBridge.Text
