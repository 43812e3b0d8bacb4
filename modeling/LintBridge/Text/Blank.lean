/-!
Blank characters and the removal of blanks at the ends of a text.

Two classes are in use and they differ in four characters. `isSpace` is the Unicode property
White_Space. `isBlank` adds the information separators U+001C to U+001F, which delimit text and are
trimmed like white space although the property leaves them out.
-/

namespace LintBridge.Text

/-- Characters with the Unicode property White_Space. -/
def isSpace (c : Char) : Bool :=
  let n := c.toNat
  (0x09 ≤ n && n ≤ 0x0D) || n == 0x20 || n == 0x85 || n == 0xA0 || n == 0x1680 ||
  (0x2000 ≤ n && n ≤ 0x200A) || n == 0x2028 || n == 0x2029 || n == 0x202F || n == 0x205F ||
  n == 0x3000

/-- White space and the information separators. -/
def isBlank (c : Char) : Bool :=
  isSpace c || (0x1C ≤ c.toNat && c.toNat ≤ 0x1F)

/-- The text without the characters of a class at its end. -/
def dropEndWhile (p : Char → Bool) (cs : List Char) : List Char :=
  (cs.reverse.dropWhile p).reverse

/-- The text without the blanks in front. -/
def trimStart (cs : List Char) : List Char :=
  cs.dropWhile isBlank

/-- The text without the blanks at both ends. -/
def trim (cs : List Char) : List Char :=
  dropEndWhile isBlank (trimStart cs)

/-- The text without the white space at both ends. -/
def trimSpace (cs : List Char) : List Char :=
  dropEndWhile isSpace (cs.dropWhile isSpace)

end LintBridge.Text
