import LintBridge.Text.Blank

/-!
The words of a text: its longest parts without blanks.
-/

namespace LintBridge.Text

/-- The words of a text, where `word` are the last characters before it that belong to a word, the
last one first. -/
def wordsAfter (word : List Char) : List Char → List (List Char)
  | [] => if word = [] then [] else [word.reverse]
  | c :: rest =>
      if isBlank c then
        if word = [] then wordsAfter [] rest else word.reverse :: wordsAfter [] rest
      else wordsAfter (c :: word) rest

/-- The words of a text. -/
def words (cs : List Char) : List (List Char) :=
  wordsAfter [] cs

end LintBridge.Text
