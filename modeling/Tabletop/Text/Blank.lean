import Tabletop.Text.Basic
import Tabletop.Text.Span

/-!
# Blanks

The white space of notation and commands: the Unicode property White_Space and the four
information separators U+001C to U+001F. Form values are trimmed by White_Space alone.
-/
namespace Tabletop.Text

def blankSpans : List Span :=
  [(0x9, 0xd), (0x1c, 0x20), (0x85, 0x85), (0xa0, 0xa0), (0x1680, 0x1680), (0x2000, 0x200a),
   (0x2028, 0x2029), (0x202f, 0x202f), (0x205f, 0x205f), (0x3000, 0x3000)]

def isBlank (c : Char) : Bool := within blankSpans c

def isInformationSeparator (c : Char) : Bool := within [(0x1c, 0x1f)] c

/-- The property White_Space. -/
def isSpace (c : Char) : Bool := isBlank c && !isInformationSeparator c

/-- The text without the characters of a class at its two ends. -/
def trimmed (drops : Char → Bool) (text : Text) : Text :=
  ((text.dropWhile drops).reverse.dropWhile drops).reverse

def strip (text : Text) : Text := trimmed isBlank text

def withoutBlanks (text : Text) : Text := text.filter fun c => !isBlank c

theorem withoutBlanks_of_blankless {text : Text} (blankless : ∀ c ∈ text, isBlank c = false) :
    withoutBlanks text = text := by
  rw [withoutBlanks, List.filter_eq_self]
  intro c member
  rw [blankless c member]
  rfl

/-- A finished word joins the words after it, unless it is empty. -/
def pushWord (word : Text) (words : List Text) : List Text :=
  if word.isEmpty then words else word :: words

/-- The word that the text begins with, empty before a blank, and the words after it. -/
def wordsFrom : Text → Text × List Text
  | [] => ([], [])
  | c :: text =>
    let (word, words) := wordsFrom text
    if isBlank c then ([], pushWord word words) else (c :: word, words)

/-- The maximal runs of characters that are not blank, in order. -/
def words (text : Text) : List Text :=
  let (word, rest) := wordsFrom text
  pushWord word rest

end Tabletop.Text
