import Tabletop.Text.Basic
import Tabletop.Text.CaseTable

/-!
# Letter case

Full Unicode case mapping. Lower-casing looks at the neighbours of a capital sigma; every other
mapping is character by character.
-/
namespace Tabletop.Text

def expanded? (table : List (Nat × List Nat)) (c : Char) : Option Text :=
  (table.lookup c.toNat).map fun codes => codes.map Char.ofNat

/-- The lower case of a character outside any context. -/
def lowerChar (c : Char) : Text :=
  if c.toNat = 0x130 then [Char.ofNat 0x69, Char.ofNat 0x307]
  else [(moved? lowerRuns c).getD c]

def titleChar (c : Char) : Text :=
  match expanded? titleExpansions c with
  | some text => text
  | none => [(moved? titleRuns c).getD c]

def upperChar (c : Char) : Text :=
  match expanded? upperExpansions c with
  | some text => text
  | none =>
    match moved? upperRuns c with
    | some upper => [upper]
    | none => titleChar c

/-- The first character that the final-sigma rule does not look past is cased. -/
def facesCased (text : Text) : Bool :=
  (text.dropWhile (within caseIgnorableSpans)).head?.any (within casedSpans)

/-- A sigma is final after a cased letter and not before one. -/
def isFinalSigma (before after : Text) : Bool := facesCased before && !facesCased after

/-- The lower case of `c` between the reversed text before it and the text after it. -/
def lowerAt (before : Text) (c : Char) (after : Text) : Text :=
  if c.toNat = 0x3a3 then [Char.ofNat (if isFinalSigma before after then 0x3c2 else 0x3c3)]
  else lowerChar c

def lowerFrom (before : Text) : Text → Text
  | [] => []
  | c :: after => lowerAt before c after ++ lowerFrom (c :: before) after

def lower (text : Text) : Text := lowerFrom [] text

def upper (text : Text) : Text := text.flatMap upperChar

/-- Title case of the first character, lower case of the rest. -/
def capitalized : Text → Text
  | [] => []
  | c :: rest => titleChar c ++ lowerFrom [c] rest

end Tabletop.Text
