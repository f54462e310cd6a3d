/-!
# Text

Text is a list of characters: every rule of the library that reads or writes text recurses on it.
-/
namespace Tabletop

abbrev Text := List Char

namespace Text

/-- The parts with `mark` between each two of them. -/
def joined (mark : Text) : List Text → Text
  | [] => []
  | [part] => part
  | part :: rest => part ++ mark ++ joined mark rest

/-- The text after `lead`, if the text begins with it. -/
def after? : Text → Text → Option Text
  | [], text => some text
  | _ :: _, [] => none
  | a :: lead, c :: text => if a = c then after? lead text else none

end Text

end Tabletop
