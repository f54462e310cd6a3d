import Tabletop.Text.Hexadecimal
import Tabletop.Text.Printable

/-!
# Quoted text

Messages quote text between single quotes, or between double quotes if the text has a single one
and no double one. Inside, the quote in use and the backslash are escaped, and so is every
character that is not printable.
-/
namespace Tabletop.Text

def singleQuote : Char := '\x27'
def doubleQuote : Char := '\x22'
def backslash : Char := '\x5c'

def quoteFor (text : Text) : Char :=
  if text.contains singleQuote && !text.contains doubleQuote then doubleQuote else singleQuote

def escapeCode (code : Nat) : Text :=
  if code < 0x100 then backslash :: 'x' :: hex 2 code
  else if code < 0x10000 then backslash :: 'u' :: hex 4 code
  else backslash :: 'U' :: hex 8 code

def escaped (quote c : Char) : Text :=
  if c = quote || c = backslash then [backslash, c]
  else if c = '\n' then [backslash, 'n']
  else if c = '\r' then [backslash, 'r']
  else if c = '\t' then [backslash, 't']
  else if isPrintable c then [c]
  else escapeCode c.toNat

def quoted (text : Text) : Text :=
  let quote := quoteFor text
  quote :: text.flatMap (escaped quote) ++ [quote]

end Tabletop.Text
