import Tabletop.Text.Basic

/-!
# Encodings

The bytes of a text in UTF-8, and the text that bytes stand for when nobody says how they were
encoded: zero bytes at the front give UTF-16 and UTF-32 away, and all else is UTF-8. A surrogate
without its partner becomes U+FFFD.
-/
namespace Tabletop.Text

def isHighSurrogate (code : Nat) : Bool := 0xd800 ≤ code && code < 0xdc00
def isLowSurrogate (code : Nat) : Bool := 0xdc00 ≤ code && code < 0xe000

def charOfCode (code : Nat) : Char :=
  if isHighSurrogate code || isLowSurrogate code then Char.ofNat 0xfffd else Char.ofNat code

/-- The characters of UTF-16 code units. A unit beyond 16 bits stands for itself. -/
def joinSurrogates : List Nat → Text
  | [] => []
  | high :: low :: rest =>
    if isHighSurrogate high && isLowSurrogate low then
      Char.ofNat (0x10000 + (high - 0xd800) * 0x400 + (low - 0xdc00)) :: joinSurrogates rest
    else charOfCode high :: joinSurrogates (low :: rest)
  | [code] => [charOfCode code]

inductive ByteOrder where
  | bigEndian | littleEndian
  deriving DecidableEq, Repr

inductive Encoding where
  | utf8
  | utf16 (order : ByteOrder)
  | utf32 (order : ByteOrder)
  deriving DecidableEq, Repr

/-- The number of a few bytes. -/
def ByteOrder.number (order : ByteOrder) (bytes : List Nat) : Nat :=
  let leading := match order with
    | .bigEndian => bytes
    | .littleEndian => bytes.reverse
  leading.foldl (fun n byte => n * 256 + byte) 0

/-- The encoding that the first four bytes, or just two bytes, show. -/
def Encoding.ofBytes : List Nat → Encoding
  | a :: b :: c :: d :: _ =>
    if a = 0 then (if b = 0 then .utf32 .bigEndian else .utf16 .bigEndian)
    else if b = 0 then (if c = 0 ∧ d = 0 then .utf32 .littleEndian else .utf16 .littleEndian)
    else .utf8
  | [a, b] =>
    if a = 0 then .utf16 .bigEndian else if b = 0 then .utf16 .littleEndian else .utf8
  | _ => .utf8

/-- The units of two bytes, if no byte is left over. -/
def pairs? (order : ByteOrder) : List Nat → Option (List Nat)
  | a :: b :: rest => (pairs? order rest).map (order.number [a, b] :: ·)
  | [] => some []
  | _ => none

/-- The units of four bytes, if no byte is left over. -/
def quadruples? (order : ByteOrder) : List Nat → Option (List Nat)
  | a :: b :: c :: d :: rest => (quadruples? order rest).map (order.number [a, b, c, d] :: ·)
  | [] => some []
  | _ => none

def charOfCode? (code : Nat) : Option Char :=
  if code < 0x110000 then some (charOfCode code) else none

def bytes (text : Text) : List Nat :=
  text.flatMap fun c => (String.utf8EncodeChar c).map UInt8.toNat

def byteOrderMark : Char := Char.ofNat 0xfeff

/-- What the UTF-8 bytes of a text are read as when their encoding is guessed. A byte order mark
at the front of UTF-8 is no part of the text. -/
def guessed? (text : Text) : Option Text :=
  match Encoding.ofBytes text.bytes with
  | .utf8 => some ((after? [byteOrderMark] text).getD text)
  | .utf16 order => (pairs? order text.bytes).map joinSurrogates
  | .utf32 order => (quadruples? order text.bytes).bind (List.mapM charOfCode?)

end Tabletop.Text
