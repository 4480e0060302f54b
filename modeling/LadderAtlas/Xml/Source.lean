/-! # Sources

The characters of an XML document, decoded from bytes. Decoding stops at the first byte sequence
that is no character of XML; `Ending` says whether the source is complete, ends inside a character,
or holds something that cannot be read. Up to that point reading goes on as usual, so an earlier
error is still found first. -/

namespace LadderAtlas.Xml

/-- How the characters of a source end. -/
inductive Ending where
  | complete
  /-- Half of a unit is left over. -/
  | halfUnit
  /-- So many units are left, with which a character begins. -/
  | cutShort (units : Nat)
  /-- So many units are left, the first of which cannot be read. -/
  | unreadable (units : Nat)
deriving Repr, DecidableEq

namespace Ending

def isComplete : Ending → Bool
  | .complete => true
  | _ => false

/-- Whether nothing is left that could begin a character. -/
def isWhole : Ending → Bool
  | .complete | .halfUnit => true
  | _ => false

/-- The units that are left. -/
def units : Ending → Nat
  | .complete | .halfUnit => 0
  | .cutShort n | .unreadable n => n

end Ending

structure Source where
  chars : List Char
  ending : Ending
deriving Repr

/-- The code points that may stand in a document. -/
def isXmlCode (n : Nat) : Bool :=
  n = 0x9 || n = 0xA || n = 0xD || (0x20 ≤ n && n < 0xD800) || (0xE000 ≤ n && n < 0xFFFE) ||
    (0x10000 ≤ n && n < 0x110000)

namespace Source

/-- The source with the characters read so far, last first. -/
def stop (read : List Char) (ending : Ending) : Source := ⟨read.reverse, ending⟩

def isContinuation (b : UInt8) : Bool := 0x80 ≤ b && b < 0xC0

def tail6 (b : UInt8) : Nat := b.toNat % 0x40

/-- Decodes bytes, each sequence of which must be the shortest one of its character. -/
def utf8 (read : List Char) : List UInt8 → Source
  | [] => stop read .complete
  | a :: bytes =>
    let cutShort := stop read (.cutShort (bytes.length + 1))
    let unreadable := stop read (.unreadable (bytes.length + 1))
    if a < 0x80 then
      if isXmlCode a.toNat then utf8 (Char.ofNat a.toNat :: read) bytes else unreadable
    else if a < 0xC0 || 0xF5 ≤ a then unreadable
    else if a < 0xE0 then
      match bytes with
      | b :: bytes =>
        if 0xC2 ≤ a && isContinuation b then utf8 (Char.ofNat (a.toNat % 0x20 * 0x40 + tail6 b) :: read) bytes
        else unreadable
      | _ => cutShort
    else if a < 0xF0 then
      match bytes with
      | b :: c :: bytes =>
        let n := (a.toNat % 0x10 * 0x40 + tail6 b) * 0x40 + tail6 c
        if isContinuation b && isContinuation c && 0x800 ≤ n && isXmlCode n then
          utf8 (Char.ofNat n :: read) bytes
        else unreadable
      | _ => cutShort
    else
      match bytes with
      | b :: c :: d :: bytes =>
        let n := ((a.toNat % 0x8 * 0x40 + tail6 b) * 0x40 + tail6 c) * 0x40 + tail6 d
        if isContinuation b && isContinuation c && isContinuation d && 0x10000 ≤ n && isXmlCode n then
          utf8 (Char.ofNat n :: read) bytes
        else unreadable
      | _ => cutShort

/-- Decodes 16-bit units, most significant byte first when `big`. After a high surrogate the low ten
bits of any unit complete the character. -/
def utf16 (big : Bool) (read : List Char) : List UInt8 → Source
  | [] => stop read .complete
  | [_] => stop read .halfUnit
  | a :: b :: bytes =>
    let n := if big then a.toNat * 0x100 + b.toNat else b.toNat * 0x100 + a.toNat
    if 0xD800 ≤ n && n < 0xDC00 then
      match bytes with
      | c :: d :: bytes =>
        let low := if big then c.toNat * 0x100 + d.toNat else d.toNat * 0x100 + c.toNat
        utf16 big (Char.ofNat (0x10000 + n % 0x400 * 0x400 + low % 0x400) :: read) bytes
      | _ => stop read (.cutShort 1)
    else if isXmlCode n then utf16 big (Char.ofNat n :: read) bytes
    else stop read (.unreadable (bytes.length / 2 + 1))

/-- Decodes single bytes by the characters that they stand for. -/
def singleByte (character? : UInt8 → Option Char) (read : List Char) : List UInt8 → Source
  | [] => stop read .complete
  | a :: bytes =>
    match (character? a).filter (isXmlCode ·.toNat) with
    | some c => singleByte character? (c :: read) bytes
    | none => stop read (.unreadable (bytes.length + 1))

end Source

end LadderAtlas.Xml
