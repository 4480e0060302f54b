import LadderAtlas.Xml.Codec
import LadderAtlas.Xml.NameChar
import LadderAtlas.Xml.Source

/-! # Encodings

How the bytes of a document are read, as its first bytes show and as its declaration says. A few encodings are known
by themselves; the others are found among the codecs. -/

namespace LadderAtlas.Xml

inductive Encoding where
  | utf8
  | utf16 (big : Bool)
  /-- ISO 8859-1, where it is known by itself. -/
  | latin
  | singleByte (character? : UInt8 → Option Char)

/-- Why a declared encoding cannot be used. -/
inductive EncodingFault where
  | unknown (name : String)
  /-- The codec is about bytes, not about texts. -/
  | noText (name : String)
  | multiByte
  | failing (message : String)
  /-- The encoding does not keep the letters and marks of ASCII. -/
  | foreign
  | contradictsBytes
deriving Repr, DecidableEq

/-- The characters of a codec whose letters and marks of ASCII are where they should be. -/
def Characters.character? : Characters → UInt8 → Option Char
  | .upper s, b => if b < 0x80 then some (Char.ofNat b.toNat) else (s.toList[b.toNat - 128]?).filter (·.toNat ≠ 0xFFFD)
  | .latin, b => some (Char.ofNat b.toNat)
  | .noTilde, b => if b < 0x7E || b = 0x7F then some (Char.ofNat b.toNat) else none
  | _, b => if b < 0x80 then some (Char.ofNat b.toNat) else none

namespace Encoding

def decode : Encoding → List UInt8 → Source
  | .utf8, bytes => Source.utf8 [] bytes
  | .utf16 big, bytes => Source.utf16 big [] bytes
  | .latin, bytes => Source.singleByte Characters.latin.character? [] bytes
  | .singleByte character?, bytes => Source.singleByte character? [] bytes

/-- The bytes of a unit. -/
def width : Encoding → Nat
  | .utf16 _ => 2
  | _ => 1

/-- The units that a character takes. -/
def units (e : Encoding) (c : Char) : Nat :=
  match e with
  | .utf8 => c.utf8Size
  | .utf16 _ => if c.toNat < 0x10000 then 1 else 2
  | _ => 1

/-- Whether the letters ª, µ and º may stand in names, as they may where Latin-1 has a table of its own. -/
def hasOrdinals : Encoding → Bool
  | .utf16 _ | .latin => true
  | _ => false

def isOrdinal (e : Encoding) (c : Char) : Bool := e.hasOrdinals && (c = 'ª' || c = 'µ' || c = 'º')

def isNameStart (e : Encoding) (c : Char) : Bool := Xml.isNameStart c || e.isOrdinal c

def isNameChar (e : Encoding) (c : Char) : Bool := Xml.isNameChar c || e.isOrdinal c

/-- Whether a character can stand in the word of a declaration; only the first table of an encoding is asked. -/
def isWordLetter (e : Encoding) (c : Char) : Bool :=
  e.isNameStart c && match e with
    | .utf8 => c.toNat < 0x80
    | .utf16 _ => c.toNat < 0x100
    | _ => true

/-- The encoding that the first bytes of a document show, and the bytes after a byte order mark. -/
def detect : List UInt8 → Encoding × List UInt8
  | 0xFE :: 0xFF :: bytes => (.utf16 true, bytes)
  | 0xFF :: 0xFE :: bytes => (.utf16 false, bytes)
  | 0xEF :: 0xBB :: 0xBF :: bytes => (.utf8, bytes)
  | a :: b :: bytes =>
    if a = 0 then (.utf16 true, a :: b :: bytes)
    else if b = 0 then (.utf16 false, a :: b :: bytes)
    else (.utf8, a :: b :: bytes)
  | bytes => (.utf8, bytes)

/-- Whether too few bytes are there to tell the encoding. -/
def endsInSignature : List UInt8 → Bool
  | [a] => a = 0 || a = 0x3C || 0xFE ≤ a || a = 0xEF
  | [a, b] => a = 0xEF && b = 0xBB
  | _ => false

/-- The words of an encoding name in lower case, joined by underscores. Names with equal keys mean the
same encoding. -/
def key (name : String) : String :=
  let isPart (c : Char) := c.isAlphanum || c = '.'
  let words := (name.toList.map Char.toLower).splitBy fun a b => isPart a && isPart b
  String.ofList ((words.filter fun w => w.any isPart).intersperse ['_']).flatten

/-- The encoding that a name stands for among the codecs. -/
def ofName (name : String) : Except EncodingFault Encoding :=
  match Codec.find? (key name) with
  | none => .error (.unknown name)
  | some codec =>
    match codec.characters with
    | .foreign => .error .foreign
    | .multiByte => .error .multiByte
    | .noText => .error (.noText name)
    | .failing message => .error (.failing message)
    | characters => .ok (.singleByte characters.character?)

/-- The encodings that are known by themselves, given whether those of 16-bit units have the most significant byte
first where they do not say. -/
def builtIn? (big : Bool) (name : String) : Option Encoding :=
  match String.ofList (name.toList.map Char.toLower) with
  | "utf-8" => some .utf8
  | "utf-16" => some (.utf16 big)
  | "utf-16be" => some (.utf16 true)
  | "utf-16le" => some (.utf16 false)
  | "iso-8859-1" => some .latin
  | "us-ascii" => some (.singleByte Characters.ascii.character?)
  | _ => none

/-- The encoding that a declaration names, given the one in use. One that is known by itself may not contradict it;
any other takes its place. -/
def declared (current : Encoding) (name : String) : Except EncodingFault Encoding :=
  match current with
  | .utf16 big =>
    match builtIn? big name with
    | some (.utf16 big') => if big' = big then .ok current else .error .contradictsBytes
    | some _ => .error .contradictsBytes
    | none => ofName name
  | _ =>
    match builtIn? true name with
    | some (.utf16 _) => .error .contradictsBytes
    | some e => .ok e
    | none => ofName name

end Encoding

end LadderAtlas.Xml
