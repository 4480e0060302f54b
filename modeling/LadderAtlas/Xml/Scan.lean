import LadderAtlas.Xml.Encoding

/-! # Scanning

The smallest parts of a document: blanks, names, references, comments and processing instructions.
A scanner takes the characters that are left and returns what it has read with the rest. `Stop`
keeps apart a document that ends too early and one that goes on wrongly; which of them it is where
the characters are used up depends on what is left of the source. -/

namespace LadderAtlas.Xml

/-- Why reading cannot go on. -/
inductive Stop where
  | truncated
  | malformed
deriving Repr, DecidableEq

/-- What is known of a text besides its characters. -/
structure Medium where
  encoding : Encoding
  ending : Ending
  /-- Whether carriage returns are kept; in a document each line break is one line feed. -/
  keepsReturns : Bool

/-- Makes each line end with one line feed. -/
def lineFeeds : List Char → List Char
  | '\r' :: '\n' :: s => '\n' :: lineFeeds s
  | '\r' :: s => '\n' :: lineFeeds s
  | c :: s => c :: lineFeeds s
  | [] => []

namespace Medium

/-- The text of an entity. -/
def entity : Medium := ⟨.utf8, .complete, true⟩

def ofSource (e : Encoding) (ending : Ending) : Medium := ⟨e, ending, false⟩

/-- The characters are used up where any character may stand. -/
def ended (m : Medium) : Stop :=
  match m.ending with
  | .unreadable _ => .malformed
  | _ => .truncated

/-- The characters are used up where only some characters of ASCII may stand. -/
def stuck (m : Medium) : Stop := if m.ending.isWhole then .truncated else .malformed

/-- The units of a text to its end, together with those that are left of the source. -/
def units (m : Medium) (s : List Char) : Nat := s.foldr (fun c n => m.encoding.units c + n) m.ending.units

def text (m : Medium) (s : List Char) : List Char := if m.keepsReturns then s else lineFeeds s

end Medium

def isSpace (c : Char) : Bool := c = ' ' || c = '\t' || c = '\n' || c = '\r'

def skipSpace (s : List Char) : List Char := s.dropWhile isSpace

section
variable (m : Medium)

/-- Reads exactly `text`, which is ASCII. -/
def expect : (text : List Char) → List Char → Except Stop (List Char)
  | [], s => .ok s
  | _ :: _, [] => .error m.stuck
  | c :: text, d :: s => if c = d then expect text s else .error .malformed

/-- A name without a colon. It has to be followed by some character. -/
def name : List Char → Except Stop (List Char × List Char)
  | [] => .error m.ended
  | c :: s =>
    if m.encoding.isNameStart c then
      match s.span m.encoding.isNameChar with
      | (_, []) => .error m.ended
      | (body, rest) => .ok (c :: body, rest)
    else .error .malformed

/-- A name with at most one colon, which stands between two names. -/
def qualifiedName (s : List Char) : Except Stop (List Char × List Char) := do
  match ← name m s with
  | (first, ':' :: s) =>
    let (second, s) ← name m s
    return (first ++ ':' :: second, s)
  | r => return r

/-- What an ampersand begins. -/
inductive Reference where
  | code (n : Nat)
  | entity (name : String)
deriving Repr, DecidableEq

def hexValue (c : Char) : Nat :=
  if c.isDigit then c.toNat - 48 else c.toLower.toNat - 87

def isHexDigit (c : Char) : Bool := c.isDigit || ('a' ≤ c.toLower && c.toLower ≤ 'f')

/-- Reads digits in a base up to a semicolon. -/
def codePoint (base : Nat) (isDigit : Char → Bool) (s : List Char) : Except Stop (Reference × List Char) :=
  match s with
  | [] => .error m.stuck
  | _ =>
    let (digits, rest) := s.span isDigit
    match digits, rest with
    | [], _ => .error .malformed
    | _, [] => .error m.stuck
    | _, ';' :: rest => .ok (.code (digits.foldl (fun n c => base * n + hexValue c) 0), rest)
    | _, _ => .error .malformed

/-- A reference, from the character after the ampersand on. -/
def reference : List Char → Except Stop (Reference × List Char)
  | '#' :: 'x' :: s => codePoint m 16 isHexDigit s
  | '#' :: s => codePoint m 10 Char.isDigit s
  | s => do
    match ← name m s with
    | (n, ';' :: s) => return (.entity (String.ofList n), s)
    | _ => throw .malformed

/-- The character that a code point reference stands for. -/
def charOfCode? (n : Nat) : Option Char := if isXmlCode n then some (Char.ofNat n) else none

/-- The entities that every document has. -/
def predefined? (name : String) : Option Char :=
  [("lt", '<'), ("gt", '>'), ("amp", '&'), ("apos", '\''), ("quot", '"')].lookup name

/-- Skips a comment, from the character after its first hyphen on. Two hyphens end it. -/
def comment (s : List Char) : Except Stop (List Char) := do
  let rec body : List Char → Except Stop (List Char)
    | '-' :: '-' :: s => expect m ['>'] s
    | _ :: s => body s
    | [] => .error m.ended
  body (← expect m ['-'] s)

/-- Skips to the end of a processing instruction. -/
def instructionEnd : List Char → Except Stop (List Char)
  | '?' :: '>' :: s => .ok s
  | _ :: s => instructionEnd s
  | [] => .error m.ended

/-- Skips a processing instruction, from its target on. The target may not be that of the XML
declaration; in capitals it is refused before the end is looked for. -/
def instruction (s : List Char) : Except Stop (List Char) := do
  let (target, s) ← name m s
  let atBlank := s.head?.any isSpace
  let atMark := s.head? = some '?'
  if !(atBlank || atMark) then throw .malformed
  if target.map Char.toLower = ['x', 'm', 'l'] && target ≠ ['x', 'm', 'l'] then throw .malformed
  let rest ← if atBlank then instructionEnd m s else expect m ['?', '>'] s
  if target = ['x', 'm', 'l'] then throw .malformed
  return rest

end

end LadderAtlas.Xml
