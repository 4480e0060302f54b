import LadderAtlas.Xml.Scan

/-! # Content

The tokens of element content: tags, text, CDATA sections and references. A token is read without
regard to what is open around it; comments and processing instructions are passed over. -/

namespace LadderAtlas.Xml

/-- One token of content. Names and attribute values are as written. -/
inductive Token where
  | start (name : List Char) (attributes : List (List Char × List Char)) (closed : Bool)
  | finish (name : List Char)
  | text (chars : List Char)
  | reference (r : Reference)
  | nothing
deriving Repr

namespace Token
variable (m : Medium)

/-- Reads an attribute value up to its quote `q`, with the value reversed in `read`. References must
be well formed, and no tag may begin. -/
def attributeValue (q : Char) : (read : List Char) → List Char → Except Stop (List Char × List Char)
  | _, [] => .error m.ended
  | read, c :: s => do
    if c = q then return (m.text read.reverse, s)
    if c = '<' then throw .malformed
    if c = '&' then discard <| Xml.reference m s
    attributeValue q (c :: read) s

/-- Reads an attribute: its name, an equals sign and a quoted value. -/
def assignment (s : List Char) : Except Stop ((List Char × List Char) × List Char) := do
  let (n, s) ← qualifiedName m s
  match skipSpace (← expect m ['='] (skipSpace s)) with
  | [] => throw m.stuck
  | q :: s =>
    if q ≠ '"' && q ≠ '\'' then throw .malformed
    let (v, s) ← attributeValue m q [] s
    return ((n, v), s)

/-- The part of a start tag after its name: attributes, each after a blank, and the end. The bound is
on the number of attributes. -/
def startTail (n : List Char) (attributes : List (List Char × List Char)) :
    (bound : Nat) → List Char → Except Stop (Token × List Char)
  | _, '>' :: s => .ok (.start n attributes.reverse false, s)
  | _, '/' :: s => do return (.start n attributes.reverse true, ← expect m ['>'] s)
  | _, [] => .error m.stuck
  | 0, _ => .error .malformed
  | bound + 1, c :: s => do
    if !isSpace c then throw .malformed
    match skipSpace s with
    | [] => throw m.ended
    | '>' :: s => return (.start n attributes.reverse false, s)
    | '/' :: s => return (.start n attributes.reverse true, ← expect m ['>'] s)
    | s =>
      let (a, s) ← assignment m s
      startTail n (a :: attributes) bound s

/-- A start tag, from its name on. -/
def startTag (bound : Nat) (s : List Char) : Except Stop (Token × List Char) := do
  let (n, s) ← qualifiedName m s
  startTail m n [] bound s

/-- An end tag, from its name on. -/
def endTag (s : List Char) : Except Stop (Token × List Char) := do
  match s with
  | [] => throw m.ended
  | c :: _ =>
    if !m.encoding.isNameStart c then throw .malformed
    match s.span fun c => m.encoding.isNameChar c || c = ':' with
    | (_, []) => throw m.ended
    | (n, s) => return (.finish n, ← expect m ['>'] (skipSpace s))

/-- A CDATA section, from its first bracket on. Too short a rest is only cut off, whatever it holds. -/
def cdata (s : List Char) : Except Stop (Token × List Char) := do
  if m.units (s.take 7) < 7 then throw .truncated
  let rec body (read : List Char) : List Char → Except Stop (Token × List Char)
    | ']' :: ']' :: '>' :: s => .ok (.text (m.text read.reverse), s)
    | c :: s => body (c :: read) s
    | [] => .error m.ended
  body [] (← expect m "[CDATA[".toList s)

/-- Text up to the next tag or reference. The end of a CDATA section may not stand in it. -/
def textRun (read : List Char) : List Char → Except Stop (Token × List Char)
  | [] => .ok (.text (m.text read.reverse), [])
  | ']' :: ']' :: '>' :: _ => .error .malformed
  | c :: s =>
    if c = '<' || c = '&' then .ok (.text (m.text read.reverse), c :: s) else textRun (c :: read) s

/-- The first token of content that is not empty. The bound is at least the length of the content. -/
def ofContent (bound : Nat) : List Char → Except Stop (Token × List Char)
  | ['<'] => .error m.ended
  | ['<', '!'] => .error m.stuck
  | '<' :: '/' :: s => endTag m s
  | '<' :: '?' :: s => do return (.nothing, ← instruction m s)
  | '<' :: '!' :: '-' :: s => do return (.nothing, ← comment m s)
  | '<' :: '!' :: '[' :: s => cdata m ('[' :: s)
  | '<' :: s => startTag m bound s
  | '&' :: s => do
    let (r, s) ← Xml.reference m s
    return (.reference r, s)
  | s => textRun m [] s

end Token

end LadderAtlas.Xml
