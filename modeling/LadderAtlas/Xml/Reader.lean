import LadderAtlas.Xml.Content
import LadderAtlas.Xml.Declaration
import LadderAtlas.Xml.Doctype
import LadderAtlas.Xml.Element

/-! # Reading documents

`read` turns the bytes of a document into its root element. Tokens are put together as they come:
the elements that are open form a stack, each with the namespaces in force inside it. A document
that ends too early is told apart from one that is malformed. -/

namespace LadderAtlas.Xml

/-- Why a document has no element tree. -/
inductive Fault where
  | truncated
  | malformed
  | encoding (e : EncodingFault)
deriving Repr, DecidableEq

def Stop.fault : Stop → Fault
  | .truncated => .truncated
  | .malformed => .malformed

/-- Namespaces by prefix, the innermost first; the empty prefix is the default. -/
abbrev Scope := List (String × String)

namespace Scope

/-- The name of a standard namespace, which is the address of its description. -/
def standardUri (path : String) : String := "http" ++ "://" ++ "www.w3.org/" ++ path

def xmlUri : String := standardUri "XML/1998/namespace"

def xmlnsUri : String := standardUri "2000/xmlns/"

/-- Splits a qualified name at its colon. -/
def splitName (n : List Char) : Option (List Char) × List Char :=
  match n.span (· ≠ ':') with
  | (p, _ :: l) => (some p, l)
  | (l, []) => (none, l)

/-- The prefix that an attribute declares; none if it is no namespace declaration. -/
def declares? (n : List Char) : Option String :=
  if n = "xmlns".toList then some ""
  else match splitName n with
    | (some p, l) => if p = "xmlns".toList then some (String.ofList l) else none
    | (none, _) => none

/-- Adds a declaration. Only the prefix `xml` stands for its namespace, `xmlns` for none, and a
prefix cannot be taken back. -/
def declare (scope : Scope) (p uri : String) : Option Scope :=
  if p = "xmlns" || uri = xmlnsUri || (p = "xml") != (uri = xmlUri) || uri.contains '\x7d' ||
      (p ≠ "" && uri = "") then none
  else some ((p, uri) :: scope)

/-- A name written with the namespace in braces before it. -/
def inNamespace (uri : String) (l : List Char) : String :=
  if uri = "" then String.ofList l else "\x7b" ++ uri ++ "\x7d" ++ String.ofList l

def elementName (scope : Scope) (n : List Char) : Option String :=
  match splitName n with
  | (none, l) => some (inNamespace ((scope.lookup "").getD "") l)
  | (some p, l) => (scope.lookup (String.ofList p)).map (inNamespace · l)

/-- Without a prefix an attribute is in no namespace. -/
def attributeName (scope : Scope) (n : List Char) : Option String :=
  match splitName n with
  | (none, l) => some (String.ofList l)
  | (some p, l) => (scope.lookup (String.ofList p)).map (inNamespace · l)

end Scope

/-- An element whose end has not been read. Lists and text are reversed. -/
structure OpenElement where
  name : List Char
  tag : String
  attributes : List (String × String)
  scope : Scope
  text : List Char := []
  children : List Element := []

namespace OpenElement

def close (e : OpenElement) : Element :=
  ⟨e.tag, e.attributes, String.ofList e.text.reverse, e.children.reverse⟩

/-- Text after the first child is not kept. -/
def addText (e : OpenElement) (s : List Char) : OpenElement :=
  if e.children.isEmpty then { e with text := s.reverse ++ e.text } else e

def addChild (e : OpenElement) (c : Element) : OpenElement := { e with children := c :: e.children }

/-- The element that a start tag in a medium opens inside `scope`. -/
def ofStart (d : Doctype) (m : Medium) (scope : Scope) (n : List Char) (given : List (List Char × List Char)) :
    Option OpenElement := do
  let names := given.map (·.1)
  if !names.Nodup then none
  let read ← given.mapM fun (a, v) => do return (a, ← d.attributeValue m (d.isTokenized n a) v)
  let all := read ++ d.defaults n names
  let scope ← all.foldlM (fun scope (a, v) =>
    match Scope.declares? a with
    | some p => scope.declare p (String.ofList v)
    | none => some scope) scope
  let attributes ← (all.filter fun a => (Scope.declares? a.1).isNone).mapM fun (a, v) => do
    return (← scope.attributeName a, String.ofList v)
  if !(attributes.map (·.1)).Nodup then none
  return ⟨n, ← scope.elementName n, attributes, scope, [], []⟩

end OpenElement

/-- What content has led to: elements still open, innermost first, or the root element. -/
inductive Build where
  | within (stack : List OpenElement)
  | done (root : Element)

namespace Build

/-- A finished element goes to the one around it. -/
def finish (c : Element) : List OpenElement → Build
  | [] => .done c
  | e :: stack => .within (e.addChild c :: stack)

def addText (s : List Char) : List OpenElement → List OpenElement
  | [] => []
  | e :: stack => e.addText s :: stack

end Build

/-- Reads content until the root element is closed or the characters end, and returns the rest.
`floor` elements were open before and have to stay so; `expand` reads the content of an entity. -/
def contentWith (d : Doctype) (m : Medium) (floor : Nat)
    (expand : String → List OpenElement → Except Fault (List OpenElement)) :
    (bound : Nat) → List OpenElement → List Char → Except Fault (Build × List Char)
  | 0, stack, s => .ok (.within stack, s)
  | _, stack, [] => .ok (.within stack, [])
  | bound + 1, stack, s => do
    let (token, rest) ← (Token.ofContent m (bound + 1) s).mapError (·.fault)
    let again := contentWith d m floor expand bound
    match token with
    | .nothing => again stack rest
    | .text t => again (Build.addText t stack) rest
    | .reference (.code n) =>
      match charOfCode? n with
      | some c => again (Build.addText [c] stack) rest
      | none => throw .malformed
    | .reference (.entity e) =>
      match predefined? e with
      | some c => again (Build.addText [c] stack) rest
      | none => again (← expand e stack) rest
    | .start n attributes closed =>
      let scope := (stack.head?.map (·.scope)).getD [("xml", Scope.xmlUri)]
      match OpenElement.ofStart d m scope n attributes with
      | none => throw .malformed
      | some e =>
        if closed then
          match Build.finish e.close stack with
          | .done root => return (.done root, rest)
          | .within stack => again stack rest
        else again (e :: stack) rest
    | .finish n =>
      match stack with
      | [] => throw .malformed
      | e :: stack =>
        if e.name ≠ n || stack.length < floor then throw .malformed
        match Build.finish e.close stack with
        | .done root => return (.done root, rest)
        | .within stack => again stack rest

/-- Reads the text of an entity as content, with entities nested at most `depth` deep. It has to close
what it opens and nothing else. -/
def entityContent (d : Doctype) :
    (depth : Nat) → String → List OpenElement → Except Fault (List OpenElement)
  | 0, _, _ => .error .malformed
  | depth + 1, name, stack =>
    match d.entities.lookup name with
    | some (.text t) => do
      match ← contentWith d .entity stack.length (entityContent d depth) (t.length + 1) stack t with
      | (.within after, _) => if after.length = stack.length then return after else throw .malformed
      | (.done _, _) => throw .malformed
    | _ => .error .malformed

/-- Checks that only comments, processing instructions and blanks follow the root element. -/
def epilog (m : Medium) : (bound : Nat) → List Char → Except Fault Unit
  | 0, _ => .ok ()
  | _, [] => if m.ending.isComplete then .ok () else .error m.ended.fault
  | bound + 1, s => do
    match ← (Mark.ofProlog m s).mapError (·.fault) with
    | (.nothing, rest) => epilog m bound rest
    | _ => throw .malformed

/-- Reads the characters of a document after its declaration. -/
def readBody (m : Medium) (standalone : Bool) (s : List Char) : Except Fault Element := do
  let (d, s) ← (Doctype.ofProlog m (s.length + 1) .prolog { standalone } s).mapError (·.fault)
  match ← contentWith d m 0 (entityContent d (d.entities.length + 1)) (s.length + 1) [] s with
  | (.within _, _) => throw m.ended.fault
  | (.done root, s) =>
    epilog m (s.length + 1) s
    return root

def EncodingFault.fault : EncodingFault → Fault
  | .contradictsBytes | .foreign => .malformed
  | e => .encoding e

/-- The root element of a document. A declared encoding holds for what follows the declaration. -/
def read (bytes : List UInt8) : Except Fault Element := do
  if Encoding.endsInSignature bytes then throw .truncated
  let (encoding, body) := Encoding.detect bytes
  let source := encoding.decode body
  let m := Medium.ofSource encoding source.ending
  let (declaration, rest) ← (Declaration.ofStart m source.chars).mapError (·.fault)
  match declaration with
  | none => readBody m false rest
  | some ⟨none, standalone⟩ => readBody m standalone rest
  | some ⟨some name, standalone⟩ =>
    let encoding' ← (encoding.declared name).mapError (·.fault)
    let declared := source.chars.length - rest.length
    let source' := encoding'.decode (body.drop (encoding.width * declared))
    readBody (Medium.ofSource encoding' source'.ending) standalone source'.chars

end LadderAtlas.Xml
