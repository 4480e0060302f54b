import LadderAtlas.Xml.Scan

/-! # The declaration of a document

What the first line of a document may say: a version, then an encoding, then whether the document
stands alone, each as a name and a quoted value. -/

namespace LadderAtlas.Xml

structure Declaration where
  encoding : Option String := none
  standalone : Bool := false
deriving Repr, DecidableEq

namespace Declaration

/-- The items of a declaration in order; none if one of them is malformed. Each begins with a
blank, and its value holds ASCII letters, digits, points, hyphens and underscores. -/
def items : (bound : Nat) → List Char → Option (List (String × String))
  | 0, _ => none
  | bound + 1, s =>
    let t := skipSpace s
    if t.isEmpty then some []
    else if t.length = s.length then none
    else
      let (key, t) := t.span fun c => c ≠ '=' && !isSpace c
      match key, skipSpace t with
      | _ :: _, '=' :: t =>
        match skipSpace t with
        | q :: t =>
          let (value, t) := t.span (· ≠ q)
          let allowed := value.all fun c => c.isAlphanum || c ∈ ['.', '-', '_']
          match t with
          | _ :: t =>
            if (q = '"' || q = '\'') && allowed then
              (items bound t).map ((String.ofList key, String.ofList value) :: ·)
            else none
          | [] => none
        | [] => none
      | _, _ => none

/-- The meaning of an item after the encoding. -/
def ofStandalone? (encoding : Option String) : List (String × String) → Option Declaration
  | [] => some ⟨encoding, false⟩
  | [("standalone", "yes")] => some ⟨encoding, true⟩
  | [("standalone", "no")] => some ⟨encoding, false⟩
  | _ => none

def ofItems? : List (String × String) → Option Declaration
  | ("version", _) :: ("encoding", e) :: rest =>
    if e.toList.head?.any Char.isAlpha then ofStandalone? (some e) rest else none
  | ("version", _) :: rest => ofStandalone? none rest
  | _ => none

/-- The declaration that a document begins with, if any, and what follows it. -/
def ofStart (m : Medium) (s : List Char) : Except Stop (Option Declaration × List Char) := do
  match s with
  | '<' :: '?' :: 'x' :: 'm' :: 'l' :: c :: rest =>
    if !(isSpace c || c = '?') then return (none, s)
    let after ← if c = '?' then expect m ['>'] rest else instructionEnd m rest
    let body := (c :: rest).take ((c :: rest).length - after.length - 2)
    match (items (body.length + 1) body).bind ofItems? with
    | some d => return (some d, after)
    | none => throw .malformed
  | _ => return (none, s)

end Declaration

end LadderAtlas.Xml
