import LadderAtlas.Failure
import LadderAtlas.Text.Trim
import LadderAtlas.Xml.Element

/-! # Stored subtrees

The settings of a module have no fixed form, so their elements are kept as values: a map with the
attributes, the text under `#text`, and for each tag of a child the list of the children with that
tag. An attribute and a child that share a name cannot both be kept. -/

namespace LadderAtlas.L5x
open Xml

/-- Adds a child to the list under its tag. -/
def addChild (tag : String) (child : Value) : List (Scalar × Value) → Except Fault (List (Scalar × Value))
  | [] => .ok [(.text tag, .list [child])]
  | (k, v) :: m =>
    if k == .text tag then
      match v with
      | .list l => .ok ((k, .list (l ++ [child])) :: m)
      | _ => .error .nameClash
    else (addChild tag child m).map ((k, v) :: ·)

/-- The attributes and the text of an element. -/
def ownEntries (attributes : List (String × String)) (text : String) : List (Scalar × Value) :=
  let entries := attributes.map fun (k, v) => (Scalar.text k, Value.text v)
  match Text.trimmed? text with
  | some t => Value.setEntry entries (.text "#text") (.text t)
  | none => entries

mutual
/-- The value that stands for an element. -/
def subtree : Element → Except Fault Value
  | ⟨_, attributes, text, children⟩ => (withChildren (ownEntries attributes text) children).map .map

/-- Adds children in document order. -/
def withChildren (m : List (Scalar × Value)) : List Element → Except Fault (List (Scalar × Value))
  | [] => .ok m
  | c :: l =>
    match subtree c with
    | .error f => .error f
    | .ok v =>
      match addChild c.tag v m with
      | .error f => .error f
      | .ok m => withChildren m l
end

end LadderAtlas.L5x
