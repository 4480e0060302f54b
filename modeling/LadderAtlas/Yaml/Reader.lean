import LadderAtlas.Yaml.Node
import LadderAtlas.Yaml.Plain

/-! # Reading YAML

`Yaml.read` gives the value of the one document of a text. Where a key comes twice its last value
counts, at the place of the first. -/

namespace LadderAtlas.Yaml

/-- The plain scalar that has no value of its own. -/
def defaultMark : List Char := ['=']

mutual

def Node.value : Node → Except Fault Value
  | .scalar true s => if s = defaultMark then .error .construction else .ok (.scalar (plainScalar s))
  | .scalar false s => .ok (.text (String.ofList s))
  | .sequence l => return .list (← itemValues l)
  | .mapping m => return .map (← entryValues [] m)

def itemValues : List Node → Except Fault (List Value)
  | [] => .ok []
  | n :: l => return (← n.value) :: (← itemValues l)

def entryValues (found : List (Scalar × Value)) : List (Node × Node) → Except Fault (List (Scalar × Value))
  | [] => .ok found
  | (k, v) :: l => do
    match ← k.value with
    | .scalar key => entryValues (Value.setEntry found key (← v.value)) l
    | _ => throw .construction

end

/-- The value of a text; null if it holds no document. -/
def read (text : List Char) : Except Fault Value := do
  match ← Node.ofTokens (Token.scan text) with
  | none => return .null
  | some n => n.value

end LadderAtlas.Yaml
