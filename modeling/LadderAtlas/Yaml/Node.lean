import LadderAtlas.Yaml.Token

/-! # Nodes of YAML

`Node.ofTokens` reads the one document of a text. A collection may be written in blocks, in brackets
or, as the value of a key, as dashes without further indentation; a value that is left out is empty. -/

namespace LadderAtlas.Yaml

inductive Node where
  | scalar (plain : Bool) (text : List Char)
  | sequence (items : List Node)
  | mapping (entries : List (Node × Node))
deriving Repr, Inhabited

abbrev Parser := StateT (List Token) (Except Fault)

namespace Parser

/-- The next token. -/
def peek : Parser Token := do
  match ← get with
  | .broken f :: _ => throw f
  | t :: _ => return t
  | [] => return .finish

def skip : Parser Unit := modify fun l => l.drop 1

/-- Passes over a token if it comes next. -/
def accept (t : Token) : Parser Bool := do
  if (← peek) = t then
    skip
    return true
  return false

def expect (t : Token) : Parser Unit := do
  if !(← accept t) then throw .order

/-- The value that is left out. -/
def omitted : Node := .scalar true []

mutual

/-- A node. In blocks it may be a block collection; where `dashes` is set also items without
indentation of their own. -/
def node : (fuel : Nat) → (block dashes : Bool) → Parser Node
  | 0, _, _ => throw .order
  | fuel + 1, block, dashes => do
    let t ← peek
    if dashes && t = .dash then return .sequence (← bareItems fuel)
    match t with
    | .scalar plain s =>
      skip
      return .scalar plain s
    | .flowSequence =>
      skip
      return .sequence (← flowItems fuel true)
    | .flowMapping =>
      skip
      return .mapping (← flowEntries fuel true)
    | .blockSequence =>
      if !block then throw .order
      skip
      return .sequence (← blockItems fuel)
    | .blockMapping =>
      if !block then throw .order
      skip
      return .mapping (← blockEntries fuel)
    | _ => throw .order

/-- A node, or the omitted one before certain tokens. -/
def nodeUnless : (fuel : Nat) → (block dashes : Bool) → List Token → Parser Node
  | 0, _, _, _ => throw .order
  | fuel + 1, block, dashes, stops => do
    if stops.contains (← peek) then return omitted
    node fuel block dashes

def blockItems : (fuel : Nat) → Parser (List Node)
  | 0 => throw .order
  | fuel + 1 => do
    if ← accept .dash then
      let n ← nodeUnless fuel true false [.dash, .blockEnd]
      return n :: (← blockItems fuel)
    expect .blockEnd
    return []

/-- Items without indentation of their own. -/
def bareItems : (fuel : Nat) → Parser (List Node)
  | 0 => throw .order
  | fuel + 1 => do
    if ← accept .dash then
      let n ← nodeUnless fuel true false [.dash, .key, .value, .blockEnd]
      return n :: (← bareItems fuel)
    return []

def blockEntries : (fuel : Nat) → Parser (List (Node × Node))
  | 0 => throw .order
  | fuel + 1 => do
    let stops := [.key, .value, .blockEnd]
    if ← accept .key then
      let k ← nodeUnless fuel true true stops
      let v ← if ← accept .value then nodeUnless fuel true true stops else pure omitted
      return (k, v) :: (← blockEntries fuel)
    expect .blockEnd
    return []

/-- The items of a sequence in brackets; those after the first are preceded by a comma. -/
def flowItems : (fuel : Nat) → (first : Bool) → Parser (List Node)
  | 0, _ => throw .order
  | fuel + 1, first => do
    if ← accept .flowSequenceEnd then return []
    if !first then expect .comma
    if ← accept .flowSequenceEnd then return []
    let n ← if ← accept .key then
        let k ← nodeUnless fuel false false [.value, .comma, .flowSequenceEnd]
        let v ← if ← accept .value then nodeUnless fuel false false [.comma, .flowSequenceEnd] else pure omitted
        pure (.mapping [(k, v)])
      else node fuel false false
    return n :: (← flowItems fuel false)

/-- The entries of a mapping in braces; those after the first are preceded by a comma. -/
def flowEntries : (fuel : Nat) → (first : Bool) → Parser (List (Node × Node))
  | 0, _ => throw .order
  | fuel + 1, first => do
    if ← accept .flowMappingEnd then return []
    if !first then expect .comma
    if ← accept .flowMappingEnd then return []
    let entry ← if ← accept .key then
        let k ← nodeUnless fuel false false [.value, .comma, .flowMappingEnd]
        let v ← if ← accept .value then nodeUnless fuel false false [.comma, .flowMappingEnd] else pure omitted
        pure (k, v)
      else
        let k ← node fuel false false
        pure (k, omitted)
    return entry :: (← flowEntries fuel false)

end

/-- Passes over the ends of documents. -/
def skipEnds : (fuel : Nat) → Parser Unit
  | 0 => return
  | fuel + 1 => do
    if ← accept .documentEnd then skipEnds fuel

/-- The only document; none in an empty text. -/
def document : Parser (Option Node) := do
  let fuel := 4 * (← get).length + 4
  if (← peek) = .finish then return none
  let n ← if ← accept .documentStart then
      nodeUnless fuel true false [.documentStart, .documentEnd, .finish]
    else node fuel true false
  skipEnds fuel
  match ← peek with
  | .finish => return some n
  | .documentStart => throw .composition
  | _ => throw .order

end Parser

def Node.ofTokens (l : List Token) : Except Fault (Option Node) := return (← Parser.document.run l).1

end LadderAtlas.Yaml
