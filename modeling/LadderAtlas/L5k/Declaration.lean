import LadderAtlas.Document.Field
import LadderAtlas.L5k.Attributes

/-! # Declarations

The statements inside a block end with semicolons. A tag or parameter is declared as
`name : TYPE[dims] (attributes) := value`, an alias as `name OF target (attributes)`, a member of a
data type in one of three older forms. -/

namespace LadderAtlas.L5k
open Text

/-- The statements of a block's lines. -/
def statements (lines : List (List Char)) : List (List Char) :=
  let text := joined [' '] ((lines.map trim).filter (· ≠ []))
  ((splitTop ';' text).map trim).filter (· ≠ [])

structure Declaration where
  name : String
  dataType : String := "Unknown"
  attributes : Attributes
  dimensions : Option String := none
  value : Option String := none
  aliasFor : Option String := none
deriving Repr, DecidableEq

/-- A text that is not blank, without the blanks around it. -/
def filled? (s : List Char) : Option String :=
  match trim s with
  | [] => none
  | t => some (String.ofList t)

/-- Splits `name[dims]` into the name and what is between the brackets. -/
def arrayType? (s : List Char) : Option (List Char × List Char) :=
  let (name, rest) := s.span fun c => c ≠ '[' && !isBlank c
  match name, trimLeft rest with
  | _ :: _, '[' :: rest =>
    match rest.span (· ≠ ']') with
    | (d :: dims, [']']) => some (name, d :: dims)
    | _ => none
  | _, _ => none

/-- The parts of a text between commas. -/
def commaParts (s : List Char) : List (List Char) := splitOn (· = ',') s

/-- A text around the first colon that is not quoted and does not belong to an assignment. -/
def splitColon : Shaded → Option (List Char × List Char)
  | [] => none
  | (c, quoted) :: s =>
    if !quoted && c = ':' && s.head?.all (·.1 ≠ '=') then some ([], Shaded.chars s)
    else (splitColon s).map fun (before, after) => (c :: before, after)

namespace Declaration

/-- Reads `name OF target (attributes)`. -/
def alias? (s : List Char) : Option Declaration :=
  let (name, s) := s.span (!isBlank ·)
  let (gap, s) := s.span isBlank
  match name, gap, s with
  | _ :: _, _ :: _, 'O' :: 'F' :: s =>
    let (gap, s) := s.span isBlank
    let (target, s) := s.span fun c => !isBlank c && c ≠ '('
    match gap, target with
    | _ :: _, _ :: _ =>
      some {
        name := String.ofList name
        attributes := match firstGroup (trimLeft s) with
          | some g => Attributes.parse g.inside
          | none => []
        aliasFor := some (String.ofList target) }
    | _, _ => none
  | _, _, _ => none

/-- The part of a declaration after its colon: type, attributes and value. -/
structure Typed where
  type : List Char
  attributes : Attributes := []
  value : Option String := none
deriving Repr

/-- Reads what follows the colon. Parentheses after an assignment belong to the value. -/
def typed (s : List Char) : Typed :=
  let assign := splitAssign s
  match firstGroup s, assign with
  | some g, none =>
    { type := trim g.before, attributes := Attributes.parse g.inside, value := valueAfter g.after }
  | some g, some (key, v) =>
    if g.before.length < key.length then
      { type := trim g.before, attributes := Attributes.parse g.inside, value := valueAfter g.after }
    else { type := trim key, value := filled? v }
  | none, some (key, v) => { type := trim key, value := filled? v }
  | none, none => { type := trim s }
where
  /-- The value that an assignment at the start of the text gives. -/
  valueAfter (s : List Char) : Option String :=
    match trim s with
    | ':' :: '=' :: v => filled? v
    | _ => none

/-- Reads a declaration with a type. -/
def typed? (s : List Char) : Option Declaration :=
  match splitColon (shade s) with
  | none => none
  | some (before, after) =>
    match filled? before with
    | none => none
    | some name =>
      let t := typed (trim after)
      let (type, dims) := match arrayType? t.type with
        | some (type, dims) => (type, String.ofList (joined [' '] ((commaParts dims).map trim)))
        | none => (t.type, "")
      some {
        name
        dataType := if type.isEmpty then "Unknown" else String.ofList type
        attributes := t.attributes
        dimensions := if dims.isEmpty then t.attributes.get? "Dimension" else some dims
        value := t.value
        aliasFor := t.attributes.get? "AliasFor" }

/-- Reads one statement. -/
def parse? (s : List Char) : Option Declaration := (alias? s).or (typed? s)

/-- The declarations among the lines of a block; other statements are passed over. -/
def collect (lines : List (List Char)) : Noted (List Declaration) := do
  let read ← Noted.each (fun s => do
    match parse? s with
    | some d => return some d
    | none =>
      Noted.note (.unrecognizedDeclaration (String.ofList s))
      return none) (statements lines)
  return read.filterMap id

end Declaration

/-- Reads a member of a data type: `MEMBER name (attributes)`, `TYPE name[dim] (attributes)` or
`BIT name host : bit (attributes)`. Hidden members and what is no member give none. -/
def member? (s : List Char) : Noted (Option Member) := do
  let (head, a) : List Char × Attributes := match firstGroup s with
    | some g => (g.before, Attributes.parse g.inside)
    | none => (s, [])
  if Field.flag false (a.get? "Hidden") then return none
  match words head with
  | first :: second :: _ =>
    let isMember := upper first = "MEMBER".toList
    let dataType := if isMember then (a.get? "DataType").getD "Unknown" else String.ofList first
    let dimension ← Field.whole "member dimension" (a.get? "Dimension")
    let (name, dimension) ← match arrayType? second with
      | some (name, dims) =>
        let d ← Field.whole "member dimension" ((commaParts dims).head?.map String.ofList)
        pure (name, d)
      | none => pure (second, dimension)
    return some {
      name := String.ofList name
      dataType := if uppered dataType = "BIT" then "BOOL" else dataType
      dimension
      description := a.get? "Description"
      radix := a.get? "Radix"
      externalAccess := a.get? "ExternalAccess" }
  | _ =>
    Noted.note (.unrecognizedMember (String.ofList s))
    return none

end LadderAtlas.L5k
