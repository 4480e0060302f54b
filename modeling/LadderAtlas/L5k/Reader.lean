import LadderAtlas.Document.Revision
import LadderAtlas.L5k.Block
import LadderAtlas.L5k.Declaration
import LadderAtlas.L5k.Rungs

/-! # Reading L5K files

An L5K file states the revision of its format and holds one controller block, in whose body stand the
blocks of its parts. `Document.ofL5k` reads a decoded text. -/

namespace LadderAtlas.L5k
open Text

/-! ## Decoding -/

def isTail (b : UInt8) : Bool := 0x80 ≤ b && b < 0xC0

def tailBits (b : UInt8) : Nat := b.toNat % 0x40

/-- The code points of bytes in UTF-8; none if they are not. -/
def utf8? : List UInt8 → Option (List Char)
  | [] => some []
  | a :: bytes =>
    if a < 0x80 then (utf8? bytes).map (Char.ofNat a.toNat :: ·)
    else match bytes with
      | [] => none
      | b :: bytes =>
        if !isTail b || a < 0xC2 || 0xF4 < a then none
        else if a < 0xE0 then
          (utf8? bytes).map (Char.ofNat (a.toNat % 0x20 * 0x40 + tailBits b) :: ·)
        else match bytes with
          | [] => none
          | c :: bytes =>
            let n := (a.toNat % 0x10 * 0x40 + tailBits b) * 0x40 + tailBits c
            if !isTail c then none
            else if a < 0xF0 then
              if n < 0x800 || (0xD800 ≤ n && n < 0xE000) then none
              else (utf8? bytes).map (Char.ofNat n :: ·)
            else match bytes with
              | [] => none
              | d :: bytes =>
                let n := ((a.toNat % 0x8 * 0x40 + tailBits b) * 0x40 + tailBits c) * 0x40 + tailBits d
                if !isTail d || n < 0x10000 || 0x110000 ≤ n then none
                else (utf8? bytes).map (Char.ofNat n :: ·)

/-- The text of a file: UTF-8 less a byte order mark, else one character for each byte. -/
def decodeBytes (bytes : List UInt8) : List Char :=
  match utf8? bytes with
  | some s => if s.head? = some (Char.ofNat 0xFEFF) then s.drop 1 else s
  | none => bytes.map fun b => Char.ofNat b.toNat

/-! ## The format revision -/

/-- The revision in a line `IE_VER := revision;` at the start of the text. -/
def revisionAt? (s : List Char) : Option (List Char) := do
  let s ← afterPrefix? "IE_VER".toList (trimLeft s)
  let s ← afterPrefix? [':', '='] (trimLeft s)
  let (revision, s) := (trimLeft s).span fun c => !isBlank c && c ≠ ';'
  if revision.isEmpty || (trimLeft s).head? ≠ some ';' then none else some revision

/-- The first revision that stands at the start of a line; `atStart` says whether the text begins
one. -/
def revision? (atStart : Bool) : List Char → Option (List Char)
  | [] => none
  | c :: s => (if atStart then revisionAt? (c :: s) else none).or (revision? (c = '\n') s)

def supportedMajor : Int := 2

/-- Checks the format revision of a text, if it states one. -/
def checkRevision (s : List Char) : Except Failure (Option String) :=
  match revision? true s with
  | none => .ok none
  | some r => do
    if ← Revision.majorIs supportedMajor r then return some (String.ofList r)
    throw (.parse .l5k (.unsupportedRevision (String.ofList r)))

/-! ## The parts of a controller -/

/-- The keywords of routine blocks with the types they stand for. -/
def routineTypes : List (String × String) :=
  [("ROUTINE", ladderType), ("ST_ROUTINE", "ST"), ("FBD_ROUTINE", "FBD"), ("SFC_ROUTINE", "SFC")]

def routineKeywords : List String := routineTypes.map (·.1)

def controllerKeywords : List String :=
  ["TAG", "DATATYPE", "ADD_ON_INSTRUCTION_DEFINITION", "MODULE", "PROGRAM", "TASK"]

/-- The outermost blocks of a body. -/
def blocks (keywords : List String) (lines : List (List Char)) : Reading (List Block) :=
  Reading.ofExcept ((Block.collect keywords lines).mapError (.parse .l5k))

def tags (scope : String) (b : Block) : Noted (List Tag) := do
  return (← Declaration.collect b.body).map fun d =>
    let a := d.attributes
    { name := d.name
      dataType := d.dataType
      scope
      description := a.get? "Description"
      usage := a.get? "Usage"
      value := d.value
      aliasFor := d.aliasFor
      radix := a.get? "Radix"
      externalAccess := a.get? "ExternalAccess"
      dimensions := d.dimensions
      tagType := some (if d.aliasFor.isSome then "Alias" else "Base")
      constant := Field.flag false (a.get? "Constant") }

def udt (b : Block) : Noted Udt := do
  let members ← Noted.each member? (statements b.body)
  return {
    name := b.name
    description := b.attributes.get? "Description"
    familyType := b.attributes.get? "FamilyType"
    members := members.filterMap id }

def parameters (b : Block) : Noted (List Parameter) := do
  return (← Declaration.collect b.body).map fun d =>
    let a := d.attributes
    { name := d.name
      dataType := d.dataType
      usage := (a.get? "Usage").getD "Input"
      required := Field.flag false (a.get? "Required")
      visible := Field.flag true (a.get? "Visible")
      description := a.get? "Description"
      externalAccess := a.get? "ExternalAccess"
      defaultValue := (a.get? "DefaultValue").or d.value }

def localTags (b : Block) : Noted (List LocalTag) := do
  return (← Declaration.collect b.body).map fun d =>
    let a := d.attributes
    { name := d.name
      dataType := d.dataType
      radix := a.get? "Radix"
      externalAccess := a.get? "ExternalAccess"
      description := a.get? "Description" }

/-- The type of a routine block and its rungs; only ladder routines have any. -/
def routineRungs (program : String) (b : Block) : Noted (String × List Rung) := do
  if b.keyword = "ROUTINE" then return (ladderType, ← rungs program b.name b.body)
  return ((routineTypes.lookup b.keyword).getD ladderType, [])

/-- The number of rungs of a ladder routine; other routines have none to count. -/
def rungCount (type : String) (l : List Rung) : Option Int :=
  if type = ladderType then some l.length else none

/-- What a block in an add-on instruction contributes. -/
inductive AoiPart where
  | parameters (l : List Parameter)
  | localTags (l : List LocalTag)
  | routine (r : AoiRoutine)

def aoiPart (aoi : String) (b : Block) : Noted AoiPart := do
  if b.keyword = "PARAMETERS" then return .parameters (← parameters b)
  if b.keyword = "LOCAL_TAGS" then return .localTags (← localTags b)
  let (type, l) ← routineRungs aoi b
  return .routine {
    name := b.name
    type
    description := b.attributes.get? "Description"
    rungCount := rungCount type l }

def aoi (b : Block) : Reading Aoi := do
  let inner ← blocks (["PARAMETERS", "LOCAL_TAGS"] ++ routineKeywords) b.body
  let parts ← Noted.each (aoiPart b.name) inner
  let a := b.attributes
  return {
    name := b.name
    revision := a.get? "Revision"
    vendor := a.get? "Vendor"
    description := a.get? "Description"
    parameters := parts.flatMap fun | .parameters l => l | _ => []
    localTags := parts.flatMap fun | .localTags l => l | _ => []
    routines := parts.filterMap fun | .routine r => some r | _ => none
    executePrescan := Field.flag false (a.get? "ExecutePrescan")
    executePostscan := Field.flag false (a.get? "ExecutePostscan")
    executeEnableInFalse := Field.flag false (a.get? "ExecuteEnableInFalse")
    createdDate := a.get? "CreatedDate"
    createdBy := a.get? "CreatedBy"
    editedDate := a.get? "EditedDate"
    editedBy := a.get? "EditedBy" }

/-- What a block in a program contributes: its tags, or a routine with its rungs. -/
def programPart (program : String) (b : Block) : Noted Contents := do
  if b.keyword = "TAG" then
    return { tags := ← tags (programScope program) b, sections := [.tags] }
  let (type, l) ← routineRungs program b
  return {
    rungs := l
    routines := [{
      name := b.name
      programName := program
      type
      description := b.attributes.get? "Description"
      rungCount := rungCount type l }] }

def program (b : Block) : Reading Contents := do
  let inner ← blocks ("TAG" :: routineKeywords) b.body
  let parts ← Noted.each (programPart b.name) inner
  return { sections := [.programs] } ++ Contents.join parts

/-- Settings of a module other than those with a field of their own. -/
def moduleSettings (a : Attributes) : Attributes :=
  a.filter fun (key, _) => uppered key ∉ ["CATALOGNUMBER", "PARENT", "PARENTMODULE", "SLOT"]

def ioModule (b : Block) : Noted IoModule := do
  let a := b.attributes
  let settings := moduleSettings a
  return {
    name := b.name
    catalogNumber := a.get? "CatalogNumber"
    parentModule := (a.get? "Parent").or (a.get? "ParentModule")
    slot := ← Field.whole "slot" (a.get? "Slot")
    connectionInfo :=
      if settings.isEmpty then .null else .record (settings.map fun (k, v) => (k, .text v)) }

def task (b : Block) : Noted Task := do
  let a := b.attributes
  let scheduled := (statements b.body).map fun s => String.ofList ((words s).headD [])
  return {
    name := b.name
    type := uppered ((a.get? "Type").getD "")
    priority := ← Field.whole "priority" (a.get? "Priority")
    rate := ← Field.whole "rate" (a.get? "Rate")
    watchdog := ← Field.whole "watchdog" (a.get? "Watchdog")
    inhibitTask := Field.flag false (a.get? "InhibitTask")
    disableUpdateOutputs := Field.flag false (a.get? "DisableUpdateOutputs")
    scheduledPrograms := Field.names scheduled
    description := a.get? "Description" }

/-- What a block of the controller contributes. -/
def part (b : Block) : Reading Contents := do
  match b.keyword with
  | "TAG" => return { tags := ← tags controllerScope b, sections := [.tags] }
  | "DATATYPE" => return { udts := [← udt b], sections := [.dataTypes] }
  | "ADD_ON_INSTRUCTION_DEFINITION" => return { aois := [← aoi b], sections := [.aois] }
  | "MODULE" => return { modules := [← ioModule b], sections := [.modules] }
  | "PROGRAM" => program b
  | _ => return { tasks := [← task b], sections := [.tasks] }

def metadata (revision : Option String) (controller : Block) : Metadata :=
  let a := controller.attributes
  let name := if controller.name.isEmpty then none else some controller.name
  { projectName := name
    processorType := a.get? "ProcessorType"
    softwareRevision := (a.get? "Major").map fun major => major ++ "." ++ (a.get? "Minor").getD "0"
    targetType := some "Controller"
    targetName := name
    exportDate := a.get? "LastModifiedDate"
    schemaRevision := revision }

end LadderAtlas.L5k

namespace LadderAtlas
open L5k

/-- Reads the text of an L5K file. Only its first controller counts. -/
def Document.ofL5k (s : List Char) : Reading Document := do
  if (Text.trim s).isEmpty then Reading.fail (.parse .l5k .empty)
  let revision ← Reading.ofExcept (checkRevision s)
  match ← blocks ["CONTROLLER"] (Text.lines s) with
  | [] => Reading.fail (.parse .l5k .missingController)
  | controller :: _ =>
    let parts ← Reading.each part (← blocks controllerKeywords controller.body)
    return { Contents.join parts with kind := .l5k, metadata := L5k.metadata revision controller }

end LadderAtlas
