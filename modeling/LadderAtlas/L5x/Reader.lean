import LadderAtlas.Document.Field
import LadderAtlas.Document.Revision
import LadderAtlas.L5x.Subtree
import LadderAtlas.Xml.Reader

/-! # Reading L5X files

An L5X file is an XML document whose root holds one controller. Its parts stand in elements of fixed
names; an export of less than a whole controller lacks some of them, and those sections are empty.
`Document.ofL5x` reads the bytes of a file. -/

namespace LadderAtlas.L5x
open Text Xml

/-- An attribute that is neither absent nor empty. -/
def nonEmpty? (e : Element) (name : String) : Option String :=
  (e.attribute? name).filter (· ≠ "")

def nameOf (e : Element) : String := trimmed ((e.attribute? "Name").getD "")

def dataTypeOf (e : Element) : String := (nonEmpty? e "DataType").getD "Unknown"

/-- The text of a child, or else the first text among its localized versions. -/
def describedBy (e : Element) (child : String) : Option String :=
  (e.child? child).bind fun d => (trimmed? d.text).or (d.children.findSome? fun c => trimmed? c.text)

def description (e : Element) : Option String := describedBy e "Description"

/-- The text of the first child with the given tag that is written in the other export format. -/
def plainData (e : Element) (child : String) : Option String :=
  ((e.childrenNamed child).find? fun d => d.attribute? "Format" = some "L5K").bind fun d => trimmed? d.text

/-- The items with tag `item` in the list with tag `list`; none if there is no list. -/
def itemsOf (e : Element) (list item : String) : List Element := (e.items? list item).getD []

def tag (scope : String) (e : Element) : Tag where
  name := nameOf e
  dataType := dataTypeOf e
  scope
  description := description e
  usage := e.attribute? "Usage"
  value := plainData e "Data"
  aliasFor := e.attribute? "AliasFor"
  radix := e.attribute? "Radix"
  externalAccess := e.attribute? "ExternalAccess"
  dimensions := e.attribute? "Dimensions"
  tagType := e.attribute? "TagType"
  constant := Field.flag false (e.attribute? "Constant")

def member (e : Element) : Noted Member := do
  let type := dataTypeOf e
  return {
    name := nameOf e
    dataType := if type = "BIT" then "BOOL" else type
    dimension := ← Field.whole "member dimension" (e.attribute? "Dimension")
    description := description e
    radix := e.attribute? "Radix"
    externalAccess := e.attribute? "ExternalAccess" }

/-- A data type; members that only hold bits of others are hidden. -/
def udt (e : Element) : Noted Udt := do
  let visible := (itemsOf e "Members" "Member").filter fun m => !Field.flag false (m.attribute? "Hidden")
  return {
    name := nameOf e
    description := description e
    familyType := e.attribute? "Family"
    members := ← Noted.each member visible }

def parameter (e : Element) : Parameter where
  name := nameOf e
  dataType := dataTypeOf e
  usage := (nonEmpty? e "Usage").getD "Input"
  required := Field.flag false (e.attribute? "Required")
  visible := Field.flag true (e.attribute? "Visible")
  description := description e
  externalAccess := e.attribute? "ExternalAccess"
  defaultValue := plainData e "DefaultData"

def localTag (e : Element) : LocalTag where
  name := nameOf e
  dataType := dataTypeOf e
  radix := e.attribute? "Radix"
  externalAccess := e.attribute? "ExternalAccess"
  description := description e

/-- The rungs of a routine. -/
def rungElements (e : Element) : List Element := itemsOf e "RLLContent" "Rung"

def routineType (e : Element) : String := (nonEmpty? e "Type").getD "Unknown"

/-- The number of rungs of a ladder routine; other routines have none to count. -/
def rungCount (e : Element) : Option Int :=
  if routineType e = ladderType then some (rungElements e).length else none

def aoiRoutine (e : Element) : AoiRoutine where
  name := nameOf e
  type := routineType e
  description := description e
  rungCount := rungCount e

def aoi (e : Element) : Aoi where
  name := nameOf e
  revision := e.attribute? "Revision"
  vendor := e.attribute? "Vendor"
  description := description e
  parameters := (itemsOf e "Parameters" "Parameter").map parameter
  localTags := (itemsOf e "LocalTags" "LocalTag").map localTag
  routines := (itemsOf e "Routines" "Routine").map aoiRoutine
  executePrescan := Field.flag false (e.attribute? "ExecutePrescan")
  executePostscan := Field.flag false (e.attribute? "ExecutePostscan")
  executeEnableInFalse := Field.flag false (e.attribute? "ExecuteEnableInFalse")
  createdDate := e.attribute? "CreatedDate"
  createdBy := e.attribute? "CreatedBy"
  editedDate := e.attribute? "EditedDate"
  editedBy := e.attribute? "EditedBy"

/-- A rung; without a number of its own it has that of its place. -/
def rung (program routine : String) (e : Element) (place : Nat) : Noted Rung := do
  let number ← Field.whole "rung number" (e.attribute? "Number")
  return {
    programName := program
    routineName := routine
    number := number.getD place
    logicText := String.ofList (Field.logic (((e.child? "Text").map (·.text)).getD "").toList)
    comment := describedBy e "Comment" }

def routine (program : String) (e : Element) : Noted Contents := do
  let rungs ← Noted.each (fun (r, i) => rung program (nameOf e) r i) (rungElements e).zipIdx
  return {
    rungs
    routines := [{
      name := nameOf e
      programName := program
      type := routineType e
      description := description e
      rungCount := rungCount e }] }

/-- The tags of a scope, if the element lists tags at all. -/
def tagList (scope : String) (e : Element) : Contents :=
  match e.items? "Tags" "Tag" with
  | none => {}
  | some l => { tags := l.map (tag scope), sections := [.tags] }

def program (e : Element) : Noted Contents := do
  let name := trimmed ((nonEmpty? e "Name").getD "Unknown")
  let routines ← Noted.each (routine name) (itemsOf e "Routines" "Routine")
  return tagList (programScope name) e ++ Contents.join routines

/-- The slot that the first port towards the controller states. A port states one by an address of
digits; digits that are no numeral are an unforeseen fault. -/
def parentSlot : List Element → Except Failure (Option Int)
  | [] => .ok none
  | p :: ports =>
    let address := trim ((p.attribute? "Address").getD "").toList
    if Field.flag false (p.attribute? "Upstream") && !address.isEmpty && address.all isDigitLike then
      match Number.whole address with
      | .ok n => .ok (some n)
      | .error f => .error (.fault (.numeral f))
    else parentSlot ports

/-- What is kept of a module beside its fields. -/
def connectionInfo (e : Element) : Except Failure Value := do
  let ports := (itemsOf e "Ports" "Port").map fun p =>
    Value.record (p.attributes.map fun (k, v) => (k, .text v))
  let ports := if ports.isEmpty then [] else [("ports", Value.list ports)]
  let communications ← match e.child? "Communications" with
    | none => pure []
    | some c => match subtree c with
      | .ok v => pure [("communications", v)]
      | .error f => throw (.fault f)
  let entries := ports ++ communications
  return if entries.isEmpty then .null else .record entries

def ioModule (e : Element) : Reading IoModule := do
  let slot ← Field.whole "slot" (e.attribute? "Slot")
  let stated ← Reading.ofExcept (parentSlot (itemsOf e "Ports" "Port"))
  return {
    name := nameOf e
    catalogNumber := e.attribute? "CatalogNumber"
    parentModule := e.attribute? "ParentModule"
    slot := slot.or stated
    connectionInfo := ← Reading.ofExcept (connectionInfo e) }

def task (e : Element) : Noted Task := do
  return {
    name := nameOf e
    type := uppered (trimmed ((e.attribute? "Type").getD ""))
    priority := ← Field.whole "priority" (e.attribute? "Priority")
    rate := ← Field.whole "rate" (e.attribute? "Rate")
    watchdog := ← Field.whole "watchdog" (e.attribute? "Watchdog")
    inhibitTask := Field.flag false (e.attribute? "InhibitTask")
    disableUpdateOutputs := Field.flag false (e.attribute? "DisableUpdateOutputs")
    scheduledPrograms := Field.names ((itemsOf e "ScheduledPrograms" "ScheduledProgram").map nameOf)
    description := description e }

/-- Reads the items of a section; a section that is absent contributes nothing. -/
def sectionOf (controller : Element) (list item : String) (read : List Element → Reading Contents) :
    Reading Contents :=
  match controller.items? list item with
  | none => pure {}
  | some l => read l

/-- The parts of a controller, in the order in which they are read. -/
def contents (controller : Element) : Reading Contents := do
  let types ← sectionOf controller "DataTypes" "DataType" fun l => do
    return { udts := ← Noted.each udt l, sections := [.dataTypes] }
  let aois ← sectionOf controller "AddOnInstructionDefinitions" "AddOnInstructionDefinition" fun l =>
    return { aois := l.map aoi, sections := [.aois] }
  let programs ← sectionOf controller "Programs" "Program" fun l => do
    return { sections := [.programs] } ++ Contents.join (← Noted.each program l)
  let modules ← sectionOf controller "Modules" "Module" fun l => do
    return { modules := ← Reading.each ioModule l, sections := [.modules] }
  let tasks ← sectionOf controller "Tasks" "Task" fun l => do
    return { tasks := ← Noted.each task l, sections := [.tasks] }
  return Contents.join [tagList controllerScope controller, types, aois, programs, modules, tasks]

def supportedMajor : Int := 1

/-- Checks the tag and the schema revision of the root element. -/
def checkRoot (root : Element) : Except Failure Unit := do
  if root.tag ≠ l5xRoot then throw (.parse .l5x (.wrongRoot root.tag))
  match root.attribute? "SchemaRevision" with
  | none => return
  | some revision =>
    if !(← Revision.majorIs supportedMajor (trim revision.toList)) then
      throw (.parse .l5x (.unsupportedRevision revision))

def metadata (root controller : Element) : Metadata where
  projectName := controller.attribute? "Name"
  processorType := controller.attribute? "ProcessorType"
  softwareRevision := (root.attribute? "SoftwareRevision").or <|
    (nonEmpty? controller "MajorRev").map fun major =>
      major ++ "." ++ (controller.attribute? "MinorRev").getD "0"
  targetType := root.attribute? "TargetType"
  targetName := root.attribute? "TargetName"
  exportDate := root.attribute? "ExportDate"
  schemaRevision := root.attribute? "SchemaRevision"

/-- What counts as blank among bytes. -/
def isBlankByte (b : UInt8) : Bool := b = 0x20 || (0x09 ≤ b && b ≤ 0x0D)

/-- The root element of a file. -/
def rootOf (bytes : List UInt8) : Except Failure Element :=
  if bytes.all isBlankByte then .error (.parse .l5x .empty)
  else match Xml.read bytes with
    | .ok root => .ok root
    | .error .truncated => .error (.parse .l5x .endsUnexpectedly)
    | .error .malformed => .error (.parse .l5x .notWellFormed)
    | .error (.encoding e) => .error (.fault (.encoding e))

end LadderAtlas.L5x

namespace LadderAtlas

/-- Reads the bytes of an L5X file. -/
def Document.ofL5x (bytes : List UInt8) : Reading Document := do
  let root ← Reading.ofExcept (L5x.rootOf bytes)
  Reading.ofExcept (L5x.checkRoot root)
  match root.child? "Controller" with
  | none => Reading.fail (.parse .l5x .missingController)
  | some controller =>
    let contents ← L5x.contents controller
    return { contents with kind := .l5x, metadata := L5x.metadata root controller }

end LadderAtlas
