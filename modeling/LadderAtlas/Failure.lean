import LadderAtlas.Document
import LadderAtlas.Number.Whole
import LadderAtlas.Xml.Encoding
import LadderAtlas.Yaml.Fault

/-! # Failures

Everything that can go wrong, as causes. A cause knows its wording (`message`), and those that a
caller is told about also a status. -/

namespace LadderAtlas

/-- Why a file could not be turned into a document. -/
inductive ParseCause where
  | empty
  | notWellFormed
  | endsUnexpectedly
  | wrongRoot (tag : String)
  | missingController
  | unsupportedRevision (version : String)
  | missingEnd (keyword name : String)
  | duplicateTag (scope name : String)
  | duplicateRung (program routine : String) (number : Int)
  | severalContinuousTasks (names : List String)
  | tooLarge (size : Nat) (limit : Value)
deriving Repr

/-- The kinds of parse failures. -/
inductive ParseSort where
  | malformed
  | truncated
  | unsupportedVersion
  | limitExceeded
deriving Repr, DecidableEq

/-- The root element of an L5X file. -/
def l5xRoot : String := "RSLogix5000Content"

namespace ParseCause

def sort : ParseCause → ParseSort
  | .empty | .endsUnexpectedly => .truncated
  | .missingEnd keyword _ => if keyword = "CONTROLLER" then .truncated else .malformed
  | .unsupportedRevision _ => .unsupportedVersion
  | .tooLarge _ _ => .limitExceeded
  | _ => .malformed

/-- The version that a file was refused for. -/
def version? : ParseCause → Option String
  | .unsupportedRevision v => some v
  | _ => none

def message (kind : FileKind) : ParseCause → String
  | .empty => match kind with
    | .l5x => "Empty L5X document"
    | .l5k => "Empty L5K document"
  | .notWellFormed => "L5X document is not well-formed XML"
  | .endsUnexpectedly => "L5X document ends unexpectedly"
  | .wrongRoot tag => s!"Invalid L5X file: root element is <{tag}>, expected <{l5xRoot}>"
  | .missingController => match kind with
    | .l5x => "Invalid L5X file: missing Controller"
    | .l5k => "Invalid L5K file: missing CONTROLLER block"
  | .unsupportedRevision version => match kind with
    | .l5x => "Unsupported L5X SchemaRevision " ++ version
    | .l5k => "Unsupported L5K IE_VER " ++ version
  | .missingEnd keyword name =>
    let label := if name.isEmpty then keyword else keyword ++ " " ++ name
    label ++ " is missing END_" ++ keyword
  | .duplicateTag scope name => "Duplicate tag " ++ Text.quoted name ++ " in scope " ++ Text.quoted scope
  | .duplicateRung program routine number =>
    "Duplicate rung number " ++ Number.wholeText number ++ " in routine " ++ program ++ "/" ++ routine
  | .severalContinuousTasks names => "More than one CONTINUOUS task: " ++ ", ".intercalate names
  | .tooLarge size limit => "Input is " ++ Number.natText size ++ " bytes; limit is " ++ limit.shown

end ParseCause

/-- Why a lookup found nothing. -/
inductive Missing where
  | file (id : String)
  | version (id : String)
  | parsed (fileName status : String)
  | current (fileName status : String)
  | number (asked : Value) (fileName : String)
deriving Repr

def Missing.message : Missing → String
  | .file id => "File not found: " ++ id
  | .version id => "Version not found: " ++ id
  | .parsed fileName status => "File " ++ fileName ++ " has no parsed data (" ++ status ++ ")"
  | .current fileName status => "File " ++ fileName ++ " is " ++ status
  | .number asked fileName => "Version " ++ asked.shown ++ " of " ++ fileName ++ " not found"

/-- Why the kind of a file is unknown. -/
inductive UnknownKind where
  | declared (kind : String)
  | fileName (name : String)
deriving Repr

def UnknownKind.message : UnknownKind → String
  | .declared kind => "Unsupported file kind: " ++ Text.quoted kind ++ " (expected l5x or l5k)"
  | .fileName name => "Cannot infer file kind from " ++ Text.quoted name

/-- Why a naming rule or a set of them is refused. -/
inductive RuleFault where
  | incomplete
  | badPattern
  | unknownSeverity (severity : Value)
  | noTarget
  | unknownTargets (targets known : List String)
  | duplicateRule (id set : String)
  | unknownRule (id set : String)
  | unknownSet (id : String)
  | notAList
deriving Repr

def RuleFault.message : RuleFault → String
  | .incomplete => "name and pattern are required"
  | .badPattern => "Invalid regex pattern"
  | .unknownSeverity severity => "Unknown severity " ++ severity.revealed
  | .noTarget => "applies_to must name at least one entity kind"
  | .unknownTargets targets known =>
    "Unknown applies_to value(s): " ++ ", ".intercalate targets ++ "; expected one of " ++
      ", ".intercalate known
  | .duplicateRule id set => "Rule " ++ Text.quoted id ++ " already exists in set " ++ Text.quoted set
  | .unknownRule id set => "No rule " ++ Text.quoted id ++ " in set " ++ Text.quoted set
  | .unknownSet id => "Unknown rule set " ++ Text.quoted id
  | .notAList => "Rule set definitions must be a list"

/-- What stops the work without being foreseen for a caller. -/
inductive Fault where
  | numeral (f : Number.NumeralFault)
  /-- An attribute and a child of a module setting share a name. -/
  | nameClash
  | encoding (e : Xml.EncodingFault)
  /-- A value of a kind that cannot stand here. -/
  | wrongKind
  /-- A limit on sizes that is no number. -/
  | notALimit (given : Value)
  /-- A value of the right kind that is not among the admitted ones. -/
  | badValue
  /-- A property that the value has not got. -/
  | noProperty
  | unknownKey
  | missingFile
  /-- A pattern outside a naming rule that does not compile. -/
  | badPattern
  | overflow
  /-- A place outside a list. -/
  | badIndex
  /-- A file that is not UTF-8. -/
  | undecodable
  | yaml (f : Yaml.Fault)
deriving Repr

def Fault.message : Fault → String
  | .numeral f => f.message
  | .nameClash => "'str' object has no attribute 'append'"
  | .notALimit given => "'>' not supported between instances of 'int' and '" ++ given.kindName ++ "'"
  | .encoding (.unknown name) => "unknown encoding: " ++ name
  | .encoding .multiByte => "multi-byte encodings are not supported"
  | .encoding (.noText name) =>
    "'" ++ name ++ "' is not a text encoding; use codecs.decode() to handle arbitrary codecs"
  | .encoding (.failing message) => message
  | _ => ""

inductive Failure where
  | parse (kind : FileKind) (cause : ParseCause)
  | unknownKind (cause : UnknownKind)
  | missing (cause : Missing)
  | rule (cause : RuleFault)
  | fault (cause : Fault)
deriving Repr

namespace Failure

def message : Failure → String
  | .parse kind cause => cause.message kind
  | .unknownKind cause => cause.message
  | .missing cause => cause.message
  | .rule cause => cause.message
  | .fault cause => cause.message

/-- The status that a caller is told; none for what is not foreseen. -/
def status? : Failure → Option Nat
  | .parse _ _ => some 422
  | .unknownKind _ => some 400
  | .missing _ => some 404
  | .rule _ => some 400
  | .fault _ => none

end Failure

end LadderAtlas
