import LadderAtlas.Ladder.Expression
import LadderAtlas.Ladder.Standard
import LadderAtlas.Notice

/-! # References

What the rungs of a document do with tags. Every operand of every call that names a tag is one
reference, in order of appearance; nothing is left out because it came before. -/

namespace LadderAtlas.Ladder
open Text

/-- The tags of an operand in a given role, each with its use. A tag path is used as the role says,
the tags in its indices are read, and so are all tags of any other operand. -/
def classify (operand : List Char) (role : Role) : List (List Char × Usage) :=
  let s := trim operand
  let read (l : List (List Char)) := l.map fun t => (t, Usage.read)
  match role.usage? with
  | none => []
  | some usage =>
    if s.isEmpty || isLiteral s then []
    else if role ≠ .expression && isTagPath s then (s, usage) :: read (indexTags s)
    else read ((expressionTags s).flatMap fun t => t :: indexTags t)

/-- Where references come from. -/
structure Origin where
  fileId : Option String := none
  versionId : Option String := none

/-- The references of one call. The operands of an unknown instruction are read. -/
def callReferences (table : Table) (origin : Origin) (rung : Rung) (call : Call) : List TagReference :=
  let signature := table.lookup call.mnemonic
  (call.operands.mapIdx fun i operand =>
    let role := match signature with
      | some s => s.roleFor i call.operands
      | none => .read
    (classify operand.toList role).map fun (tag, usage) => {
      tagName := String.ofList tag
      programName := rung.programName
      routineName := rung.routineName
      rungNumber := rung.number
      usage
      instruction := call.mnemonic
      fileId := origin.fileId
      versionId := origin.versionId }).flatten

def rungCalls (rung : Rung) : List Call := calls rung.logicText.toList

/-- The references of one rung. -/
def rungReferences (table : Table) (origin : Origin) (rung : Rung) : List TagReference :=
  (rungCalls rung).flatMap (callReferences table origin rung)

/-- The mnemonics that a table lacks, in order. -/
def unknownMnemonics (table : Table) (rungs : List Rung) : List String :=
  let used := rungs.flatMap fun r => (rungCalls r).map (·.mnemonic)
  sortedDistinct textLe (used.filter fun m => (table.lookup m).isNone)

/-- The references of rungs, in order. Each unknown instruction is remarked on once. -/
def extract (table : Table) (origin : Origin) (rungs : List Rung) : Noted (List TagReference) :=
  ⟨rungs.flatMap (rungReferences table origin),
    (unknownMnemonics table rungs).map Notice.unknownInstruction⟩

/-- A table to which the add-on instructions are added; a later one replaces an earlier one of its
name. -/
def withAois (table : Table) (aois : List Aoi) : Table := aois.foldl Table.registerAoi table

/-- The references of a document. -/
def documentReferences (origin : Origin) (d : Document) : Noted (List TagReference) :=
  extract (withAois standardTable d.aois) origin d.rungs

end LadderAtlas.Ladder
