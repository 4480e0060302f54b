import LadderAtlas.Keyed
import LadderAtlas.Number.Whole
import LadderAtlas.Snapshot

/-! # Instructions

Which operands an instruction reads and writes. A signature gives the role of each operand position;
a table finds signatures by mnemonic, in any case. Add-on instructions get their signature from their
definition. -/

namespace LadderAtlas.Ladder

/-- What an instruction does with an operand. -/
inductive Role where
  | read
  | write
  | readWrite
  /-- The name of something that is no tag. -/
  | name
  | expression
deriving Repr, DecidableEq

namespace Role

def all : List Role := [.read, .write, .readWrite, .name, .expression]

def code : Role → String
  | .read => "R"
  | .write => "W"
  | .readWrite => "RW"
  | .name => "N"
  | .expression => "E"

def ofCode? (s : String) : Option Role := all.find? (·.code = s)

/-- How a tag in this position is used. -/
def usage? : Role → Option Usage
  | .write => some .write
  | .readWrite => some .readWrite
  | .read | .expression => some .read
  | .name => none

end Role

/-- The roles of the operands of one instruction. The operand at `countAt` states how many operands
after the fixed ones are read; only those after them have the role `rest`. -/
structure Signature where
  mnemonic : String
  roles : List Role := []
  rest : Option Role := none
  countAt : Option Nat := none
deriving Repr, DecidableEq

namespace Signature

/-- The number that an operand states. -/
def countOf (operands : List String) (i : Nat) : Option Int :=
  operands[i]?.bind fun s => Number.whole? (Text.trim s.toList)

/-- The role of the operand at place `i`. Operands beyond the fixed ones are read unless the signature
says otherwise; if the number of inputs is not stated, all of them are. -/
def roleFor (s : Signature) (i : Nat) (operands : List String) : Role :=
  match s.roles[i]? with
  | some r => r
  | none =>
    let beyond := s.rest.getD .read
    match s.countAt with
    | none => beyond
    | some k =>
      match countOf operands k with
      | none => .read
      | some n => if (i : Int) < s.roles.length + n then .read else beyond

/-- The call of an add-on instruction: the backing tag, then the parameters that calls list. -/
def ofAoi (a : Aoi) : Signature where
  mnemonic := a.name
  roles := .readWrite :: a.callParameters.map fun p =>
    if p.usage = "Output" then .write else if p.usage = "InOut" then .readWrite else .read

end Signature

/-- Signatures by their mnemonics in upper case. -/
abbrev Table := List (String × Signature)

namespace Table

/-- Adds a signature, or replaces the one with its mnemonic. -/
def register (t : Table) (s : Signature) : Table := Keyed.put t (Text.uppered s.mnemonic) s

def registerAoi (t : Table) (a : Aoi) : Table := t.register (.ofAoi a)

def lookup (t : Table) (mnemonic : String) : Option Signature := Keyed.get? t (Text.uppered mnemonic)

def ofList (l : List Signature) : Table := l.foldl register []

end Table

end LadderAtlas.Ladder
