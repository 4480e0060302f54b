import LadderAtlas.Config
import LadderAtlas.Document.Invariants
import LadderAtlas.L5k.Reader
import LadderAtlas.L5x.Reader

/-! # Parsing

`Document.parse` turns the bytes of a file of known kind into a document: it refuses files beyond the
size limit, reads the others in their format, and checks the invariants. -/

namespace LadderAtlas

namespace FileKind

/-- The kind that a declaration names, in any case and with blanks around it. -/
def ofDeclared (s : String) : Except Failure FileKind :=
  match Text.lowered (Text.trimmed s) with
  | "l5x" => .ok .l5x
  | "l5k" => .ok .l5k
  | _ => .error (.unknownKind (.declared s))

end FileKind

namespace Path

/-- The last part of a path, empty and single-dot parts aside. -/
def fileName (path : String) : String :=
  let parts := (Text.splitOn (· = '/') path.toList).filter fun p => p ≠ [] && p ≠ ['.']
  String.ofList (parts.getLastD [])

/-- The ending of a file name from its last point on, if there is something before and after that
point. -/
def extension (path : String) : String :=
  let name := (fileName path).toList
  let (ending, stem) := name.reverse.span (· ≠ '.')
  if ending.isEmpty || stem.length ≤ 1 then "" else String.ofList ('.' :: ending.reverse)

/-- The kind of file that an ending stands for, in any case. -/
def kind? (path : String) : Option FileKind :=
  match Text.lowered (extension path) with
  | ".l5x" => some .l5x
  | ".l5k" => some .l5k
  | _ => none

/-- The kind of the file at a path. -/
def kind (path : String) : Except Failure FileKind :=
  match kind? path with
  | some k => .ok k
  | none => .error (.unknownKind (.fileName (fileName path)))

end Path

namespace Document

/-- Refuses a file that is larger than the configured limit. -/
def checkSize (config : Config) (kind : FileKind) (size : Nat) : Except Failure Unit :=
  match config.maxInputBytes with
  | .scalar s =>
    match s.number? with
    | none => .error (.fault (.notALimit config.maxInputBytes))
    | some limit =>
      let exceeds := match limit with
        | .inl n => decide (n < size)
        | .inr x => decide (x < Number.floatOfInt size)
      if exceeds then .error (.parse kind (.tooLarge size config.maxInputBytes)) else .ok ()
  | limit => .error (.fault (.notALimit limit))

/-- Reads a file in the format of its kind. -/
def read (kind : FileKind) (bytes : List UInt8) : Reading Document :=
  match kind with
  | .l5x => ofL5x bytes
  | .l5k => ofL5k (L5k.decodeBytes bytes)

/-- Turns the bytes of a file into a document. -/
def parse (config : Config) (kind : FileKind) (bytes : List UInt8) : Reading Document := do
  Reading.ofExcept (checkSize config kind bytes.length)
  let d ← read kind bytes
  Reading.ofExcept d.check
  return d

end Document

end LadderAtlas
