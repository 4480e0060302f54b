import LadderAtlas.Keyed
import LadderAtlas.L5k.Shade
import LadderAtlas.Text.Case
import LadderAtlas.Text.Trim

/-! # Attribute lists

Attributes are written `Key := Value` with commas between them. A value in double quotes is decoded:
a dollar sign begins an escape, and a doubled quote is one quote. -/

namespace LadderAtlas.L5k
open Text

/-- What an escape stands for; any other character stands for itself. -/
def escaped (c : Char) : Char :=
  match c.toUpper with
  | 'N' | 'L' => '\n'
  | 'P' => Char.ofNat 12
  | 'R' => '\r'
  | 'T' => '\t'
  | _ => c

/-- The text that stands between quotes as written. -/
def decode : List Char → List Char
  | '$' :: c :: s => escaped c :: decode s
  | '"' :: '"' :: s => '"' :: decode s
  | c :: s => c :: decode s
  | [] => []

/-- The text up to the first colon and equals sign, and the text after them. -/
def splitAssign : List Char → Option (List Char × List Char)
  | ':' :: '=' :: s => some ([], s)
  | c :: s => (splitAssign s).map fun (key, value) => (c :: key, value)
  | [] => none

/-- Reads a value. Only one that begins and ends with a quote is decoded. -/
def value (s : List Char) : List Char :=
  match s with
  | '"' :: rest => if rest.getLast? = some '"' then decode rest.dropLast else s
  | _ => s

abbrev Attributes := List (String × String)

namespace Attributes

/-- Reads one attribute; what is no attribute gives none. -/
def pair? (s : List Char) : Option (String × String) :=
  match splitAssign s with
  | none => none
  | some (key, v) =>
    match trim key with
    | [] => none
    | key => some (String.ofList key, String.ofList (value (trim v)))

/-- Reads an attribute list. Of equal keys the last value counts. -/
def parse (s : List Char) : Attributes := Keyed.ofList ((splitTop ',' s).filterMap pair?)

/-- The value of the first key that equals `key` without regard to case; a blank one is as good as
none. -/
def get? (a : Attributes) (key : String) : Option String :=
  (a.find? fun (k, _) => uppered k = uppered key).bind fun (_, v) => trimmed? v

end Attributes

end LadderAtlas.L5k
