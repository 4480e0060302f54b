import LadderAtlas.Unique
import LadderAtlas.Value

/-! # JSON

How values are written as JSON: in ASCII, on one line or indented by two blanks. Floats have their
shortest text. -/

namespace LadderAtlas.Json
open Text

/-- A 16-bit unit as an escape. -/
def unitEscape (n : Nat) : List Char := '\\' :: 'u' :: hexDigits 4 n

/-- One character inside a JSON string. Beyond the basic plane it is written as two surrogates. -/
def escape (c : Char) : List Char :=
  match c with
  | '"' => ['\\', '"']
  | '\\' => ['\\', '\\']
  | '\n' => ['\\', 'n']
  | '\r' => ['\\', 'r']
  | '\t' => ['\\', 't']
  | c =>
    let n := c.toNat
    if n = 8 then ['\\', 'b']
    else if n = 12 then ['\\', 'f']
    else if 0x20 ≤ n && n < 0x7F then [c]
    else if n < 0x10000 then unitEscape n
    else unitEscape (0xD800 + (n - 0x10000) / 0x400) ++ unitEscape (0xDC00 + (n - 0x10000) % 0x400)

/-- A JSON string with its quotes. -/
def string (s : String) : String := String.ofList ('"' :: s.toList.flatMap escape ++ ['"'])

def number (x : Float) : String :=
  if x.isNaN then "NaN"
  else if x.isInf then (if x < 0 then "-Infinity" else "Infinity")
  else Number.floatText x

def scalar : Scalar → String
  | .null => "null"
  | .bool b => if b then "true" else "false"
  | .whole n => Number.wholeText n
  | .fraction x => number x
  | .text s => string s

/-- Keys are strings; those of other kinds are written as such. -/
def key : Scalar → String
  | .text s => string s
  | s => string (scalar s)

/-- How the parts of lists and maps are laid out: `none` on one line, otherwise on lines of their
own at the given depth. -/
abbrev Layout := Option Nat

namespace Layout

def deeper : Layout → Layout := Option.map (· + 1)

/-- What stands between an opening bracket and the first item. -/
def first : Layout → String
  | none => ""
  | some d => "\n" ++ String.ofList (List.replicate (2 * d) ' ')

def between : Layout → String
  | none => ", "
  | some d => ",\n" ++ String.ofList (List.replicate (2 * d) ' ')

end Layout

mutual
def write (layout : Layout) : Value → String
  | .scalar s => scalar s
  | .list [] => "[]"
  | .list (v :: l) =>
    let inner := layout.deeper
    "[" ++ inner.first ++ write inner v ++ writeItems inner l ++ layout.first ++ "]"
  | .map [] => "\x7b\x7d"
  | .map ((k, v) :: m) =>
    let inner := layout.deeper
    "\x7b" ++ inner.first ++ key k ++ ": " ++ write inner v ++ writeEntries inner m ++ layout.first ++ "\x7d"

def writeItems (layout : Layout) : List Value → String
  | [] => ""
  | v :: l => layout.between ++ write layout v ++ writeItems layout l

def writeEntries (layout : Layout) : List (Scalar × Value) → String
  | [] => ""
  | (k, v) :: m => layout.between ++ key k ++ ": " ++ write layout v ++ writeEntries layout m
end

/-- A value on one line. -/
def compact (v : Value) : String := write none v

/-- A value with each item on a line of its own. -/
def indented (v : Value) : String := write (some 0) v

mutual
/-- The value with the entries of each map in the order of their keys' texts. -/
def sorted : Value → Value
  | .scalar s => .scalar s
  | .list l => .list (sortedItems l)
  | .map m => .map ((sortedEntries m).mergeSort fun a b => textLe a.1.shown b.1.shown)

def sortedItems : List Value → List Value
  | [] => []
  | v :: l => sorted v :: sortedItems l

def sortedEntries : List (Scalar × Value) → List (Scalar × Value)
  | [] => []
  | (k, v) :: m => (k, sorted v) :: sortedEntries m
end

end LadderAtlas.Json
