import LadderAtlas.Number.Decimal
import LadderAtlas.Text.Trim
import LadderAtlas.Value

/-! # Plain scalars

A scalar without quotes stands for nothing, a truth value or a number if it is written like one, and
otherwise for itself. Whole numbers may be binary, octal, hexadecimal or in base sixty; an exponent
needs a point before it and a sign. -/

namespace LadderAtlas.Yaml

def nullWords : List String := ["", "~", "null", "Null", "NULL"]

def trueWords : List String := ["yes", "Yes", "YES", "true", "True", "TRUE", "on", "On", "ON"]

def falseWords : List String := ["no", "No", "NO", "false", "False", "FALSE", "off", "Off", "OFF"]

/-- The value of digits below sixteen in a base, underscores aside. -/
def inBase (base : Nat) (s : List Char) : Nat :=
  (s.filter (· ≠ '_')).foldl (fun n c =>
    base * n + (if c.isDigit then c.toNat - 48 else c.toLower.toNat - 87)) 0

/-- A nonempty text of digits that satisfy a condition, and underscores. -/
def areDigits (p : Char → Bool) (s : List Char) : Bool := !s.isEmpty && s.all fun c => p c || c = '_'

def isOctal (c : Char) : Bool := '0' ≤ c && c ≤ '7'

def isHex (c : Char) : Bool := c.isDigit || ('a' ≤ c && c ≤ 'f') || ('A' ≤ c && c ≤ 'F')

/-- A digit, and then digits and underscores. -/
def isNumeral (s : List Char) : Bool := s.head?.any Char.isDigit && areDigits Char.isDigit s

/-- A place in base sixty: one or two digits of which the first of two is below six. -/
def isSixtieth : List Char → Bool
  | [c] => c.isDigit
  | [c, d] => '0' ≤ c && c ≤ '5' && d.isDigit
  | _ => false

/-- The places of a numeral in base sixty. -/
def sixtieths? (s : List Char) : Option (List (List Char)) :=
  match Text.splitOn (· = ':') s with
  | first :: next :: more =>
    if isNumeral first && (next :: more).all isSixtieth then some (first :: next :: more) else none
  | _ => none

/-- Reads a whole number without its sign. -/
def natural? (s : List Char) : Option Nat :=
  match s with
  | '0' :: 'b' :: r => if areDigits (fun c => c = '0' || c = '1') r then some (inBase 2 r) else none
  | '0' :: 'x' :: r => if areDigits isHex r then some (inBase 16 r) else none
  | '0' :: r => if r.isEmpty || areDigits isOctal r then some (inBase 8 r) else none
  | s =>
    if isNumeral s then some (inBase 10 s)
    else (sixtieths? s).map fun places => places.foldl (fun n p => 60 * n + inBase 10 p) 0

/-- Whether a text is an exponent with its sign, or empty. -/
def isExponent : List Char → Bool
  | [] => true
  | e :: sign :: ds =>
    (e = 'e' || e = 'E') && (sign = '+' || sign = '-') && !ds.isEmpty && ds.all Char.isDigit
  | _ => false

/-- The number that is written in places of base sixty, of which the last has a fraction. -/
def ofSixtieths (places : List (List Char)) : Float :=
  (places.foldr (fun p (acc : Float × Float) =>
    (acc.1 + (Number.unsignedDecimal? p).getD 0 * acc.2, acc.2 * 60)) (0, 1)).1

/-- Reads a fraction without its sign; one with its sign must begin with a digit. -/
def fraction? (isSigned : Bool) (s : List Char) : Option Float :=
  let bare := s.filter (· ≠ '_')
  let (front, back) := s.span (· ≠ '.')
  match back with
  | [] => none
  | _ :: back =>
    let exponent := back.dropWhile fun c => c.isDigit || c = '_'
    if isNumeral front && isExponent exponent then Number.unsignedDecimal? bare
    else if front.isEmpty && !isSigned && back.head?.any Char.isDigit && isExponent exponent then
      Number.unsignedDecimal? bare
    else if exponent.isEmpty && (sixtieths? front).isSome then
      some (ofSixtieths (Text.splitOn (· = ':') bare))
    else none

def infinityWords : List String := [".inf", ".Inf", ".INF"]

def nanWords : List String := [".nan", ".NaN", ".NAN"]

/-- Reads a number. -/
def number? (s : List Char) : Option Scalar :=
  let (negative, body) := Number.takeSign s
  let isSigned := body.length ≠ s.length
  let negate (x : Float) : Float := if negative then -x else x
  if infinityWords.contains (String.ofList body) then some (.fraction (negate (1.0 / 0.0)))
  else if nanWords.contains (String.ofList s) then some (.fraction (0.0 / 0.0))
  else match fraction? isSigned body with
    | some x => some (.fraction (negate x))
    | none => (natural? body).map fun n => .whole (Number.signed negative n)

/-- What a plain scalar stands for. -/
def plainScalar (s : List Char) : Scalar :=
  let text := String.ofList s
  if nullWords.contains text then .null
  else if trueWords.contains text then .bool true
  else if falseWords.contains text then .bool false
  else (number? s).getD (.text text)

end LadderAtlas.Yaml
