import LadderAtlas.Number.Binary64
import LadderAtlas.Number.Whole
import LadderAtlas.Text.Case

/-! # Decimal fractions

Numerals with a point and an exponent, and the words for infinity and for what is no number. The
value is the nearest `Float`. -/

namespace LadderAtlas.Number
open Text

/-- The `Float` nearest to `m * 10 ^ e`. Far outside the range of `Float` no power is computed. -/
def floatOfDecimal (m : Nat) (e : Int) : Float :=
  let magnitude : Int := (Nat.toDigits 10 m).length + e
  if m = 0 || magnitude < -330 then 0.0
  else if 310 < magnitude then 1.0 / 0.0
  else Float.ofScientific m (e < 0) e.natAbs

/-- Removes the underscores of a numeral, each of which must stand between two digits. -/
def dropUnderscores : List Char → Option (List Char)
  | [] => some []
  | '_' :: _ => none
  | c :: '_' :: d :: s =>
    if isDecimal c && isDecimal d then (dropUnderscores (d :: s)).map (c :: ·) else none
  | c :: s => (dropUnderscores s).map (c :: ·)

/-- The leading decimal digits, and what follows them. -/
def spanDigits : List Char → List Nat × List Char
  | [] => ([], [])
  | c :: s =>
    match decimalValue? c with
    | some d => let (ds, r) := spanDigits s; (d :: ds, r)
    | none => ([], c :: s)

/-- The exponent that ends a numeral; the empty text is exponent zero. -/
def exponent? : List Char → Option Int
  | [] => some 0
  | c :: s =>
    if c = 'e' || c = 'E' then
      let (negative, body) := takeSign s
      match spanDigits body with
      | ([], _) => none
      | (ds, []) => some (signed negative (ofDigits ds))
      | _ => none
    else none

/-- An unsigned numeral with optional point and exponent. -/
def unsignedDecimal? (s : List Char) : Option Float :=
  let (front, r) := spanDigits s
  let (back, r) := match r with
    | '.' :: r => spanDigits r
    | r => ([], r)
  if front.isEmpty && back.isEmpty then none
  else (exponent? r).map fun e => floatOfDecimal (ofDigits (front ++ back)) (e - back.length)

/-- Reads a decimal fraction, `inf`, `infinity` or `nan`. -/
def decimal? (s : List Char) : Option Float := do
  let body ← dropUnderscores (trimNumeral s)
  let (negative, body) := takeSign body
  let word := String.ofList (body.map Char.toLower)
  let x ← if word = "inf" || word = "infinity" then some (1.0 / 0.0)
    else if word = "nan" then some (0.0 / 0.0)
    else unsignedDecimal? body
  return if negative then -x else x

end LadderAtlas.Number
