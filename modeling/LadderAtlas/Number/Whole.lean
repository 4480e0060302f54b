import LadderAtlas.Text.Blank
import LadderAtlas.Text.Digit
import LadderAtlas.Text.Quoted

/-! # Whole numbers

Numerals of whole numbers: blanks, a sign, and decimal digits of any script with single underscores
between them. A numeral of more than 4300 digits is refused. -/

namespace LadderAtlas.Number
open Text

/-- Why a text is no whole number. -/
inductive NumeralFault where
  | notWhole (text : String)
  | tooManyDigits (count : Nat)
deriving Repr, DecidableEq

def digitLimit : Nat := 4300

def NumeralFault.message : NumeralFault → String
  | .notWhole text => "invalid literal for int() with base 10: " ++ quoted text
  | .tooManyDigits n =>
    s!"Exceeds the limit ({digitLimit} digits) for integer string conversion: value has {n} " ++
      "digits; use sys.set_int_max_str_digits() to increase the limit"

/-- What may surround a numeral. The information separators may not. -/
def surroundsNumeral (c : Char) : Bool :=
  isBlank c && !(0x1C ≤ c.toNat && c.toNat ≤ 0x1F)

def trimNumeral (s : List Char) : List Char :=
  ((s.dropWhile surroundsNumeral).reverse.dropWhile surroundsNumeral).reverse

/-- The values of decimal digits with single underscores between them. -/
def digits? : List Char → Option (List Nat)
  | [] => none
  | [c] => (decimalValue? c).map ([·])
  | c :: '_' :: s => do return (← decimalValue? c) :: (← digits? s)
  | c :: s => do return (← decimalValue? c) :: (← digits? s)

/-- The number whose decimal digits are given from the left. -/
def ofDigits (ds : List Nat) : Nat := ds.foldl (fun n d => 10 * n + d) 0

/-- Splits off a sign; `true` stands for minus. -/
def takeSign : List Char → Bool × List Char
  | '-' :: s => (true, s)
  | '+' :: s => (false, s)
  | s => (false, s)

def signed (negative : Bool) (n : Nat) : Int := if negative then -n else n

/-- Reads a whole number. -/
def whole (s : List Char) : Except NumeralFault Int :=
  let (negative, body) := takeSign (trimNumeral s)
  match digits? body with
  | none => .error (.notWhole (String.ofList s))
  | some ds =>
    if digitLimit < ds.length then .error (.tooManyDigits ds.length)
    else .ok (signed negative (ofDigits ds))

def whole? (s : List Char) : Option Int := (whole s).toOption

/-- The decimal digits of a natural number. -/
def natText (n : Nat) : String := String.ofList (Nat.toDigits 10 n)

/-- A whole number in decimal digits. -/
def wholeText (n : Int) : String :=
  if n < 0 then "-" ++ natText n.natAbs else natText n.natAbs

end LadderAtlas.Number
