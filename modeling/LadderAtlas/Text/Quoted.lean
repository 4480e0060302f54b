import LadderAtlas.Text.Printable

/-! # Quoted text

How a text is shown inside a message: between single quotes, or between double quotes when it
holds a single quote and no double one. Backslashes, the enclosing quote and whatever is not
printable are written as escapes. -/

namespace LadderAtlas.Text

def hexDigit (n : Nat) : Char := if n < 10 then Char.ofNat (48 + n) else Char.ofNat (87 + n)

/-- The last `places` hexadecimal digits of a number. -/
def hexDigits : (places : Nat) → Nat → List Char
  | 0, _ => []
  | k + 1, n => hexDigits k (n / 16) ++ [hexDigit (n % 16)]

/-- One character between quotes `q`. -/
def quoteChar (q c : Char) : List Char :=
  if c = '\\' || c = q then ['\\', c]
  else if c = '\n' then ['\\', 'n']
  else if c = '\r' then ['\\', 'r']
  else if c = '\t' then ['\\', 't']
  else if isPrintable c then [c]
  else if c.toNat < 0x100 then '\\' :: 'x' :: hexDigits 2 c.toNat
  else if c.toNat < 0x10000 then '\\' :: 'u' :: hexDigits 4 c.toNat
  else '\\' :: 'U' :: hexDigits 8 c.toNat

def quote (s : List Char) : List Char :=
  let q := if s.contains '\'' && !s.contains '"' then '"' else '\''
  q :: s.flatMap (quoteChar q) ++ [q]

def quoted (s : String) : String := String.ofList (quote s.toList)

end LadderAtlas.Text
