import LadderAtlas.Notice
import LadderAtlas.Number.Decimal

/-! # Fields

How single fields of an export are read: numbers, flags, texts and rung logic. A number that cannot
be read is passed over with a remark and never taken for zero. -/

namespace LadderAtlas.Field
open Text

/-- The text of a field, without blanks and then double quotes at its ends. -/
def bare (s : List Char) : List Char := trimOf (· = '"') (trim s)

/-- Reads a whole number. A decimal fraction will do if its value is whole. -/
def whole (field : String) : Option String → Noted (Option Int)
  | none => pure none
  | some s => do
    let body := bare s.toList
    if body.isEmpty then return none
    if let some n := Number.whole? body then return some n
    match Number.decimal? body with
    | none =>
      Noted.note (.ignoredNumber field s false)
      return none
    | some x =>
      match (Number.Dyadic.ofFloat? x).filter (·.isWhole) with
      | some d => return some d.whole
      | none =>
        Noted.note (.ignoredNumber field s true)
        return none

/-- Reads a flag; `default` is the value of an absent or unknown one. -/
def flag (default : Bool) : Option String → Bool
  | none => default
  | some s =>
    let word := String.ofList (lower (bare s.toList))
    if word ∈ ["true", "yes", "1"] then true
    else if word ∈ ["false", "no", "0"] then false
    else default

/-- Rung logic without surrounding blanks and its closing semicolon. -/
def logic (s : List Char) : List Char :=
  let t := trim s
  if t.getLast? = some ';' then trimRight t.dropLast else t

/-- The distinct names that are not empty. -/
def names (l : List String) : List String := firstSeen (l.filter (· ≠ ""))

end LadderAtlas.Field
