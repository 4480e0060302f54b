/-! # Binary floating point, exactly

A finite value of `Float` is a whole number times a power of two. `Dyadic` is that reading of the
bits; what has to be exact (floors, whole values, digits) is computed on it. -/

namespace LadderAtlas.Number

/-- The value `m * 2 ^ q`, negated when `negative`. -/
structure Dyadic where
  negative : Bool
  m : Nat
  q : Int
deriving Repr, DecidableEq

/-- The exact value of a finite `Float`. -/
def Dyadic.ofFloat? (x : Float) : Option Dyadic :=
  let b := x.toBits
  let e := ((b >>> 52) &&& 0x7FF).toNat
  let f := (b &&& 0xFFFFFFFFFFFFF).toNat
  if e = 0x7FF then none
  else some ⟨b >>> 63 != 0, if e = 0 then f else Nat.pow 2 52 + f, if e = 0 then -1074 else (e : Int) - 1075⟩

namespace Dyadic

/-- The largest whole number that is not above the value. -/
def floor (d : Dyadic) : Int :=
  let n : Int := if d.negative then -(d.m : Int) else d.m
  if 0 ≤ d.q then n * Nat.pow 2 d.q.toNat else Int.fdiv n (Nat.pow 2 (-d.q).toNat)

def isWhole (d : Dyadic) : Bool :=
  0 ≤ d.q || d.m % Nat.pow 2 (-d.q).toNat == 0

def toRat (d : Dyadic) : Rat :=
  let n : Int := if d.negative then -(d.m : Int) else d.m
  if 0 ≤ d.q then Rat.ofInt (n * Nat.pow 2 d.q.toNat) else mkRat n (Nat.pow 2 (-d.q).toNat)

/-- The whole part, toward zero. -/
def whole (d : Dyadic) : Int :=
  let n : Nat := if 0 ≤ d.q then d.m * Nat.pow 2 d.q.toNat else d.m / Nat.pow 2 (-d.q).toNat
  if d.negative then -(n : Int) else n

end Dyadic

/-- The `Float` nearest to a whole number. -/
def floatOfInt (n : Int) : Float :=
  let x := Float.ofScientific n.natAbs false 0
  if n < 0 then -x else x

/-- The `Float` nearest to `a / b`, for `b` not zero. Operands below `2 ^ 53` are divided as floats,
which rounds once; larger ones are divided as whole numbers to 66 bits or more, the last of which
records a remainder, and then rounded once. -/
def floatRatio (a b : Int) : Float :=
  let x :=
    if a.natAbs < Nat.pow 2 53 && b.natAbs < Nat.pow 2 53 then
      Float.ofScientific a.natAbs false 0 / Float.ofScientific b.natAbs false 0
    else
      let k : Int := (66 + b.natAbs.log2 : Int) - a.natAbs.log2
      let num := a.natAbs * Nat.pow 2 k.toNat
      let den := b.natAbs * Nat.pow 2 (-k).toNat
      let sticky := if num % den = 0 then 0 else 1
      (Float.ofScientific (2 * (num / den) + sticky) false 0).scaleB (-(k + 1))
  if (a < 0) != (b < 0) then -x else x

end LadderAtlas.Number
