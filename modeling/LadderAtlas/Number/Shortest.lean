import LadderAtlas.Number.Binary64
import LadderAtlas.Number.Whole

/-! # Shortest decimals

The text of a `Float`: the fewest digits that read back as the same value, and of those the digits
nearest to it. `readsBack` says which decimals do; `select` looks for the first grid of powers of
ten with a neighbour of the value that does. -/

namespace LadderAtlas.Number

/-- The decimal `digits * 10 ^ exp`. -/
structure Dec where
  digits : Nat
  exp : Int
deriving Repr, DecidableEq

namespace Dyadic

/-- Compares `a * 10 ^ i` with `n * 2 ^ j`. -/
def compareScaled (a : Nat) (i : Int) (n : Nat) (j : Int) : Ordering :=
  compare (a * Nat.pow 10 i.toNat * Nat.pow 2 (-j).toNat) (n * Nat.pow 2 j.toNat * Nat.pow 10 (-i).toNat)

/-- Whether the decimal lies among the numbers that round to `d`. Below a power of two the gap is
half as wide as above it, and the ends belong to the even value. -/
def readsBack (d : Dyadic) (x : Dec) : Bool :=
  let narrow := d.m == Nat.pow 2 52 && -1074 < d.q
  let low := compareScaled x.digits x.exp (if narrow then 4 * d.m - 1 else 4 * d.m - 2) (d.q - 2)
  let high := compareScaled x.digits x.exp (4 * d.m + 2) (d.q - 2)
  let ends := d.m % 2 == 0
  (low == .gt || (ends && low == .eq)) && (high == .lt || (ends && high == .eq))

/-- The least `k` with `d < 10 ^ k`, from the first candidates on. -/
def scale (d : Dyadic) : Int :=
  let estimate : Int := ((d.m.log2 : Int) + d.q) * 30103 / 100000 - 1
  let steps := (List.range 5).map fun (i : Nat) => estimate + i
  (steps.find? fun k => compareScaled 1 k d.m d.q == .gt).getD (estimate + 5)

/-- The largest multiple of `10 ^ e` that is not above `d`, counted in that unit. -/
def gridBelow (d : Dyadic) (e : Int) : Nat :=
  (d.m * Nat.pow 2 d.q.toNat * Nat.pow 10 (-e).toNat) / (Nat.pow 2 (-d.q).toNat * Nat.pow 10 e.toNat)

/-- The neighbour of `d` on the grid `10 ^ e` that reads back, the nearer one if both do. -/
def onGrid? (d : Dyadic) (e : Int) : Option Dec :=
  let a := d.gridBelow e
  match d.readsBack ⟨a, e⟩, d.readsBack ⟨a + 1, e⟩ with
  | false, false => none
  | true, false => some ⟨a, e⟩
  | false, true => some ⟨a + 1, e⟩
  | true, true =>
    match compareScaled (2 * a + 1) e (2 * d.m) d.q with
    | .gt => some ⟨a, e⟩
    | .lt => some ⟨a + 1, e⟩
    | .eq => some ⟨if a % 2 = 0 then a else a + 1, e⟩

/-- The first of the grids with 1 to 17 digits that has a decimal reading back. -/
def select (d : Dyadic) : Dec :=
  let k := d.scale
  ((List.range 17).findSome? fun (n : Nat) => d.onGrid? (k - 1 - n)).getD ⟨d.gridBelow (k - 17), k - 17⟩

end Dyadic

/-- Drops the trailing zeros of a digit text. -/
def dropZeros (s : List Char) : List Char := (s.reverse.dropWhile (· == '0')).reverse

/-- A digit text with the point after `point` digits; positional from `1e-4` below `1e16`, else with
one digit before the point and a signed exponent of at least two digits. -/
def layOut (ds : List Char) (point : Int) : List Char :=
  if -4 < point && point ≤ 16 then
    if point ≤ 0 then
      '0' :: '.' :: List.replicate (-point).toNat '0' ++ ds
    else if ds.length ≤ point.toNat then
      ds ++ List.replicate (point.toNat - ds.length) '0' ++ ['.', '0']
    else ds.take point.toNat ++ '.' :: ds.drop point.toNat
  else
    let e := point - 1
    let digits := Nat.toDigits 10 e.natAbs
    ds.take 1 ++ (if ds.length ≤ 1 then [] else '.' :: ds.drop 1) ++
      ['e', if e < 0 then '-' else '+'] ++ List.replicate (2 - digits.length) '0' ++ digits

/-- The shortest text of a `Float`. -/
def floatText (x : Float) : String :=
  match Dyadic.ofFloat? x with
  | none => if x.isNaN then "nan" else if x < 0 then "-inf" else "inf"
  | some d =>
    let body :=
      if d.m = 0 then ['0', '.', '0']
      else
        let s := d.select
        let ds := Nat.toDigits 10 s.digits
        layOut (dropZeros ds) (s.exp + ds.length)
    String.ofList (if d.negative then '-' :: body else body)

end LadderAtlas.Number
