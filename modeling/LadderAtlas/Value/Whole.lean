import LadderAtlas.Failure

/-! # Values as whole numbers

A number that is asked for may come as a whole number, a truth value, a fraction or a numeral. -/

namespace LadderAtlas.Value

/-- The whole number that a value stands for. The fraction of a number is cut off. -/
def toWhole : Value → Except Fault Int
  | .scalar (.whole n) => .ok n
  | .scalar (.bool b) => .ok (if b then 1 else 0)
  | .scalar (.fraction x) =>
    match Number.Dyadic.ofFloat? x with
    | some d => .ok d.whole
    | none => .error (if x.isNaN then .badValue else .overflow)
  | .scalar (.text s) => (Number.whole s.toList).mapError .numeral
  | _ => .error .wrongKind

end LadderAtlas.Value
