import LadderAtlas.Failure
import LadderAtlas.Text.Digit

/-! # Format revisions

The revision of a file format is written with points. Only its major number, the part before the
first point, decides whether a file can be read. -/

namespace LadderAtlas.Revision

/-- Whether the major number is the supported one. A part of digits that is no numeral of a whole
number is an unforeseen fault. -/
def majorIs (supported : Int) (revision : List Char) : Except Failure Bool :=
  let major := revision.takeWhile (· ≠ '.')
  if major.isEmpty || !major.all Text.isDigitLike then .ok false
  else match Number.whole major with
    | .ok n => .ok (n = supported)
    | .error e => .error (.fault (.numeral e))

end LadderAtlas.Revision
