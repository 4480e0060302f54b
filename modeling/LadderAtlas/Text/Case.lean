import LadderAtlas.Text.Case.Table

/-! # Case mapping

Upper and lower case of whole texts, for every script. A character may become several, and the
lower case of a capital sigma depends on whether it ends a word. `sameFold` is the weaker relation
on single characters that matching without regard to case uses. -/

namespace LadderAtlas.Text
open Case

namespace Case

def Run.holds (r : Run) (n : Nat) : Bool :=
  r.first ≤ n && n ≤ r.last && (n - r.first) % r.stride == 0

/-- The image of a character under the first run that holds it; itself when none does. -/
def image (runs : List Run) (c : Char) : Char :=
  match runs.find? (·.holds c.toNat) with
  | some r => Char.ofNat (c.toNat + r.shift).toNat
  | none => c

def isCased (c : Char) : Bool := casedRanges.has c.toNat

def isCaseIgnorable (c : Char) : Bool := caseIgnorableRanges.has c.toNat

/-- The last character of `before` (given from its end) and the first of `after` that are not
passed over decide whether a word ends between them. -/
def endsWord (before after : List Char) : Bool :=
  (before.dropWhile isCaseIgnorable).head?.any isCased &&
    !(after.dropWhile isCaseIgnorable).head?.any isCased

end Case

/-- The single lower-case character of a character. -/
def lowerChar (c : Char) : Char :=
  if c.toNat < 128 then c.toLower
  else if c.toNat = 0x130 then 'i'
  else image lowerRuns c

/-- Lower case of the text that follows `before`, which is given from its end. -/
def lowerAfter (before : List Char) : List Char → List Char
  | [] => []
  | c :: s =>
    (if c.toNat = 0x130 then ['i', Char.ofNat 0x307]
     else if c.toNat = 0x3A3 then [Char.ofNat (if endsWord before s then 0x3C2 else 0x3C3)]
     else [lowerChar c]) ++ lowerAfter (c :: before) s

def lower (s : List Char) : List Char := lowerAfter [] s

/-- The upper-case characters of a character. -/
def upperChars (c : Char) : List Char :=
  if c.toNat < 128 then [c.toUpper]
  else match upperExpansions.lookup c.toNat with
    | some cs => cs.map Char.ofNat
    | none => [image upperRuns c]

def upper (s : List Char) : List Char := s.flatMap upperChars

def lowered (s : String) : String := String.ofList (lower s.toList)

def uppered (s : String) : String := String.ofList (upper s.toList)

/-- The lower-case characters that stand for `c` when case does not matter. -/
def folds (c : Char) : List Char :=
  lowerChar c :: ((foldPartners.lookup (lowerChar c).toNat).getD []).map Char.ofNat

/-- Equality without regard to case. -/
def sameFold (a b : Char) : Bool := (folds a).contains (lowerChar b)

/-- The characters whose lower case is `c`. -/
def withLower (c : Char) : List Char :=
  (if lowerChar c = c then [c] else []) ++
    ((if c.toNat = 0x69 then [Char.ofNat 0x130] else []) ++
      (lowerRuns.filterMap fun r =>
        let n := ((c.toNat : Int) - r.shift).toNat
        if r.holds n then some (Char.ofNat n) else none))

end LadderAtlas.Text
