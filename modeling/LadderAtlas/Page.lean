/-! # Pages

Long listings are given page by page. Page numbers begin at one, and a page holds one to a hundred
items; what is asked for beyond these bounds is brought inside them. -/

namespace LadderAtlas

/-- One page of a listing of `total` items. -/
structure Page (α : Type) where
  items : List α
  total : Nat
  number : Int
  size : Int
deriving Repr

namespace Page

def defaultSize : Int := 50

def maxSize : Int := 100

/-- The page with a number, of pages of a given size. -/
def of {α : Type} (l : List α) (number size : Int) : Page α :=
  let number := max 1 number
  let size := max 1 (min maxSize size)
  let start := ((number - 1) * size).toNat
  ⟨(l.drop start).take size.toNat, l.length, number, size⟩

end Page

end LadderAtlas
