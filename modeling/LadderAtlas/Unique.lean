/-! # Lists without repetition

`firstSeen` drops what has come before; `sortedDistinct` lists a set in order. -/

namespace LadderAtlas

variable {α : Type}

/-- The items of a list, each at its first place only. -/
def firstSeen [BEq α] : List α → List α
  | [] => []
  | a :: l => a :: (firstSeen l).filter (!· == a)

/-- The distinct items of a list in increasing order. -/
def sortedDistinct [BEq α] (le : α → α → Bool) (l : List α) : List α := (firstSeen l).mergeSort le

/-- The order of texts: by code points. -/
def textLe (a b : String) : Bool := !decide (b < a)

/-- The order on pairs that looks at the second parts only where the first are equal. -/
def pairLe [BEq α] {β : Type} (le₁ : α → α → Bool) (le₂ : β → β → Bool) (a b : α × β) : Bool :=
  if a.1 == b.1 then le₂ a.2 b.2 else le₁ a.1 b.1

end LadderAtlas
