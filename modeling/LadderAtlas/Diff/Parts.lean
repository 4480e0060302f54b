import LadderAtlas.Diff.Changes

/-! # Changes of ordered parts

The members of a data type and the parameters of an add-on instruction are lists in which order
matters. -/

namespace LadderAtlas.Diff

/-- A part with what is compared about it. -/
structure Part (ρ : Type) where
  name : String
  dataType : String
  rest : ρ
deriving DecidableEq

variable {ρ : Type} [DecidableEq ρ]

/-- The last part with a name. -/
def lastNamed (l : List (Part ρ)) (name : String) : Option (Part ρ) := l.reverse.find? (·.name = name)

def hasNamed (l : List (Part ρ)) (name : String) : Bool := l.any (·.name = name)

/-- How a part differs from the one that has its name now. -/
def partDelta (label : String) (new : List (Part ρ)) (a : Part ρ) : List Delta :=
  match lastNamed new a.name with
  | none => []
  | some b =>
    if a.dataType ≠ b.dataType then
      [.became (label ++ " " ++ a.name ++ " data type") a.dataType b.dataType]
    else changeOf (label ++ " " ++ a.name) a b

/-- How two lists of parts differ. -/
def partDeltas (label : String) (old new : List (Part ρ)) : List Delta :=
  if old = new then []
  else
    let names (l : List (Part ρ)) : List String := l.map (·.name)
    let kept (l m : List (Part ρ)) : List String := (names l).filter (hasNamed m)
    ((names old).filter (!hasNamed new ·)).map (.removed label) ++
    ((names new).filter (!hasNamed old ·)).map (.added label) ++
    old.flatMap (partDelta label new) ++
    changeOf (label ++ " order") (kept old new) (kept new old)

@[simp] theorem partDeltas_self (label : String) (l : List (Part ρ)) : partDeltas label l l = [] := if_pos rfl

end LadderAtlas.Diff
