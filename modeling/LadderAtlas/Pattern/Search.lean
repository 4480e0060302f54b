import LadderAtlas.Keyed
import LadderAtlas.Pattern
import LadderAtlas.Unique

/-! # Searching for patterns

`run` gives the spots at which a match that begins at a given spot can end, in the order in which they
are tried. Spots that come up again are dropped: what follows from them has been tried. -/

namespace LadderAtlas.Pattern

/-- A place in a text, with the beginnings and ends of the groups that have matched. -/
structure Spot where
  place : Nat
  groups : List (Nat × Nat × Nat) := []
deriving DecidableEq

namespace Anchor

/-- Whether the character at a place belongs to a word. -/
def isWordAt (onlyAscii : Bool) (text : Array Char) (i : Nat) : Bool :=
  text[i]?.any fun c => if onlyAscii then CharClass.word.hasAscii c else CharClass.word.has c

def holds (text : Array Char) (i : Nat) : Anchor → Bool
  | .textStart => i = 0
  | .lineStart => i = 0 || text[i - 1]? = some '\n'
  | .lastLineEnd => i = text.size || (i + 1 = text.size && text[i]? = some '\n')
  | .lineEnd => i = text.size || text[i]? = some '\n'
  | .textEnd => i = text.size
  | .wordEdge onlyAscii negated =>
    let before := i ≠ 0 && isWordAt onlyAscii text (i - 1)
    text.size ≠ 0 && ((before != isWordAt onlyAscii text i) != negated)

end Anchor

/-- The spots after `n` rounds of a step. -/
def rounds (step : Spot → List Spot) : (n : Nat) → List Spot → List Spot
  | 0, l => l
  | n + 1, l =>
    let next := firstSeen (l.flatMap step)
    if next = l then l else rounds step n next

/-- The spots after at most `n` rounds of a step from a spot. A round that does not move on is the
last. What was begun before, with as many rounds left if their number is `limited`, is not begun again. -/
def spread (step : Spot → List Spot) (limited fewestFirst : Bool) :
    (n : Nat) → Spot → StateM (List (Nat × Spot)) (List Spot)
  | 0, s => return [s]
  | n + 1, s => do
    let mark := (if limited then n else 0, s)
    if (← get).contains mark then return []
    modify (mark :: ·)
    let later ← (step s).mapM fun t =>
      if t.place = s.place then return [t] else spread step limited fewestFirst n t
    return if fewestFirst then s :: later.flatten else later.flatten ++ [s]

/-- The spot after at most `n` rounds that take the first way each. -/
def advance (step : Spot → List Spot) : (n : Nat) → Spot → Spot
  | 0, s => s
  | n + 1, s =>
    match step s with
    | [] => s
    | t :: _ => if t.place = s.place then t else advance step n t

/-- The spots after a number of rounds between two bounds. -/
def repeated (step : Spot → List Spot) (size least : Nat) (most : Option Nat) (greed : Greed) (s : Spot) :
    List Spot :=
  let more := match most with
    | some m => min (m - least) (size + 1)
    | none => size + 1
  match greed with
  | .mostOnly => (rounds (fun t => (step t).take 1) least [s]).map (advance step more)
  | greed =>
    let found := (rounds step least [s]).mapM (spread step most.isSome (greed = .fewest) more)
    firstSeen (found.run []).1.flatten

/-- The part of a text that a group has matched. -/
def groupText? (text : Array Char) (s : Spot) (n : Nat) : Option (List Char) :=
  (Keyed.get? s.groups n).map fun (a, b) => (text.extract a b).toList

/-- Passes over a text if it comes next. -/
def follow (folding : Folding) (text : Array Char) (part : List Char) (s : Spot) : List Spot :=
  let next := (text.extract s.place (s.place + part.length)).toList
  if next.map folding.fold = part.map folding.fold then [{ s with place := s.place + part.length }] else []

/-- The spots at which a match that begins at a spot can end. -/
def run (text : Array Char) : Pattern → Spot → List Spot
  | .empty, s => [s]
  | .one set, s => if text[s.place]?.any set.has then [{ s with place := s.place + 1 }] else []
  | .seq a b, s => firstSeen ((run text a s).flatMap (run text b))
  | .alt a b, s => firstSeen (run text a s ++ run text b s)
  | .times least most greed body, s => repeated (run text body) text.size least most greed s
  | .group n body, s =>
    (run text body s).map fun t => { t with groups := Keyed.put t.groups n (s.place, t.place) }
  | .again n folding _ _, s =>
    match groupText? text s n with
    | some part => follow folding text part s
    | none => []
  | .look behind negated body, s =>
    let back := if behind then body.lengths.1 else 0
    let found := if back ≤ s.place then run text body { s with place := s.place - back } else []
    match found, negated with
    | [], true => [s]
    | t :: _, false => [{ t with place := s.place }]
    | _, _ => []
  | .atomic body, s => (run text body s).take 1
  | .ifGroup n yes no, s => if (Keyed.get? s.groups n).isSome then run text yes s else run text no s
  | .anchor a, s => if a.holds text s.place then [s] else []

/-- Whether a pattern matches somewhere in a text. -/
def occursIn (p : Pattern) (text : String) : Bool :=
  let text := text.toList.toArray
  (List.range (text.size + 1)).any fun i => !(run text p { place := i }).isEmpty

end LadderAtlas.Pattern
