import LadderAtlas.Keyed
import LadderAtlas.Value

/-! # Changes between two lists

Items are matched by a key. What is only in the old list is removed, what is only in the new one is
added, and what is in both is modified if anything about it differs. Of items with the same key the
first counts. Each part of the result is in the order of the keys. -/

namespace LadderAtlas.Diff

/-- How one thing about an item differs. -/
inductive Delta where
  /-- A property with its old and its new text. -/
  | became (property old new : String)
  | changed (property : String)
  | removed (part name : String)
  | added (part name : String)
deriving Repr, DecidableEq

/-- An absent or empty text in a message. -/
def shownOrNone (s : String) : String := if s = "" then "none" else s

def Delta.message : Delta → String
  | .became property old new => property ++ ": " ++ shownOrNone old ++ " → " ++ shownOrNone new
  | .changed property => property ++ " changed"
  | .removed part name => part ++ " removed: " ++ name
  | .added part name => part ++ " added: " ++ name

/-- The difference in a property, if there is one. -/
def deltaOf {α : Type} [DecidableEq α] (property : String) (text : α → String) (old new : α) : List Delta :=
  if old = new then [] else [.became property (text old) (text new)]

/-- The fact that a property differs, if it does. -/
def changeOf {α : Type} [DecidableEq α] (property : String) (old new : α) : List Delta :=
  if old = new then [] else [.changed property]

@[simp] theorem deltaOf_eq_nil_iff {α : Type} [DecidableEq α] (property : String) (text : α → String) (old new : α) :
    deltaOf property text old new = [] ↔ old = new := by
  simp [deltaOf]

@[simp] theorem changeOf_eq_nil_iff {α : Type} [DecidableEq α] (property : String) (old new : α) :
    changeOf property old new = [] ↔ old = new := by
  simp [changeOf]

structure Changes (α : Type) where
  added : List α
  removed : List α
  /-- The new items that differ from the old ones, and how. -/
  modified : List (α × List Delta)
deriving Repr

namespace Changes

variable {κ α : Type} [DecidableEq κ]

/-- The items under those keys of the first list that satisfy a condition. -/
def select (items : List (κ × α)) (keys : List κ) (p : κ → Bool) : List α :=
  (keys.filter p).filterMap (Keyed.get? items)

/-- The changes from `old` to `new`, given how two items with the same key differ. -/
def between (key : α → κ) (le : κ → κ → Bool) (deltas : α → α → List Delta) (old new : List α) : Changes α :=
  let olds := Keyed.firsts key old
  let news := Keyed.firsts key new
  let oldKeys := (Keyed.keys olds).mergeSort le
  let newKeys := (Keyed.keys news).mergeSort le
  let differing (k : κ) : Option (α × List Delta) := do
    let a ← Keyed.get? olds k
    let b ← Keyed.get? news k
    let ds := deltas a b
    if ds.isEmpty then none else some (b, ds)
  { added := select news newKeys fun k => !oldKeys.contains k
    removed := select olds oldKeys fun k => !newKeys.contains k
    modified := oldKeys.filterMap differing }

def count (c : Changes α) : Nat := c.added.length + c.removed.length + c.modified.length

/-- The changes as a map, each item as a row. -/
def plain (row : α → List (String × Value)) (c : Changes α) : Value := .record [
  ("added", .list (c.added.map fun a => .record (row a))),
  ("removed", .list (c.removed.map fun a => .record (row a))),
  ("modified", .list (c.modified.map fun (a, ds) =>
    .record (row a ++ [("changes", .texts (ds.map Delta.message))])))]

end Changes

end LadderAtlas.Diff
