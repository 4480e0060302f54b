import LadderAtlas.Keyed
import LadderAtlas.Snapshot

/-! # The tree of modules

Modules name their parents. A module without a parent, or whose parent is itself or is not there, is
a root of the tree. Modules that are their own ancestors are in no tree. -/

namespace LadderAtlas

/-- Modules by name; of those with the same name the first. -/
abbrev ModuleIndex := List (String × IoModule)

namespace ModuleIndex

def ofList (l : List IoModule) : ModuleIndex := Keyed.firsts (·.name) l

def ofSnapshots (l : List Snapshot) : ModuleIndex := ofList (l.flatMap (·.document.modules))

/-- The parent of a module that is no root. -/
def parent? (ms : ModuleIndex) (m : IoModule) : Option IoModule :=
  (m.parentModule.filter fun p => p ≠ "" && p ≠ m.name).bind (Keyed.get? ms)

/-- The names from the last ancestor that is not among `below` down to `below`. -/
def pathAbove (ms : ModuleIndex) : (fuel : Nat) → (below : List String) → Option IoModule → List String
  | 0, below, _ | _, below, none => below
  | fuel + 1, below, some m =>
    if below.contains m.name then below else pathAbove ms fuel (m.name :: below) (ms.parent? m)

/-- The names from the root down to a module; none for an unknown one. -/
def path (ms : ModuleIndex) (name : String) : List String :=
  ms.pathAbove (ms.length + 1) [] (Keyed.get? ms name)

/-- The modules whose parent has a name, in order. -/
def children (ms : ModuleIndex) (name : String) : List IoModule :=
  (ms.map (·.2)).filter fun m => (ms.parent? m).any (·.name = name)

end ModuleIndex

inductive ModuleNode where
  | node (module : IoModule) (children : List ModuleNode)

namespace ModuleNode

/-- The tree below a module, in which no module is among its ancestors. -/
def grow (ms : ModuleIndex) : (fuel : Nat) → (ancestors : List String) → IoModule → ModuleNode
  | 0, _, m => .node m []
  | fuel + 1, ancestors, m =>
    .node m (((ms.children m.name).filter fun c => !ancestors.contains c.name).map
      (grow ms fuel (m.name :: ancestors)))

mutual
def plain : ModuleNode → Value
  | .node m children => .record [
      ("name", .text m.name),
      ("catalogNumber", .opt .text m.catalogNumber),
      ("slot", .opt .whole m.slot),
      ("children", .list (plainAll children))]

def plainAll : List ModuleNode → List Value
  | [] => []
  | n :: l => n.plain :: plainAll l
end

end ModuleNode

/-- The roots with the trees below them. -/
def ModuleIndex.tree (ms : ModuleIndex) : List ModuleNode :=
  (((ms.map (·.2)).filter fun m => (ms.parent? m).isNone)).map (ModuleNode.grow ms ms.length [])

end LadderAtlas
