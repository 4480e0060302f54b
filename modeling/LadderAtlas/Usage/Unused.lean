import LadderAtlas.Snapshot

/-! # Unused tags

A tag is used when a rung refers to it or to something it is part of: a reference to `Motor1` uses
`Motor1.Speed` as well. On request a reference to a part also uses the whole. -/

namespace LadderAtlas
open Text

/-- The proper prefixes of a qualified name that end before a point or a bracket outside brackets, and
then the name itself. `read` is the part before, reversed. -/
def pathPrefixesFrom (depth : Nat) (read : List Char) : List Char → List (List Char)
  | [] => [read.reverse]
  | c :: s =>
    let here := if depth = 0 && !read.isEmpty then [read.reverse] else []
    if c = '[' then here ++ pathPrefixesFrom (depth + 1) (c :: read) s
    else if c = ']' then pathPrefixesFrom (depth - 1) (c :: read) s
    else if c = '.' then here ++ pathPrefixesFrom depth (c :: read) s
    else pathPrefixesFrom depth (c :: read) s

/-- The wholes that a qualified name is part of, shortest first, the name itself last. -/
def pathPrefixes (name : String) : List String :=
  (pathPrefixesFrom 0 [] name.toList).map String.ofList

/-- The names that count as referenced; with `withWholes` also the wholes of which they are part. -/
def referencedNames (withWholes : Bool) (references : List TagReference) : List String :=
  if withWholes then references.flatMap fun r => pathPrefixes r.tagName
  else references.map (·.tagName)

def isTagUsed (referenced : List String) (name : String) : Bool :=
  (pathPrefixes name).any referenced.contains

/-- The tags that no reference uses, in order of declaration. -/
def unusedTags (withWholes : Bool) (tags : List Tag) (references : List TagReference) : List Tag :=
  let referenced := referencedNames withWholes references
  tags.filter fun t => !isTagUsed referenced t.name

/-- Which tags of a listing are asked for. The word `all` asks for all scopes or types. -/
structure TagFilter where
  search : Option String := none
  scope : Option String := none
  dataType : Option String := none
deriving Repr

/-- A criterion that is neither empty nor `all`. -/
def criterion? (s : Option String) : Option String := s.filter fun w => w ≠ "" && w ≠ "all"

/-- Whether a text occurs in another one without regard to case. -/
def occursIn (part whole : String) : Bool := hasPart (lower part.toList) (lower whole.toList)

namespace TagFilter

def admits (f : TagFilter) (t : Tag) : Bool :=
  (f.search.getD "" = "" || occursIn (f.search.getD "") t.name) &&
    (criterion? f.scope).all (· = t.scope) && (criterion? f.dataType).all (· = t.dataType)

/-- The tags that are asked for, by name and scope. -/
def apply (f : TagFilter) (tags : List Tag) : List Tag :=
  (tags.filter f.admits).mergeSort fun a b => pairLe textLe textLe (a.name, a.scope) (b.name, b.scope)

end TagFilter

end LadderAtlas
