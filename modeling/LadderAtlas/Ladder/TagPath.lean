import LadderAtlas.Ladder.Call

/-! # Tag paths

A tag path is an identifier, which a backslash may precede, then segments after colons, then any mix
of members after points and indices in brackets. `pathRest` passes over the longest path at the start
of a text; `isTagPath` says that a text is one. -/

namespace LadderAtlas.Ladder
open Text

/-- The text after a segment of letters, digits and underscores at its start. -/
def afterSegment? (s : List Char) : Option (List Char) :=
  match s with
  | [] => none
  | c :: _ => if isIdentifierPart c then some (s.dropWhile isIdentifierPart) else none

/-- The text after the bracket that closes an index; `depth` more brackets are open. -/
def afterBracket? (depth : Nat) : List Char → Option (List Char)
  | [] => none
  | c :: s =>
    if c = '[' then afterBracket? (depth + 1) s
    else if c = ']' then
      match depth with
      | 0 => some s
      | d + 1 => afterBracket? d s
    else afterBracket? depth s

theorem afterSegment?_length {s r : List Char} (h : afterSegment? s = some r) : r.length ≤ s.length := by
  unfold afterSegment? at h
  split at h
  · simp at h
  · split at h
    · obtain rfl := Option.some.inj h
      exact dropWhile_length_le _ _
    · simp at h

theorem afterBracket?_length {depth : Nat} {s r : List Char} (h : afterBracket? depth s = some r) :
    r.length < s.length := by
  induction s generalizing depth with
  | nil => simp [afterBracket?] at h
  | cons c s ih =>
    simp only [afterBracket?] at h
    split at h
    · exact Nat.lt_succ_of_lt (ih h)
    · split at h
      · cases depth with
        | zero =>
          obtain rfl := Option.some.inj h
          exact Nat.lt_succ_self _
        | succ d => exact Nat.lt_succ_of_lt (ih h)
      · exact Nat.lt_succ_of_lt (ih h)

/-- The text after the module segments at its start. -/
def moduleRest : List Char → List Char
  | ':' :: s =>
    match h : afterSegment? s with
    | some r =>
      have := afterSegment?_length h
      moduleRest r
    | none => ':' :: s
  | s => s
  termination_by s => s.length

/-- The text after the members and indices at its start. -/
def partRest : List Char → List Char
  | '.' :: s =>
    match h : afterSegment? s with
    | some r =>
      have := afterSegment?_length h
      partRest r
    | none => '.' :: s
  | '[' :: s =>
    match h : afterBracket? 0 s with
    | some r =>
      have := afterBracket?_length h
      partRest r
    | none => '[' :: s
  | s => s
  termination_by s => s.length

/-- The text after the backslash at its start, if there is one. -/
def dropBackslash : List Char → List Char
  | '\\' :: s => s
  | s => s

/-- The text after the identifier at its start. -/
def afterIdentifier? (s : List Char) : Option (List Char) :=
  match s with
  | [] => none
  | c :: _ => if isIdentifierStart c then some (s.dropWhile isIdentifierPart) else none

/-- What follows the longest tag path at the start of a text; none if no path begins there. -/
def pathRest? (s : List Char) : Option (List Char) :=
  (afterIdentifier? (dropBackslash s)).map fun r => partRest (moduleRest r)

/-- The length of the longest tag path at the start of a text; zero if no path begins there. -/
def pathLength (s : List Char) : Nat :=
  match pathRest? s with
  | some r => s.length - r.length
  | none => 0

def isTagPath (s : List Char) : Bool := pathRest? s = some []

/-- What stands in the outermost brackets of a text. `inside` holds the text since the last outermost
bracket, reversed. -/
def bracketsFrom (depth : Int) (inside : List Char) : List Char → List (List Char)
  | [] => []
  | c :: s =>
    if c = '[' then bracketsFrom (depth + 1) (if depth = 0 then [] else c :: inside) s
    else if c = ']' then
      if depth = 1 then inside.reverse :: bracketsFrom 0 (c :: inside) s
      else bracketsFrom (depth - 1) (c :: inside) s
    else bracketsFrom depth (c :: inside) s

def brackets (s : List Char) : List (List Char) := bracketsFrom 0 [] s

end LadderAtlas.Ladder
