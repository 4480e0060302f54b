import LadderAtlas.Document.Field
import LadderAtlas.L5k.Attributes

/-! # Rungs

The lines of a ladder routine hold rungs, which begin with `N:`, and remarks on the rung that
follows, which begin with `RC:`. Each goes on to the line on which its semicolon stands. -/

namespace LadderAtlas.L5k
open Text

/-- The body of a quoted piece, from after its opening quote, and what follows its closing quote. A
doubled quote belongs to the body unless the piece would otherwise not end. -/
def quotedPiece : List Char → Option (List Char × List Char)
  | [] => none
  | ['$'] => none
  | '$' :: c :: s =>
    if c = '\n' then none else (quotedPiece s).map fun (b, r) => ('$' :: c :: b, r)
  | '"' :: '"' :: s =>
    match quotedPiece s with
    | some (b, r) => some ('"' :: '"' :: b, r)
    | none => some ([], '"' :: s)
  | '"' :: s => some ([], s)
  | c :: s => (quotedPiece s).map fun (b, r) => (c :: b, r)

theorem quotedPiece_length {s b r : List Char} (h : quotedPiece s = some (b, r)) :
    r.length < s.length := by
  fun_induction quotedPiece s generalizing b with
  | case1 | case2 => simp at h
  | case3 => simp at h
  | case4 c s _ ih =>
    obtain ⟨⟨b', r'⟩, hq, he⟩ := Option.map_eq_some_iff.1 h
    obtain ⟨-, rfl⟩ := Prod.mk.inj he
    have := ih hq
    simp only [List.length_cons]
    omega
  | case5 s b' r' hq ih =>
    obtain ⟨-, rfl⟩ := Prod.mk.inj (Option.some.inj h)
    have := ih hq
    simp only [List.length_cons]
    omega
  | case6 s hq ih =>
    obtain ⟨-, rfl⟩ := Prod.mk.inj (Option.some.inj h)
    simp
  | case7 s =>
    obtain ⟨-, rfl⟩ := Prod.mk.inj (Option.some.inj h)
    simp
  | case8 c s _ _ _ _ ih =>
    obtain ⟨⟨b', r'⟩, hq, he⟩ := Option.map_eq_some_iff.1 h
    obtain ⟨-, rfl⟩ := Prod.mk.inj he
    exact Nat.lt_succ_of_lt (ih hq)

/-- The bodies of the quoted pieces of a text, in order. -/
def quotedPieces : List Char → List (List Char)
  | [] => []
  | '"' :: s =>
    match h : quotedPiece s with
    | some (b, r) =>
      have : r.length < s.length := quotedPiece_length h
      b :: quotedPieces r
    | none => quotedPieces s
  | _ :: s => quotedPieces s
  termination_by s => s.length

/-- The text of a remark. -/
def remark (s : List Char) : Option String :=
  trimmed? (String.ofList ((quotedPieces s).flatMap decode))

/-- What the lines read so far belong to. -/
inductive Entry where
  | rung (lines : List (List Char))
  | remark (lines : List (List Char))
deriving Repr

namespace Entry

def lines : Entry → List (List Char)
  | rung l => l
  | remark l => l

/-- What a line begins, if anything. -/
def start? : List Char → Option Entry
  | 'N' :: ':' :: s => some (.rung [trim s])
  | 'R' :: 'C' :: ':' :: s => some (.remark [trim s])
  | _ => none

def add (e : Entry) (line : List Char) : Entry :=
  match e with
  | rung l => .rung (l ++ [line])
  | remark l => .remark (l ++ [line])

/-- Whether the semicolon has come. -/
def isComplete (e : Entry) : Bool := 1 < (splitTop ';' (joined [' '] e.lines)).length

end Entry

/-- A rung without its place: comment and logic. -/
abbrev BareRung := Option String × List Char

/-- The rung that an entry is, and the comment for what follows. -/
def finishEntry (comment : Option String) : Entry → List BareRung × Option String
  | .remark lines => ([], remark (joined ['\n'] lines))
  | .rung lines => ([(comment, Field.logic (joined ['\n'] lines))], none)

/-- The rungs of the lines left, after the comment and the entry begun before them, and whether the
last entry lacks its semicolon. -/
def bareRungs (comment : Option String) (entry : Option Entry) :
    List (List Char) → List BareRung × Bool
  | [] =>
    match entry with
    | none => ([], false)
    | some e => ((finishEntry comment e).1, true)
  | line :: lines =>
    match trim line with
    | [] => bareRungs comment entry lines
    | text =>
      match (entry.map (·.add text)).or (Entry.start? text) with
      | none => bareRungs comment none lines
      | some e =>
        if e.isComplete then
          let (rungs, comment) := finishEntry comment e
          let (more, unfinished) := bareRungs comment none lines
          (rungs ++ more, unfinished)
        else bareRungs comment (some e) lines

/-- The rungs of a routine, numbered from zero. -/
def rungs (program routine : String) (lines : List (List Char)) : Noted (List Rung) := do
  let (bare, unfinished) := bareRungs none none lines
  if unfinished then Noted.note (.unfinishedRung program routine)
  return bare.mapIdx fun i (comment, logic) => {
    programName := program
    routineName := routine
    number := i
    logicText := String.ofList logic
    comment }

end LadderAtlas.L5k
