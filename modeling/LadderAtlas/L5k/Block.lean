import LadderAtlas.Failure
import LadderAtlas.L5k.Attributes

/-! # Blocks

An L5K file is made of blocks: a line with a keyword, a name and perhaps attributes in parentheses,
then lines of their own, then a line with the keyword after `END_`. `Block.collect` finds the
outermost blocks of given keywords among lines. -/

namespace LadderAtlas.L5k
open Text

def isWordStart (c : Char) : Bool := c.isAlpha || c = '_'

def isWordPart (c : Char) : Bool := c.isAlphanum || c = '_'

/-- The word that a line begins with, if a blank, a parenthesis, a semicolon or nothing follows. -/
def leadingWord (s : List Char) : Option String :=
  match s with
  | [] => none
  | c :: _ =>
    if !isWordStart c then none
    else
      let (word, rest) := s.span isWordPart
      if rest.head?.all fun d => isBlank d || d = '(' || d = ';' then some (String.ofList word) else none

structure Block where
  keyword : String
  name : String
  attributes : Attributes
  body : List (List Char)
deriving Repr

namespace Block

/-- The lines of a block header, joined, and the lines after it. As long as parentheses are open and
lines are left, the header goes on. -/
def header (text : List Char) : List (List Char) → List Char × List (List Char)
  | [] => (text, [])
  | line :: lines =>
    if 0 < parenDepth text then header (text ++ '\n' :: trim line) lines else (text, line :: lines)

/-- The name and the attributes of a header, less its keyword. -/
def readHeader (rest : List Char) : String × Attributes :=
  let rest := trimLeft rest
  let (part, attributes) := match firstGroup rest with
    | none => ((rest.reverse.dropWhile (· = ';')).reverse, [])
    | some g => (g.before, Attributes.parse g.inside)
  (String.ofList ((words part).headD []), attributes)

/-- The lines up to the one that closes the block, and the lines after it. Blocks of the same keyword
inside, `depth` of which are open, are closed by lines of their own. -/
def bodyOf (keyword : String) : (depth : Nat) → List (List Char) →
    Option (List (List Char) × List (List Char))
  | _, [] => none
  | depth, line :: lines =>
    let word := leadingWord (trim line)
    let keep := Option.map fun (inner, after) => (line :: inner, after)
    if word = some keyword then keep (bodyOf keyword (depth + 1) lines)
    else if word = some ("END_" ++ keyword) then
      match depth with
      | 0 => some ([], lines)
      | depth + 1 => keep (bodyOf keyword depth lines)
    else keep (bodyOf keyword depth lines)

theorem header_length (text : List Char) (lines : List (List Char)) :
    (header text lines).2.length ≤ lines.length := by
  induction lines generalizing text with
  | nil => simp [header]
  | cons line lines ih =>
    unfold header
    split
    · exact Nat.le_succ_of_le (ih _)
    · exact Nat.le_refl _

theorem bodyOf_length {keyword : String} {depth : Nat} {lines inner after : List (List Char)}
    (h : bodyOf keyword depth lines = some (inner, after)) : after.length < lines.length := by
  induction lines generalizing depth inner with
  | nil => simp [bodyOf] at h
  | cons line lines ih =>
    have keep : ∀ d : Nat, (bodyOf keyword d lines).map (fun (i, a) => (line :: i, a)) =
        some (inner, after) → after.length < (line :: lines).length := by
      intro d hd
      obtain ⟨⟨i, a⟩, hb, he⟩ := Option.map_eq_some_iff.1 hd
      obtain ⟨-, rfl⟩ := Prod.mk.inj he
      exact Nat.lt_succ_of_lt (ih hb)
    simp only [bodyOf] at h
    split at h
    · exact keep _ h
    · split at h
      · cases depth with
        | zero =>
          obtain ⟨-, rfl⟩ := Prod.mk.inj (Option.some.inj h)
          exact Nat.lt_succ_self _
        | succ d => exact keep d h
      · exact keep _ h

/-- The outermost blocks of the given keywords. A block without its closing line is an error. -/
def collect (keywords : List String) : List (List Char) → Except ParseCause (List Block)
  | [] => .ok []
  | line :: lines =>
    match leadingWord (trim line) with
    | none => collect keywords lines
    | some keyword =>
      if keywords.contains keyword then
        let text := header (trim line) lines
        let (name, attributes) := readHeader (text.1.drop keyword.length)
        match h : bodyOf keyword 0 text.2 with
        | none => .error (.missingEnd keyword name)
        | some (inner, after) =>
          have : after.length < (line :: lines).length := by
            have h₁ := bodyOf_length h
            have h₂ : text.2.length ≤ lines.length := header_length (trim line) lines
            exact Nat.lt_succ_of_lt (Nat.lt_of_lt_of_le h₁ h₂)
          (collect keywords after).map (⟨keyword, name, attributes, inner⟩ :: ·)
      else collect keywords lines
  termination_by lines => lines.length
  decreasing_by all_goals (simp only [List.length_cons] at *; omega)

end Block

end LadderAtlas.L5k
