/-! # Quoted stretches

In an L5K file a double quote begins a stretch that only the next double quote ends; inside it a
dollar sign takes the next character with it. `shade` marks the characters of these stretches. What
looks for parentheses, commas and semicolons passes over them. -/

namespace LadderAtlas.L5k

/-- A character and whether it is quoted; the quotes themselves are. -/
abbrev Shaded := List (Char × Bool)

/-- Marks the characters of a text that begins inside a quoted stretch if `inside`. -/
def shadeFrom : (inside : Bool) → List Char → Shaded
  | _, [] => []
  | true, ['$'] => [('$', true)]
  | true, '$' :: c :: s => ('$', true) :: (c, true) :: shadeFrom true s
  | inside, c :: s => (c, inside || c = '"') :: shadeFrom (inside != (c = '"')) s

def shade (s : List Char) : Shaded := shadeFrom false s

def Shaded.chars (s : Shaded) : List Char := s.map (·.1)

/-- How many more parentheses open than close, quoted ones aside. -/
def parenDepth (s : List Char) : Int :=
  (shade s).foldl (fun d (c, quoted) =>
    if quoted then d else if c = '(' then d + 1 else if c = ')' then d - 1 else d) 0

/-- The text of a group up to its closing parenthesis, and what follows; `depth` more groups are open
inside it. -/
def closeGroup : (depth : Nat) → Shaded → Option (List Char × List Char)
  | _, [] => none
  | depth, (c, quoted) :: s =>
    if !quoted && c = ')' then
      match depth with
      | 0 => some ([], Shaded.chars s)
      | depth + 1 => (closeGroup depth s).map fun (inside, after) => (c :: inside, after)
    else
      let depth := if !quoted && c = '(' then depth + 1 else depth
      (closeGroup depth s).map fun (inside, after) => (c :: inside, after)

/-- A text around its first group in parentheses. -/
structure Grouped where
  before : List Char
  inside : List Char
  after : List Char
deriving Repr

/-- The first group of a text; none unless it is closed. -/
def firstGroup (s : List Char) : Option Grouped :=
  let opens (p : Char × Bool) : Bool := !p.2 && p.1 = '('
  let (before, rest) := (shade s).span (!opens ·)
  (closeGroup 0 (rest.drop 1)).map fun (inside, after) => ⟨before.map (·.1), inside, after⟩

/-- Splits at a separator outside quotes, parentheses and brackets. A bracket that closes nothing
does not count. -/
def splitAtDepth (sep : Char) : (depth : Nat) → Shaded → List (List Char)
  | _, [] => [[]]
  | depth, (c, quoted) :: s =>
    let cut := !quoted && c = sep && depth = 0
    let depth :=
      if quoted then depth
      else if c = '(' || c = '[' then depth + 1
      else if c = ')' || c = ']' then depth - 1
      else depth
    match splitAtDepth sep depth s with
    | [] => [[]]
    | p :: ps => if cut then [] :: p :: ps else (c :: p) :: ps

def splitTop (sep : Char) (s : List Char) : List (List Char) := splitAtDepth sep 0 (shade s)

theorem shadeFrom_chars (inside : Bool) (s : List Char) : (shadeFrom inside s).chars = s := by
  fun_induction shadeFrom inside s <;> simp_all [Shaded.chars]

theorem shade_chars (s : List Char) : (shade s).chars = s := shadeFrom_chars false s

end LadderAtlas.L5k
