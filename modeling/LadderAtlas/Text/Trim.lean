import LadderAtlas.Text.Blank

/-! # Trimming, words and lines

Texts are trimmed at both ends of blank characters, split into words at them, and split into lines
at line breaks. `lines` gives the lines without their ends, and no empty line after the last
break. -/

namespace LadderAtlas.Text

def trimLeft (s : List Char) : List Char := s.dropWhile isBlank

def trimRight (s : List Char) : List Char := (s.reverse.dropWhile isBlank).reverse

def trim (s : List Char) : List Char := trimRight (trimLeft s)

/-- Drops the characters satisfying `p` from both ends. -/
def trimOf (p : Char → Bool) (s : List Char) : List Char :=
  ((s.dropWhile p).reverse.dropWhile p).reverse

def trimmed (s : String) : String := String.ofList (trim s.toList)

/-- The trimmed text, unless nothing is left of it. -/
def trimmed? (s : String) : Option String :=
  match trim s.toList with
  | [] => none
  | t => some (String.ofList t)

/-- The pieces of a text between the characters satisfying `p`; there is always at least one. -/
def splitOn (p : Char → Bool) : List Char → List (List Char)
  | [] => [[]]
  | c :: s =>
    if p c then [] :: splitOn p s
    else match splitOn p s with
      | [] => [[c]]
      | w :: ws => (c :: w) :: ws

/-- The longest runs without a blank. -/
def words (s : List Char) : List (List Char) := (splitOn isBlank s).filter (· ≠ [])

/-- Where a line ends: line feed, carriage return, vertical tab, form feed, the three upper
information separators, next line, and the line and paragraph separators. -/
def isLineBreak (c : Char) : Bool :=
  c.toNat ∈ [0x0A, 0x0B, 0x0C, 0x0D, 0x1C, 0x1D, 0x1E, 0x85, 0x2028, 0x2029]

/-- The lines of a text without their ends; a carriage return and a line feed after it are one
end. -/
def lines : List Char → List (List Char)
  | [] => []
  | '\r' :: '\n' :: s => [] :: lines s
  | c :: s =>
    if isLineBreak c then [] :: lines s
    else match lines s with
      | [] => [[c]]
      | l :: ls => (c :: l) :: ls

/-- The text with every carriage return, and a line feed after it, as one line feed. -/
def withLineFeeds : List Char → List Char
  | [] => []
  | '\r' :: '\n' :: s => '\n' :: withLineFeeds s
  | c :: s => (if c = '\r' then '\n' else c) :: withLineFeeds s

/-- Joins texts with a separator between any two. -/
def joined (sep : List Char) : List (List Char) → List Char
  | [] => []
  | [s] => s
  | s :: ss => s ++ sep ++ joined sep ss

/-- Whether `part` occurs in the text. -/
def hasPart (part : List Char) : List Char → Bool
  | [] => part.isEmpty
  | c :: s => part.isPrefixOf (c :: s) || hasPart part s

end LadderAtlas.Text
