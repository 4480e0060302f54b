import LadderAtlas.Text.Blank
import LadderAtlas.Text.Case
import LadderAtlas.Text.Digit
import LadderAtlas.Text.WordChar

/-! # Patterns

Regular expressions: the shapes that names are required to have, and what a search looks for. Letters
are compared, and classes of characters understood, as the options in force where they stand say, so a
pattern carries no options of its own. -/

namespace LadderAtlas

namespace Pattern

/-- How letters are compared. -/
inductive Folding where
  | exact
  /-- Without regard to the case of the letters of ASCII. -/
  | ascii
  /-- Without regard to case. -/
  | full
deriving Repr, DecidableEq

/-- A class of characters with a name of its own. -/
inductive CharClass where
  | digit
  | blank
  | word
deriving Repr, DecidableEq

/-- A part of a set of characters. -/
inductive SetItem where
  /-- Code points from `first` to `last`. -/
  | range (first last : Nat)
  | named (c : CharClass) (onlyAscii negated : Bool)
deriving Repr, DecidableEq

structure CharSet where
  items : List SetItem
  negated : Bool := false
  folding : Folding := .exact
deriving Repr, DecidableEq

/-- A condition on a place in a text. -/
inductive Anchor where
  | textStart
  | lineStart
  /-- The end of the text, or the place before a line feed that ends it. -/
  | lastLineEnd
  | lineEnd
  | textEnd
  /-- A place where a word begins or ends; negated, any other. An empty text has neither. -/
  | wordEdge (onlyAscii negated : Bool)
deriving Repr, DecidableEq

/-- Which number of repetitions is tried first, and whether others are. -/
inductive Greed where
  | most
  | fewest
  /-- Each repetition takes its first way to match, and none is given back. -/
  | mostOnly
deriving Repr, DecidableEq

end Pattern

open Pattern in
/-- A regular expression. -/
inductive Pattern where
  | empty
  | one (s : CharSet)
  | seq (a b : Pattern)
  | alt (a b : Pattern)
  | times (least : Nat) (most : Option Nat) (greed : Greed) (body : Pattern)
  | group (n : Nat) (body : Pattern)
  /-- The text of a group again. The lengths are those that the group can have. -/
  | again (n : Nat) (folding : Folding) (shortest longest : Nat)
  | look (behind negated : Bool) (body : Pattern)
  /-- Only the first way in which the body matches. -/
  | atomic (body : Pattern)
  /-- One of two patterns, as a group has matched or not. -/
  | ifGroup (n : Nat) (yes no : Pattern)
  | anchor (a : Anchor)
deriving Repr, Inhabited

namespace Pattern
open Text

namespace CharClass

def has (k : CharClass) (c : Char) : Bool :=
  match k with
  | .digit => isDecimal c
  | .blank => isBlank c
  | .word => isWordChar c

/-- The class among the characters of ASCII. -/
def hasAscii (k : CharClass) (c : Char) : Bool :=
  match k with
  | .digit => c.isDigit
  | .blank => c = ' ' || (9 ≤ c.toNat && c.toNat ≤ 13)
  | .word => c.isAlphanum || c = '_'

end CharClass

/-- The characters that are equal to a character. -/
def Folding.equals (f : Folding) (c : Char) : List Char :=
  match f with
  | .exact => [c]
  | .ascii => [c, c.toLower, c.toUpper]
  | .full => (folds c).flatMap withLower

/-- The character that stands for all that are equal to it. -/
def Folding.fold (f : Folding) (c : Char) : Char :=
  match f with
  | .exact => c
  | .ascii => c.toLower
  | .full => lowerChar c

def SetItem.has (f : Folding) (c : Char) : SetItem → Bool
  | .range first last => (f.equals c).any fun d => first ≤ d.toNat && d.toNat ≤ last
  | .named k onlyAscii negated => (if onlyAscii then k.hasAscii c else k.has c) != negated

def CharSet.has (s : CharSet) (c : Char) : Bool := s.items.any (·.has s.folding c) != s.negated

/-- Any character, line feeds aside unless `lineFeeds` is set. -/
def CharSet.any (lineFeeds : Bool) : CharSet :=
  if lineFeeds then { items := [], negated := true } else { items := [.range 10 10], negated := true }

/-- A length that stands for all greater ones. -/
def lengthLimit : Nat := Nat.pow 2 64

/-- The shortest and the longest length of the texts that a pattern matches. -/
def lengths : Pattern → Nat × Nat
  | .empty | .look .. | .anchor _ => (0, 0)
  | .one _ => (1, 1)
  | .seq a b => (min lengthLimit (a.lengths.1 + b.lengths.1), min lengthLimit (a.lengths.2 + b.lengths.2))
  | .alt a b | .ifGroup _ a b => (min a.lengths.1 b.lengths.1, max a.lengths.2 b.lengths.2)
  | .times least most _ body =>
    let longest := match most with
      | some m => body.lengths.2 * m
      | none => if body.lengths.2 = 0 then 0 else lengthLimit
    (min lengthLimit (body.lengths.1 * least), min lengthLimit longest)
  | .group _ body | .atomic body => body.lengths
  | .again _ _ shortest longest => (shortest, longest)

/-- Whether all that is looked for behind a place has a fixed length. -/
def looksBehindFixed : Pattern → Bool
  | .empty | .one _ | .again .. | .anchor _ => true
  | .seq a b | .alt a b | .ifGroup _ a b => a.looksBehindFixed && b.looksBehindFixed
  | .times _ _ _ body | .group _ body | .atomic body => body.looksBehindFixed
  | .look behind _ body =>
    body.looksBehindFixed && (!behind || (body.lengths.1 = body.lengths.2 && body.lengths.1 < Nat.pow 2 32))

def hasRepetition : Pattern → Bool
  | .empty | .one _ | .again .. | .anchor _ => false
  | .seq a b | .alt a b | .ifGroup _ a b => a.hasRepetition || b.hasRepetition
  | .times .. => true
  | .look _ _ body | .group _ body | .atomic body => body.hasRepetition

/-- The groups whose text or presence matters. -/
def groupsUsed : Pattern → List Nat
  | .empty | .one _ | .anchor _ => []
  | .again n _ _ _ => [n]
  | .seq a b | .alt a b => a.groupsUsed ++ b.groupsUsed
  | .ifGroup n a b => n :: (a.groupsUsed ++ b.groupsUsed)
  | .times _ _ _ body | .look _ _ body | .group _ body | .atomic body => body.groupsUsed

/-- The pattern without the groups that are not listed; their bodies stay. -/
def keepGroups (used : List Nat) : Pattern → Pattern
  | .seq a b => .seq (a.keepGroups used) (b.keepGroups used)
  | .alt a b => .alt (a.keepGroups used) (b.keepGroups used)
  | .ifGroup n a b => .ifGroup n (a.keepGroups used) (b.keepGroups used)
  | .times least most greed body => .times least most greed (body.keepGroups used)
  | .look behind negated body => .look behind negated (body.keepGroups used)
  | .atomic body => .atomic (body.keepGroups used)
  | .group n body => if used.contains n then .group n (body.keepGroups used) else body.keepGroups used
  | p => p

end Pattern

end LadderAtlas
