import LadderAtlas.Number.Whole

/-! # Words of a command line

A command line is a list of words: options, their values, and arguments. An option with a long name
has its value after an equals sign or in the next word, one with a single letter in the rest of its
word or in the next word. After the word `--` there are only arguments. -/

namespace LadderAtlas.CommandLine

/-- An option under all its names, with their dashes. -/
structure Switch where
  names : List String
  takesValue : Bool := true
deriving Repr, DecidableEq

namespace Switch

def name (s : Switch) : String := s.names.headD ""

def find? (switches : List Switch) (name : List Char) : Option Switch :=
  switches.find? (·.names.contains (String.ofList name))

end Switch

/-- What words say: the options in order, each under its first name and with its value, and the
arguments. An option that takes no value has the empty one. -/
structure Words where
  given : List (String × String) := []
  arguments : List String := []
deriving Repr, DecidableEq

/-- The options that one word holds, and the name of the last one if its value is still to come. -/
structure Opened where
  given : List (String × String) := []
  awaiting : Option String := none
deriving Repr, DecidableEq

namespace Opened

/-- Reads letters, each an option; one that takes a value has the rest of the word as its value. -/
def ofLetters (switches : List Switch) : List Char → Option Opened
  | [] => some {}
  | c :: rest =>
    match Switch.find? switches ['-', c] with
    | none => none
    | some s =>
      if s.takesValue then
        some (if rest.isEmpty then { awaiting := s.name } else { given := [(s.name, String.ofList rest)] })
      else (ofLetters switches rest).map fun o => { o with given := (s.name, "") :: o.given }

/-- Reads a long name, with its value if it has an equals sign. -/
def ofLongName (switches : List Switch) (word : List Char) : Option Opened :=
  let (name, rest) := word.span (· ≠ '=')
  match Switch.find? switches name, rest with
  | none, _ => none
  | some s, [] => some (if s.takesValue then { awaiting := s.name } else { given := [(s.name, "")] })
  | some s, _ :: value => if s.takesValue then some { given := [(s.name, String.ofList value)] } else none

/-- Reads a word that begins with a dash and goes on; no other word holds options. -/
def ofWord (switches : List Switch) (word : List Char) : Option Opened :=
  match word with
  | '-' :: '-' :: _ => ofLongName switches word
  | _ => ofLetters switches (word.drop 1)

end Opened

namespace Words

def withGiven (given : List (String × String)) (w : Words) : Words := { w with given := given ++ w.given }

def withArgument (word : String) (w : Words) : Words := { w with arguments := word :: w.arguments }

/-- Whether a word is an option and no argument. -/
def isOption : List Char → Bool
  | '-' :: _ :: _ => true
  | _ => false

/-- Reads words; none if an option is unknown, lacks its value or has one that it does not take. With
`leading` only the words before the first argument are read as options. -/
def read (switches : List Switch) (leading : Bool) : List String → Option Words
  | [] => some {}
  | word :: rest =>
    if word = "--" then some { arguments := rest }
    else if isOption word.toList then
      match Opened.ofWord switches word.toList with
      | none => none
      | some ⟨given, none⟩ => (read switches leading rest).map (·.withGiven given)
      | some ⟨given, some name⟩ =>
        match rest with
        | [] => none
        | value :: rest => (read switches leading rest).map (·.withGiven (given ++ [(name, value)]))
    else if leading then some { arguments := word :: rest }
    else (read switches leading rest).map (·.withArgument word)

/-- All values of an option. -/
def values (w : Words) (name : String) : List String := (w.given.filter (·.1 = name)).map (·.2)

/-- The value of an option that is given; of several the last. -/
def value? (w : Words) (name : String) : Option String := (w.values name).getLast?

/-- The value of an option, the default if it is not given; none if it is not admitted. -/
def choice (w : Words) (name default : String) (admitted : List String) : Option String :=
  let value := (w.value? name).getD default
  if admitted.contains value then some value else none

/-- The whole number of an option, the default if it is not given; none if it is no number. -/
def whole (w : Words) (name : String) (default : Int) : Option Int :=
  match w.value? name with
  | some s => Number.whole? s.toList
  | none => some default

/-- Which of two opposite options is given; of several the last. -/
def either (w : Words) (yes no : String) : Option Bool :=
  (w.given.filterMap fun g =>
    if g.1 = yes then some true else if g.1 = no then some false else none).getLast?

end Words

end LadderAtlas.CommandLine
