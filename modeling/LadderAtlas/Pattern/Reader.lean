import LadderAtlas.Number.Whole
import LadderAtlas.Pattern
import LadderAtlas.Text.CharacterName
import LadderAtlas.Text.Identifier

/-! # Reading patterns

`Pattern.ofText` reads the text of a regular expression. Options stand in parentheses, at the
beginning for the whole pattern or around a part of it; groups have numbers and may have names; what
is looked for behind a place must have a fixed length. -/

namespace LadderAtlas.Pattern
open Text

variable [CharacterNames]

/-- Why a text is no pattern. -/
inductive Fault where
  | malformed
  /-- A number of repetitions beyond all bounds. -/
  | tooManyRepetitions
  /-- A number of repetitions with more digits than a numeral may have. -/
  | tooManyDigits
  /-- Options for the whole pattern that exclude each other. -/
  | conflictingOptions
deriving Repr, DecidableEq

inductive PatternOption where
  | ignoreCase
  | multiline
  | dotAll
  | verbose
  | ascii
  | unicode
  | template
deriving Repr, DecidableEq

abbrev Options := List PatternOption

namespace PatternOption

def ofChar? : Char → Option PatternOption
  | 'i' => some .ignoreCase
  | 'm' => some .multiline
  | 's' => some .dotAll
  | 'x' => some .verbose
  | 'a' => some .ascii
  | 'u' => some .unicode
  | 't' => some .template
  | _ => none

/-- Whether an option chooses an alphabet. -/
def isAlphabet : PatternOption → Bool
  | .ascii | .unicode => true
  | _ => false

end PatternOption

namespace Options

def folding (o : Options) : Folding :=
  if !o.contains .ignoreCase then .exact else if o.contains .ascii then .ascii else .full

/-- The options inside parentheses that turn some on and others off. -/
def change (o on off : Options) : Options :=
  let kept := if on.any (·.isAlphabet) then o.filter (!·.isAlphabet) else o
  (kept ++ on).filter (!off.contains ·)

end Options

/-- A character, or one after a backslash. A backslash at the end dangles. -/
inductive Token where
  | plain (c : Char)
  | escaped (c : Char)
  | dangling
deriving DecidableEq

namespace Token

def scan : List Char → List Token
  | [] => []
  | ['\\'] => [.dangling]
  | '\\' :: c :: s => .escaped c :: scan s
  | c :: s => .plain c :: scan s

def digit? : Token → Option Char
  | .plain c => if c.isDigit then some c else none
  | _ => none

def isOctal : Token → Bool
  | .plain c => '0' ≤ c && c ≤ '7'
  | _ => false

/-- The value of a hexadecimal digit. -/
def hex? : Token → Option Nat
  | .plain c =>
    if c.isDigit then some (c.toNat - 48)
    else if 'a' ≤ c && c ≤ 'f' then some (c.toNat - 87)
    else if 'A' ≤ c && c ≤ 'F' then some (c.toNat - 55)
    else none
  | _ => none

/-- The tokens before the first plain `stop`, and those after it. -/
def splitAt? (stop : Char) : List Token → Option (List Token × List Token)
  | [] => none
  | t :: l => if t = .plain stop then some ([], l) else (splitAt? stop l).map fun (a, b) => (t :: a, b)

/-- The text of tokens. -/
def chars : List Token → List Char
  | [] => []
  | .plain c :: l => c :: chars l
  | .escaped c :: l => '\\' :: c :: chars l
  | .dangling :: l => '\\' :: chars l

end Token

/-- What has been read of a pattern so far. -/
structure Progress where
  rest : List Token
  /-- The options of the whole pattern. -/
  options : Options
  /-- The lengths of the groups, those of open groups missing. -/
  groups : List (Option (Nat × Nat)) := []
  names : List (String × Nat) := []
  /-- The number of the first group that is opened while looking behind. -/
  behindFrom : Option Nat := none
  /-- The groups on which a choice depends. -/
  conditions : List Nat := []

abbrev Parser := StateT Progress (Except Fault)

namespace Parser

def malformed {α : Type} : Parser α := throw .malformed

def setRest (l : List Token) : Parser Unit := do
  if l.head? = some .dangling then malformed
  modify fun p => { p with rest := l }

def peek : Parser (Option Token) := return (← get).rest.head?

def next : Parser (Option Token) := do
  match (← get).rest with
  | [] => return none
  | t :: l =>
    setRest l
    return some t

/-- Passes over a character if it comes next. -/
def accept (c : Char) : Parser Bool := do
  if (← peek) = some (.plain c) then
    let _ ← next
    return true
  return false

def expect (c : Char) : Parser Unit := do
  if !(← accept c) then malformed

/-- The text before the next `stop`, which is passed over. -/
def textBefore (stop : Char) : Parser (List Char) := do
  match Token.splitAt? stop (← get).rest with
  | none => malformed
  | some (a, l) =>
    setRest l
    return Token.chars a

/-- The digits that come next. -/
def digits : Parser (List Char) := do
  let l := (← get).rest
  setRest (l.dropWhile (·.digit?.isSome))
  return (l.takeWhile (·.digit?.isSome)).filterMap Token.digit?

/-- The value of exactly `n` hexadecimal digits. -/
def hexCode : (n : Nat) → (value : Nat) → Parser Nat
  | 0, value => return value
  | n + 1, value => do
    match (← peek).bind Token.hex? with
    | some d =>
      let _ ← next
      hexCode n (16 * value + d)
    | none => malformed

/-- The value of at most `n` more octal digits. -/
def octalCode : (n : Nat) → (value : Nat) → Parser Nat
  | 0, value => return value
  | n + 1, value => do
    match ← peek with
    | some (.plain c) =>
      if (Token.plain c).isOctal then
        let _ ← next
        octalCode n (8 * value + (c.toNat - 48))
      else return value
    | _ => return value

def groupCount : Parser Nat := return (← get).groups.length

/-- The lengths of a group that is complete. -/
def groupLengths? (n : Nat) : Parser (Option (Nat × Nat)) := do
  if n = 0 then return none
  return (← get).groups[n - 1]?.join

/-- Refuses a group that is not complete, or was opened while looking behind. -/
def checkBehind (n : Nat) : Parser Unit := do
  if let some first := (← get).behindFrom then
    if (← groupLengths? n).isNone || first ≤ n then malformed

/-- A reference to a group. -/
def reference (options : Options) (n : Nat) : Parser Pattern := do
  match ← groupLengths? n with
  | none => malformed
  | some (shortest, longest) =>
    checkBehind n
    return .again n options.folding shortest longest

/-- Control characters that have an escape of their own. -/
def controlCode? : Char → Option Nat
  | 'a' => some 7
  | 'f' => some 12
  | 'n' => some 10
  | 'r' => some 13
  | 't' => some 9
  | 'v' => some 11
  | '\\' => some 92
  | _ => none

/-- The class that an escape names. -/
def named? (options : Options) (c : Char) : Option SetItem :=
  let onlyAscii := options.contains .ascii
  match c with
  | 'd' => some (.named .digit onlyAscii false)
  | 'D' => some (.named .digit onlyAscii true)
  | 's' => some (.named .blank onlyAscii false)
  | 'S' => some (.named .blank onlyAscii true)
  | 'w' => some (.named .word onlyAscii false)
  | 'W' => some (.named .word onlyAscii true)
  | _ => none

/-- The code of a character whose name stands in braces. -/
def namedCode : Parser Nat := do
  expect '\x7b'
  let s ← textBefore '\x7d'
  if s.isEmpty then malformed
  match CharacterNames.character? (String.ofList s) with
  | some c => return c.toNat
  | none => malformed

/-- The code of an escape that is written with hexadecimal digits or a name, or stands for itself. -/
def otherCode (c : Char) : Parser Nat := do
  match c with
  | 'N' => namedCode
  | 'x' => hexCode 2 0
  | 'u' => hexCode 4 0
  | 'U' =>
    let n ← hexCode 8 0
    if 0x10FFFF < n then malformed
    return n
  | c => if c.isAlphanum then malformed else return c.toNat

/-- An escape in a set. -/
def setEscape (options : Options) (c : Char) : Parser SetItem := do
  if let some k := named? options c then return k
  if let some n := controlCode? c then return .range n n
  if c = 'b' then return .range 8 8
  let n ← if '0' ≤ c && c ≤ '7' then octalCode 2 (c.toNat - 48) else otherCode c
  if '0' ≤ c && c ≤ '7' && 0o377 < n then malformed
  return .range n n

def setItem (options : Options) : Token → Parser SetItem
  | .plain c => return .range c.toNat c.toNat
  | .escaped c => setEscape options c
  | .dangling => malformed

/-- The items of a set up to its bracket; a bracket that comes first is an item. -/
def setItems (options : Options) : (fuel : Nat) → List SetItem → Parser (List SetItem)
  | 0, _ => malformed
  | fuel + 1, found => do
    let some t ← next | malformed
    if t = .plain ']' && !found.isEmpty then return found
    let item ← setItem options t
    if !(← accept '-') then return ← setItems options fuel (found ++ [item])
    let some u ← next | malformed
    if u = .plain ']' then return found ++ [item, .range 45 45]
    match item, ← setItem options u with
    | .range a _, .range b _ =>
      if b < a then malformed
      setItems options fuel (found ++ [.range a b])
    | _, _ => malformed

/-- A set, after its opening bracket. -/
def charSet (options : Options) : Parser CharSet := do
  let negated ← accept '^'
  let items ← setItems options ((← get).rest.length + 1) []
  return { items, negated, folding := options.folding }

/-- A part of a sequence. Anchors and repetitions cannot be repeated as they stand. -/
structure Part where
  pattern : Pattern
  isRepeatable : Bool := true

/-- A single character given by its code. -/
def literal (options : Options) (n : Nat) : Part :=
  { pattern := .one { items := [.range n n], folding := options.folding } }

/-- A number after a backslash: three octal digits are a code, anything else is a group. -/
def numbered (options : Options) (c : Char) : Parser Part := do
  match ← peek with
  | some (.plain d) =>
    if d.isDigit then
      let _ ← next
      if (Token.plain c).isOctal && (Token.plain d).isOctal && ((← peek).any Token.isOctal) then
        let n ← octalCode 1 (8 * (c.toNat - 48) + (d.toNat - 48))
        if 0o377 < n then malformed
        return literal options n
      return { pattern := ← reference options (10 * (c.toNat - 48) + (d.toNat - 48)) }
  | _ => pure ()
  return { pattern := ← reference options (c.toNat - 48) }

/-- An escape outside sets. -/
def escape (options : Options) (c : Char) : Parser Part := do
  let edge (negated : Bool) : Part := ⟨.anchor (.wordEdge (options.contains .ascii) negated), false⟩
  if let some k := named? options c then return { pattern := .one { items := [k] } }
  if let some n := controlCode? c then return literal options n
  match c with
  | 'A' => return ⟨.anchor .textStart, false⟩
  | 'Z' => return ⟨.anchor .textEnd, false⟩
  | 'b' => return edge false
  | 'B' => return edge true
  | '0' => return literal options (← octalCode 2 0)
  | c => if c.isDigit then numbered options c else return literal options (← otherCode c)

/-- The numbers of repetitions are below it. -/
def repetitionLimit : Nat := Nat.pow 2 32 - 1

/-- The number that decimal digits state. -/
def statedNumber (ds : List Char) : Nat := Number.ofDigits (ds.map fun d => d.toNat - 48)

/-- The number of repetitions that digits state. -/
def repetitions (ds : List Char) : Parser Nat := do
  if Number.digitLimit < ds.length then throw .tooManyDigits
  if repetitionLimit ≤ statedNumber ds then throw .tooManyRepetitions
  return statedNumber ds

/-- The bounds that digits set, up to the closing brace; without one it is no repetition, and reading goes on from the
place `before` the digits. -/
def boundsOf (before : List Token) (least most : List Char) : Parser (Option (Nat × Option Nat)) := do
  if !(← accept '\x7d') then
    setRest before
    return none
  let first ← repetitions least
  if most.isEmpty then return some (first, none)
  let last ← repetitions most
  if last < first then malformed
  return some (first, some last)

/-- The bounds of a repetition in braces, after the opening brace; none if it is no repetition. -/
def bounds : Parser (Option (Nat × Option Nat)) := do
  let before := (← get).rest
  if before.head? = some (.plain '\x7d') then return none
  let least ← digits
  if ← accept ',' then boundsOf before least (← digits) else boundsOf before least least

/-- The bounds that a repetition sign sets. -/
def repetition? (c : Char) : Parser (Option (Nat × Option Nat)) := do
  match c with
  | '?' => return some (0, some 1)
  | '*' => return some (0, none)
  | '+' => return some (1, none)
  | '\x7b' => bounds
  | _ => return none

/-- Which repetitions a suffix asks for. -/
def greed : Parser Greed := do
  if ← accept '?' then return .fewest
  if ← accept '+' then return .mostOnly
  return .most

/-- Repeats the last of the parts, which are given from the end. -/
def repeatLast (least : Nat) (most : Option Nat) : List Part → Parser (List Part)
  | [] => malformed
  | p :: parts => do
    if !p.isRepeatable then malformed
    return ⟨.times least most (← greed) p.pattern, false⟩ :: parts

/-- What an opening parenthesis begins. -/
inductive Opening where
  | capture (name : Option String)
  | scoped (on off : Options)
  | whole (options : Options)
  | atomic
  | look (behind negated : Bool)
  | comment
  | named (n : Nat)
  | condition (n : Nat)

/-- A name up to its closing character. -/
def name (stop : Char) : Parser String := do
  let s ← textBefore stop
  if !isIdentifier s then malformed
  return String.ofList s

def namedGroup (s : String) : Parser Nat := do
  match (← get).names.lookup s with
  | some n => return n
  | none => malformed

/-- The group on which a choice depends. -/
def condition : Parser Nat := do
  let s ← textBefore ')'
  let n ← if isIdentifier s then namedGroup (String.ofList s)
    else match Number.whole? s with
      | some (.ofNat (n + 1)) =>
        modify fun p => { p with conditions := (n + 1) :: p.conditions }
        pure (n + 1)
      | _ => malformed
  checkBehind n
  return n

/-- Options that are turned on, from the first letter on, and the character after them. -/
def optionsOn : (fuel : Nat) → Char → Options → Parser (Options × Char)
  | 0, _, _ => malformed
  | fuel + 1, c, on => do
    let some o := PatternOption.ofChar? c | malformed
    let on := o :: on
    if on.contains .ascii && on.contains .unicode then malformed
    match ← next with
    | some (.plain d) => if d ∈ [')', '-', ':'] then return (on, d) else optionsOn fuel d on
    | _ => malformed

/-- Options that are turned off, up to the colon. -/
def optionsOff : (fuel : Nat) → Options → Parser Options
  | 0, _ => malformed
  | fuel + 1, off => do
    match ← next with
    | some (.plain c) =>
      if c = ':' && !off.isEmpty then return off
      let some o := PatternOption.ofChar? c | malformed
      if o.isAlphabet then malformed
      optionsOff fuel (o :: off)
    | _ => malformed

/-- What options in parentheses begin, given those that are turned on and the character after them. -/
def optionScope (fuel : Nat) (on : Options) (stop : Char) : Parser Opening := do
  if stop = ')' then return .whole on
  if on.contains .template then malformed
  let off ← if stop = '-' then optionsOff fuel [] else pure []
  if off.contains .template || on.any off.contains then malformed
  return .scoped on off

/-- Options in parentheses, from the first character on. -/
def optionChange (c : Char) : Parser Opening := do
  let fuel := (← get).rest.length + 1
  if c = '-' then return ← optionScope fuel [] c
  let (on, stop) ← optionsOn fuel c []
  optionScope fuel on stop

/-- What follows an opening parenthesis. -/
def opening : Parser Opening := do
  if !(← accept '?') then return .capture none
  let some (.plain c) ← next | malformed
  match c with
  | 'P' =>
    if ← accept '<' then return .capture (some (← name '>'))
    if ← accept '=' then return .named (← namedGroup (← name ')'))
    malformed
  | ':' => return .scoped [] []
  | '#' =>
    let _ ← textBefore ')'
    return .comment
  | '=' => return .look false false
  | '!' => return .look false true
  | '<' =>
    if ← accept '=' then return .look true false
    if ← accept '!' then return .look true true
    malformed
  | '(' => return .condition (← condition)
  | '>' => return .atomic
  | c => optionChange c

/-- Opens the next group. -/
def openGroup (name : Option String) : Parser Nat := do
  let n := (← groupCount) + 1
  if let some s := name then
    if ((← get).names.lookup s).isSome then malformed
    modify fun p => { p with names := (s, n) :: p.names }
  modify fun p => { p with groups := p.groups ++ [none] }
  return n

def closeGroup (n : Nat) (body : Pattern) : Parser Unit :=
  modify fun p => { p with groups := p.groups.set (n - 1) (some body.lengths) }

/-- Notes from where on groups are opened while looking behind, if they are. -/
def enterBehind (behind : Bool) : Parser Unit := do
  if behind && (← get).behindFrom.isNone then
    let n := (← groupCount) + 1
    modify fun p => { p with behindFrom := some n }

/-- The sequence of parts, which are given from the end. -/
def joined (parts : List Part) : Pattern :=
  match parts.reverse.map (·.pattern) with
  | [] => .empty
  | p :: l => l.foldl .seq p

/-- Whether a token is passed over where blanks and comments are allowed. -/
def isSkipped : Token → Bool
  | .plain c => CharClass.blank.hasAscii c
  | _ => false

/-- Passes over a comment to the end of its line. -/
def lineComment : Parser Unit := do
  match Token.splitAt? '\n' (← get).rest with
  | some (_, l) => setRest l
  | none =>
    if (← get).rest.contains .dangling then malformed
    setRest []

mutual

/-- Alternatives up to a closing parenthesis or the end. Those of the `outer` pattern follow its own
options, which may stand at its `start`. -/
def alternatives : (fuel : Nat) → (options : Options) → (outer start : Bool) → Parser Pattern
  | 0, _, _, _ => malformed
  | fuel + 1, options, outer, start => do
    let p ← sequence fuel options start []
    if !(← accept '|') then return p
    let whole := (← get).options
    let options := if outer then whole else options
    return .alt p (← alternatives fuel options outer false)

/-- A sequence up to the end of the alternative; `parts` come before it, given from the end. -/
def sequence : (fuel : Nat) → (options : Options) → (start : Bool) → (parts : List Part) → Parser Pattern
  | 0, _, _, _ => malformed
  | fuel + 1, options, start, parts => do
    let some t ← peek | return joined parts
    if t = .plain '|' || t = .plain ')' then return joined parts
    let _ ← next
    let more (p : Part) : Parser Pattern := sequence fuel options start (p :: parts)
    if options.contains .verbose && isSkipped t then return ← sequence fuel options start parts
    if options.contains .verbose && t = .plain '#' then
      lineComment
      return ← sequence fuel options start parts
    match t with
    | .dangling => malformed
    | .escaped c => more (← escape options c)
    | .plain '.' => more { pattern := .one (.any (options.contains .dotAll)) }
    | .plain '^' =>
      more ⟨.anchor (if options.contains .multiline then .lineStart else .textStart), false⟩
    | .plain '$' =>
      more ⟨.anchor (if options.contains .multiline then .lineEnd else .lastLineEnd), false⟩
    | .plain '[' => more { pattern := .one (← charSet options) }
    | .plain '(' =>
      match ← opening with
      | .comment => sequence fuel options start parts
      | .named n => more { pattern := ← reference options n }
      | .whole changed =>
        if !start || !parts.isEmpty then malformed
        modify fun p => { p with options := p.options ++ changed }
        sequence fuel (options ++ changed) start parts
      | .capture name =>
        let n ← openGroup name
        let body ← alternatives fuel options false false
        expect ')'
        closeGroup n body
        more { pattern := .group n body }
      | .scoped on off =>
        let body ← alternatives fuel (options.change on off) false false
        expect ')'
        more { pattern := body }
      | .atomic =>
        let body ← alternatives fuel options false false
        expect ')'
        more { pattern := .atomic body }
      | .look behind negated =>
        let before := (← get).behindFrom
        enterBehind behind
        let body ← alternatives fuel options false false
        modify fun p => { p with behindFrom := before }
        expect ')'
        more { pattern := .look behind negated body }
      | .condition n =>
        let yes ← sequence fuel options false []
        let no ← if ← accept '|' then sequence fuel options false [] else pure .empty
        expect ')'
        more { pattern := .ifGroup n yes no }
    | .plain c =>
      match ← repetition? c with
      | some (least, most) => sequence fuel options start (← repeatLast least most parts)
      | none => more (literal options c.toNat)

end

end Parser

/-- The pattern that has been read, once all is known that it depends on. -/
def accepted (p : Pattern) (after : Progress) : Except Fault Pattern := do
  if after.options.contains .ascii && after.options.contains .unicode then throw .conflictingOptions
  if !after.rest.isEmpty then throw .malformed
  if after.conditions.any (after.groups.length < ·) then throw .malformed
  if !p.looksBehindFixed then throw .malformed
  if after.options.contains .template && p.hasRepetition then throw .malformed
  return p.keepGroups p.groupsUsed

/-- Reads a pattern under given options. -/
def ofText (options : Options) (text : String) : Except Fault Pattern := do
  let tokens := Token.scan text.toList
  if tokens.head? = some .dangling then throw .malformed
  let fuel := 2 * tokens.length + 2
  let (p, after) ← (Parser.alternatives fuel options true true).run { rest := tokens, options }
  accepted p after

end LadderAtlas.Pattern
