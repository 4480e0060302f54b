import LadderAtlas.Yaml.Fault

/-! # Tokens of YAML

`Token.scan` splits a text into tokens. Indentation becomes tokens of its own: a block collection has
one where it starts and one where it ends. A key is recognised only by the colon after it, so its token
is put in once that colon is found. Of the styles of scalars the plain and the quoted ones are read;
directives, anchors, tags and block scalars are refused. -/

namespace LadderAtlas.Yaml

inductive Token where
  | scalar (plain : Bool) (text : List Char)
  | blockSequence
  | blockMapping
  | blockEnd
  | flowSequence
  | flowSequenceEnd
  | flowMapping
  | flowMappingEnd
  /-- The dash before an item. -/
  | dash
  | comma
  | key
  | value
  | documentStart
  | documentEnd
  | finish
  /-- The place from which on the text has no tokens. -/
  | broken (f : Fault)
deriving Repr, DecidableEq

/-- Where a line ends. -/
def isBreak (c : Char) : Bool := c.toNat ∈ [0x0A, 0x0D, 0x85, 0x2028, 0x2029]

/-- Whether a character, or the end of the text, ends an indicator. -/
def endsIndicator : Option Char → Bool
  | none => true
  | some c => c = ' ' || c = '\t' || isBreak c

/-- What is left of a text, and where it begins. -/
structure Source where
  rest : List Char
  index : Nat := 0
  line : Nat := 0
  column : Nat := 0

/-- A node that a colon would turn into a key. -/
structure PendingKey where
  /-- The number of tokens before the node. -/
  before : Nat
  /-- Whether the node cannot be anything but a key. -/
  required : Bool
  index : Nat
  line : Nat
  column : Nat

/-- The state between two tokens. -/
structure Scan where
  source : Source
  tokens : Array Token := #[]
  /-- How many flow collections are open. -/
  depth : Nat := 0
  indent : Int := -1
  /-- The indents around the current one. -/
  outer : List Int := []
  keysAllowed : Bool := true
  /-- The pending key of each depth of flow collections. -/
  pending : List (Nat × PendingKey) := []

abbrev Scanner := StateT Scan (Except Fault)

namespace Source

def advance (s : Source) : Source :=
  match s.rest with
  | [] => s
  | c :: rest =>
    if isBreak c && !(c = '\r' && rest.head? = some '\n') then
      { rest, index := s.index + 1, line := s.line + 1, column := 0 }
    else
      { s with rest, index := s.index + 1, column := if c = '\uFEFF' then s.column else s.column + 1 }

def advanceBy : Nat → Source → Source
  | 0, s => s
  | n + 1, s => advanceBy n s.advance

/-- The line break at the start, as text, and what follows it. -/
def lineBreak? (s : Source) : Option (Char × Source) :=
  match s.rest with
  | '\r' :: '\n' :: _ => some ('\n', s.advance.advance)
  | c :: _ =>
    if !isBreak c then none
    else some (if c.toNat = 0x2028 || c.toNat = 0x2029 then c else '\n', s.advance)
  | [] => none

/-- Whether the text begins with a marker between documents. -/
def atMarker (s : Source) : Bool :=
  match s.rest with
  | '-' :: '-' :: '-' :: r | '.' :: '.' :: '.' :: r => endsIndicator r.head?
  | _ => false

end Source

namespace Scanner

def refuse {α : Type} : Scanner α := throw .token

def source : Scanner Source := return (← get).source

def setSource (s : Source) : Scanner Unit := modify fun t => { t with source := s }

def emit (t : Token) : Scanner Unit := modify fun s => { s with tokens := s.tokens.push t }

def allowKeys (b : Bool) : Scanner Unit := modify fun s => { s with keysAllowed := b }

def inFlow : Scanner Bool := return (← get).depth ≠ 0

/-- Closes the block collections that are indented further than a column. -/
def closeBlocks (column : Int) : (open? : List Int) → Scanner Unit
  | [] => return
  | o :: outer => do
    if column < (← get).indent then
      emit .blockEnd
      modify fun s => { s with indent := o, outer }
      closeBlocks column outer

def unwind (column : Int) : Scanner Unit := do
  if !(← inFlow) then closeBlocks column (← get).outer

/-- Opens a block collection at a column if it is indented further than the current one. -/
def indentTo (column : Nat) : Scanner Bool := do
  let s ← get
  if s.indent < column then
    set { s with indent := column, outer := s.indent :: s.outer }
    return true
  return false

/-- Forgets the pending key of the current depth. -/
def dropKey : Scanner Unit := do
  let s ← get
  if let some k := s.pending.lookup s.depth then
    if k.required then refuse
  set { s with pending := s.pending.filter (·.1 ≠ s.depth) }

/-- Notes that what follows may be a key. -/
def saveKey : Scanner Unit := do
  let s ← get
  if s.keysAllowed then
    dropKey
    let key : PendingKey := {
      before := s.tokens.size
      required := s.depth = 0 && s.indent = s.source.column
      index := s.source.index
      line := s.source.line
      column := s.source.column }
    modify fun s => { s with pending := (s.depth, key) :: s.pending }

/-- Forgets the keys that began on another line or too far back. -/
def dropStaleKeys : Scanner Unit := do
  let s ← get
  let isStale (k : PendingKey) : Bool := k.line ≠ s.source.line || 1024 < s.source.index - k.index
  if s.pending.any fun p => p.2.required && isStale p.2 then refuse
  set { s with pending := s.pending.filter fun p => !isStale p.2 }

/-- Passes over blanks, comments and line breaks. -/
def skipBlanks : (fuel : Nat) → Scanner Unit
  | 0 => return
  | fuel + 1 => do
    let s ← source
    match s.rest with
    | ' ' :: _ =>
      setSource s.advance
      skipBlanks fuel
    | '#' :: _ =>
      setSource (s.advanceBy (s.rest.takeWhile (!isBreak ·)).length)
      skipBlanks fuel
    | _ =>
      if let some (_, s) := s.lineBreak? then
        setSource s
        if !(← inFlow) then allowKeys true
        skipBlanks fuel

/-- Emits the token of an indicator of some characters. -/
def indicator (t : Token) (width : Nat) : Scanner Unit := do
  setSource ((← source).advanceBy width)
  emit t

def openFlow (t : Token) : Scanner Unit := do
  saveKey
  modify fun s => { s with depth := s.depth + 1 }
  allowKeys true
  indicator t 1

def closeFlow (t : Token) : Scanner Unit := do
  dropKey
  modify fun s => { s with depth := s.depth - 1 }
  allowKeys false
  indicator t 1

def flowEntry : Scanner Unit := do
  allowKeys true
  dropKey
  indicator .comma 1

def marker (t : Token) : Scanner Unit := do
  unwind (-1)
  dropKey
  allowKeys false
  indicator t 3

def blockEntry : Scanner Unit := do
  if !(← inFlow) then
    if !(← get).keysAllowed then refuse
    if ← indentTo (← source).column then emit .blockSequence
  allowKeys true
  dropKey
  indicator .dash 1

def explicitKey : Scanner Unit := do
  let flow ← inFlow
  if !flow then
    if !(← get).keysAllowed then refuse
    if ← indentTo (← source).column then emit .blockMapping
  allowKeys !flow
  dropKey
  indicator .key 1

/-- A colon. It makes a key of the node before it if that one is pending. -/
def colon : Scanner Unit := do
  let s ← get
  let flow := s.depth ≠ 0
  match s.pending.lookup s.depth with
  | some k =>
    let opens ← if flow then pure false else indentTo k.column
    let added := (if opens then [Token.blockMapping] else []) ++ [.key]
    modify fun s => { s with
      pending := s.pending.filter (·.1 ≠ s.depth)
      tokens := s.tokens.extract 0 k.before ++ added.toArray ++ s.tokens.extract k.before s.tokens.size
      keysAllowed := false }
  | none =>
    if !flow then
      if !s.keysAllowed then refuse
      if ← indentTo s.source.column then emit .blockMapping
    allowKeys !flow
    dropKey
  indicator .value 1

/-- The text that a line break and the breaks after it stand for: a single break is a blank. -/
def folded (first : Char) (more : List Char) : List Char :=
  (if first ≠ '\n' then [first] else if more.isEmpty then [' '] else []) ++ more

/-- The breaks and blanks that follow a line break in a plain scalar; none if a marker stops it. -/
def plainBreaks : (fuel : Nat) → Scanner (Option (List Char))
  | 0 => return some []
  | fuel + 1 => do
    let s ← source
    match s.rest with
    | ' ' :: _ =>
      setSource s.advance
      plainBreaks fuel
    | _ =>
      match s.lineBreak? with
      | none => return some []
      | some (c, s) =>
        setSource s
        if s.atMarker then return none
        return (← plainBreaks fuel).map (c :: ·)

/-- What stands between two words of a plain scalar; empty if nothing more can follow. -/
def plainSpaces : Scanner (List Char) := do
  let s ← source
  let blanks := s.rest.takeWhile (· = ' ')
  let s := s.advanceBy blanks.length
  setSource s
  match s.lineBreak? with
  | none => return blanks
  | some (c, s) =>
    setSource s
    allowKeys true
    if s.atMarker then return []
    match ← plainBreaks (s.rest.length + 1) with
    | none => return []
    | some more => return folded c more

/-- The characters of a plain scalar up to a blank or an indicator. -/
def plainWord (flow : Bool) : List Char → List Char
  | [] => []
  | c :: rest =>
    let stops := endsIndicator (some c) || (flow && c ∈ [',', '?', '[', ']', '\x7b', '\x7d']) ||
      (c = ':' && (endsIndicator rest.head? ||
        (flow && rest.head?.any (· ∈ [',', '[', ']', '\x7b', '\x7d']))))
    if stops then [] else c :: plainWord flow rest

/-- A plain scalar, after the text `between` that follows its last word so far. -/
def plainText : (fuel : Nat) → (between : List Char) → Scanner (List Char)
  | 0, _ => return []
  | fuel + 1, between => do
    let s ← source
    let flow ← inFlow
    if s.rest.head? = some '#' then return []
    let word := plainWord flow s.rest
    if word.isEmpty then return []
    allowKeys false
    setSource (s.advanceBy word.length)
    let spaces ← plainSpaces
    let t ← get
    let more ←
      if spaces.isEmpty || t.source.rest.head? = some '#' || (!flow && t.source.column < t.indent + 1)
      then pure []
      else plainText fuel spaces
    return between ++ word ++ more

def hexValue? (c : Char) : Option Nat :=
  if c.isDigit then some (c.toNat - 48)
  else if 'a' ≤ c && c ≤ 'f' then some (c.toNat - 87)
  else if 'A' ≤ c && c ≤ 'F' then some (c.toNat - 55)
  else none

/-- What an escape of a single letter stands for. -/
def escape? (c : Char) : Option Nat :=
  match c with
  | '0' => some 0
  | 'a' => some 7
  | 'b' => some 8
  | 't' | '\t' => some 9
  | 'n' => some 10
  | 'v' => some 11
  | 'f' => some 12
  | 'r' => some 13
  | 'e' => some 27
  | ' ' | '"' | '\\' | '/' => some c.toNat
  | 'N' => some 0x85
  | '_' => some 0xA0
  | 'L' => some 0x2028
  | 'P' => some 0x2029
  | _ => none

/-- How many hexadecimal digits follow a letter of an escape. -/
def escapeWidth? : Char → Option Nat
  | 'x' => some 2
  | 'u' => some 4
  | 'U' => some 8
  | _ => none

/-- The line breaks of a quoted scalar, blanks around them aside. -/
def quotedBreaks : (fuel : Nat) → Scanner (List Char)
  | 0 => return []
  | fuel + 1 => do
    let s ← source
    if s.atMarker then refuse
    let s := s.advanceBy (s.rest.takeWhile fun c => c = ' ' || c = '\t').length
    setSource s
    match s.lineBreak? with
    | none => return []
    | some (c, s) =>
      setSource s
      return c :: (← quotedBreaks fuel)

/-- A quoted scalar after its opening quote. -/
def quotedText (double : Bool) : (fuel : Nat) → Scanner (List Char)
  | 0 => refuse
  | fuel + 1 => do
    let s ← source
    match s.rest with
    | [] => refuse
    | c :: rest =>
      if c = ' ' || c = '\t' || isBreak c then
        let blanks := s.rest.takeWhile fun c => c = ' ' || c = '\t'
        let s := s.advanceBy blanks.length
        match s.lineBreak? with
        | none =>
          setSource s
          return blanks ++ (← quotedText double fuel)
        | some (b, s) =>
          setSource s
          let more ← quotedBreaks (s.rest.length + 1)
          return folded b more ++ (← quotedText double fuel)
      else if c = '\'' && !double then
        if rest.head? = some '\'' then
          setSource (s.advanceBy 2)
          return c :: (← quotedText double fuel)
        setSource s.advance
        return []
      else if c = '"' && double then
        setSource s.advance
        return []
      else if c = '\\' && double then
        let some d := rest.head? | refuse
        let s := s.advance
        if let some n := escape? d then
          setSource s.advance
          return Char.ofNat n :: (← quotedText double fuel)
        if let some (_, s) := s.lineBreak? then
          setSource s
          let more ← quotedBreaks (s.rest.length + 1)
          return more ++ (← quotedText double fuel)
        let some width := escapeWidth? d | refuse
        let digits := ((rest.drop 1).take width).filterMap hexValue?
        if digits.length ≠ width then refuse
        setSource (s.advanceBy (width + 1))
        return Char.ofNat (digits.foldl (fun n d => 16 * n + d) 0) :: (← quotedText double fuel)
      else
        setSource s.advance
        return c :: (← quotedText double fuel)

/-- A scalar; a colon after it would make it a key. -/
def scalar (plain : Bool) (text : Scanner (List Char)) : Scanner Unit := do
  saveKey
  allowKeys false
  let s ← text
  emit (.scalar plain s)

def quoted (double : Bool) : Scanner Unit := scalar false do
  let s ← source
  setSource s.advance
  quotedText double (s.rest.length + 1)

/-- Whether a plain scalar can begin with a character. -/
def beginsPlain (flow : Bool) (c : Char) (after : Option Char) : Bool :=
  let indicators : List Char :=
    ['-', '?', ':', ',', '[', ']', '\x7b', '\x7d', '#', '&', '*', '!', '|', '>', '\'', '"', '%', '@',
      Char.ofNat 96]
  (!endsIndicator (some c) && !indicators.contains c) ||
    (!endsIndicator after && (c = '-' || (!flow && (c = '?' || c = ':'))))

/-- Reads one token; says whether the text is at its end. -/
def step : Scanner Bool := do
  skipBlanks ((← source).rest.length + 1)
  dropStaleKeys
  let s ← source
  unwind s.column
  let flow ← inFlow
  match s.rest with
  | [] =>
    unwind (-1)
    dropKey
    emit .finish
    return true
  | c :: rest =>
    let after := rest.head?
    if s.column = 0 && s.atMarker then marker (if c = '-' then .documentStart else .documentEnd)
    else match c with
      | '[' => openFlow .flowSequence
      | '\x7b' => openFlow .flowMapping
      | ']' => closeFlow .flowSequenceEnd
      | '\x7d' => closeFlow .flowMappingEnd
      | ',' => flowEntry
      | '*' => throw .composition
      | '!' => throw .construction
      | '\'' => quoted false
      | '"' => quoted true
      | c =>
        if c = '-' && endsIndicator after then blockEntry
        else if c = '?' && (flow || endsIndicator after) then explicitKey
        else if c = ':' && (flow || endsIndicator after) then colon
        else if beginsPlain flow c after then scalar true (plainText (s.rest.length + 1) [])
        else refuse
    return false

/-- All tokens from a state on. -/
def all : (fuel : Nat) → Scan → Array Token
  | 0, s => s.tokens
  | fuel + 1, s =>
    match step.run s with
    | .error f => s.tokens.push (.broken f)
    | .ok (true, s) => s.tokens
    | .ok (false, s) => all fuel s

end Scanner

/-- Whether a character may stand in a document. -/
def isAdmitted (c : Char) : Bool :=
  let n := c.toNat
  n ∈ [0x09, 0x0A, 0x0D, 0x85] || (0x20 ≤ n && n ≤ 0x7E) || (0xA0 ≤ n && n ≠ 0xFFFE && n ≠ 0xFFFF)

/-- The tokens of a text. -/
def Token.scan (text : List Char) : List Token :=
  if !text.all isAdmitted then [.broken .character]
  else
    let start : Source := { rest := text }
    let start := if text.head? = some '\uFEFF' then start.advance else start
    (Scanner.all (text.length + 2) { source := start }).toList

end LadderAtlas.Yaml
