import LadderAtlas.Xml.Scan

/-! # Document types

What the declarations before the root element contribute: the texts of entities, and the types and
default values of attributes. The declarations are read as tokens, and `Place.step` says which token
may follow where. -/

namespace LadderAtlas.Xml

/-- What an entity stands for. -/
inductive Entity where
  | text (chars : List Char)
  | elsewhere
deriving Repr

structure AttributeDeclaration where
  element : List Char
  name : List Char
  /-- Whether runs of spaces in a value count as one. -/
  tokenized : Bool
  default : Option (List Char)
deriving Repr

structure Doctype where
  entities : List (String × Entity) := []
  attributes : List AttributeDeclaration := []
  /-- Whether declarations may stand where they are not read. -/
  incomplete : Bool := false
  standalone : Bool := false
  /-- Whether declarations still count; they do not after a reference to a parameter entity. -/
  listening : Bool := true
deriving Repr

/-- Stands for half a unit at the end of a source; no document has this character. -/
def halfUnit : Char := '\uffff'

namespace Doctype

/-- A reference to an entity that is not declared is an error when all declarations are known. -/
def isClosed (d : Doctype) : Bool := !d.incomplete || d.standalone

/-- The characters of an attribute value, with references replaced and other blanks turned into
spaces. `expand` gives the value of an entity. -/
def valueWith (m : Medium) (expand : String → Option (List Char)) : (bound : Nat) → List Char → Option (List Char)
  | _, [] => some []
  | 0, _ => none
  | bound + 1, '&' :: s =>
    match reference m s with
    | .error _ => none
    | .ok (r, s) => do
      let front ← match r with
        | .code n => (charOfCode? n).map ([·])
        | .entity e => match predefined? e with
          | some c => some [c]
          | none => expand e
      return front ++ (← valueWith m expand bound s)
  | bound + 1, c :: s => do
    if c = '<' || c = halfUnit then none
    else return (if isSpace c then ' ' else c) :: (← valueWith m expand bound s)

/-- The value of a text with entities nested at most `depth` deep. More nesting than there are
entities means that one contains itself. -/
def valueOf (d : Doctype) : (depth : Nat) → (m : Medium) → List Char → Option (List Char)
  | 0, _, _ => none
  | depth + 1, m, s =>
    let expand (e : String) : Option (List Char) :=
      match d.entities.lookup e with
      | some (.text t) => d.valueOf depth .entity t
      | some .elsewhere => none
      | none => if d.isClosed then none else some []
    valueWith m expand (s.length + 1) s

/-- The text with runs of spaces made one, and none at the ends. -/
def collapse (s : List Char) : List Char :=
  let words := (s.splitBy fun a b => a ≠ ' ' && b ≠ ' ').filter fun w => w ≠ [' ']
  (words.intersperse [' ']).flatten

/-- The value of an attribute, from what is written between its quotes. -/
def attributeValue (d : Doctype) (m : Medium) (tokenized : Bool) (s : List Char) : Option (List Char) :=
  (d.valueOf (d.entities.length + 1) m s).map fun v => if tokenized then collapse v else v

/-- The text that an entity declaration gives: code points are replaced, other references kept. -/
def entityText (m : Medium) : (bound : Nat) → List Char → Option (List Char)
  | _, [] => some []
  | 0, _ => none
  | _, '%' :: _ => none
  | bound + 1, '&' :: s =>
    match reference m s with
    | .ok (.code n, s) => do return (← charOfCode? n) :: (← entityText m bound s)
    | .ok (.entity e, s) => do return '&' :: e.toList ++ ';' :: (← entityText m bound s)
    | .error _ => none
  | bound + 1, c :: s => do
    if c = halfUnit then none
    else return c :: (← entityText m bound s)

/-- The first declaration of an entity counts, and the predefined ones stay. -/
def declareEntity (d : Doctype) (name : Option String) (e : Entity) : Doctype :=
  match name with
  | none => d
  | some n =>
    if !d.listening || (predefined? n).isSome || (d.entities.lookup n).isSome then d
    else { d with entities := d.entities ++ [(n, e)] }

/-- The first declaration of an attribute's default counts. -/
def declareAttribute (d : Doctype) (a : AttributeDeclaration) (isId : Bool) : Doctype :=
  let known := d.attributes.any fun b => b.element = a.element && b.name = a.name
  if !d.listening || ((a.default.isSome || isId) && known) then d
  else { d with attributes := d.attributes ++ [a] }

/-- Whether an attribute of an element is tokenized. -/
def isTokenized (d : Doctype) (element name : List Char) : Bool :=
  (d.attributes.find? fun a => a.element = element && a.name = name).any (·.tokenized)

/-- The attributes of an element that have a default and are not among `given`. -/
def defaults (d : Doctype) (element : List Char) (given : List (List Char)) :
    List (List Char × List Char) :=
  d.attributes.filterMap fun a =>
    if a.element = element && !given.contains a.name then a.default.map (a.name, ·) else none

end Doctype

/-! ## Tokens of the prolog -/

/-- One token before the root element or in the declarations. -/
inductive Mark where
  | declaration (word : String)
  | word (s : List Char)
  | prefixed (s : List Char)
  | nameToken (s : List Char)
  /-- A name with a question mark, star or plus after it. -/
  | counted
  | hashWord (s : String)
  | literal (s : List Char)
  | percent
  | parameter
  | openBracket
  | closeBracket
  | openParen
  | closeParen
  | closeParenStar
  | closeParenOther
  | comma
  | bar
  | close
  /-- A comment, a processing instruction or blanks. -/
  | nothing
  /-- The root element begins. -/
  | root
deriving Repr

namespace Mark
variable (m : Medium)

/-- A token at the end of a source to which half a unit belongs. -/
def withHalf : Mark → Mark
  | .word s => .word (s ++ [halfUnit])
  | .prefixed s => .prefixed (s ++ [halfUnit])
  | .nameToken s => .nameToken (s ++ [halfUnit])
  | .hashWord s => .hashWord (s.push halfUnit)
  | .literal s => .literal (s ++ [halfUnit])
  | t => t

/-- A token with which the characters are used up; units that are left would have to be looked at. -/
def last (t : Mark) (otherwise : Stop) : Except Stop (Mark × List Char) :=
  match m.ending with
  | .complete => .ok (t, [])
  | .halfUnit => .ok (t.withHalf, [])
  | _ => .error otherwise

/-- Reads a quoted literal up to the quote `q`. Unless the document ends there, a blank or a mark that
can follow a literal has to be next. -/
def literalEnd (q : Char) (s : List Char) : Except Stop (Mark × List Char) :=
  match s.span (· ≠ q) with
  | (_, []) => .error m.ended
  | (body, _ :: rest) =>
    match rest with
    | [] => last m (.literal (m.text body)) m.stuck
    | c :: _ =>
      if isSpace c || c = '>' || c = '%' || c = '[' then .ok (.literal (m.text body), rest)
      else .error .malformed

/-- What can follow a name. -/
def endsWord (c : Char) : Bool := isSpace c || c ∈ ['>', ')', ',', '|', '[', '%']

/-- Reads a name or a name token. `colons` counts the colons so far that made two names of it. -/
def wordEnd (read : List Char) (make : List Char → Mark) (isName : Bool) (colons : Nat) :
    List Char → Except Stop (Mark × List Char)
  | [] => last m (make read.reverse) m.ended
  | c :: s =>
    if m.encoding.isNameChar c then wordEnd (c :: read) make isName colons s
    else if endsWord c then .ok (make read.reverse, c :: s)
    else if c = ':' then
      if isName && colons = 0 then
        match s with
        | [] => .error m.ended
        | d :: _ =>
          if m.encoding.isNameChar d then wordEnd (c :: read) .prefixed true 1 s
          else wordEnd (c :: read) .nameToken false 1 s
      else wordEnd (c :: read) .nameToken false colons s
    else if c ∈ ['?', '*', '+'] && isName then .ok (.counted, s)
    else .error .malformed

/-- A declaration, from the character after the exclamation mark on. -/
def declarationStart (s : List Char) : Except Stop (Mark × List Char) := do
  match s with
  | [] => throw m.stuck
  | '-' :: s => return (.nothing, ← comment m s)
  | _ =>
    let (letters, rest) := s.span m.encoding.isWordLetter
    if letters.isEmpty then throw .malformed
    let word := Mark.declaration (String.ofList letters)
    match rest with
    | [] => throw m.stuck
    | ['%'] => if m.ending.isWhole then throw .truncated else return (word, rest)
    | '%' :: d :: _ => if isSpace d || d = '%' then throw .malformed else return (word, rest)
    | c :: _ => if isSpace c then return (word, rest) else throw .malformed

/-- A percent sign has been read. -/
def afterPercent : List Char → Except Stop (Mark × List Char)
  | [] => .error m.ended
  | c :: s =>
    if isSpace c || c = '%' then .ok (.percent, c :: s)
    else do
      match ← name m (c :: s) with
      | (_, ';' :: s) => return (.parameter, s)
      | _ => throw .malformed

/-- A number sign has been read. -/
def afterHash : List Char → Except Stop (Mark × List Char)
  | [] => .error m.ended
  | c :: s =>
    if !m.encoding.isNameStart c then .error .malformed
    else match s.span m.encoding.isNameChar with
      | (body, []) => last m (.hashWord (String.ofList (c :: body))) m.ended
      | (body, d :: s) =>
        if isSpace d || d ∈ [')', '>', '%', '|'] then .ok (.hashWord (String.ofList (c :: body)), d :: s)
        else .error .malformed

/-- A closing parenthesis has been read. -/
def afterParen : List Char → Except Stop (Mark × List Char)
  | '*' :: s => .ok (.closeParenStar, s)
  | '?' :: s => .ok (.closeParenOther, s)
  | '+' :: s => .ok (.closeParenOther, s)
  | [] => last m .closeParen m.stuck
  | c :: s =>
    if isSpace c || c ∈ ['>', ',', '|', ')'] then .ok (.closeParen, c :: s) else .error .malformed

/-- A closing bracket has been read; with a second one behind it, it may begin the end of a section. -/
def afterBracket : List Char → Except Stop (Mark × List Char)
  | ']' :: '>' :: _ => .error .malformed
  | [']'] => if m.ending.isWhole then .error .truncated else .ok (.closeBracket, [']'])
  | s => .ok (.closeBracket, s)

/-- A sign that opens a tag has been read and nothing behind it. The first unit of a character that is cut short
shows that it may begin a name. -/
def afterLess : Except Stop (Mark × List Char) :=
  match m.ending with
  | .cutShort _ => .ok (.root, ['<'])
  | _ => .error m.ended

/-- The first token of a prolog. -/
def ofProlog : List Char → Except Stop (Mark × List Char)
  | [] => .error m.ended
  | ['<'] => afterLess m
  | '<' :: '!' :: s => declarationStart m s
  | '<' :: '?' :: s => do return (.nothing, ← instruction m s)
  | '<' :: c :: s =>
    if m.encoding.isNameStart c || 128 ≤ c.toNat then .ok (.root, '<' :: c :: s) else .error .malformed
  | c :: s =>
    if isSpace c then .ok (.nothing, skipSpace s)
    else match c with
      | '"' => literalEnd m '"' s
      | '\'' => literalEnd m '\'' s
      | '%' => afterPercent m s
      | '#' => afterHash m s
      | ',' => .ok (.comma, s)
      | '[' => .ok (.openBracket, s)
      | ']' => afterBracket m s
      | '(' => .ok (.openParen, s)
      | ')' => afterParen m s
      | '|' => .ok (.bar, s)
      | '>' => .ok (.close, s)
      | c =>
        if m.encoding.isNameStart c then wordEnd m [c] .word true 0 s
        else if m.encoding.isNameChar c || c = ':' then wordEnd m [c] .nameToken false 0 s
        else .error .malformed

end Mark

/-! ## Declarations -/

/-- How the members of a group are joined. -/
inductive Joint where
  | open
  | sequence
  | choice
deriving Repr, DecidableEq

/-- Where reading stands between two tokens of the prolog. -/
inductive Place where
  | prolog
  | doctypeName
  | doctypeId
  | doctypePublic
  | doctypeSystem
  | doctypeOpen
  | subset
  | subsetEnd
  | afterDoctype
  | entityName
  | parameterName
  | entityValue (name : Option String)
  | entityPublic (name : Option String)
  | entitySystem (name : Option String)
  | entityExternal (name : Option String)
  | entityFormat (name : Option String)
  | notationName
  | notationId
  | notationPublic
  | notationSystem
  | notationEnd
  | attlistElement
  | attlistName (element : List Char)
  | attlistType (element name : List Char)
  | enumeration (element name : List Char)
  | enumerationNext (element name : List Char)
  | notationOpen (element name : List Char)
  | notationItem (element name : List Char)
  | notationNext (element name : List Char)
  | attlistDefault (element name : List Char) (tokenized isId : Bool)
  | fixedDefault (element name : List Char) (tokenized : Bool)
  | elementName
  | elementContent
  | groupFirst
  | mixedNext
  | mixedName
  | mixedMore
  | groupItem (groups : List Joint)
  | groupNext (groups : List Joint)
  | declarationEnd
deriving Repr

namespace Place
variable (m : Medium)

/-- What may stand in a public identifier. -/
def isPublicId (s : List Char) : Bool :=
  s.all fun c => c.isAlphanum || c = halfUnit || c ∈ " \n\r-_.'()+,/:=?;!*#@$%".toList

/-- The declared attribute types and whether their values are identifiers; all but the first of them
are tokenized. -/
def attributeTypes : List String :=
  ["CDATA", "ID", "IDREF", "IDREFS", "ENTITY", "ENTITIES", "NMTOKEN", "NMTOKENS"]

/-- A name, with or without a colon. -/
def anyName? : Mark → Option (List Char)
  | .word s => some s
  | .prefixed s => some s
  | _ => none

def word? : Mark → Option String
  | .word s => some (String.ofList s)
  | _ => none

/-- Declares the default of an attribute from its literal. -/
def withDefault (d : Doctype) (element name : List Char) (tokenized isId : Bool) (literal : List Char) :
    Option Doctype :=
  if d.listening then
    (d.attributeValue m tokenized literal).map fun v =>
      d.declareAttribute ⟨element, name, tokenized, some v⟩ isId
  else some d

/-- A member of a group has ended. -/
def closeGroup : List Joint → Place
  | [] => .declarationEnd
  | [_] => .declarationEnd
  | _ :: groups => .groupNext groups

/-- The place after a token and the declarations so far; none if the token may not stand there. -/
def step (d : Doctype) (place : Place) (t : Mark) : Option (Place × Doctype) :=
  match place, t with
  | .prolog, .declaration "DOCTYPE" => some (.doctypeName, d)
  | .doctypeName, t => (anyName? t).map fun _ => (.doctypeId, d)
  | .doctypeId, .openBracket => some (.subset, d)
  | .doctypeId, .close => some (.afterDoctype, d)
  | .doctypeId, t =>
    match word? t with
    | some "SYSTEM" => some (.doctypeSystem, d)
    | some "PUBLIC" => some (.doctypePublic, d)
    | _ => none
  | .doctypePublic, .literal s => if isPublicId s then some (.doctypeSystem, d) else none
  | .doctypeSystem, .literal _ => some (.doctypeOpen, { d with incomplete := true })
  | .doctypeOpen, .openBracket => some (.subset, d)
  | .doctypeOpen, .close => some (.afterDoctype, d)
  | .subset, .declaration "ENTITY" => some (.entityName, d)
  | .subset, .declaration "ATTLIST" => some (.attlistElement, d)
  | .subset, .declaration "ELEMENT" => some (.elementName, d)
  | .subset, .declaration "NOTATION" => some (.notationName, d)
  | .subset, .parameter => some (.subset, { d with incomplete := true, listening := d.standalone })
  | .subset, .closeBracket => some (.subsetEnd, d)
  | .subsetEnd, .close => some (.afterDoctype, d)
  | .entityName, .percent => some (.parameterName, d)
  | .entityName, t => (word? t).map fun n => (.entityValue (some n), d)
  | .parameterName, t => (word? t).map fun _ => (.entityValue none, d)
  | .entityValue n, .literal s =>
    if d.listening then
      (Doctype.entityText m (s.length + 1) s).map fun text => (.declarationEnd, d.declareEntity n (.text text))
    else some (.declarationEnd, d)
  | .entityValue n, t =>
    match word? t with
    | some "SYSTEM" => some (.entitySystem n, d)
    | some "PUBLIC" => some (.entityPublic n, d)
    | _ => none
  | .entityPublic n, .literal s => if isPublicId s then some (.entitySystem n, d) else none
  | .entitySystem n, .literal _ => some (.entityExternal n, d.declareEntity n .elsewhere)
  | .entityExternal _, .close => some (.subset, d)
  | .entityExternal n, t =>
    if n.isSome && word? t = some "NDATA" then some (.entityFormat n, d) else none
  | .entityFormat _, t => (word? t).map fun _ => (.declarationEnd, d)
  | .notationName, t => (word? t).map fun _ => (.notationId, d)
  | .notationId, t =>
    match word? t with
    | some "SYSTEM" => some (.notationSystem, d)
    | some "PUBLIC" => some (.notationPublic, d)
    | _ => none
  | .notationPublic, .literal s => if isPublicId s then some (.notationEnd, d) else none
  | .notationSystem, .literal _ => some (.declarationEnd, d)
  | .notationEnd, .literal _ => some (.declarationEnd, d)
  | .notationEnd, .close => some (.subset, d)
  | .attlistElement, t => (anyName? t).map fun e => (.attlistName e, d)
  | .attlistName _, .close => some (.subset, d)
  | .attlistName e, t => (anyName? t).map fun a => (.attlistType e a, d)
  | .attlistType e a, .openParen => some (.enumeration e a, d)
  | .attlistType e a, t =>
    match word? t with
    | none => none
    | some "NOTATION" => some (.notationOpen e a, d)
    | some w =>
      if attributeTypes.contains w then some (.attlistDefault e a (w ≠ "CDATA") (w = "ID"), d) else none
  | .enumeration e a, .nameToken _ => some (.enumerationNext e a, d)
  | .enumeration e a, t => (anyName? t).map fun _ => (.enumerationNext e a, d)
  | .enumerationNext e a, .closeParen => some (.attlistDefault e a true false, d)
  | .enumerationNext e a, .bar => some (.enumeration e a, d)
  | .notationOpen e a, .openParen => some (.notationItem e a, d)
  | .notationItem e a, t => (word? t).map fun _ => (.notationNext e a, d)
  | .notationNext e a, .closeParen => some (.attlistDefault e a true false, d)
  | .notationNext e a, .bar => some (.notationItem e a, d)
  | .attlistDefault e a tokenized isId, .hashWord w =>
    match w with
    | "IMPLIED" | "REQUIRED" => some (.attlistName e, d.declareAttribute ⟨e, a, tokenized, none⟩ isId)
    | "FIXED" => some (.fixedDefault e a tokenized, d)
    | _ => none
  | .attlistDefault e a tokenized isId, .literal s =>
    (withDefault m d e a tokenized isId s).map (.attlistName e, ·)
  | .fixedDefault e a tokenized, .literal s => (withDefault m d e a tokenized false s).map (.attlistName e, ·)
  | .elementName, t => (anyName? t).map fun _ => (.elementContent, d)
  | .elementContent, .openParen => some (.groupFirst, d)
  | .elementContent, t =>
    match word? t with
    | some "EMPTY" | some "ANY" => some (.declarationEnd, d)
    | _ => none
  | .groupFirst, .hashWord "PCDATA" => some (.mixedNext, d)
  | .groupFirst, .openParen => some (.groupItem [.open, .open], d)
  | .groupFirst, .counted => some (.groupNext [.open], d)
  | .groupFirst, t => (anyName? t).map fun _ => (.groupNext [.open], d)
  | .mixedNext, .closeParen => some (.declarationEnd, d)
  | .mixedNext, .closeParenStar => some (.declarationEnd, d)
  | .mixedNext, .bar => some (.mixedName, d)
  | .mixedName, t => (anyName? t).map fun _ => (.mixedMore, d)
  | .mixedMore, .closeParenStar => some (.declarationEnd, d)
  | .mixedMore, .bar => some (.mixedName, d)
  | .groupItem groups, .openParen => some (.groupItem (.open :: groups), d)
  | .groupItem groups, .counted => some (.groupNext groups, d)
  | .groupItem groups, t => (anyName? t).map fun _ => (.groupNext groups, d)
  | .groupNext groups, .closeParen => some (closeGroup groups, d)
  | .groupNext groups, .closeParenStar => some (closeGroup groups, d)
  | .groupNext groups, .closeParenOther => some (closeGroup groups, d)
  | .groupNext (j :: groups), .comma =>
    if j = .choice then none else some (.groupItem (.sequence :: groups), d)
  | .groupNext (j :: groups), .bar =>
    if j = .sequence then none else some (.groupItem (.choice :: groups), d)
  | .declarationEnd, .close => some (.subset, d)
  | _, _ => none

/-- Whether comments and processing instructions may stand here. -/
def admitsRemarks : Place → Bool
  | .prolog | .subset | .afterDoctype => true
  | _ => false

end Place

namespace Doctype

/-- Reads the prolog up to the root element. -/
def ofProlog (m : Medium) : (bound : Nat) → Place → Doctype → List Char → Except Stop (Doctype × List Char)
  | 0, _, _, _ => .error m.ended
  | bound + 1, place, d, s => do
    let (t, rest) ← Mark.ofProlog m s
    match t with
    | .nothing =>
      if place.admitsRemarks || s.head?.any isSpace then ofProlog m bound place d rest
      else throw .malformed
    | .root =>
      match place with
      | .prolog | .afterDoctype => return (d, rest)
      | _ => throw .malformed
    | t =>
      match place.step m d t with
      | some (place, d) => ofProlog m bound place d rest
      | none => throw .malformed

end Doctype

end LadderAtlas.Xml
