import LadderAtlas.Ladder.TagPath
import LadderAtlas.Number.Whole
import LadderAtlas.Text.Case
import LadderAtlas.Text.WordChar

/-! # Expressions

Which tags an operand mentions. In an expression, quoted texts and numerals with a radix are blanked
out first; what then looks like a tag path and is no word of the expression language is a tag.
`indexTags` looks for tags in the indices of a path. -/

namespace LadderAtlas.Ladder
open Text

/-! ## Literals -/

/-- The text after the decimal digits at its start, of which there has to be one. -/
def afterDigits? (s : List Char) : Option (List Char) :=
  match s with
  | [] => none
  | c :: _ => if isDecimal c then some (s.dropWhile isDecimal) else none

def dropSign : List Char → List Char
  | '+' :: s => s
  | '-' :: s => s
  | s => s

/-- The text after the digits and the point of a numeral. -/
def afterMantissa? (s : List Char) : Option (List Char) :=
  match s with
  | '.' :: t => afterDigits? t
  | s =>
    match afterDigits? s with
    | some ('.' :: t) => some (t.dropWhile isDecimal)
    | r => r

/-- Whether a text is an exponent or empty. -/
def isExponent : List Char → Bool
  | [] => true
  | c :: s => (c = 'e' || c = 'E') && afterDigits? (dropSign s) = some []

def isNumber (s : List Char) : Bool := (afterMantissa? (dropSign s)).any isExponent

/-- Hexadecimal digits and underscores. -/
def isRadixDigit (c : Char) : Bool :=
  c.isDigit || ('a' ≤ c && c ≤ 'f') || ('A' ≤ c && c ≤ 'F') || c = '_'

/-- Whether a text is a numeral with a radix, such as `16#FF`. -/
def isRadixNumber (s : List Char) : Bool :=
  match afterDigits? (dropSign s) with
  | some ('#' :: t) => !t.isEmpty && t.all isRadixDigit
  | _ => false

/-- Whether a text stands for a value that is not given. -/
def isPlaceholder (s : List Char) : Bool := !s.isEmpty && s.all (· = '?')

/-- Whether a text begins and ends with the same quote. -/
def isQuoted : List Char → Bool
  | c :: d :: s => (c = '\'' || c = '"') && (d :: s).getLast? = some c
  | _ => false

def isPlainLiteral (s : List Char) : Bool :=
  isNumber s || isRadixNumber s || isPlaceholder s || isQuoted s

/-- Whether an operand is a literal. A line feed at its end does not matter. -/
def isLiteral (s : List Char) : Bool :=
  isPlainLiteral s || (s.getLast? = some '\n' && isPlainLiteral s.dropLast)

/-! ## Tags in expressions -/

/-- What follows the quote that ends a quoted text. -/
def afterQuote? (q : Char) : List Char → Option (List Char)
  | [] => none
  | c :: s => if c = q then some s else afterQuote? q s

theorem afterQuote?_length {q : Char} {s r : List Char} (h : afterQuote? q s = some r) :
    r.length < s.length := by
  induction s with
  | nil => simp [afterQuote?] at h
  | cons c s ih =>
    simp only [afterQuote?] at h
    split at h
    · obtain rfl := Option.some.inj h
      exact Nat.lt_succ_self _
    · exact Nat.lt_succ_of_lt (ih h)

/-- Puts a blank for each quoted text. A quote that is not closed stays. -/
def blankQuotes : List Char → List Char
  | [] => []
  | c :: s =>
    if c = '\'' || c = '"' then
      match h : afterQuote? c s with
      | some r =>
        have := afterQuote?_length h
        ' ' :: blankQuotes r
      | none => c :: blankQuotes s
    else c :: blankQuotes s
  termination_by s => s.length

/-- What follows a numeral with a radix at the start of a text. -/
def afterRadix? (s : List Char) : Option (List Char) :=
  match afterDigits? s with
  | some ('#' :: c :: t) => if isRadixDigit c then some (t.dropWhile isRadixDigit) else none
  | _ => none

theorem afterRadix?_length {s r : List Char} (h : afterRadix? s = some r) : r.length < s.length := by
  unfold afterRadix? at h
  split at h
  · rename_i c t hd
    split at h
    · obtain rfl := Option.some.inj h
      unfold afterDigits? at hd
      split at hd
      · simp at hd
      · split at hd
        · rename_i d u _
          have h₁ := dropWhile_length_le isDecimal (d :: u)
          rw [Option.some.inj hd] at h₁
          have h₂ := dropWhile_length_le isRadixDigit t
          simp only [List.length_cons] at h₁ h₂ ⊢
          omega
        · simp at hd
    · simp at h
  · simp at h

/-- Puts a blank for each numeral with a radix that does not go on a word; `inWord` says whether the
text does. -/
def blankRadix (inWord : Bool) : List Char → List Char
  | [] => []
  | c :: s =>
    match h : if inWord then none else afterRadix? (c :: s) with
    | some r =>
      have : r.length < (c :: s).length := by
        cases inWord with
        | true => simp at h
        | false => exact afterRadix?_length h
      ' ' :: blankRadix true r
    | none => c :: blankRadix (isWordChar c) s
  termination_by s => s.length
  decreasing_by all_goals (simp only [List.length_cons] at *; omega)

/-- The words that are part of the expression language. -/
def keywords : List String :=
  ["ABS", "ACS", "ACOS", "AND", "ASN", "ASIN", "ATN", "ATAN", "COS", "DEG", "FRD", "LN", "LOG", "MOD",
    "NOT", "OR", "RAD", "SIN", "SQR", "SQRT", "TAN", "TOD", "TRN", "TRUNC", "XOR"]

/-- The text after the members and indices at its start; an index holds no bracket. -/
def flatPartRest : List Char → List Char
  | '.' :: s =>
    match h : afterSegment? s with
    | some r =>
      have := afterSegment?_length h
      flatPartRest r
    | none => '.' :: s
  | '[' :: s =>
    match h : s.dropWhile fun c => c ≠ '[' && c ≠ ']' with
    | ']' :: r =>
      have : r.length < s.length := by
        have := dropWhile_length_le (fun c => c ≠ '[' && c ≠ ']') s
        rw [h] at this
        exact this
      flatPartRest r
    | _ => '[' :: s
  | s => s
  termination_by s => s.length

/-- What follows the longest path at the start of a text, with indices that hold no brackets. -/
def flatPathRest? (s : List Char) : Option (List Char) :=
  (afterIdentifier? (dropBackslash s)).map fun r => flatPartRest (moduleRest r)

/-- Whether a path may begin after a character. -/
def admitsPath (before : Char) : Bool :=
  !(isWordChar before || before = '#' || before = '.' || before = '\\')

/-- The paths in a text, in order. `open?` says whether one may begin at once; `skip` characters
belong to the path found last. -/
def pathsFrom (open? : Bool) (skip : Nat) : List Char → List (List Char)
  | [] => []
  | c :: s =>
    match skip with
    | k + 1 => pathsFrom (admitsPath c) k s
    | 0 =>
      match if open? then flatPathRest? (c :: s) else none with
      | some r =>
        let size := s.length + 1 - r.length
        (c :: s).take size :: pathsFrom (admitsPath c) (size - 1) s
      | none => pathsFrom (admitsPath c) 0 s

/-- The tags that an expression mentions, in order. -/
def expressionTags (s : List Char) : List (List Char) :=
  (pathsFrom true 0 (blankRadix false (blankQuotes s))).filter fun p =>
    !keywords.contains (String.ofList (upper p))

/-- The tags in the indices of a path, each followed by those in its own indices. Indices are looked
into `depth` deep. -/
def indexTagsTo : (depth : Nat) → List Char → List (List Char)
  | 0, _ => []
  | depth + 1, path =>
    let parts := (brackets path).flatMap operands
    (parts.filter fun p => !p.isEmpty && !isLiteral p).flatMap fun p =>
      (expressionTags p).flatMap fun t => t :: indexTagsTo depth t

/-- The tags in the indices of a path. Each lies inside the path, so its length is deep enough. -/
def indexTags (path : List Char) : List (List Char) := indexTagsTo path.length path

end LadderAtlas.Ladder
