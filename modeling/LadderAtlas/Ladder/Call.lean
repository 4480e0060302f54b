import LadderAtlas.Text.Trim

/-! # Instruction calls

Rung logic is a sequence of calls `MNEMONIC(operand, operand)` among brackets and commas that mark
branches. `calls` finds the calls, and `operands` splits what stands between the parentheses of one.
Quotes of either kind hide what is between them. -/

namespace LadderAtlas.Ladder
open Text

def isIdentifierStart (c : Char) : Bool := c.isAlpha || c = '_'

def isIdentifierPart (c : Char) : Bool := c.isAlphanum || c = '_'

/-- One instruction with its operands. -/
structure Call where
  mnemonic : String
  operands : List String
deriving Repr, DecidableEq

/-- The quote that is open after a character, given the one open before it. -/
def quoteAfter (quote : Option Char) (c : Char) : Option Char :=
  match quote with
  | some q => if c = q then none else some q
  | none => if c = '\'' || c = '"' then some c else none

/-- The text up to the parenthesis that closes a call, and what follows it; `depth` more parentheses
are open. -/
def closeCall (quote : Option Char) (depth : Nat) : List Char → Option (List Char × List Char)
  | [] => none
  | c :: s =>
    if quote.isNone && c = ')' then
      match depth with
      | 0 => some ([], s)
      | d + 1 => (closeCall none d s).map fun (inside, rest) => (c :: inside, rest)
    else
      let depth := if quote.isNone && c = '(' then depth + 1 else depth
      (closeCall (quoteAfter quote c) depth s).map fun (inside, rest) => (c :: inside, rest)

/-- Splits at the commas outside quotes where as many brackets have closed as opened; `depth` more
have opened so far. -/
def splitCommas (quote : Option Char) (depth : Int) : List Char → List (List Char)
  | [] => [[]]
  | c :: s =>
    let cut := quote.isNone && c = ',' && depth = 0
    let depth :=
      if quote.isSome then depth
      else if c = '(' || c = '[' then depth + 1
      else if c = ')' || c = ']' then depth - 1
      else depth
    match splitCommas (quoteAfter quote c) depth s with
    | [] => [[]]
    | p :: ps => if cut then [] :: p :: ps else (c :: p) :: ps

/-- The operands in an operand list, trimmed. A blank list has none. -/
def operands (s : List Char) : List (List Char) :=
  match (splitCommas none 0 s).map trim with
  | [[]] => []
  | l => l

theorem closeCall_length {quote : Option Char} {depth : Nat} {s inside rest : List Char}
    (h : closeCall quote depth s = some (inside, rest)) : rest.length < s.length := by
  induction s generalizing quote depth inside with
  | nil => simp [closeCall] at h
  | cons c s ih =>
    have keep : ∀ (q : Option Char) (d : Nat),
        (closeCall q d s).map (fun (i, r) => (c :: i, r)) = some (inside, rest) →
          rest.length < (c :: s).length := by
      intro q d hd
      obtain ⟨⟨i, r⟩, hb, he⟩ := Option.map_eq_some_iff.1 hd
      obtain ⟨-, rfl⟩ := Prod.mk.inj he
      exact Nat.lt_succ_of_lt (ih hb)
    simp only [closeCall] at h
    split at h
    · cases depth with
      | zero =>
        obtain ⟨-, rfl⟩ := Prod.mk.inj (Option.some.inj h)
        exact Nat.lt_succ_self _
      | succ d => exact keep _ d h
    · exact keep _ _ h

/-- The part of a call after its parenthesis, and the rest of the rung. A call that is not closed
takes all that is left. -/
def callBody (s : List Char) : List Char × List Char := (closeCall none 0 s).getD (s, [])

theorem callBody_length (s : List Char) : (callBody s).2.length ≤ s.length := by
  unfold callBody
  cases h : closeCall none 0 s with
  | none => simp
  | some p => exact Nat.le_of_lt (closeCall_length h)

theorem dropWhile_length_le (p : Char → Bool) (s : List Char) : (s.dropWhile p).length ≤ s.length :=
  (List.dropWhile_sublist p).length_le

/-- What follows an opening parenthesis at the start of a text, blanks aside. -/
def afterParen? (s : List Char) : Option (List Char) :=
  match trimLeft s with
  | '(' :: t => some t
  | _ => none

theorem afterParen?_length {s t : List Char} (h : afterParen? s = some t) : t.length < s.length := by
  unfold afterParen? at h
  have hl : (trimLeft s).length ≤ s.length := dropWhile_length_le isBlank s
  split at h
  · rename_i u hu
    obtain rfl := Option.some.inj h
    rw [hu] at hl
    exact hl
  · simp at h

/-- The calls in rung logic, in order. An identifier that no parenthesis follows is passed over. -/
def calls : List Char → List Call
  | [] => []
  | c :: s =>
    if isIdentifierStart c then
      have := dropWhile_length_le isIdentifierPart s
      match h : afterParen? (s.dropWhile isIdentifierPart) with
      | some t =>
        have := afterParen?_length h
        have := callBody_length t
        ⟨String.ofList (c :: s.takeWhile isIdentifierPart), (operands (callBody t).1).map String.ofList⟩ ::
          calls (callBody t).2
      | none => calls (s.dropWhile isIdentifierPart)
    else calls s
  termination_by s => s.length
  decreasing_by all_goals (simp only [List.length_cons]; omega)

end LadderAtlas.Ladder
