import LadderAtlas.Pattern.Reader

/-!
# The text behind a reading of a pattern

A reader of patterns goes on in the text and never turns back further than to where it has been. So what it has read
can be held against the text: `At l read p` says that the reader stands in `l` behind the tokens `read`, and that the
options it knows are set in the text. `Ends l x p Q` says what a parser `x` comes to from there, where each failure has
to be accounted for by the text (`Accounts`). Most parsers are `Steady`, which is closed under all ways to put parsers
together, so for them nothing has to be said about what they read.
-/

namespace LadderAtlas.Pattern

namespace Token

end Token

/-- A text sets the number of repetitions that digits state, as one of the bounds in braces. -/
def StatesCount (s ds : List Char) : Prop :=
  ∃ other : List Char, (∀ d ∈ ds ++ other, d.isDigit = true) ∧
    ('\x7b' :: ds ++ ['\x7d'] <:+: s ∨ '\x7b' :: ds ++ ',' :: other ++ ['\x7d'] <:+: s ∨
      '\x7b' :: other ++ ',' :: ds ++ ['\x7d'] <:+: s)

/-- A text sets an option of the whole pattern. -/
def SetsOption (s : List Char) (o : PatternOption) : Prop :=
  ∃ letters : List Char, (∀ c ∈ letters, (PatternOption.ofChar? c).isSome = true) ∧
    o ∈ letters.filterMap PatternOption.ofChar? ∧ '(' :: '?' :: letters ++ [')'] <:+: s

/-- What a text has to hold for a fault; a malformed one may hold anything. -/
def Accounts (s : List Char) : Fault → Prop
  | .malformed => True
  | .tooManyRepetitions => ∃ ds, StatesCount s ds ∧ Parser.repetitionLimit ≤ Parser.statedNumber ds
  | .tooManyDigits => ∃ ds, StatesCount s ds ∧ Number.digitLimit < ds.length
  | .conflictingOptions => SetsOption s .ascii ∧ SetsOption s .unicode

/-- What has been read of the tokens `l` ends with `read`, and the options are those that the text sets. -/
structure At (l read : List Token) (p : Progress) : Prop where
  suffix : read ++ p.rest <:+ l
  options : ∀ o ∈ p.options, SetsOption (Token.chars l) o

namespace At
variable {l read : List Token} {p : Progress}

end At

namespace Parser
variable {l read : List Token} {α β : Type} {p : Progress}

/-- A parser that starts with `p` ends as `Q` says, or fails for a reason that the text holds. -/
def Ends (l : List Token) (x : Parser α) (p : Progress) (Q : α → Progress → Prop) : Prop :=
  match x.run p with
  | .ok (a, p') => Q a p'
  | .error f => Accounts (Token.chars l) f

section rules
variable {x y : Parser α} {Q R : α → Progress → Prop}

theorem Ends.mono (h : Ends l x p R) (hQ : ∀ a p', R a p' → Q a p') : Ends l x p Q := by
  unfold Ends at *
  split at h
  · exact hQ _ _ h
  · exact h

theorem ends_bind (f : α → Parser β) (Q : β → Progress → Prop) :
    Ends l (x >>= f) p Q ↔ Ends l x p fun a p' => Ends l (f a) p' Q := by
  unfold Ends
  change (match Except.bind (x.run p) fun (a, p') => (f a).run p' with | .ok (a, p') => Q a p' | .error f => _) ↔ _
  cases x.run p <;> rfl

theorem Ends.bind {f : α → Parser β} {Q : β → Progress → Prop} (h : Ends l x p R)
    (hf : ∀ a p', R a p' → Ends l (f a) p' Q) : Ends l (x >>= f) p Q :=
  (ends_bind f Q).2 (h.mono hf)

end rules

/-- Wherever the parser starts, it goes on in the text and comes to such a value. -/
def Yields (l : List Token) (V : α → Prop) (x : Parser α) : Prop :=
  ∀ p, At l [] p → Ends l x p fun a p' => At l [] p' ∧ V a

section yields
variable {x y : Parser α} {V : α → Prop}

theorem yields_pure {a : α} (ha : V a) : Yields l V (pure a) := fun _ hp => ⟨hp, ha⟩

theorem Yields.bind {W : β → Prop} {f : α → Parser β} (hx : Yields l V x) (hf : ∀ a, Yields l W (f a)) :
    Yields l W (x >>= f) :=
  fun p hp => (hx p hp).bind fun a p' h => hf a p' h.1

end yields

/-! ### Characters -/

end Parser

end LadderAtlas.Pattern
