import LadderAtlas.Failure

/-! # Notices

Remarks on input that is passed over rather than refused. A computation that makes remarks returns
them beside its result, in order (`Noted`); one that can also fail is a `Reading`. -/

namespace LadderAtlas

inductive Notice where
  /-- A text that is no whole number; `isNumber` if it is a number with a fraction. -/
  | ignoredNumber (field text : String) (isNumber : Bool)
  | unknownSetting (key : Value)
  | unknownHealthOption (key : Value)
  | unrecognizedDeclaration (statement : String)
  | unrecognizedMember (statement : String)
  | unfinishedRung (program routine : String)
  | unknownInstruction (mnemonic : String)
  | missingRuleSet (id : String)
deriving Repr

/-- The first eighty characters of a statement, quoted. -/
def excerpt (statement : String) : String := Text.quoted (String.ofList (statement.toList.take 80))

def Notice.message : Notice → String
  | .ignoredNumber field text isNumber =>
    "Ignoring " ++ (if isNumber then "non-integer " else "non-numeric ") ++ field ++ ": " ++ Text.quoted text
  | .unknownSetting key => "Ignoring unknown configuration key: " ++ key.shown
  | .unknownHealthOption key => "Ignoring unknown health option: " ++ key.shown
  | .unrecognizedDeclaration statement => "Skipping unrecognized L5K declaration: " ++ excerpt statement
  | .unrecognizedMember statement => "Skipping unrecognized DATATYPE member: " ++ excerpt statement
  | .unfinishedRung program routine => "Rung in routine " ++ program ++ "/" ++ routine ++ " is missing its ';'"
  | .unknownInstruction mnemonic => "Unknown instruction " ++ mnemonic ++ "; treating its operands as Read"
  | .missingRuleSet id => "Assigned rule set " ++ id ++ " not found; using default"

/-- A result with the remarks made on the way. -/
structure Noted (α : Type) where
  value : α
  notices : List Notice := []

namespace Noted

variable {α β : Type}

def note (n : Notice) : Noted Unit := ⟨(), [n]⟩

instance : Monad Noted where
  pure a := ⟨a, []⟩
  bind x f := ⟨(f x.value).value, x.notices ++ (f x.value).notices⟩

@[simp] theorem value_pure (a : α) : (pure a : Noted α).value = a := rfl

@[simp] theorem value_bind (x : Noted α) (f : α → Noted β) : (x >>= f).value = (f x.value).value := rfl

/-- Applies `f` to each item in order. -/
def each (f : α → Noted β) : List α → Noted (List β)
  | [] => pure []
  | a :: l => do return (← f a) :: (← each f l)

@[simp] theorem value_each (f : α → Noted β) (l : List α) :
    (each f l).value = l.map fun a => (f a).value := by
  induction l with
  | nil => rfl
  | cons a l ih => simp [each, ih]

end Noted

/-- A computation that can fail, and otherwise makes remarks. -/
def Reading (α : Type) := Except Failure (Noted α)

namespace Reading

variable {α β : Type}

def fail (f : Failure) : Reading α := .error f

def lift (x : Noted α) : Reading α := .ok x

/-- A computation without remarks. -/
def ofExcept : Except Failure α → Reading α
  | .ok a => .ok ⟨a, []⟩
  | .error f => .error f

def bind (x : Reading α) (f : α → Reading β) : Reading β :=
  match x with
  | .error e => .error e
  | .ok a =>
    match f a.value with
    | .error e => .error e
    | .ok b => .ok ⟨b.value, a.notices ++ b.notices⟩

instance : Monad Reading where
  pure a := .ok ⟨a, []⟩
  bind := bind

instance : MonadLift Noted Reading := ⟨lift⟩

/-- Applies `f` to each item in order. -/
def each (f : α → Reading β) : List α → Reading (List β)
  | [] => pure []
  | a :: l => do return (← f a) :: (← each f l)

/-- The result without the remarks. -/
def result (x : Reading α) : Except Failure α :=
  match x with
  | .ok a => .ok a.value
  | .error e => .error e

end Reading

end LadderAtlas
