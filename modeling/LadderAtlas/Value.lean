import LadderAtlas.Number.Binary64
import LadderAtlas.Number.Shortest
import LadderAtlas.Text.Quoted

/-! # Values

Data whose shape is not fixed: what configuration files hold, what is kept of a module's settings,
and what reports are written as. A map keeps the order of its entries. -/

namespace LadderAtlas

/-- A value without parts. -/
inductive Scalar where
  | null
  | bool (b : Bool)
  | whole (n : Int)
  | fraction (x : Float)
  | text (s : String)
deriving Repr, BEq, Inhabited

inductive Value where
  | scalar (s : Scalar)
  | list (items : List Value)
  | map (entries : List (Scalar × Value))
deriving Repr, Inhabited

namespace Scalar

/-- The number that a scalar stands for; truth values stand for one and zero. -/
def number? : Scalar → Option (Int ⊕ Float)
  | .bool b => some (.inl (if b then 1 else 0))
  | .whole n => some (.inl n)
  | .fraction x => some (.inr x)
  | _ => none

/-- Whether a fraction is a given whole number, exactly. -/
def isWholeNumber (x : Float) (n : Int) : Bool :=
  match Number.Dyadic.ofFloat? x with
  | some d => d.isWhole && d.whole == n
  | none => false

/-- Equality of keys. Numbers are equal by value, whatever their kind. -/
def same (a b : Scalar) : Bool :=
  match a.number?, b.number? with
  | some (.inl m), some (.inl n) => m == n
  | some (.inr x), some (.inl n) => isWholeNumber x n
  | some (.inl m), some (.inr y) => isWholeNumber y m
  | some (.inr x), some (.inr y) => x == y
  | none, none => a == b
  | _, _ => false

/-- Whether a value counts as true where a truth value is asked for. -/
def truthy : Scalar → Bool
  | .null => false
  | .bool b => b
  | .whole n => n != 0
  | .fraction x => x != 0
  | .text s => s != ""

/-- The text of a scalar as part of a message. -/
def shown : Scalar → String
  | .null => "None"
  | .bool b => if b then "True" else "False"
  | .whole n => Number.wholeText n
  | .fraction x => Number.floatText x
  | .text s => s

/-- What messages call the kind of a scalar. -/
def kindName : Scalar → String
  | .null => "NoneType"
  | .bool _ => "bool"
  | .whole _ => "int"
  | .fraction _ => "float"
  | .text _ => "str"

/-- As `shown`, with texts quoted. -/
def revealed : Scalar → String
  | .text s => Text.quoted s
  | s => s.shown

theorem text_beq_text (a b : String) : (text a == text b) = (a == b) := rfl

theorem eq_of_beq_text {k : Scalar} {name : String} (h : (k == .text name) = true) : k = .text name := by
  cases k with
  | text s =>
    rw [text_beq_text, beq_iff_eq] at h
    rw [h]
  | _ => cases h

theorem same_text (k : Scalar) (name : String) : k.same (.text name) = (k == .text name) := by
  cases k <;> rfl

theorem text_same (name : String) (k : Scalar) : (text name).same k = (k == .text name) := by
  cases k with
  | text s => exact (Bool.beq_comm : (name == s) = (s == name))
  | _ => rfl

theorem eq_of_null_same {k : Scalar} (h : null.same k = true) : k = .null := by
  cases k with
  | null => rfl
  | _ => cases h

end Scalar

namespace Value

def null : Value := .scalar .null
def bool (b : Bool) : Value := .scalar (.bool b)
def whole (n : Int) : Value := .scalar (.whole n)
def count (n : Nat) : Value := .scalar (.whole n)
def fraction (x : Float) : Value := .scalar (.fraction x)
def text (s : String) : Value := .scalar (.text s)
def texts (l : List String) : Value := .list (l.map text)

/-- A value that may be absent. -/
def opt {α : Type} (f : α → Value) : Option α → Value
  | some a => f a
  | none => null

/-- A map whose keys are texts. -/
def record (fields : List (String × Value)) : Value := .map (fields.map fun (k, v) => (.text k, v))

def truthy : Value → Bool
  | .scalar s => s.truthy
  | .list l => !l.isEmpty
  | .map m => !m.isEmpty

def isNull : Value → Bool
  | .scalar .null => true
  | _ => false

def text? : Value → Option String
  | .scalar (.text s) => some s
  | _ => none

/-- What messages call the kind of a value. -/
def kindName : Value → String
  | .scalar s => s.kindName
  | .list _ => "list"
  | .map _ => "dict"

/-- The value of a key in the entries of a map. -/
def find? (entries : List (Scalar × Value)) (key : String) : Option Value :=
  (entries.find? fun e => e.1.same (.text key)).map (·.2)

/-- The first value if it counts as true, otherwise the second. -/
def orElse (a b : Value) : Value := if a.truthy then a else b

/-- Sets the value of a key in the entries of a map; a key that is there keeps its place. -/
def setEntry (entries : List (Scalar × Value)) (key : Scalar) (v : Value) : List (Scalar × Value) :=
  match entries with
  | [] => [(key, v)]
  | (k, w) :: rest => if k.same key then (k, v) :: rest else (k, w) :: setEntry rest key v

mutual
/-- The text of a value inside another one: texts are quoted. -/
def revealed : Value → String
  | .scalar s => s.revealed
  | .list l => "[" ++ revealedItems l ++ "]"
  | .map m => "\x7b" ++ revealedEntries m ++ "\x7d"

def revealedItems : List Value → String
  | [] => ""
  | [v] => revealed v
  | v :: l => revealed v ++ ", " ++ revealedItems l

def revealedEntries : List (Scalar × Value) → String
  | [] => ""
  | [(k, v)] => k.revealed ++ ": " ++ revealed v
  | (k, v) :: m => k.revealed ++ ": " ++ revealed v ++ ", " ++ revealedEntries m
end

/-- The text of a value as part of a message. -/
def shown : Value → String
  | .scalar s => s.shown
  | v => v.revealed

/-- Equality of values; numbers are equal by value, whatever their kind. -/
def same : Value → Value → Bool
  | .scalar a, .scalar b => a.same b
  | .scalar _, _ | _, .scalar _ => false
  | a, b => a.revealed = b.revealed

@[simp] theorem isNull_iff {v : Value} : v.isNull = true ↔ v = null := by
  unfold isNull
  split
  · exact ⟨fun _ => rfl, fun _ => rfl⟩
  · rename_i hne
    exact ⟨fun h => (by cases h), fun h => absurd h hne⟩

theorem truthy_text_iff {s : String} : (text s).truthy = true ↔ s ≠ "" := by
  rw [text, truthy, Scalar.truthy, bne_iff_ne]

theorem text?_eq_some_iff {v : Value} {s : String} : v.text? = some s ↔ v = text s := by
  unfold text?
  split
  · exact ⟨fun h => by rw [Option.some.inj h, text], fun h => by cases h; rfl⟩
  · rename_i hne
    exact ⟨fun h => (by cases h), fun h => absurd h (hne s)⟩

/-- Only a text is the same as a text. -/
@[simp] theorem same_text_iff {v : Value} {s : String} : v.same (text s) = true ↔ v = text s := by
  cases v with
  | scalar k =>
    rw [text, same, Scalar.same_text]
    exact ⟨fun h => by rw [Scalar.eq_of_beq_text h], fun h => by cases h; simp [Scalar.text_beq_text]⟩
  | list l => exact ⟨fun h => (by cases h), fun h => (by cases h)⟩
  | map m => exact ⟨fun h => (by cases h), fun h => (by cases h)⟩

/-- Only an absent text is the same as an absent one, and only a text as itself. -/
theorem opt_text_same_iff {o : Option String} {v : Value} : (opt text o).same v = true ↔ v = opt text o := by
  cases o with
  | none =>
    cases v with
    | scalar k => exact ⟨fun h => congrArg scalar (Scalar.eq_of_null_same h), fun h => by cases h; rfl⟩
    | _ => exact ⟨fun h => (by cases h), fun h => (by cases h)⟩
  | some s =>
    refine Iff.trans ?_ same_text_iff
    cases v with
    | scalar k => exact Bool.eq_iff_iff.1 ((Scalar.text_same s k).trans (Scalar.same_text k s).symm)
    | _ => exact Iff.rfl

end Value

end LadderAtlas
