import LadderAtlas.Value

/-! # Looking into maps

The entries of a map whose keys are texts, read as what is expected there. What is missing or of
another kind is read as nothing, or as the default. -/

namespace LadderAtlas.Value

/-- The value of a key, in what is a map and has the key. -/
def entry? (v : Value) (key : String) : Option Value :=
  match v with
  | .map m => find? m key
  | _ => none

/-- The value of a key, null if there is none. -/
def entry (v : Value) (key : String) : Value := (v.entry? key).getD null

def hasEntry (v : Value) (key : String) : Bool := (v.entry? key).isSome

def items : Value → List Value
  | .list l => l
  | _ => []

/-- The whole number of a value; truth values stand for one and zero. -/
def wholeNumber? : Value → Option Int
  | .scalar (.whole n) => some n
  | .scalar (.bool b) => some (if b then 1 else 0)
  | _ => none

def text?At (v : Value) (key : String) : Option String := (v.entry key).text?

def textAt (v : Value) (key : String) : String := (v.text?At key).getD ""

def whole?At (v : Value) (key : String) : Option Int := (v.entry key).wholeNumber?

def wholeAt (v : Value) (key : String) (default : Int) : Int := (v.whole?At key).getD default

def flagAt (v : Value) (key : String) (default : Bool) : Bool :=
  match v.entry? key with
  | some w => w.truthy
  | none => default

def itemsAt (v : Value) (key : String) : List Value := (v.entry key).items

def textsAt (v : Value) (key : String) : List String := (v.itemsAt key).map fun w => w.text?.getD ""

end LadderAtlas.Value
