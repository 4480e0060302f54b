import LadderAtlas.Naming.Rule

/-! # Rule sets

A set of naming rules belongs to an organisation or to none. One that is a default governs the
projects to which no set is assigned. -/

namespace LadderAtlas.Naming

structure RuleSet where
  id : String
  name : Value
  organization : Value := .null
  isDefault : Bool := false
  rules : List Rule := []
deriving Repr

namespace RuleSet

def activeRules (s : RuleSet) : List Rule := s.rules.filter (·.isActive)

/-- Adds a rule whose id is new. -/
def add (s : RuleSet) (r : Rule) : Except Failure RuleSet :=
  if s.rules.any (·.id = r.id) then .error (.rule (.duplicateRule r.id s.id))
  else .ok { s with rules := s.rules ++ [r] }

/-- Changes the first rule with an id, given what the rule becomes. -/
def replaceIn (id : String) (change : Rule → Except Failure Rule) :
    List Rule → Option (Except Failure (List Rule))
  | [] => none
  | r :: rules =>
    if r.id = id then some ((change r).map (· :: rules))
    else (replaceIn id change rules).map fun e => e.map (r :: ·)

/-- Changes fields of the rule with an id. -/
def replace [Text.CharacterNames] (s : RuleSet) (id : String) (changes : List (Scalar × Value)) :
    Except Failure RuleSet :=
  match replaceIn id (·.update changes) s.rules with
  | none => .error (.rule (.unknownRule id s.id))
  | some rules => rules.map fun rules => { s with rules }

/-- Removes the rules with an id, if there are any. -/
def remove (s : RuleSet) (id : String) : RuleSet := { s with rules := s.rules.filter (·.id ≠ id) }

/-- The items of a value that counts as a list; one that counts as false has none. -/
def itemsOf (v : Value) : Except Failure (List Value) :=
  if !v.truthy then .ok []
  else match v.items? with
    | some l => .ok l
    | none => .error (.fault .wrongKind)

/-- Reads a rule set; its name also serves as its id, and the other way round. -/
def ofValue [Text.CharacterNames] (v : Value) : Except Failure RuleSet :=
  match v with
  | .map m => do
    let get (key : String) : Value := (Value.find? m key).getD .null
    let empty : RuleSet := {
      id := ((get "id").orElse (get "name")).shown
      name := (get "name").orElse (.text (get "id").shown)
      organization := get "organization_id"
      isDefault := (get "is_default").truthy }
    (← itemsOf (get "rules")).foldlM (fun s r => do s.add (← Rule.ofValue r)) empty
  | _ => .error (.fault .noProperty)

/-- The definitions in settings: a list, or what a map holds under `rule_sets`, also inside
`naming`. -/
def definitions (v : Value) : Except Failure Value :=
  match v with
  | .map m =>
    let direct := (Value.find? m "rule_sets").getD .null
    if direct.truthy then .ok direct
    else match (Value.find? m "naming").getD (.map []) with
      | .map n => .ok (((Value.find? n "rule_sets").getD .null).orElse (.list []))
      | _ => .error (.fault .noProperty)
  | v => .ok v

/-- Reads rule sets from settings. -/
def listOfValue [Text.CharacterNames] (v : Value) : Except Failure (List RuleSet) := do
  match ← definitions v with
  | .list l => l.mapM ofValue
  | _ => throw (.rule .notAList)

end RuleSet

end LadderAtlas.Naming
