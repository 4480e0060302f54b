import LadderAtlas.Notice

/-! # Configuration

Limits and options, read from loosely typed settings. A setting that is absent keeps its default and
an unknown one is passed over with a remark. Values are kept as given; only the numbers of workers
are checked here. -/

namespace LadderAtlas

/-- Options of the health score and of the search for unused tags. -/
structure HealthOptions where
  namingEnabled : Bool := false
  includeMemberReferences : Bool := false
deriving Repr, DecidableEq

structure Config where
  maxInputBytes : Value := .whole (64 * 1024 * 1024)
  parseTimeoutSeconds : Value := .fraction 120.0
  parseWorkers : Value := .whole 4
  extractWorkers : Value := .whole 1
  diffConcurrency : Value := .whole 4
  health : HealthOptions := {}
  namingRuleSets : List Value := []
deriving Repr

namespace Value

/-- Whether a number is below a whole number; none for what is no number. -/
def below? (v : Value) (n : Int) : Option Bool :=
  match v with
  | .scalar s => s.number?.map fun
    | .inl m => decide (m < n)
    | .inr x => decide (x < Number.floatOfInt n)
  | _ => none

/-- The items of a value that has any: those of a list, the keys of a map, the characters of a text. -/
def items? : Value → Option (List Value)
  | .list l => some l
  | .map m => some (m.map fun (k, _) => .scalar k)
  | .scalar (.text s) => some (s.toList.map fun c => .text (String.singleton c))
  | _ => none

end Value

namespace HealthOptions

/-- Names that every set of options answers to, and which thus are not unknown. -/
def inherentNames : List String :=
  ["annotations", "class", "dataclass_fields", "dataclass_params", "delattr", "dict", "dir", "doc", "eq",
    "format", "ge", "getattribute", "getstate", "gt", "hash", "init", "init_subclass", "le", "lt",
    "match_args", "module", "ne", "new", "reduce", "reduce_ex", "repr", "setattr", "sizeof", "str",
    "subclasshook", "weakref"].map fun n => "__" ++ n ++ "__"

/-- Sets one option. -/
def set (o : HealthOptions) (key : Scalar) (v : Value) : Reading HealthOptions :=
  match key with
  | .text "naming_enabled" => pure { o with namingEnabled := v.truthy }
  | .text "include_member_references" => pure { o with includeMemberReferences := v.truthy }
  | .text "__class__" | .text "__dict__" => Reading.fail (.fault .wrongKind)
  | .text "__weakref__" => Reading.fail (.fault .noProperty)
  | .text name => do
    if !inherentNames.contains name then Noted.note (.unknownHealthOption (.text name))
    return o
  | _ => Reading.fail (.fault .wrongKind)

/-- Reads the options; a value that counts as false stands for none. -/
def ofValue (v : Value) : Reading HealthOptions :=
  if !v.truthy then pure {}
  else match v with
    | .map m => m.foldlM (fun o (k, v) => o.set k v) {}
    | _ => Reading.fail (.fault .noProperty)

end HealthOptions

namespace Config

/-- The rule sets in the naming settings. -/
def ruleSets (v : Value) : Reading (List Value) :=
  if !v.truthy then pure []
  else match v with
    | .map m =>
      match ((Value.find? m "rule_sets").getD (.list [])).items? with
      | some l => pure l
      | none => Reading.fail (.fault .wrongKind)
    | _ => Reading.fail (.fault .noProperty)

/-- Sets one setting. -/
def set (c : Config) (key : Scalar) (v : Value) : Reading Config :=
  match key with
  | .text "max_input_bytes" => pure { c with maxInputBytes := v }
  | .text "parse_timeout_seconds" => pure { c with parseTimeoutSeconds := v }
  | .text "parse_workers" => pure { c with parseWorkers := v }
  | .text "extract_workers" => pure { c with extractWorkers := v }
  | .text "diff_concurrency" => pure { c with diffConcurrency := v }
  | .text "health" => do return { c with health := ← HealthOptions.ofValue v }
  | .text "naming" => do return { c with namingRuleSets := ← ruleSets v }
  | key => do
    Noted.note (.unknownSetting (.scalar key))
    return c

/-- Checks that there is at least one worker of a kind. -/
def checkWorkers (v : Value) : Reading Unit :=
  match v.below? 1 with
  | none => Reading.fail (.fault .wrongKind)
  | some true => Reading.fail (.fault .badValue)
  | some false => pure ()

/-- Reads settings; a value that counts as false stands for none. -/
def ofValue (v : Value) : Reading Config := do
  if !v.truthy then return {}
  match v with
  | .map m =>
    let c ← m.foldlM (fun (c : Config) (k, v) => c.set k v) {}
    checkWorkers c.parseWorkers
    checkWorkers c.diffConcurrency
    checkWorkers c.extractWorkers
    return c
  | _ => Reading.fail (.fault .noProperty)

end Config

end LadderAtlas
