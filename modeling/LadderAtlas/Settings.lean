import LadderAtlas.Naming.RuleSet
import LadderAtlas.Yaml.Reader

/-! # Settings files

Configurations and rule sets are kept as YAML. A configuration that is no YAML document, or no map,
stands for the defaults; rule sets must be readable. -/

namespace LadderAtlas

/-- The value of a settings file; what counts as false is an empty list. -/
def settings (text : List Char) : Except Yaml.Fault Value :=
  (Yaml.read (Text.withLineFeeds text)).map (·.orElse (.list []))

/-- Reads a configuration file. -/
def Config.ofYaml (text : List Char) : Reading Config :=
  match settings text with
  | .ok (.map m) => Config.ofValue (.map m)
  | _ => pure {}

/-- Reads a file of rule sets. -/
def Naming.RuleSet.listOfYaml [Text.CharacterNames] (text : List Char) : Except Failure (List Naming.RuleSet) := do
  listOfValue (← (settings text).mapError fun f => .fault (.yaml f))

end LadderAtlas
