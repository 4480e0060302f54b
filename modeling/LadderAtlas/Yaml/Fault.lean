/-! # Why a text is no YAML document -/

namespace LadderAtlas.Yaml

/-- The stage at which a text is refused. -/
inductive Fault where
  /-- A character that may not stand in a document. -/
  | character
  /-- A token that is not well formed, or stands where none of its kind may. -/
  | token
  /-- Tokens in an order that makes no node. -/
  | order
  /-- A node that refers to another one, or a second document. -/
  | composition
  /-- A node that has no value, or a collection as a key. -/
  | construction
deriving Repr, DecidableEq

end LadderAtlas.Yaml
