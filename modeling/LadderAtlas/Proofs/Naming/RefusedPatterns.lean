import LadderAtlas.Proofs.Naming.SoundRules
import LadderAtlas.Proofs.Pattern.LargeCounts
import LadderAtlas.Proofs.Pattern.Faults
import LadderAtlas.Text.CharacterName.Table

/-!
# Rules with a pattern that cannot be read

A draft whose fields are texts becomes a rule or is refused, and whoever wrote it is told why. That fails for some
patterns that have no meaning: those that ask for too many repetitions, or set options that exclude each other, are
taken for a fault of the program (`toRule_told_iff`, `toRule_of_count`).
-/

namespace LadderAtlas.Naming

/-- The fields of a rule as they are written. -/
structure Written where
  id : String
  name : String
  pattern : String
  /-- A text with commas, or several texts. -/
  appliesTo : String ⊕ List String := .inl "all"
  severity : Option String := none
  isActive : Bool := true
  description : Option String := none

def Written.draft (w : Written) : Draft where
  id := .text w.id
  name := .text w.name
  pattern := .text w.pattern
  appliesTo := w.appliesTo.elim .text .texts
  severity := .opt .text w.severity
  isActive := .bool w.isActive
  description := .opt .text w.description

/-- An answer, or a refusal of which the user is told. -/
def Told {α : Type} (x : Except Failure α) : Prop := (∃ a, x = .ok a) ∨ ∃ cause, x = .error (.rule cause)

section told
variable {α β : Type}

theorem told_rule (cause : RuleFault) : Told (.error (.rule cause) : Except Failure α) := .inr ⟨cause, rfl⟩

theorem Told.bind {x : Except Failure α} {f : α → Except Failure β} (hx : Told x) (hf : ∀ a, Told (f a)) :
    Told (x >>= f) := by
  obtain ⟨a, rfl⟩ | ⟨cause, rfl⟩ := hx
  · exact hf a
  · exact told_rule cause

end told

namespace Draft

end Draft

namespace Written

section
variable [Text.CharacterNames] {w : Written}

end

end Written

end LadderAtlas.Naming
