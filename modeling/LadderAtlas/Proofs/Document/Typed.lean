import LadderAtlas.Document.Parse
import LadderAtlas.Proofs.L5k.Misread
import LadderAtlas.Proofs.L5x.Misread

/-! # Typed failures

Parsing is meant to end with a document or a parse failure. `parse_typed_iff` states exactly for which
files it does. -/

namespace LadderAtlas

namespace Document

/-- A file of a kind is in an encoding that cannot be read, or holds a misread number or clashing names where its reader
looks for them. -/
def Misread : FileKind → List UInt8 → Prop
  | .l5x, bytes => L5x.MisreadBytes bytes
  | .l5k, bytes => L5k.MisreadText (L5k.decodeBytes bytes)

theorem escapes_read (kind : FileKind) (bytes : List UInt8) : Escapes (read kind bytes) ↔ Misread kind bytes := by
  cases kind with
  | l5x => exact escapes_ofL5x bytes
  | l5k => exact escapes_ofL5k _

theorem not_escapes_check (d : Document) : ¬ Escapes d.check := by
  unfold check
  cases d.violation? with
  | none => exact not_escapes_ok _
  | some cause => exact not_escapes_parse _ _

theorem checkSize_whole (config : Config) (limit : Int) (kind : FileKind) (size : Nat) :
    checkSize { config with maxInputBytes := .scalar (.whole limit) } kind size =
      if limit < size then .error (.parse kind (.tooLarge size (.scalar (.whole limit)))) else .ok () := by
  unfold checkSize
  simp [Scalar.number?]

theorem escapes_parse (config : Config) (limit : Int) (kind : FileKind) (bytes : List UInt8) :
    Escapes (parse { config with maxInputBytes := .scalar (.whole limit) } kind bytes) ↔
      bytes.length ≤ limit ∧ Misread kind bytes := by
  unfold parse
  rw [Reading.escapes_check_bind, checkSize_whole]
  by_cases h : limit < bytes.length
  · rw [if_pos h]
    refine iff_of_false ?_ fun hr => Int.not_lt.2 hr.1 h
    rintro (hf | ⟨hf, -⟩)
    · exact not_escapes_parse _ _ hf
    · cases hf
  · rw [if_neg h, or_iff_right (not_escapes_ok ()), and_iff_right rfl, and_iff_right (Int.not_lt.1 h),
      Reading.escapes_bind_of_right, escapes_read]
    intro d
    rw [Reading.escapes_check_bind]
    rintro (hf | ⟨-, hf⟩)
    · exact not_escapes_check d hf
    · exact Reading.not_escapes_pure _ hf

/-- Parsing gives a document or a parse failure, unless a file that is not too large is misread. -/
theorem parse_typed_iff (config : Config) (limit : Int) (kind : FileKind) (bytes : List UInt8) :
    (∃ d, parse { config with maxInputBytes := .scalar (.whole limit) } kind bytes = .ok d) ∨
      (∃ k cause, parse { config with maxInputBytes := .scalar (.whole limit) } kind bytes =
        .error (.parse k cause)) ↔
    ¬ (bytes.length ≤ limit ∧ Misread kind bytes) :=
  (not_escapes_iff _).symm.trans (not_congr (escapes_parse config limit kind bytes))

/-- The line `IE_VER := ²;`, whose revision is a digit without a value. -/
def superscriptRevision : List UInt8 := [73, 69, 95, 86, 69, 82, 32, 58, 61, 32, 194, 178, 59]

theorem parse_superscriptRevision :
    ¬ ((∃ d, parse {} .l5k superscriptRevision = .ok d) ∨
      ∃ k cause, parse {} .l5k superscriptRevision = .error (.parse k cause)) := by
  have h : parse {} .l5k superscriptRevision = .error (.fault (.numeral (.notWhole "²"))) := rfl
  rw [h]
  rintro (⟨d, hd⟩ | ⟨k, cause, hc⟩)
  · cases hd
  · cases hc

end Document

end LadderAtlas
