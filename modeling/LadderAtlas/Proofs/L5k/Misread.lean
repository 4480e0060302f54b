import LadderAtlas.L5k.Reader
import LadderAtlas.Proofs.Document.Escapes

/-! # L5K files that are misread

The only number that reading an L5K file insists on is the major number of its revision. The failures of
its blocks are parse failures, and everything in them that cannot be read is remarked on. So a failure
escapes if that number is misread, and only then: `escapes_ofL5k`. -/

namespace LadderAtlas

namespace L5k

theorem escapes_checkRevision (s : List Char) :
    Escapes (checkRevision s) ↔ ∃ r, revision? true s = some r ∧ MisreadMajor r := by
  unfold checkRevision
  cases revision? true s with
  | none => simp
  | some r =>
    have hrest : ∀ b : Bool, ¬ Escapes (do
        if b then return some (String.ofList r)
        throw (.parse .l5k (.unsupportedRevision (String.ofList r))) : Except Failure (Option String)) := by
      intro b
      cases b with
      | true => exact not_escapes_ok _
      | false => exact not_escapes_parse _ _
    refine (escapes_except_bind _ _).trans ?_
    simp [escapes_majorIs, hrest]

theorem not_escapes_blocks (keywords : List String) (lines : List (List Char)) : ¬ Escapes (blocks keywords lines) := by
  unfold blocks
  rw [Reading.escapes_ofExcept]
  cases Block.collect keywords lines with
  | ok l => exact not_escapes_ok l
  | error cause => exact not_escapes_parse _ _

theorem not_escapes_aoi (b : Block) : ¬ Escapes (aoi b) := by
  unfold aoi
  rw [Reading.escapes_bind_of_right]
  · exact not_escapes_blocks _ _
  · exact fun _ => (Reading.succeeds_map_lift _ _).not_escapes

theorem not_escapes_program (b : Block) : ¬ Escapes (program b) := by
  unfold program
  rw [Reading.escapes_bind_of_right]
  · exact not_escapes_blocks _ _
  · exact fun _ => (Reading.succeeds_map_lift _ _).not_escapes

theorem not_escapes_part (b : Block) : ¬ Escapes (part b) := by
  unfold part
  split
  · exact (Reading.succeeds_map_lift _ _).not_escapes
  · exact (Reading.succeeds_map_lift _ _).not_escapes
  · rw [Reading.escapes_bind_of_right fun _ => Reading.not_escapes_pure _]
    exact not_escapes_aoi b
  · exact (Reading.succeeds_map_lift _ _).not_escapes
  · exact not_escapes_program b
  · exact (Reading.succeeds_map_lift _ _).not_escapes

/-- The text is not blank and states a revision that is misread. -/
def MisreadText (s : List Char) : Prop :=
  Text.trim s ≠ [] ∧ ∃ r, revision? true s = some r ∧ MisreadMajor r

end L5k

theorem escapes_ofL5k (s : List Char) : Escapes (Document.ofL5k s) ↔ L5k.MisreadText s := by
  unfold Document.ofL5k L5k.MisreadText
  by_cases h : Text.trim s = []
  · rw [if_pos (by simp [h]), Reading.escapes_bind]
    refine iff_of_false ?_ fun hm => hm.1 h
    rintro (hf | ⟨a, ha, -⟩)
    · exact not_escapes_parse _ _ hf
    · cases ha
  · rw [if_neg (by simp [h]), Reading.escapes_bind_of_right, Reading.escapes_ofExcept,
      L5k.escapes_checkRevision, and_iff_right h]
    intro revision
    rw [Reading.escapes_bind_of_right]
    · exact L5k.not_escapes_blocks _ _
    · intro l
      cases l with
      | nil => exact not_escapes_parse _ _
      | cons controller l =>
        show ¬ Escapes (_ >>= _ : Reading Document)
        rw [Reading.escapes_bind_of_right]
        · exact L5k.not_escapes_blocks _ _
        · intro blocks
          rw [Reading.escapes_bind_of_right fun _ => Reading.not_escapes_pure _]
          intro hpart
          obtain ⟨b, -, hb⟩ := Reading.mem_of_escapes_each hpart
          exact L5k.not_escapes_part b hb

end LadderAtlas
