import LadderAtlas.Proofs.Diff.Report
import Mathlib.Data.List.Nodup
import Mathlib.Tactic.Tauto

/-! # Changes of definitions

The members of a data type and the parameters of an add-on instruction are matched by name, and of the new
parts with a name the last one counts. So an old list is told apart from a new one unless each of its parts is
the last new part with its name (`levelled`): `partDeltas_eq_nil_iff`. This is all that can go unreported about
a definition (`definitions_changed_iff`), and it takes a name that is repeated (`levelled_of_nodup`): the first
of two members with one name may get another type (`compareUdts_misses_retyping`). -/

namespace LadderAtlas.Diff
open Changes

/-! ### Lists of parts -/

section
variable {ρ : Type} {l old new : List (Part ρ)} {a b : Part ρ} {name : String}

def partNames (l : List (Part ρ)) : List String := l.map (·.name)

/-- The list with each part replaced by the last one that has its name. -/
def levelled (l : List (Part ρ)) : List (Part ρ) := l.map fun a => (lastNamed l a.name).getD a

theorem hasNamed_iff : hasNamed l name = true ↔ name ∈ partNames l := by
  simp [hasNamed, partNames]

theorem name_of_lastNamed (h : lastNamed l name = some a) : a.name = name := by
  simpa using List.find?_some h

theorem isSome_lastNamed_iff : (lastNamed l name).isSome ↔ name ∈ partNames l := by
  simp [lastNamed, partNames]

theorem exists_lastNamed (h : name ∈ partNames l) : ∃ a, lastNamed l name = some a :=
  Option.isSome_iff_exists.1 (isSome_lastNamed_iff.2 h)

theorem partNames_levelled (l : List (Part ρ)) : partNames (levelled l) = partNames l := by
  rw [partNames, levelled, List.map_map]
  refine List.map_congr_left fun a ha => ?_
  obtain ⟨b, hb⟩ := exists_lastNamed (List.mem_map_of_mem (f := Part.name) ha)
  simp [hb, name_of_lastNamed hb]

theorem map_some_levelled (l : List (Part ρ)) : (levelled l).map some = (partNames l).map (lastNamed l) := by
  rw [levelled, partNames, List.map_map, List.map_map]
  refine List.map_congr_left fun a ha => ?_
  obtain ⟨b, hb⟩ := exists_lastNamed (List.mem_map_of_mem (f := Part.name) ha)
  simp [hb]

/-- A list is the other one levelled if it has the same names, each with the last part of that name. -/
theorem eq_levelled_iff :
    old = levelled new ↔ partNames old = partNames new ∧ ∀ a ∈ old, lastNamed new a.name = some a := by
  have hlevelled := map_some_levelled new
  constructor
  · rintro rfl
    rw [← partNames_levelled new, partNames, List.map_map, List.map_inj_left] at hlevelled
    exact ⟨partNames_levelled new, fun a ha => (hlevelled a ha).symm⟩
  · rintro ⟨hnames, hlast⟩
    rw [← hnames, partNames, List.map_map] at hlevelled
    have hsome : old.map some = (levelled new).map some :=
      (List.map_congr_left fun a ha => (hlast a ha).symm).trans hlevelled.symm
    exact List.map_injective_iff.2 (fun _ _ => Option.some.inj) hsome

theorem lastNamed_of_nodup (h : (partNames l).Nodup) (ha : a ∈ l) : lastNamed l a.name = some a := by
  obtain ⟨b, hb⟩ := exists_lastNamed (List.mem_map_of_mem (f := Part.name) ha)
  have hmem : b ∈ l := List.mem_reverse.1 (List.mem_of_find?_eq_some hb)
  rw [hb, List.inj_on_of_nodup_map h hmem ha (name_of_lastNamed hb)]

/-- Without repeated names each part is the last with its name. -/
theorem levelled_of_nodup (h : (partNames l).Nodup) : levelled l = l :=
  (eq_levelled_iff.2 ⟨rfl, fun _ ha => lastNamed_of_nodup h ha⟩).symm

variable [DecidableEq ρ] {label : String}

theorem partDelta_eq_nil_iff : partDelta label new a = [] ↔ ∀ b, lastNamed new a.name = some b → a = b := by
  unfold partDelta
  cases lastNamed new a.name with
  | none => simp
  | some b =>
    simp only [Option.some.injEq, forall_eq']
    split
    · rename_i htype
      exact iff_of_false (List.cons_ne_nil _ _) fun hab => htype (hab ▸ rfl)
    · exact changeOf_eq_nil_iff _ _ _

/-- What `partDeltas` says about lists that are not equal. -/
theorem partDeltas_of_ne (h : old ≠ new) : partDeltas label old new = [] ↔
    (∀ name ∈ partNames old, name ∈ partNames new) ∧ (∀ name ∈ partNames new, name ∈ partNames old) ∧
    (∀ a ∈ old, partDelta label new a = []) ∧
    (partNames old).filter (hasNamed new) = (partNames new).filter (hasNamed old) := by
  have hkept (l m : List (Part ρ)) :
      ((partNames l).filter (!hasNamed m ·) = []) ↔ ∀ name ∈ partNames l, name ∈ partNames m := by
    simp [List.filter_eq_nil_iff, hasNamed_iff]
  rw [partDeltas, if_neg h]
  simp only [List.append_eq_nil_iff, List.map_eq_nil_iff, List.flatMap_eq_nil_iff, changeOf_eq_nil_iff, and_assoc]
  exact and_congr (hkept old new) (and_congr (hkept new old) Iff.rfl)

/-- No difference is found if the lists are equal, or the old one is the new one levelled, and only then. -/
theorem partDeltas_eq_nil_iff : partDeltas label old new = [] ↔ old = new ∨ old = levelled new := by
  by_cases h : old = new
  · simp [h]
  rw [or_iff_right h, partDeltas_of_ne h, eq_levelled_iff]
  constructor
  · rintro ⟨hold, hnew, hdelta, hkept⟩
    -- all names are kept, so the names that are kept are all names
    have hall (l m : List (Part ρ)) (hsub : ∀ name ∈ partNames l, name ∈ partNames m) :
        (partNames l).filter (hasNamed m) = partNames l :=
      List.filter_eq_self.2 fun name hname => hasNamed_iff.2 (hsub name hname)
    rw [hall old new hold, hall new old hnew] at hkept
    refine ⟨hkept, fun a ha => ?_⟩
    obtain ⟨b, hb⟩ := exists_lastNamed (hold a.name (List.mem_map_of_mem ha))
    rw [hb, partDelta_eq_nil_iff.1 (hdelta a ha) b hb]
  · rintro ⟨hnames, hlast⟩
    have hhas : hasNamed old = hasNamed new := by
      funext name
      rw [Bool.eq_iff_iff, hasNamed_iff, hasNamed_iff, hnames]
    refine ⟨fun name hname => hnames ▸ hname, fun name hname => hnames ▸ hname, fun a ha => ?_, by rw [hnames, hhas]⟩
    refine partDelta_eq_nil_iff.2 fun b hb => ?_
    rw [hlast a ha] at hb
    exact Option.some.inj hb

end

/-! ### Data types and add-on instructions -/

/-- Two types with the same description whose members are not told apart. -/
def SameUdt (a b : Udt) : Prop :=
  a.description = b.description ∧ (memberParts a = memberParts b ∨ memberParts a = levelled (memberParts b))

def SameAoi (a b : Aoi) : Prop :=
  a.revision = b.revision ∧ a.description = b.description ∧
    (parameterParts a = parameterParts b ∨ parameterParts a = levelled (parameterParts b))

theorem isDifference_compareUdts (old new : List Udt) :
    IsDifference (·.name) (· < ·) SameUdt old new (compareUdts old new) := by
  refine isDifference_between isOrder_textLe (fun _ _ => lt_of_textLe) fun a b => ?_
  simp [SameUdt, partDeltas_eq_nil_iff]

theorem isDifference_compareAois (old new : List Aoi) :
    IsDifference (·.name) (· < ·) SameAoi old new (compareAois old new) := by
  refine isDifference_between isOrder_textLe (fun _ _ => lt_of_textLe) fun a b => ?_
  simp [SameAoi, partDeltas_eq_nil_iff]

/-- Of a first item in the old list and one in the new list that have the same key, the new one is listed as
modified unless they agree. -/
theorem IsDifference.modified_iff {κ α : Type} {key : α → κ} {lt : κ → κ → Prop} {same : α → α → Prop}
    {old new : List α} {c : Changes α} (h : IsDifference key lt same old new c) {a b : α} (ha : IsFirst key old a)
    (hb : IsFirst key new b) (hk : key a = key b) : (∃ ds, (b, ds) ∈ c.modified) ↔ ¬ same a b := by
  classical
  rw [h.modified]
  constructor
  · rintro ⟨-, a', ha', hk', hne⟩
    obtain rfl := ha'.unique ha (hk'.trans hk.symm)
    exact hne
  · exact fun hne => ⟨hb, a, ha, hk, hne⟩

/-- A type or an add-on instruction is listed as modified exactly if what is compared about it differs, but the
parts may differ in that some of the new ones are followed by others of the same name, to which the old ones are
equal. -/
theorem definitions_changed_iff (oldUdts newUdts : List Udt) (oldAois newAois : List Aoi) :
    (∀ a b, IsFirst (·.name) oldUdts a → IsFirst (·.name) newUdts b → a.name = b.name →
      ((∃ ds, (b, ds) ∈ (compareUdts oldUdts newUdts).modified) ↔
        a.description ≠ b.description ∨
          memberParts a ≠ memberParts b ∧ memberParts a ≠ levelled (memberParts b))) ∧
    ∀ a b, IsFirst (·.name) oldAois a → IsFirst (·.name) newAois b → a.name = b.name →
      ((∃ ds, (b, ds) ∈ (compareAois oldAois newAois).modified) ↔
        a.revision ≠ b.revision ∨ a.description ≠ b.description ∨
          parameterParts a ≠ parameterParts b ∧ parameterParts a ≠ levelled (parameterParts b)) := by
  constructor
  · intro a b ha hb hk
    rw [(isDifference_compareUdts oldUdts newUdts).modified_iff ha hb hk, SameUdt]
    tauto
  · intro a b ha hb hk
    rw [(isDifference_compareAois oldAois newAois).modified_iff ha hb hk, SameAoi]
    tauto

/-- A type whose name stands twice among its members, the first time with the given type. -/
def tankType (levelType : String) : Udt where
  name := "Tank"
  members := [{ name := "Level", dataType := levelType }, { name := "Full", dataType := "BOOL" },
    { name := "Level", dataType := "DINT" }]

/-- The change is reported one way round. -/
theorem definitions_changed_iff_tank :
    IsFirst (·.name) [tankType "REAL"] (tankType "REAL") ∧ IsFirst (·.name) [tankType "DINT"] (tankType "DINT") ∧
    ∃ ds, (tankType "DINT", ds) ∈ (compareUdts [tankType "REAL"] [tankType "DINT"]).modified := by
  have hfirst : ∀ type, IsFirst (·.name) [tankType type] (tankType type) := fun type => ⟨[], [], rfl, by simp⟩
  refine ⟨hfirst _, hfirst _, ?_⟩
  have hiff := (definitions_changed_iff [tankType "REAL"] [tankType "DINT"] [] []).1 _ _ (hfirst _) (hfirst _) rfl
  exact hiff.2 (.inr ⟨by decide, by decide⟩)

/-- The other way round it is not: each member is the last new one with its name. -/
theorem compareUdts_misses_retyping :
    memberParts (tankType "DINT") ≠ memberParts (tankType "REAL") ∧
    ¬ ∃ ds, (tankType "REAL", ds) ∈ (compareUdts [tankType "DINT"] [tankType "REAL"]).modified := by
  have hfirst : ∀ type, IsFirst (·.name) [tankType type] (tankType type) := fun type => ⟨[], [], rfl, by simp⟩
  refine ⟨by decide, fun h => ?_⟩
  have hiff := (isDifference_compareUdts [tankType "DINT"] [tankType "REAL"]).modified_iff (hfirst _) (hfirst _) rfl
  exact hiff.1 h ⟨rfl, .inr (by decide)⟩

end LadderAtlas.Diff
