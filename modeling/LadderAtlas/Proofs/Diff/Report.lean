import LadderAtlas.Diff.Report
import LadderAtlas.Proofs.Diff.Changes
import LadderAtlas.Snapshot

/-! # What a comparison of documents reports

A report lists the keyed differences of tags, routines, modules and tasks, and neither more nor less
(`compare_exact`). Comparing in the other direction exchanges what is added and what is removed and
leaves the rest in place, and a document does not differ from itself (`compare_mirrored`). -/

namespace LadderAtlas.Diff
open Changes

/-! ### What is compared -/

def SameTag (a b : Tag) : Prop := a.dataType = b.dataType ∧ a.scope = b.scope ∧ a.description = b.description

def SameRoutine (a b : Routine) : Prop :=
  a.type = b.type ∧ a.rungCount = b.rungCount ∧ a.description = b.description

def SameModule (a b : IoModule) : Prop :=
  a.catalogNumber = b.catalogNumber ∧ a.parentModule = b.parentModule ∧ a.slot = b.slot

def SameTask (a b : Task) : Prop :=
  a.type = b.type ∧ a.rate = b.rate ∧ a.priority = b.priority ∧ a.watchdog = b.watchdog ∧
    a.inhibitTask = b.inhibitTask ∧ a.scheduledPrograms = b.scheduledPrograms

def routineKey (r : Routine) : String × String := (r.programName, r.name)

theorem isOrder_routineKey : IsOrder (pairLe textLe textLe) := isOrder_pairLe isOrder_textLe isOrder_textLe

theorem isDifference_compareTags (old new : List Tag) :
    IsDifference (·.name) (· < ·) SameTag old new (compareTags old new) := by
  refine isDifference_between isOrder_textLe (fun _ _ => lt_of_textLe) fun a b => ?_
  simp [SameTag]

theorem isDifference_compareRoutines (old new : List Routine) :
    IsDifference routineKey PairLt SameRoutine old new (compareRoutines old new) := by
  refine isDifference_between isOrder_routineKey (fun _ _ => pairLt_of_pairLe) fun a b => ?_
  simp [SameRoutine]

theorem isDifference_compareModules (old new : List IoModule) :
    IsDifference (·.name) (· < ·) SameModule old new (compareModules old new) := by
  refine isDifference_between isOrder_textLe (fun _ _ => lt_of_textLe) fun a b => ?_
  simp [SameModule]

theorem isDifference_compareTasks (old new : List Task) :
    IsDifference (·.name) (· < ·) SameTask old new (compareTasks old new) := by
  refine isDifference_between isOrder_textLe (fun _ _ => lt_of_textLe) fun a b => ?_
  simp [SameTask]

/-! ### The order of declarations -/

/-- Two documents with the same declarations, each kind in an order of its own. -/
structure Reordered (d d' : Document) : Prop where
  tags : d.tags.Perm d'.tags
  routines : d.routines.Perm d'.routines
  modules : d.modules.Perm d'.modules
  udts : d.udts.Perm d'.udts
  aois : d.aois.Perm d'.aois
  tasks : d.tasks.Perm d'.tasks

theorem Reordered.refl (d : Document) : Reordered d d := ⟨.refl _, .refl _, .refl _, .refl _, .refl _, .refl _⟩

/-- Each key stands once in either list. -/
def DistinctBy {κ α : Type} (key : α → κ) (old new : List α) : Prop := (old.map key).Nodup ∧ (new.map key).Nodup

/-- Two reports agree on every kind whose keys are distinct in both of the documents compared. -/
structure AgreesOnDistinct (old new : Document) (r r' : Report) : Prop where
  tags : DistinctBy (·.name) old.tags new.tags → r.tags = r'.tags
  routines : DistinctBy routineKey old.routines new.routines → r.routines = r'.routines
  modules : DistinctBy (·.name) old.modules new.modules → r.modules = r'.modules
  udts : DistinctBy (·.name) old.udts new.udts → r.udts = r'.udts
  aois : DistinctBy (·.name) old.aois new.aois → r.aois = r'.aois
  tasks : DistinctBy (·.name) old.tasks new.tasks → r.tasks = r'.tasks

theorem agreesOnDistinct_compare {old new old' new' : Document} (ho : Reordered old old') (hn : Reordered new new') :
    AgreesOnDistinct old new (.compare old' new') (.compare old new) where
  tags h := between_perm isOrder_textLe ho.tags hn.tags h.1 h.2
  routines h := between_perm isOrder_routineKey ho.routines hn.routines h.1 h.2
  modules h := between_perm isOrder_textLe ho.modules hn.modules h.1 h.2
  udts h := between_perm isOrder_textLe ho.udts hn.udts h.1 h.2
  aois h := between_perm isOrder_textLe ho.aois hn.aois h.1 h.2
  tasks h := between_perm isOrder_textLe ho.tasks hn.tasks h.1 h.2

namespace Report

/-- A report lists what is removed, added and modified of each kind and nothing else, each list ascends
by key, the total counts three of the kinds, and the order of the declarations shows only where keys are
repeated. -/
theorem compare_exact (old new : Document) :
    IsDifference (·.name) (· < ·) SameTag old.tags new.tags (compare old new).tags ∧
    IsDifference routineKey PairLt SameRoutine old.routines new.routines (compare old new).routines ∧
    IsDifference (·.name) (· < ·) SameModule old.modules new.modules (compare old new).modules ∧
    IsDifference (·.name) (· < ·) SameTask old.tasks new.tasks (compare old new).tasks ∧
    (let r := compare old new
     r.totalChanges =
      r.tags.added.length + r.tags.removed.length + r.tags.modified.length +
      (r.routines.added.length + r.routines.removed.length + r.routines.modified.length) +
      (r.modules.added.length + r.modules.removed.length + r.modules.modified.length)) ∧
    ∀ old' new', Reordered old old' → Reordered new new' →
      AgreesOnDistinct old new (compare old' new') (compare old new) :=
  ⟨isDifference_compareTags _ _, isDifference_compareRoutines _ _, isDifference_compareModules _ _,
    isDifference_compareTasks _ _, rfl, fun _ _ => agreesOnDistinct_compare⟩

def ofTags (l : List Tag) : Document := { kind := .l5k, tags := l }

def pumpBefore : List Tag := [{ name := "Speed", dataType := "REAL" }, { name := "Run", dataType := "DINT" }]

/-- One tag has changed its type, and one is new. -/
def pumpAfter : List Tag := [
  { name := "Speed", dataType := "REAL" }, { name := "Run", dataType := "BOOL" },
  { name := "Alarm", dataType := "BOOL" }]

theorem compare_exact_pump :
    Reordered (ofTags pumpAfter) (ofTags pumpAfter.reverse) ∧ DistinctBy (·.name) pumpBefore pumpAfter ∧
    (compare (ofTags pumpBefore) (ofTags pumpAfter.reverse)).tags =
      (compare (ofTags pumpBefore) (ofTags pumpAfter)).tags := by
  have hafter : Reordered (ofTags pumpAfter) (ofTags pumpAfter.reverse) :=
    ⟨(List.reverse_perm _).symm, .refl _, .refl _, .refl _, .refl _, .refl _⟩
  have hkeys : DistinctBy (·.name) pumpBefore pumpAfter := ⟨by decide, by decide⟩
  obtain ⟨-, -, -, -, -, hsame⟩ := compare_exact (ofTags pumpBefore) (ofTags pumpAfter)
  exact ⟨hafter, hkeys, (hsame _ _ (.refl _) hafter).tags hkeys⟩

/-! ### Both directions -/

def empty : Report := ⟨.empty, .empty, .empty, .empty, .empty, .empty⟩

/-- One report is the other one read backwards. -/
structure Mirrors (r r' : Report) : Prop where
  tags : Diff.Mirrors r.tags r'.tags
  routines : Diff.Mirrors r.routines r'.routines
  modules : Diff.Mirrors r.modules r'.modules
  udts : Diff.Mirrors r.udts r'.udts
  aois : Diff.Mirrors r.aois r'.aois
  tasks : Diff.Mirrors r.tasks r'.tasks

/-- Two reports have the same modified tags, routines, modules and tasks, by their keys. -/
structure SameModifiedKeys (r r' : Report) : Prop where
  tags : r.tags.modifiedKeys (·.name) = r'.tags.modifiedKeys (·.name)
  routines : r.routines.modifiedKeys routineKey = r'.routines.modifiedKeys routineKey
  modules : r.modules.modifiedKeys (·.name) = r'.modules.modifiedKeys (·.name)
  tasks : r.tasks.modifiedKeys (·.name) = r'.tasks.modifiedKeys (·.name)

theorem mirrors_compare (old new : Document) : Mirrors (compare old new) (compare new old) :=
  ⟨mirrors_between, mirrors_between, mirrors_between, mirrors_between, mirrors_between, mirrors_between⟩

theorem sameModifiedKeys_compare (old new : Document) :
    SameModifiedKeys (compare old new) (compare new old) := by
  refine ⟨modifiedKeys_between isOrder_textLe fun a b => ?_, modifiedKeys_between isOrder_routineKey fun a b => ?_,
    modifiedKeys_between isOrder_textLe fun a b => ?_, modifiedKeys_between isOrder_textLe fun a b => ?_⟩
  all_goals
    simp only [List.append_eq_nil_iff, deltaOf_eq_nil_iff, changeOf_eq_nil_iff]
    grind

theorem totalChanges_eq {r r' : Report} (hm : Mirrors r r') (hk : SameModifiedKeys r r') :
    r.totalChanges = r'.totalChanges := by
  rw [totalChanges, totalChanges, count_eq_of_mirrors hm.tags hk.tags, count_eq_of_mirrors hm.routines hk.routines,
    count_eq_of_mirrors hm.modules hk.modules]

theorem compare_self (d : Document) : compare d d = empty := by
  have htags : compareTags d.tags d.tags = .empty := between_self (by simp) _
  have hroutines : compareRoutines d.routines d.routines = .empty := between_self (by simp) _
  have hmodules : compareModules d.modules d.modules = .empty := between_self (by simp) _
  have hudts : compareUdts d.udts d.udts = .empty := between_self (by simp) _
  have haois : compareAois d.aois d.aois = .empty := between_self (by simp) _
  have htasks : compareTasks d.tasks d.tasks = .empty := between_self (by simp) _
  rw [compare, htags, hroutines, hmodules, hudts, haois, htasks, empty]

/-- Comparing backwards mirrors every kind and keeps which keys are modified and the total; snapshots of one
document show no changes. -/
theorem compare_mirrored (s t : Snapshot) :
    Mirrors (compare s.document t.document) (compare t.document s.document) ∧
    SameModifiedKeys (compare s.document t.document) (compare t.document s.document) ∧
    (compare s.document t.document).totalChanges = (compare t.document s.document).totalChanges ∧
    (s.document = t.document → compare s.document t.document = empty) := by
  have hm := mirrors_compare s.document t.document
  have hk := sameModifiedKeys_compare s.document t.document
  exact ⟨hm, hk, totalChanges_eq hm hk, fun h => h ▸ compare_self _⟩

end Report

end LadderAtlas.Diff
