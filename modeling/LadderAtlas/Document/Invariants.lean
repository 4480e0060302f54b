import LadderAtlas.Failure

/-! # Invariants of documents

In a document that may become a snapshot no tag is declared twice in one scope, no rung number
stands twice in one routine, and at most one task runs continuously. `check` refuses every other
document. -/

namespace LadderAtlas

/-- The items that occur more than once, each listed at every place but its last. -/
def repeated {α : Type} [BEq α] : List α → List α
  | [] => []
  | a :: l => if l.contains a then a :: repeated l else repeated l

/-- The least item by an order. -/
def least? {α : Type} (le : α → α → Bool) : List α → Option α
  | [] => none
  | a :: l =>
    match least? le l with
    | none => some a
    | some b => if le a b then some a else some b

theorem repeated_eq_nil_iff {α : Type} [BEq α] [LawfulBEq α] (l : List α) : repeated l = [] ↔ l.Nodup := by
  induction l with
  | nil => simp [repeated]
  | cons a l ih => by_cases h : a ∈ l <;> simp [repeated, h, ih]

theorem least?_eq_none_iff {α : Type} (le : α → α → Bool) (l : List α) : least? le l = none ↔ l = [] := by
  cases l with
  | nil => simp [least?]
  | cons a l =>
    simp only [least?, reduceCtorEq, iff_false]
    split
    · simp
    · split <;> simp

namespace Document

/-- Scope and name of a tag. -/
def tagKey (t : Tag) : String × String := (t.scope, t.name)

/-- Program, routine and number of a rung. -/
def rungKey (r : Rung) : String × String × Int := (r.programName, r.routineName, r.number)

def tagKeyLe : String × String → String × String → Bool := pairLe textLe textLe

def rungKeyLe : String × String × Int → String × String × Int → Bool :=
  pairLe textLe (pairLe textLe fun m n => decide (m ≤ n))

def continuousTasks (d : Document) : List String :=
  (d.tasks.filter (·.type = continuousType)).map (·.name)

/-- Why a document is refused, if it is; the least key that is repeated is named. -/
def violation? (d : Document) : Option ParseCause :=
  match least? tagKeyLe (repeated (d.tags.map tagKey)) with
  | some (scope, name) => some (.duplicateTag scope name)
  | none =>
    match least? rungKeyLe (repeated (d.rungs.map rungKey)) with
    | some (program, routine, number) => some (.duplicateRung program routine number)
    | none =>
      if 1 < d.continuousTasks.length then some (.severalContinuousTasks d.continuousTasks) else none

/-- Refuses a document that violates an invariant. -/
def check (d : Document) : Except Failure Unit :=
  match d.violation? with
  | some cause => .error (.parse d.kind cause)
  | none => .ok ()

/-- In a document that is not refused no tag is declared twice in one scope. -/
theorem nodup_tagKeys_of_check {d : Document} (h : d.check = .ok ()) : (d.tags.map tagKey).Nodup := by
  rw [← repeated_eq_nil_iff, ← least?_eq_none_iff tagKeyLe]
  cases hl : least? tagKeyLe (repeated (d.tags.map tagKey)) with
  | none => rfl
  | some k => simp [check, violation?, hl] at h

end Document

end LadderAtlas
