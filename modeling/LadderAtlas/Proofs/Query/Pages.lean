import LadderAtlas.Project
import LadderAtlas.Proofs.StableSort
import Mathlib.Data.List.Infix

/-!
# Listings page by page

A listing that is read page by page is read whole: the pages are its consecutive parts (`pages_of`), so none of its
items is lost or comes twice. What is asked for is filtered first and sorted next, and pages are cut last
(`referencePage_pages`, `unusedPage_pages`).
-/

namespace LadderAtlas

/-! ### Pages of a list -/

/-- The pages of a listing `l`, of which the first `n` are not empty. Every page but the last of these is full. -/
structure Pages {α : Type} (page : Int → Page α) (size : Int) (l : List α) (n : Nat) : Prop where
  whole : (List.range n).flatMap (fun i : Nat => (page (i + 1)).items) = l
  ne_nil_iff : ∀ k : Int, 1 ≤ k → ((page k).items ≠ [] ↔ k ≤ n)
  full : ∀ k : Int, 1 ≤ k → k < n → (page k).items.length = max 1 (min 100 size)
  total : ∀ k, (page k).total = l.length
  below : ∀ k, k < 1 → page k = page 1

namespace Page
variable {α : Type} (l : List α) (size : Int)

/-- The size of a page when a size is asked for. -/
def sizeFor (size : Int) : Nat := (max 1 (min maxSize size)).toNat

theorem sizeFor_pos : 0 < sizeFor size := by
  rw [sizeFor]
  omega

theorem items_of_succ (i : Nat) :
    (of l (i + 1) size).items = (l.drop (i * sizeFor size)).take (sizeFor size) := by
  have hnumber : max 1 ((i : Int) + 1) = i + 1 := by omega
  have hstart : (((i : Int) + 1 - 1) * max 1 (min maxSize size)).toNat = i * sizeFor size := by
    rw [Int.add_sub_cancel, Int.toNat_mul (by omega) (by omega), Int.toNat_natCast, sizeFor]
  simp only [of, hnumber, hstart]
  rfl

/-- The first pages hold the beginning of the list. -/
theorem flatMap_parts (s n : Nat) :
    (List.range n).flatMap (fun i => (l.drop (i * s)).take s) = l.take (n * s) := by
  induction n with
  | zero => simp
  | succ n ih =>
    rw [List.range_succ, List.flatMap_append, ih, List.flatMap_singleton, Nat.succ_mul, List.take_add]

/-- How many pages are not empty. -/
def countFor : Nat := (l.length + sizeFor size - 1) / sizeFor size

theorem lt_countFor_iff (i : Nat) : i < countFor l size ↔ i * sizeFor size < l.length := by
  rw [countFor, Nat.lt_iff_add_one_le, Nat.le_div_iff_mul_le (sizeFor_pos size), Nat.succ_mul]
  have := sizeFor_pos size
  omega

theorem pages_of : Pages (of l · size) size l (countFor l size) where
  whole := by
    have hall : l.length ≤ countFor l size * sizeFor size :=
      Nat.not_lt.1 fun h => Nat.lt_irrefl _ ((lt_countFor_iff l size _).2 h)
    simp only [items_of_succ]
    rw [flatMap_parts, List.take_of_length_le hall]
  ne_nil_iff k hk := by
    obtain ⟨i, rfl⟩ : ∃ i : Nat, k = i + 1 := ⟨(k - 1).toNat, by omega⟩
    have hpos := sizeFor_pos size
    have hlt := lt_countFor_iff l size i
    rw [items_of_succ, ← List.length_pos_iff, List.length_take, List.length_drop]
    omega
  full k hk hn := by
    obtain ⟨i, rfl⟩ : ∃ i : Nat, k = i + 1 := ⟨(k - 1).toNat, by omega⟩
    -- the page behind this one is not empty
    have hlt : (i + 1) * sizeFor size < l.length := (lt_countFor_iff l size (i + 1)).1 (by omega)
    have hsize : (sizeFor size : Int) = max 1 (min 100 size) := Int.toNat_of_nonneg (by omega)
    rw [items_of_succ, List.length_take, List.length_drop, ← hsize]
    rw [Nat.succ_mul] at hlt
    omega
  total _ := rfl
  below k hk := by
    have hnumber : max 1 k = max 1 1 := by omega
    simp only [of, hnumber]

end Page

/-! ### What is asked for -/

/-- Whether a text is met by a criterion; none, the empty word and `all` are met by every text. -/
def Meets (word : Option String) (s : String) : Prop :=
  word = none ∨ word = some "" ∨ word = some "all" ∨ word = some s

instance (word : Option String) (s : String) : Decidable (Meets word s) := inferInstanceAs (Decidable (_ ∨ _))

/-- Whether what is searched for, if anything, is a part of a name without regard to case. -/
def Mentions (search : Option String) (name : String) : Prop :=
  ∀ s ∈ search, Text.lower s.toList <:+: Text.lower name.toList

instance (search : Option String) (name : String) : Decidable (Mentions search name) :=
  inferInstanceAs (Decidable (∀ s ∈ search, _))

theorem hasPart_iff (part s : List Char) : Text.hasPart part s = true ↔ part <:+: s := by
  induction s with
  | nil => rw [Text.hasPart, List.isEmpty_iff, List.infix_nil]
  | cons c s ih => rw [Text.hasPart, Bool.or_eq_true, List.isPrefixOf_iff_prefix, ih, List.infix_cons_iff]

theorem mentions_iff (search : Option String) (name : String) :
    (search.getD "" = "" || occursIn (search.getD "") name) = true ↔ Mentions search name := by
  cases search with
  | none => simp [Mentions]
  | some s =>
    simp only [Mentions, occursIn, hasPart_iff, Option.getD_some, Bool.or_eq_true, decide_eq_true_iff,
      Option.mem_some_iff, forall_eq']
    constructor
    · rintro (rfl | h)
      · exact List.nil_infix
      · exact h
    · exact .inr

theorem meets_iff (word : Option String) (s : String) : (criterion? word).all (· = s) = true ↔ Meets word s := by
  cases word with
  | none => simp [criterion?, Meets]
  | some w =>
    simp only [criterion?, Meets, Option.all_filter, Option.all_some]
    by_cases h : w = "" <;> by_cases h' : w = "all" <;> simp [h, h']

/-! ### References -/

/-- A word that asks for a use of tags, or for every one. -/
def IsUsageWord (word : Option String) : Prop :=
  word = none ∨ word = some "" ∨ word = some "all" ∨ ∃ u : Usage, word = some u.name

namespace ReferenceFilter

theorem usageOf_name (u : Usage) : usageOf (some u.name) = .ok (some u) := by
  cases u <;> rfl

theorem meets_name_iff (u v : Usage) : Meets (some u.name) v.name ↔ u = v := by
  cases u <;> cases v <;> decide

/-- A word for a use is understood as that use. -/
theorem exists_usageOf {word : Option String} (h : IsUsageWord word) :
    ∃ usage, usageOf word = .ok usage ∧ ∀ u : Usage, usage.all (· = u) = true ↔ Meets word u.name := by
  obtain rfl | rfl | rfl | ⟨u, rfl⟩ := h
  · exact ⟨none, rfl, fun u => by simp [Meets]⟩
  · exact ⟨none, rfl, fun u => by simp [Meets]⟩
  · exact ⟨none, rfl, fun u => by simp [Meets]⟩
  · exact ⟨some u, usageOf_name u, fun v => by rw [meets_name_iff, Option.all_some, decide_eq_true_iff]⟩

end ReferenceFilter

/-- A reference that is asked for: part of the name of its tag, how it uses the tag, and its program. -/
def TagReference.Asked (search word program : Option String) (r : TagReference) : Prop :=
  Mentions search r.tagName ∧ Meets word r.usage.name ∧ Meets program r.programName

instance (search word program : Option String) (r : TagReference) : Decidable (r.Asked search word program) :=
  inferInstanceAs (Decidable (_ ∧ _))

theorem referencePage_pages (snapshots : List Snapshot) (search : Option String) {word : Option String}
    (program : Option String) (hword : IsUsageWord word) (size : Int) :
    ∃ usage, ReferenceFilter.usageOf word = .ok usage ∧ ∃ l n,
      IsStableSort TagReference.sortKey ((allReferences snapshots).filter (·.Asked search word program)) l ∧
        Pages (referencePage snapshots ⟨search, usage, program⟩ · size) size l n := by
  obtain ⟨usage, hok, hmeets⟩ := ReferenceFilter.exists_usageOf hword
  have hadmits : ReferenceFilter.admits ⟨search, usage, program⟩ = fun r => decide (r.Asked search word program) := by
    funext r
    rw [Bool.eq_iff_iff, decide_eq_true_iff, ReferenceFilter.admits, Bool.and_eq_true, Bool.and_eq_true, mentions_iff,
      hmeets, meets_iff, TagReference.Asked, and_assoc]
  refine ⟨usage, hok, ReferenceFilter.apply ⟨search, usage, program⟩ (allReferences snapshots), _, ?_,
    Page.pages_of _ _⟩
  rw [ReferenceFilter.apply, hadmits]
  exact isStableSort_mergeSort TagReference.le_iff _

/-! ### Unused tags -/

/-- A tag that is asked for: part of its name, its scope and its type. -/
def Tag.Asked (f : TagFilter) (t : Tag) : Prop :=
  Mentions f.search t.name ∧ Meets f.scope t.scope ∧ Meets f.dataType t.dataType

instance (f : TagFilter) (t : Tag) : Decidable (t.Asked f) := inferInstanceAs (Decidable (_ ∧ _))

theorem unusedPage_pages (p : Project) (f : TagFilter) (size : Int) :
    ∃ l n, IsStableSort Tag.sortKey (p.unused.filter (·.Asked f)) l ∧ Pages (p.unusedPage f · size) size l n := by
  have hadmits : f.admits = fun t => decide (t.Asked f) := by
    funext t
    rw [Bool.eq_iff_iff, decide_eq_true_iff, TagFilter.admits, Bool.and_eq_true, Bool.and_eq_true, mentions_iff,
      meets_iff, meets_iff, Tag.Asked, and_assoc]
  refine ⟨f.apply p.unused, _, ?_, Page.pages_of _ _⟩
  rw [TagFilter.apply, hadmits]
  exact isStableSort_mergeSort Tag.le_iff _

/-- References and unused tags that are read page by page are the sorted listing of all that is asked for. -/
theorem pages_whole (snapshots : List Snapshot) (search word program : Option String) (p : Project) (f : TagFilter)
    (size : Int) (hword : IsUsageWord word) :
    (∃ usage, ReferenceFilter.usageOf word = .ok usage ∧ ∃ l n,
      IsStableSort TagReference.sortKey ((allReferences snapshots).filter (·.Asked search word program)) l ∧
        Pages (referencePage snapshots ⟨search, usage, program⟩ · size) size l n) ∧
    ∃ l n, IsStableSort Tag.sortKey (p.unused.filter (·.Asked f)) l ∧ Pages (p.unusedPage f · size) size l n :=
  ⟨referencePage_pages snapshots search program hword size, unusedPage_pages p f size⟩

def motorSnapshots : List Snapshot := [
  { fileId := "f1", versionId := "v1", document := { kind := .l5k }
    references := [
      { tagName := "Motor1.Run", programName := "Main", routineName := "Start", rungNumber := 2, usage := .read },
      { tagName := "Motor1.Run", programName := "Main", routineName := "Start", rungNumber := 0, usage := .write },
      { tagName := "Motor1.Fault", programName := "Main", routineName := "Stop", rungNumber := 1, usage := .read },
      { tagName := "Motor1.Run", programName := "Main", routineName := "Start", rungNumber := 0, usage := .read }] }]

/-- Three references on two pages. -/
theorem pages_whole_motor : IsUsageWord (some "Read") ∧
    ∃ usage, ReferenceFilter.usageOf (some "Read") = .ok usage ∧ ∃ l n,
      IsStableSort TagReference.sortKey
        ((allReferences motorSnapshots).filter (·.Asked (some "MOTOR") (some "Read") (some "all"))) l ∧
        Pages (referencePage motorSnapshots ⟨some "MOTOR", usage, some "all"⟩ · 2) 2 l n := by
  have hword : IsUsageWord (some "Read") := .inr (.inr (.inr ⟨.read, rfl⟩))
  refine ⟨hword, ?_⟩
  exact (pages_whole motorSnapshots (some "MOTOR") (some "Read") (some "all") ⟨motorSnapshots, {}⟩ {} 2 hword).1

end LadderAtlas
