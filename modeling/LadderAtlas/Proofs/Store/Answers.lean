import LadderAtlas.Proofs.Store.Consistent

/-! # What a store answers

`run_answersFrom`: after any requests, what a store says about versions, files and projects is what
the log of the requests says. The lookups are first opened for one store whose versions are numbered
from one (`find?_number`), then read off `Consistent`. -/

namespace LadderAtlas.Store
open Keyed

theorem find?_number {l : List Snapshot} (h : ∀ {i : Nat} {v}, l[i]? = some v → v.versionNumber = i + 1)
    (k : Int) : l.find? (fun v => k == v.versionNumber) = if 1 ≤ k then l[(k - 1).toNat]? else none := by
  apply Option.ext
  intro v
  rw [List.find?_eq_some_iff_getElem]
  constructor
  · rintro ⟨hk, i, hi, rfl, -⟩
    have hn := h (List.getElem?_eq_getElem hi)
    rw [beq_iff_eq] at hk
    rw [if_pos (by omega), show (k - 1).toNat = i by omega, List.getElem?_eq_getElem hi]
  · intro hv
    split at hv
    · have hn := h hv
      obtain ⟨hi, he⟩ := List.getElem?_eq_some_iff.1 hv
      refine ⟨by rw [beq_iff_eq]; omega, _, hi, he, fun j hj => ?_⟩
      have hnj := h (List.getElem?_eq_getElem (Nat.lt_trans hj hi))
      rw [Bool.not_eq_true', beq_eq_false_iff_ne, hnj]
      omega
    · cases hv

section snapshot
variable {s : Store} {id : String} {f : FileRecord}

/-- A version is looked for by its number, or by that of the current one. -/
theorem snapshot_of_find? (hf : get? s.files id = some f) {number : Value} {k : Int} {v : Snapshot}
    (hn : number = .whole k ∨ number = .null ∧ f.isCompleted = true ∧ f.currentVersion = k)
    (hv : (s.versionsOf id).find? (fun v => k == v.versionNumber) = some v) :
    s.snapshot id number = .ok v := by
  have hne : (s.versionsOf id).isEmpty = false := by
    cases hl : s.versionsOf id with
    | nil => simp [hl] at hv
    | cons _ _ => rfl
  have hsame : (fun v : Snapshot => (Value.whole k).same (.whole v.versionNumber)) =
      fun v => k == v.versionNumber := rfl
  simp only [snapshot, file_eq_ok.2 hf, bind, Except.bind, hne, Bool.false_eq_true, if_false]
  rcases hn with rfl | ⟨rfl, hc, rfl⟩
  · simp only [show (Value.whole k).isNull = false from rfl, Bool.false_and, Bool.false_eq_true, if_false,
      hsame, hv]
    rfl
  · simp only [show Value.null.isNull = true from rfl, hc, Bool.not_true, Bool.and_false, Bool.false_eq_true,
      if_false, if_true, hsame, hv]
    rfl

theorem snapshot_whole_of_none (hf : get? s.files id = some f) {k : Int}
    (hv : (s.versionsOf id).find? (fun v => k == v.versionNumber) = none) :
    ∃ m, s.snapshot id (.whole k) = .error (.missing m) := by
  have hsame : (fun v : Snapshot => (Value.whole k).same (.whole v.versionNumber)) =
      fun v => k == v.versionNumber := rfl
  simp only [snapshot, file_eq_ok.2 hf, bind, Except.bind, show (Value.whole k).isNull = false from rfl,
    Bool.false_and, Bool.false_eq_true, if_false, hsame, hv]
  cases (s.versionsOf id).isEmpty <;> exact ⟨_, rfl⟩

theorem snapshot_null_of_not_completed (hf : get? s.files id = some f) (hc : f.isCompleted = false) :
    ∃ m, s.snapshot id .null = .error (.missing m) := by
  simp only [snapshot, file_eq_ok.2 hf, bind, Except.bind, show Value.null.isNull = true from rfl, hc,
    Bool.not_false, Bool.and_true, if_true]
  cases (s.versionsOf id).isEmpty <;> exact ⟨_, rfl⟩

end snapshot

/-- Where each item has a result, a list has the list of them. -/
theorem mapM_eq_ok {ε α β : Type} {f : α → Except ε β} {g : α → Option β} :
    ∀ {l : List α}, (∀ a ∈ l, ∃ b, f a = .ok b ∧ g a = some b) → ∃ bs, l.mapM f = .ok bs ∧ bs.map some = l.map g
  | [], _ => ⟨[], rfl, rfl⟩
  | a :: l, h => by
    obtain ⟨b, hf, hg⟩ := h a (by simp)
    obtain ⟨bs, hbs, hmap⟩ := mapM_eq_ok fun a ha => h a (List.mem_cons_of_mem _ ha)
    refine ⟨b :: bs, ?_, by rw [List.map_cons, List.map_cons, hg, hmap]⟩
    rw [List.mapM_cons, hf, hbs]
    rfl

namespace Consistent
variable {log : Log} {s : Store}

theorem mem_files (h : Consistent log s) (f : FileRecord) :
    f ∈ s.files.map (·.2) ↔ get? s.files f.id = some f := by
  rw [get?_eq_some_iff h.nodup, List.mem_map]
  constructor
  · rintro ⟨⟨id, f'⟩, hf, rfl⟩
    rw [h.ids ((get?_eq_some_iff h.nodup _ _).2 hf)]
    exact hf
  · exact fun hf => ⟨_, hf, rfl⟩

theorem nodup_ids (h : Consistent log s) : ((s.files.map (·.2)).map (·.id)).Nodup := by
  have hkeys : (s.files.map (·.2)).map (·.id) = keys s.files := by
    rw [List.map_map]
    exact List.map_congr_left fun p hp => h.ids ((get?_eq_some_iff h.nodup p.1 p.2).2 hp)
  rw [hkeys]
  exact h.nodup

theorem versionsOf_numbers (h : Consistent log s) (id : String) :
    (versionsIn id log).map (·.versionNumber) =
      (List.range (versionsIn id log).length).map fun i : Nat => (i : Int) + 1 := by
  refine List.ext_getElem (by simp) fun i hi _ => ?_
  rw [List.length_map] at hi
  rw [List.getElem_map, List.getElem_map, List.getElem_range]
  exact h.numbered (List.getElem?_eq_getElem hi)

theorem snapshot_number (h : Consistent log s) {id : String} {f : FileRecord} (hf : get? s.files id = some f)
    {i : Nat} {v : Snapshot} (hv : (versionsIn id log)[i]? = some v) : s.snapshot id (.whole (i + 1)) = .ok v := by
  refine snapshot_of_find? hf (.inl rfl) ?_
  rw [h.versions, find?_number h.numbered, if_pos (by omega), ← hv]
  congr 1
  omega

theorem snapshot_no_number (h : Consistent log s) {id : String} {f : FileRecord}
    (hf : get? s.files id = some f) {k : Int} (hk : ¬ (1 ≤ k ∧ k ≤ (versionsIn id log).length)) :
    ∃ m, s.snapshot id (.whole k) = .error (.missing m) := by
  refine snapshot_whole_of_none hf ?_
  rw [h.versions, find?_number h.numbered]
  split
  · rw [List.getElem?_eq_none]
    omega
  · rfl

theorem snapshot_current (h : Consistent log s) {id : String} {f : FileRecord} (hf : get? s.files id = some f)
    {v : Snapshot} (hl : lastAttempt? id log = some (.ingested v)) : s.snapshot id .null = .ok v := by
  obtain ⟨hlast, hcur⟩ := h.current hf hl
  refine snapshot_of_find? hf (.inr ⟨rfl, (h.completed hf).2 ⟨v, hl⟩, hcur⟩) ?_
  rw [List.getLast?_eq_getElem?] at hlast
  have hn := h.numbered hlast
  rw [h.versions, find?_number h.numbered, if_pos (by omega), ← hlast]
  congr 1
  omega

theorem snapshotsOf (h : Consistent log s) (projectId : String) : ∃ l, s.snapshotsOf projectId = .ok l ∧
    l.map some = ((s.fileList (some projectId)).filter (·.isCompleted)).map fun f =>
      (versionsIn f.id log).getLast? := by
  refine mapM_eq_ok fun f hf => ?_
  obtain ⟨hf, hc⟩ := List.mem_filter.1 hf
  have hf := (h.mem_files f).1 (List.mem_filter.1 hf).1
  obtain ⟨v, hl⟩ := (h.completed hf).1 hc
  exact ⟨v, h.snapshot_current hf hl, (h.current hf hl).1⟩

end Consistent

/-- What a store answers, said of its log. -/
structure AnswersFrom (log : Log) (s : Store) : Prop where
  /-- A version id finds the snapshot of the parse that gave it out, until its file is deleted. -/
  version : ∀ id v, s.version id = .ok v ↔ Live log v ∧ v.versionId = id
  registered : ∀ id, (∃ f, s.file id = .ok f) ↔ life id log ≠ []
  /-- A file has the versions of its present life, numbered from one. -/
  versionList : ∀ id f, s.file id = .ok f → s.versionList id = .ok (versionsIn id log)
  numbers : ∀ id, (versionsIn id log).map (·.versionNumber) =
    (List.range (versionsIn id log).length).map fun i : Nat => (i : Int) + 1
  number : ∀ id f, s.file id = .ok f → ∀ (i : Nat) v, (versionsIn id log)[i]? = some v →
    s.snapshot id (.whole (i + 1)) = .ok v
  noNumber : ∀ id f, s.file id = .ok f → ∀ k : Int, ¬ (1 ≤ k ∧ k ≤ (versionsIn id log).length) →
    ∃ m, s.snapshot id (.whole k) = .error (.missing m)
  /-- The current snapshot is the last version, as long as the last work on the file added it. -/
  current : ∀ id f, s.file id = .ok f → ∀ v, lastAttempt? id log = some (.ingested v) →
    (versionsIn id log).getLast? = some v ∧ s.snapshot id .null = .ok v
  noCurrent : ∀ id f, s.file id = .ok f → (∀ v, lastAttempt? id log ≠ some (.ingested v)) →
    ∃ m, s.snapshot id .null = .error (.missing m)
  completed : ∀ id f, s.file id = .ok f →
    (f.isCompleted = true ↔ ∃ v, lastAttempt? id log = some (.ingested v))
  /-- Each file of a project is listed once. -/
  files : ∀ p f, f ∈ s.fileList (some p) ↔ s.file f.id = .ok f ∧ f.projectId = p
  distinct : ∀ p, ((s.fileList (some p)).map (·.id)).Nodup
  /-- A project lists the last version of each file whose last work added one, and never fails. -/
  listing : ∀ p, ∃ l, s.snapshotsOf p = .ok l ∧
    l.map some = ((s.fileList (some p)).filter (·.isCompleted)).map fun f => (versionsIn f.id log).getLast?

theorem run_answersFrom (config : Config) (requests : List Request) :
    AnswersFrom (run config requests).1 (run config requests).2 := by
  have h := run_consistent config requests
  generalize run config requests = p at h
  obtain ⟨log, s⟩ := p
  refine ⟨fun id v => ?_, fun id => ?_, fun id f hf => ?_, h.versionsOf_numbers, fun id f hf i v hv => ?_,
    fun id f hf k hk => ?_, fun id f hf v hl => ?_, fun id f hf hl => ?_, fun id f hf => ?_, fun p f => ?_,
    fun p => ?_, h.snapshotsOf⟩
  · rw [← h.indexed, Store.version]
    cases get? s.byVersionId id <;> simp
  · simp only [file_eq_ok, ← h.registered, Option.isSome_iff_exists]
  · rw [versionList, hf, h.versions]
    rfl
  · exact h.snapshot_number (file_eq_ok.1 hf) hv
  · exact h.snapshot_no_number (file_eq_ok.1 hf) hk
  · exact ⟨(h.current (file_eq_ok.1 hf) hl).1, h.snapshot_current (file_eq_ok.1 hf) hl⟩
  · refine snapshot_null_of_not_completed (file_eq_ok.1 hf) (Bool.eq_false_iff.2 fun hc => ?_)
    obtain ⟨v, hv⟩ := (h.completed (file_eq_ok.1 hf)).1 hc
    exact hl v hv
  · exact h.completed (file_eq_ok.1 hf)
  · rw [fileList, List.mem_filter, h.mem_files, file_eq_ok]
    simp [eq_comm]
  · exact h.nodup_ids.sublist (List.filter_sublist.map _)

end LadderAtlas.Store
