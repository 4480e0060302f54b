import LadderAtlas.Store

/-! # The log of a store

`perform` answers a request to a store and says what it has done as events; `run` answers requests
from an empty store on. The other definitions read a log alone: `life` is the part of it that counts
for a file, `versions` what the file holds, `lastAttempt?` how the last work on it went, and `Live`
says of one version that it has not been deleted. Each has a lemma for a log with one more event. -/

namespace LadderAtlas.Store

/-- What may change a store. -/
inductive Request where
  | register (projectId fileName : String) (kind folderId fileId : Option String)
  | ingest (id : String) (bytes : List UInt8)
  | delete (id : String)

/-- What a request has done. The event of a parse that succeeds holds the snapshot it returned. -/
inductive Event where
  | registered (record : FileRecord)
  | ingested (snapshot : Snapshot)
  | failed (id : String)
  | deleted (id : String)

/-- Events, oldest first. -/
abbrev Log := List Event

/-- Answers a request. A registration or deletion that is refused has no event. -/
def perform (config : Config) (s : Store) : Request → Log × Store
  | .register projectId fileName kind folderId fileId =>
    match s.register projectId fileName kind folderId fileId with
    | .ok (record, s) => ([.registered record], s)
    | .error _ => ([], s)
  | .ingest id bytes =>
    match s.ingest config id bytes with
    | (.ok snapshot, s) => ([.ingested snapshot], s)
    | (.error _, s) => ([.failed id], s)
  | .delete id =>
    match s.delete id with
    | .ok s => ([.deleted id], s)
    | .error _ => ([], s)

/-- Answers requests in order, from an empty store on. -/
def run (config : Config) (requests : List Request) : Log × Store :=
  requests.foldl (fun (log, s) r => (log ++ (s.perform config r).1, (s.perform config r).2)) ([], {})

namespace Event

def registers (id : String) : Event → Bool
  | .registered record => record.id = id
  | _ => false

def deletes (id : String) : Event → Bool
  | .deleted file => file = id
  | _ => false

/-- Whether an event is a registration of a file or a parse of it. -/
def attempts (id : String) : Event → Bool
  | .registered record => record.id = id
  | .ingested v => v.fileId = id
  | .failed file => file = id
  | .deleted _ => false

/-- The version that an event adds to a file. -/
def version? (id : String) : Event → Option Snapshot
  | .ingested v => if v.fileId = id then some v else none
  | _ => none

end Event

/-- The events since the last deletion of a file, from its first registration after it on. -/
def life (id : String) (log : Log) : Log :=
  ((log.reverse.takeWhile (!·.deletes id)).reverse).dropWhile (!·.registers id)

/-- The versions added to a file in its present life. -/
def versionsIn (id : String) (log : Log) : List Snapshot := (life id log).filterMap (·.version? id)

/-- The last registration or parse of a file. -/
def lastAttempt? (id : String) (log : Log) : Option Event := (log.filter (·.attempts id)).getLast?

/-- A version has been added, and its file has not been deleted since. -/
def Live (log : Log) (v : Snapshot) : Prop :=
  ∃ before after, log = before ++ .ingested v :: after ∧ .deleted v.fileId ∉ after

section snoc
variable (id : String) (log : Log) (e : Event)

theorem life_snoc : life id (log ++ [e]) =
    if e.deletes id then []
    else if life id log = [] then (if e.registers id then [e] else [])
    else life id log ++ [e] := by
  unfold life
  rw [List.reverse_append, List.reverse_singleton, List.singleton_append, List.takeWhile_cons]
  by_cases hd : e.deletes id
  · simp [hd]
  · simp only [hd, Bool.not_false, if_true, List.reverse_cons, List.dropWhile_append]
    by_cases hl : life id log = []
    · have hl' := hl
      unfold life at hl'
      rw [hl']
      by_cases hr : e.registers id <;> simp [hr]
    · have hl' := hl
      unfold life at hl'
      rw [if_neg hl', if_neg (by simpa using hl')]
      simp

theorem lastAttempt?_snoc :
    lastAttempt? id (log ++ [e]) = if e.attempts id then some e else lastAttempt? id log := by
  unfold lastAttempt?
  rw [List.filter_append]
  by_cases h : e.attempts id <;> simp [h]

theorem live_snoc {log : Log} {e : Event} {v : Snapshot} :
    Live (log ++ [e]) v ↔ e = .ingested v ∨ (Live log v ∧ e ≠ .deleted v.fileId) := by
  constructor
  · rintro ⟨before, after, h, hd⟩
    rcases List.eq_nil_or_concat after with rfl | ⟨after', e', rfl⟩
    · obtain ⟨-, he⟩ := List.append_inj' h rfl
      exact .inl (List.singleton_inj.1 he)
    · rw [List.concat_eq_append, ← List.cons_append, ← List.append_assoc] at h
      obtain ⟨hlog, he⟩ := List.append_inj' h rfl
      rw [List.concat_eq_append, List.mem_append, not_or] at hd
      exact .inr ⟨⟨before, after', hlog, hd.1⟩, fun h => hd.2 (by rw [← h, ← he]; simp)⟩
  · rintro (rfl | ⟨⟨before, after, rfl, hd⟩, he⟩)
    · exact ⟨log, [], rfl, List.not_mem_nil⟩
    · refine ⟨before, after ++ [e], by simp, fun h => ?_⟩
      rcases List.mem_append.1 h with h | h
      · exact hd h
      · exact he (List.mem_singleton.1 h).symm

end snoc

theorem not_live_nil (v : Snapshot) : ¬ Live [] v := by
  rintro ⟨before, after, h, -⟩
  simp at h

/-- A file is registered after one more event if it was, or is by this one, and is not deleted. -/
theorem life_snoc_ne_nil {id : String} {log : Log} {e : Event} :
    life id (log ++ [e]) ≠ [] ↔ e.deletes id = false ∧ (e.registers id = true ∨ life id log ≠ []) := by
  rw [life_snoc]
  by_cases hd : e.deletes id
  · simp [hd]
  · by_cases hl : life id log = []
    · by_cases hr : e.registers id <;> simp [hd, hl, hr]
    · simp [hd, hl]

theorem versionsIn_of_life_nil {id : String} {log : Log} (h : life id log = []) : versionsIn id log = [] := by
  unfold versionsIn
  rw [h, List.filterMap_nil]

/-- The versions of a file after one more event of its life. -/
theorem versionsIn_snoc {id : String} {log : Log} {e : Event} (hd : e.deletes id = false)
    (hl : life id log ≠ []) : versionsIn id (log ++ [e]) = versionsIn id log ++ (e.version? id).toList := by
  unfold versionsIn
  rw [life_snoc, hd, if_neg hl, if_neg (by simp), List.filterMap_append]
  cases hv : e.version? id <;> simp [hv]

theorem versionsIn_snoc_of_deletes {id : String} {log : Log} {e : Event} (hd : e.deletes id = true) :
    versionsIn id (log ++ [e]) = [] := by
  unfold versionsIn
  rw [life_snoc, if_pos hd, List.filterMap_nil]

/-- Only a version of a file or its deletion changes its versions. -/
theorem versionsIn_snoc_of_none {id : String} {log : Log} {e : Event} (hd : e.deletes id = false)
    (hv : e.version? id = none) : versionsIn id (log ++ [e]) = versionsIn id log := by
  by_cases hl : life id log = []
  · rw [versionsIn_of_life_nil hl]
    unfold versionsIn
    rw [life_snoc, hd, if_neg (by simp), if_pos hl]
    by_cases hr : e.registers id <;> simp [hr, hv]
  · rw [versionsIn_snoc hd hl, hv, Option.toList_none, List.append_nil]

theorem fileId_of_mem_versionsIn {id : String} {log : Log} {v : Snapshot} (h : v ∈ versionsIn id log) :
    v.fileId = id := by
  obtain ⟨e, -, he⟩ := List.mem_filterMap.1 h
  cases e with
  | ingested w =>
    simp only [Event.version?] at he
    split at he
    · rename_i hw
      rw [← Option.some.inj he, hw]
    · simp at he
  | _ => simp [Event.version?] at he

end LadderAtlas.Store
