import LadderAtlas.Proofs.Store.Tables

/-! # A store and its log

`Consistent` ties a store to its log: its tables, as `Tables` does, and how the record of a file says its
last parse went. Every kind of step keeps it, so every run does (`run_consistent`). Steps that add no
version and delete no file are settled together (`Consistent.quiet`). -/

namespace LadderAtlas.Store
open Keyed

/-- The id that is given out at the given count. -/
def idAt (n : Nat) : String := "uuid-" ++ Number.natText n

theorem idAt_inj {m n : Nat} (h : idAt m = idAt n) : m = n := by
  have h := String.ofList_injective ((String.append_right_inj _).1 h)
  rw [← Nat.ofDigitChars_ten_toDigits (n := m), h, Nat.ofDigitChars_ten_toDigits]

/-- An id that has been given out is not the next one. -/
theorem ne_freshId {s : Store} {id : String} (h : ∃ n ≤ s.drawn, id = idAt n) : id ≠ s.freshId.1 := by
  obtain ⟨n, hn, rfl⟩ := h
  intro he
  have hn' : n = s.drawn + 1 := idAt_inj he
  omega

/-- A store says what its log says, in its tables and in the records of its files. -/
structure Consistent (log : Log) (s : Store) : Prop extends Tables log s where
  /-- Ids are given out by count, so the next one is new. -/
  drawn : ∀ {v}, Live log v → ∃ n ≤ s.drawn, v.versionId = idAt n
  completed : ∀ {id r}, get? s.files id = some r →
    (r.isCompleted = true ↔ ∃ v, lastAttempt? id log = some (.ingested v))
  current : ∀ {id r v}, get? s.files id = some r → lastAttempt? id log = some (.ingested v) →
    (versionsIn id log).getLast? = some v ∧ r.currentVersion = v.versionNumber

namespace Consistent
variable {log : Log} {s s' : Store}

theorem empty : Consistent [] {} :=
  ⟨.empty, fun h => absurd h (not_live_nil _), fun h => by simp [get?] at h, fun h => by simp [get?] at h⟩

/-- Steps that neither add a version nor delete a file: only the record of the file that the event is about
changes. -/
theorem quiet (h : Consistent log s) {e : Event} (he : e.Quiet) (ht : Tables (log ++ [e]) s')
    (hfile : ∀ {id r}, get? s'.files id = some r →
      if e.attempts id then r.isCompleted = false else get? s.files id = some r)
    (hdrawn : s.drawn ≤ s'.drawn) : Consistent (log ++ [e]) s' := by
  -- the last attempt on a file is the new event, which is no version, or as before
  have hlast : ∀ {id v}, lastAttempt? id (log ++ [e]) = some (.ingested v) →
      e.attempts id = false ∧ lastAttempt? id log = some (.ingested v) := by
    intro id v hl
    rw [lastAttempt?_snoc] at hl
    by_cases ha : e.attempts id
    · rw [if_pos ha] at hl
      exact absurd (Option.some.inj hl) (he.version v)
    · rw [if_neg ha] at hl
      exact ⟨by simpa using ha, hl⟩
  refine ⟨ht, fun hv => ?_, fun {id r} hr => ?_, fun {id r v} hr hl => ?_⟩
  · obtain ⟨n, hn, hid⟩ := h.drawn ((he.live_snoc log _).1 hv)
    exact ⟨n, Nat.le_trans hn hdrawn, hid⟩
  · have hr' := hfile hr
    by_cases ha : e.attempts id
    · rw [if_pos ha] at hr'
      rw [hr']
      refine ⟨fun h => by simp at h, fun ⟨v, hv⟩ => ?_⟩
      rw [(hlast hv).1] at ha
      simp at ha
    · rw [if_neg ha] at hr'
      rw [h.completed hr', lastAttempt?_snoc, if_neg ha]
  · obtain ⟨ha, hl⟩ := hlast hl
    have hr' := hfile hr
    rw [ha] at hr'
    rw [he.versionsIn_snoc]
    exact h.current hr' hl

theorem insertRecord (h : Consistent log s) {r : FileRecord} (hr : r.isCompleted = false) {drawn : Nat}
    (hd : s.drawn ≤ drawn) : Consistent (log ++ [.registered r]) ({ s with drawn }.insertRecord r) := by
  refine h.quiet (.registered r) ((h.toTables.draw drawn).insertRecord r) (fun {id r'} hr' => ?_) hd
  simp only [Store.insertRecord, get?_put] at hr'
  by_cases hid : id = r.id
  · rw [if_pos hid] at hr'
    simp [Event.attempts, hid, ← Option.some.inj hr', hr]
  · rw [if_neg hid] at hr'
    simp [Event.attempts, Ne.symm hid, hr']

theorem refuse (h : Consistent log s) {id : String} (hf : get? s.files id = none) :
    Consistent (log ++ [.failed id]) s := by
  refine h.quiet (.failed id) (h.toTables.failed id) (fun {id' r} hr => ?_) (Nat.le_refl _)
  have hne : id ≠ id' := by
    rintro rfl
    rw [hf] at hr
    cases hr
  simpa [Event.attempts, hne] using hr

theorem fail (h : Consistent log s) {id : String} {r : FileRecord} (hf : get? s.files id = some r)
    (error : Option String) : Consistent (log ++ [.failed id])
      { s with files := put s.files id { r with status := .failed, error } } := by
  have ht : Tables log { s with files := put s.files id { r with status := .failed, error } } :=
    h.toTables.update hf rfl
  refine h.quiet (.failed id) (ht.failed id) (fun {id' r'} hr' => ?_) (Nat.le_refl _)
  rw [get?_put] at hr'
  by_cases hid : id' = id
  · rw [if_pos hid] at hr'
    simp [Event.attempts, hid, ← Option.some.inj hr', FileRecord.isCompleted]
  · rw [if_neg hid] at hr'
    simp [Event.attempts, Ne.symm hid, hr']

theorem succeed (h : Consistent log s) {r : FileRecord} {v : Snapshot} (hr : get? s.files r.id = some r)
    (hf : v.fileId = r.id) (hid : v.versionId = s.freshId.1)
    (hn : v.versionNumber = (s.versionsOf r.id).length + 1) :
    Consistent (log ++ [.ingested v]) { s with
      files := put s.files r.id
        { r with status := .completed, currentVersion := v.versionNumber, error := none }
      versions := put s.versions r.id (s.versionsOf r.id ++ [v])
      byVersionId := put s.byVersionId v.versionId v
      drawn := s.drawn + 1 } := by
  have hnew : ∀ w, Live log w → w.versionId ≠ v.versionId := fun w hw => hid ▸ ne_freshId (h.drawn hw)
  have ht := (h.toTables.addVersion hr hf hnew hn).draw (s.drawn + 1)
  have hlast : ∀ id, lastAttempt? id (log ++ [.ingested v]) =
      if id = r.id then some (.ingested v) else lastAttempt? id log := by
    intro id
    rw [lastAttempt?_snoc]
    simp [Event.attempts, hf, eq_comm]
  refine ⟨ht, fun {w} hw => ?_, fun {id r'} hr' => ?_, fun {id r' w} hr' hl => ?_⟩
  · rcases (live_snoc_ingested w).1 hw with rfl | hw
    · exact ⟨s.drawn + 1, Nat.le_refl _, hid⟩
    · obtain ⟨n, hn, hid⟩ := h.drawn hw
      exact ⟨n, Nat.le_succ_of_le hn, hid⟩
  · rw [get?_put] at hr'
    rw [hlast]
    by_cases he : id = r.id
    · rw [if_pos he] at hr' ⊢
      simp [← Option.some.inj hr', FileRecord.isCompleted]
    · rw [if_neg he] at hr' ⊢
      exact h.completed hr'
  · rw [get?_put] at hr'
    rw [hlast] at hl
    by_cases he : id = r.id
    · rw [if_pos he] at hr' hl
      obtain rfl := Event.ingested.inj (Option.some.inj hl)
      have hlife : life v.fileId log ≠ [] := (h.registered _).1 (by rw [hf, hr]; rfl)
      rw [he, ← hf, versionsIn_snoc_self hlife, ← Option.some.inj hr']
      exact ⟨List.getLast?_concat, rfl⟩
    · rw [if_neg he] at hr' hl
      rw [versionsIn_snoc_other (hf ▸ he)]
      exact h.current hr' hl

theorem delete (h : Consistent log s) (id : String) : Consistent (log ++ [.deleted id]) { s with
    files := erase s.files id
    versions := erase s.versions id
    byVersionId := s.byVersionId.filter fun p => !((s.versionsOf id).map (·.versionId)).contains p.1 } := by
  have hlast : ∀ id', lastAttempt? id' (log ++ [.deleted id]) = lastAttempt? id' log := by
    intro id'
    rw [lastAttempt?_snoc]
    simp [Event.attempts]
  refine ⟨h.toTables.delete id, fun hv => h.drawn ((live_snoc_deleted _).1 hv).1, fun {id' r} hr => ?_,
    fun {id' r v} hr hl => ?_⟩
  · rw [get?_erase] at hr
    split at hr
    · cases hr
    · rw [hlast]
      exact h.completed hr
  · rw [get?_erase] at hr
    rw [hlast] at hl
    split at hr
    · cases hr
    · rename_i he
      rw [versionsIn_snoc_kept he]
      exact h.current hr hl

theorem step (h : Consistent log s) {e : Event} (hs : Step s e s') : Consistent (log ++ [e]) s' := by
  cases hs with
  | register r drawn hr hd => exact h.insertRecord (isCompleted_of_pending hr) hd
  | refuse id hf => exact h.refuse hf
  | fail id r error hf => exact h.fail hf error
  | succeed r v hr hf hid hn => exact h.succeed hr hf hid hn
  | delete id _ => exact h.delete id

theorem perform (h : Consistent log s) (config : Config) (request : Request) :
    Consistent (log ++ (s.perform config request).1) (s.perform config request).2 := by
  rcases perform_step h.ids config request with he | ⟨e, s', he, hs⟩
  · rw [he, List.append_nil]
    exact h
  · rw [he]
    exact h.step hs

end Consistent

theorem run_consistent (config : Config) (requests : List Request) :
    Consistent (run config requests).1 (run config requests).2 := by
  unfold run
  exact List.foldlRecOn requests _ (motive := fun p : Log × Store => Consistent p.1 p.2) Consistent.empty
    fun _ h request _ => h.perform config request

/-- What holds of the empty store and is kept by every step holds after every run. -/
theorem run_induction {motive : Log → Store → Prop} (hempty : motive [] {})
    (hstep : ∀ {log s e s'}, motive log s → Step s e s' → motive (log ++ [e]) s')
    (config : Config) (requests : List Request) : motive (run config requests).1 (run config requests).2 := by
  have hboth : Consistent (run config requests).1 (run config requests).2 ∧
      motive (run config requests).1 (run config requests).2 := by
    unfold run
    refine List.foldlRecOn requests _ (motive := fun p : Log × Store => Consistent p.1 p.2 ∧ motive p.1 p.2)
      ⟨Consistent.empty, hempty⟩ fun ⟨log, s⟩ h request _ => ?_
    refine ⟨h.1.perform config request, ?_⟩
    show motive (log ++ (s.perform config request).1) (s.perform config request).2
    rcases perform_step h.1.ids config request with he | ⟨e, s', he, hs⟩
    · rw [he, List.append_nil]
      exact h.2
    · rw [he]
      exact hstep h.2 hs
  exact hboth.2

end LadderAtlas.Store
