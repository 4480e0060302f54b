import LadderAtlas.Proofs.Store.Consistent
import LadderAtlas.Proofs.Store.Schedule

/-! # Interleaved ingests

However the steps of ingests, registrations and deletions follow each other, no version is lost, added twice or
added to a file that is gone: `run_intact`. The id of a version is drawn before the lock is taken to add it, so
other versions may come first; the invariant `Sound` therefore also says of the ids that ingests under way keep
that they are used once (`apart`) and by no version yet (`held`). What it says of the store alone is `Settled`. -/

namespace LadderAtlas.Store
open Keyed

/-! ### The store -/

/-- A store that is as its log says, whatever ingests are under way. -/
structure Settled (log : Log) (s : Store) : Prop where
  tables : Tables log s
  keys : keys s.versions = keys s.files
  drawn : ∀ {v}, Live log v → ∃ n ≤ s.drawn, v.versionId = idAt n
  completed : ∀ {id r}, get? s.files id = some r → r.isCompleted = true →
    1 ≤ (s.versionsOf id).length ∧ r.currentVersion = (s.versionsOf id).length ∧ r.error = none

namespace Settled
variable {log : Log} {s s' : Store}

theorem empty : Settled [] {} :=
  ⟨.empty, rfl, fun h => absurd h (not_live_nil _), fun h => by simp [get?] at h⟩

theorem draw (h : Settled log s) {n : Nat} (hn : s.drawn ≤ n) : Settled log { s with drawn := n } := by
  refine ⟨h.tables.draw n, h.keys, fun hv => ?_, h.completed⟩
  obtain ⟨m, hm, hid⟩ := h.drawn hv
  exact ⟨m, Nat.le_trans hm hn, hid⟩

/-- The record of a file changes to one that is not completed. -/
theorem update (h : Settled log s) {id : String} {r r' : FileRecord} (hr : get? s.files id = some r)
    (hid : r'.id = r.id) (hr' : r'.isCompleted = false) : Settled log { s with files := put s.files id r' } := by
  refine ⟨h.tables.update hr hid, ?_, h.drawn, fun {id' r''} hr'' hc => ?_⟩
  · have hmem : id ∈ Keyed.keys s.files := (mem_keys_iff s.files id).2 (by simp [hr])
    rw [keys_put, if_pos hmem]
    exact h.keys
  · rw [get?_put] at hr''
    split at hr''
    · rw [← Option.some.inj hr'', hr'] at hc
      cases hc
    · exact h.completed hr'' hc

theorem updateRecord (h : Settled log s) (id : String) {f : FileRecord → FileRecord} (hid : ∀ r, (f r).id = r.id)
    (hf : ∀ r, (f r).isCompleted = false) : Settled log (s.updateRecord id f) := by
  cases hr : get? s.files id with
  | none =>
    rw [updateRecord_of_none hr]
    exact h
  | some r =>
    rw [updateRecord_of_some hr]
    exact h.update hr (hid r) (hf r)

theorem failed (h : Settled log s) (id : String) : Settled (log ++ [.failed id]) s := by
  refine ⟨h.tables.failed id, h.keys, fun hv => ?_, h.completed⟩
  exact h.drawn (live_of_failed hv)

theorem insertRecord (h : Settled log s) {r : FileRecord} (hr : r.isCompleted = false) :
    Settled (log ++ [.registered r]) (s.insertRecord r) := by
  refine ⟨h.tables.insertRecord r, ?_, fun hv => ?_, fun {id r'} hr' hc => ?_⟩
  · show Keyed.keys (putNew s.versions r.id []) = Keyed.keys (put s.files r.id r)
    rw [keys_putNew, keys_put, h.keys]
  · exact h.drawn (((Event.Quiet.registered r).live_snoc log _).1 hv)
  · simp only [Store.insertRecord, get?_put] at hr'
    split at hr'
    · rw [← Option.some.inj hr', hr] at hc
      cases hc
    · have hversions : (s.insertRecord r).versionsOf id = s.versionsOf id := by
        rename_i hne
        simp only [versionsOf, Store.insertRecord, get?_putNew, if_neg hne]
      rw [hversions]
      exact h.completed hr' hc

theorem addVersion (h : Settled log s) {r : FileRecord} {v : Snapshot} (hr : get? s.files r.id = some r)
    (hf : v.fileId = r.id) (hdrawn : ∃ n ≤ s.drawn, v.versionId = idAt n)
    (hnew : ∀ w, Live log w → w.versionId ≠ v.versionId) (hn : v.versionNumber = (s.versionsOf r.id).length + 1) :
    Settled (log ++ [.ingested v]) (s.addVersion r v) := by
  refine ⟨h.tables.addVersion hr hf hnew hn, ?_, fun hw => ?_, fun {id r'} hr' hc => ?_⟩
  · show Keyed.keys (put s.versions r.id _) = Keyed.keys (put s.files r.id _)
    rw [keys_put, keys_put, h.keys]
  · rcases (live_snoc_ingested _).1 hw with rfl | hw
    · exact hdrawn
    · exact h.drawn hw
  · simp only [Store.addVersion, get?_put] at hr'
    rw [versionsOf_addVersion]
    split at hr'
    · rename_i he
      rw [if_pos he, ← Option.some.inj hr', List.length_append, List.length_singleton]
      exact ⟨Nat.le_add_left _ _, by simp [hn], rfl⟩
    · rename_i he
      rw [if_neg he]
      exact h.completed hr' hc

theorem delete (h : Settled log s) (id : String) : Settled (log ++ [.deleted id]) { s with
    files := erase s.files id
    versions := erase s.versions id
    byVersionId := s.byVersionId.filter fun p => !((s.versionsOf id).map (·.versionId)).contains p.1 } := by
  refine ⟨h.tables.delete id, ?_, fun hv => h.drawn ((live_snoc_deleted _).1 hv).1, fun {id' r} hr hc => ?_⟩
  · show Keyed.keys (erase s.versions id) = Keyed.keys (erase s.files id)
    rw [keys_erase, keys_erase, h.keys]
  · rw [get?_erase] at hr
    split at hr
    · cases hr
    · rename_i he
      have hversions : (get? (erase s.versions id) id').getD [] = s.versionsOf id' := by
        rw [get?_erase, if_neg he]
        rfl
      rw [versionsOf, hversions]
      exact h.completed hr hc

theorem step (h : Settled log s) {e : Event} (hs : Step s e s') : Settled (log ++ [e]) s' := by
  cases hs with
  | register r drawn hr hd => exact (h.draw hd).insertRecord (isCompleted_of_pending hr)
  | refuse id _ => exact h.failed id
  | fail id r error hf =>
    have hupdate : Settled log { s with files := put s.files id { r with status := .failed, error } } :=
      h.update hf rfl rfl
    exact hupdate.failed id
  | succeed r v hr hf hid hn =>
    have hnew : ∀ w, Live log w → w.versionId ≠ v.versionId := fun w hw => hid ▸ ne_freshId (h.drawn hw)
    exact (h.draw (Nat.le_succ s.drawn)).addVersion hr hf ⟨s.drawn + 1, Nat.le_refl _, hid⟩ hnew hn
  | delete id _ => exact h.delete id

end Settled

/-- A new version in the log of a step has the next id. -/
theorem live_step {log : Log} {s s' : Store} {e : Event} (hs : Step s e s') {v : Snapshot} (hv : Live (log ++ [e]) v) :
    Live log v ∨ v.versionId = s.freshId.1 := by
  cases hs with
  | register r => exact .inl (((Event.Quiet.registered r).live_snoc log v).1 hv)
  | refuse => exact .inl (live_of_failed hv)
  | fail => exact .inl (live_of_failed hv)
  | succeed r w hr hf hid hn =>
    rcases (live_snoc_ingested v).1 hv with rfl | hv
    · exact .inr hid
    · exact .inl hv
  | delete id => exact .inl ((live_snoc_deleted v).1 hv).1

theorem drawn_step {s s' : Store} {e : Event} (hs : Step s e s') : s.drawn ≤ s'.drawn := by
  cases hs with
  | register r drawn hr hd => exact hd
  | succeed => exact Nat.le_succ _
  | refuse => exact Nat.le_refl _
  | fail => exact Nat.le_refl _
  | delete => exact Nat.le_refl _

/-- The version that a parse is to add to a file. -/
def nextVersion (s : Store) (record : FileRecord) (versionId : String) (document : Document) : Snapshot where
  fileId := record.id
  versionId := versionId
  document := document
  references := (Ladder.documentReferences ⟨some record.id, some versionId⟩ document).value
  versionNumber := (s.versionsOf record.id).length + 1
  fileName := some record.fileName
  projectId := some record.projectId

section finish
variable {s : Store} {record : FileRecord}

theorem finishSuccess_of_some {current : FileRecord} (h : get? s.files record.id = some current)
    (hid : current.id = record.id) (versionId : String) (document : Document) :
    s.finishSuccess record versionId document = some (s.nextVersion record versionId document,
      s.addVersion current (s.nextVersion record versionId document)) := by
  have hadd : ∀ v : Snapshot, s.addVersion current v = { s with
      files := put s.files record.id
        { current with status := .completed, currentVersion := v.versionNumber, error := none }
      versions := put s.versions record.id (s.versionsOf record.id ++ [v])
      byVersionId := put s.byVersionId v.versionId v } := by
    intro v
    rw [addVersion, ← hid]
  rw [finishSuccess, h, hadd]
  rfl

theorem finishSuccess_of_none (h : get? s.files record.id = none) (versionId : String) (document : Document) :
    s.finishSuccess record versionId document = none := by
  rw [finishSuccess, h]
  rfl

end finish

/-! ### The ingests under way -/

namespace System
variable {y : System}

/-- The id that the ingest at a place keeps. -/
def heldAt (y : System) (place : Nat) : Option String := y.jobs[place]?.bind Job.versionId?

/-- The store is as its log says, and each id that is kept is kept once and is the id of no version. -/
structure Sound (y : System) : Prop where
  settled : Settled y.log y.store
  drawn : ∀ {place id}, y.heldAt place = some id → ∃ n ≤ y.store.drawn, id = idAt n
  held : ∀ {place id}, y.heldAt place = some id → ∀ v, Live y.log v → v.versionId ≠ id
  apart : ∀ {p q id}, y.heldAt p = some id → y.heldAt q = some id → p = q

theorem heldAt_parsed {place : Nat} {record : FileRecord} {versionId : String} {document : Document}
    (h : y.jobs[place]? = some (.parsed record versionId document)) : y.heldAt place = some versionId := by
  rw [heldAt, h]
  rfl

theorem heldAt_set {place : Nat} {job : Job} (h : y.jobs[place]? = some job) (job' : Job) (store : Store) (log : Log)
    (q : Nat) : heldAt { store, jobs := y.jobs.set place job', log } q =
      if q = place then job'.versionId? else y.heldAt q := by
  obtain ⟨hlt, -⟩ := List.getElem?_eq_some_iff.1 h
  rw [heldAt, List.getElem?_set]
  by_cases hq : q = place
  · rw [if_pos hq.symm, if_pos hq, if_pos hlt]
    rfl
  · rw [if_neg (Ne.symm hq), if_neg hq]
    rfl

namespace Sound

theorem empty : Sound {} :=
  ⟨.empty, fun h => by simp [heldAt] at h, fun h => by simp [heldAt] at h, fun h => by simp [heldAt] at h⟩

/-- The store changes, and the ingests under way keep no new ids. -/
theorem mono (h : Sound y) {y' : System} (hs : Settled y'.log y'.store)
    (hheld : ∀ {place id}, y'.heldAt place = some id → y.heldAt place = some id)
    (hdrawn : y.store.drawn ≤ y'.store.drawn)
    (hlive : ∀ {place id v}, y'.heldAt place = some id → Live y'.log v → Live y.log v ∨ v.versionId ≠ id) :
    Sound y' := by
  refine ⟨hs, fun {place id} hid => ?_, fun {place id} hid v hv => ?_, fun hp hq => h.apart (hheld hp) (hheld hq)⟩
  · obtain ⟨n, hn, he⟩ := h.drawn (hheld hid)
    exact ⟨n, Nat.le_trans hn hdrawn, he⟩
  · rcases hlive hid hv with hv | hne
    · exact h.held (hheld hid) v hv
    · exact hne

theorem request (h : Sound y) (config : Config) (r : Request) : Sound (y.act config (.request r)) := by
  rcases perform_step h.settled.tables.ids config r with he | ⟨e, s', he, hs⟩
  · have hy : y.act config (.request r) = y := by
      rw [act, he, List.append_nil]
    rw [hy]
    exact h
  · have hy : y.act config (.request r) = { y with store := s', log := y.log ++ [e] } := by
      rw [act, he]
    rw [hy]
    refine h.mono (h.settled.step hs) id (drawn_step hs) fun {place id v} hid hv => ?_
    rcases live_step hs hv with hv | hfresh
    · exact .inl hv
    · right
      rw [hfresh]
      exact (ne_freshId (h.drawn hid)).symm

theorem submit (h : Sound y) (config : Config) (id : String) (bytes : List UInt8) :
    Sound (y.act config (.submit id bytes)) := by
  -- an ingest that has just begun keeps no id
  have hheld : ∀ {job : Job} {log : Log} {place : Nat} {kept : String}, job.versionId? = none →
      heldAt { y with jobs := y.jobs ++ [job], log } place = some kept → y.heldAt place = some kept := by
    intro job log place kept hjob hkept
    rw [heldAt, List.getElem?_append] at hkept
    split at hkept
    · exact hkept
    · obtain ⟨job', hjob', hversion⟩ := Option.bind_eq_some_iff.1 hkept
      have hmem := List.mem_of_getElem? hjob'
      rw [List.mem_singleton.1 hmem, hjob] at hversion
      cases hversion
  rw [act]
  cases y.store.file id with
  | ok record => exact h.mono h.settled (hheld rfl) (Nat.le_refl _) fun _ hv => .inl hv
  | error e =>
    exact h.mono (h.settled.failed id) (hheld rfl) (Nat.le_refl _) fun _ hv => .inl (live_of_failed hv)

section advance
variable {place : Nat} {job : Job}

/-- An ingest goes on and keeps no id afterwards. -/
theorem release (h : Sound y) (hjob : y.jobs[place]? = some job) {job' : Job} (hversion : job'.versionId? = none)
    {s : Store} {events : Log} (hs : Settled (y.log ++ events) s) (hdrawn : y.store.drawn ≤ s.drawn)
    (hlive : ∀ {p id v}, p ≠ place → y.heldAt p = some id → Live (y.log ++ events) v →
      Live y.log v ∨ v.versionId ≠ id) :
    Sound { store := s, jobs := y.jobs.set place job', log := y.log ++ events } := by
  have hheld : ∀ {p id}, heldAt { store := s, jobs := y.jobs.set place job', log := y.log ++ events } p = some id →
      p ≠ place ∧ y.heldAt p = some id := by
    intro p id hp
    rw [heldAt_set hjob] at hp
    split at hp
    · rw [hversion] at hp
      cases hp
    · rename_i hne
      exact ⟨hne, hp⟩
  refine h.mono hs (fun hp => (hheld hp).2) hdrawn fun hp hv => ?_
  exact hlive (hheld hp).1 (hheld hp).2 hv

theorem quietly (h : Sound y) (hjob : y.jobs[place]? = some job) {job' : Job} (hversion : job'.versionId? = none)
    {s : Store} (hs : Settled y.log s) (hdrawn : y.store.drawn ≤ s.drawn) :
    Sound { store := s, jobs := y.jobs.set place job', log := y.log ++ [] } := by
  refine h.release hjob hversion ?_ hdrawn fun _ _ hv => .inl ?_
  · rw [List.append_nil]
    exact hs
  · rwa [List.append_nil] at hv

/-- A parse that succeeds keeps the next id. -/
theorem parse (h : Sound y) (hjob : y.jobs[place]? = some job) (record : FileRecord) (document : Document) :
    Sound { store := y.store.freshId.2, jobs := y.jobs.set place (.parsed record y.store.freshId.1 document),
            log := y.log ++ [] } := by
  rw [List.append_nil]
  have hheld := heldAt_set hjob (.parsed record y.store.freshId.1 document) y.store.freshId.2 y.log
  -- the next id is none of those kept before
  have hnew : ∀ {p}, y.heldAt p ≠ some y.store.freshId.1 := by
    intro p hp
    exact ne_freshId (h.drawn hp) rfl
  refine ⟨h.settled.draw (Nat.le_succ _), fun {p id} hp => ?_, fun {p id} hp v hv => ?_, fun {p q id} hp hq => ?_⟩
  · rw [hheld] at hp
    split at hp
    · exact ⟨y.store.drawn + 1, Nat.le_refl _, (Option.some.inj hp).symm⟩
    · obtain ⟨n, hn, he⟩ := h.drawn hp
      exact ⟨n, Nat.le_succ_of_le hn, he⟩
  · rw [hheld] at hp
    split at hp
    · rw [← Option.some.inj hp]
      exact ne_freshId (h.settled.drawn hv)
    · exact h.held hp v hv
  · rw [hheld] at hp hq
    split at hp
    · rename_i hpp
      split at hq
      · rename_i hqp
        rw [hpp, hqp]
      · rw [← Option.some.inj hp] at hq
        exact absurd hq hnew
    · split at hq
      · rw [← Option.some.inj hq] at hp
        exact absurd hp hnew
      · exact h.apart hp hq

/-- A version is added under the id that was kept for it, or the file is gone. -/
theorem finish (h : Sound y) {record : FileRecord} {versionId : String} {document : Document}
    (hjob : y.jobs[place]? = some (.parsed record versionId document)) (config : Config) :
    Sound {
      store := (Job.advance config y.store (.parsed record versionId document)).2.2
      jobs := y.jobs.set place (Job.advance config y.store (.parsed record versionId document)).2.1
      log := y.log ++ (Job.advance config y.store (.parsed record versionId document)).1 } := by
  have hkept := heldAt_parsed hjob
  rw [Job.advance]
  cases hr : get? y.store.files record.id with
  | none =>
    rw [finishSuccess_of_none hr]
    exact h.release hjob rfl (h.settled.failed record.id) (Nat.le_refl _) fun _ _ hv => .inl (live_of_failed hv)
  | some current =>
    have hid : current.id = record.id := h.settled.tables.ids hr
    have hcurrent : get? y.store.files current.id = some current := hid ▸ hr
    have hnumber : (y.store.nextVersion record versionId document).versionNumber =
        (y.store.versionsOf current.id).length + 1 := by
      rw [hid]
      rfl
    rw [finishSuccess_of_some hr hid]
    refine h.release hjob rfl (h.settled.addVersion hcurrent hid.symm (h.drawn hkept) (h.held hkept) hnumber)
      (Nat.le_refl _) fun hne hp hv => ?_
    rcases (live_snoc_ingested _).1 hv with rfl | hv
    · right
      rintro rfl
      exact hne (h.apart hp hkept)
    · exact .inl hv

theorem advance (h : Sound y) (config : Config) (place : Nat) : Sound (y.act config (.advance place)) := by
  cases hjob : y.jobs[place]? with
  | none =>
    rw [act, hjob]
    exact h
  | some job =>
    rw [act_advance hjob]
    cases job with
    | found record bytes =>
      have hs : Settled y.log (y.store.updateRecord record.id fun f =>
          { f with status := .processing, error := none }) :=
        h.settled.updateRecord record.id (fun _ => rfl) fun _ => rfl
      obtain ⟨files, hfiles⟩ := updateRecord_files y.store record.id fun f =>
        { f with status := .processing, error := none }
      exact h.quietly hjob rfl hs (Nat.le_of_eq (congrArg Store.drawn hfiles).symm)
    | marked record bytes =>
      rw [Job.advance]
      cases (Document.parse config record.kind bytes).result with
      | ok document => exact h.parse hjob record document
      | error e => exact h.quietly hjob rfl h.settled (Nat.le_refl _)
    | parsed record versionId document => exact h.finish hjob config
    | refused record e =>
      have hs : Settled y.log (y.store.finishFailure record.id e.message) :=
        h.settled.updateRecord record.id (fun _ => rfl) fun _ => rfl
      obtain ⟨files, hfiles⟩ := updateRecord_files y.store record.id fun f =>
        { f with status := .failed, error := some e.message }
      have hdrawn : y.store.drawn ≤ (y.store.finishFailure record.id e.message).drawn :=
        Nat.le_of_eq (congrArg Store.drawn hfiles).symm
      exact h.release hjob rfl (hs.failed record.id) hdrawn fun _ _ hv => .inl (live_of_failed hv)
    | done result => exact h.quietly hjob rfl h.settled (Nat.le_refl _)

end advance

theorem act (h : Sound y) (config : Config) (a : Action) : Sound (y.act config a) := by
  cases a with
  | request r => exact h.request config r
  | submit id bytes => exact h.submit config id bytes
  | advance place => exact h.advance config place

end Sound

theorem run_sound (config : Config) (actions : List Action) : Sound (run config actions) := by
  unfold run acts
  exact List.foldlRecOn actions _ Sound.empty fun _ h a _ => h.act config a

/-! ### Nothing lost, nothing twice -/

/-- The tables of a store agree with each other and with the log, and what the ingests under way do next adds the
versions that it should and no others. -/
structure Intact (config : Config) (y : System) : Prop where
  ids : keys y.store.versions = keys y.store.files
  /-- A file has the versions that were added to it since it was registered, in that order. -/
  ordered : ∀ id, y.store.versionsOf id = versionsIn id y.log
  numbered : ∀ id (i : Nat) v, (y.store.versionsOf id)[i]? = some v → v.versionNumber = i + 1
  indexed : ∀ versionId v, get? y.store.byVersionId versionId = some v ↔
    v.versionId = versionId ∧ ∃ id, v ∈ y.store.versionsOf id
  /-- A parse that succeeded adds one version to its file, under an id that no version has. -/
  added : ∀ place record versionId document, y.jobs[place]? = some (.parsed record versionId document) →
    ∀ current, get? y.store.files record.id = some current →
      get? y.store.byVersionId versionId = none ∧
      ∃ v : Snapshot, v.versionId = versionId ∧ v.document = document ∧
        (y.act config (.advance place)).jobs[place]? = some (.done (.ok v)) ∧
        ∀ id, (y.act config (.advance place)).store.versionsOf id =
          if id = record.id then y.store.versionsOf id ++ [v] else y.store.versionsOf id
  gone : ∀ place record versionId document, y.jobs[place]? = some (.parsed record versionId document) →
    get? y.store.files record.id = none → (y.act config (.advance place)).store = y.store
  failed : ∀ place record e, y.jobs[place]? = some (.refused record e) →
    (y.act config (.advance place)).store.versions = y.store.versions ∧
    (y.act config (.advance place)).store.byVersionId = y.store.byVersionId ∧
    ∀ r, get? (y.act config (.advance place)).store.files record.id = some r →
      r.status = .failed ∧ r.error = some e.message
  completed : ∀ id r, get? y.store.files id = some r → r.isCompleted = true →
    1 ≤ (y.store.versionsOf id).length ∧ r.currentVersion = (y.store.versionsOf id).length ∧ r.error = none

theorem act_gone (config : Config) {place : Nat} {record : FileRecord} {versionId : String}
    {document : Document} (hjob : y.jobs[place]? = some (.parsed record versionId document))
    (hr : get? y.store.files record.id = none) : (y.act config (.advance place)).store = y.store := by
  rw [act_advance hjob, Job.advance, finishSuccess_of_none hr]

theorem act_failed (config : Config) {place : Nat} {record : FileRecord} {e : Failure}
    (hjob : y.jobs[place]? = some (.refused record e)) :
    (y.act config (.advance place)).store.versions = y.store.versions ∧
    (y.act config (.advance place)).store.byVersionId = y.store.byVersionId ∧
    ∀ r, get? (y.act config (.advance place)).store.files record.id = some r →
      r.status = .failed ∧ r.error = some e.message := by
  rw [act_advance hjob, Job.advance]
  dsimp only
  cases hr : get? y.store.files record.id with
  | none =>
    rw [finishFailure, updateRecord_of_none hr]
    refine ⟨rfl, rfl, fun r hr' => ?_⟩
    rw [hr] at hr'
    cases hr'
  | some current =>
    rw [finishFailure_of_some hr]
    refine ⟨rfl, rfl, fun r hr' => ?_⟩
    rw [get?_put_self] at hr'
    rw [← Option.some.inj hr']
    exact ⟨rfl, rfl⟩

namespace Sound

theorem indexed (h : Sound y) (versionId : String) (v : Snapshot) :
    get? y.store.byVersionId versionId = some v ↔ v.versionId = versionId ∧ ∃ id, v ∈ y.store.versionsOf id := by
  have ht := h.settled.tables
  rw [ht.indexed, ht.live, and_comm]
  refine and_congr_right fun _ => ⟨fun hv => ⟨v.fileId, by rwa [ht.versions]⟩, ?_⟩
  rintro ⟨id, hv⟩
  rw [ht.versions] at hv
  rwa [fileId_of_mem_versionsIn hv]

theorem added (h : Sound y) (config : Config) {place : Nat} {record : FileRecord} {versionId : String}
    {document : Document} (hjob : y.jobs[place]? = some (.parsed record versionId document)) {current : FileRecord}
    (hr : get? y.store.files record.id = some current) :
    get? y.store.byVersionId versionId = none ∧ ∃ v : Snapshot, v.versionId = versionId ∧ v.document = document ∧
      (y.act config (.advance place)).jobs[place]? = some (.done (.ok v)) ∧
      ∀ id, (y.act config (.advance place)).store.versionsOf id =
        if id = record.id then y.store.versionsOf id ++ [v] else y.store.versionsOf id := by
  have hid : current.id = record.id := h.settled.tables.ids hr
  have hkept := heldAt_parsed hjob
  have hunused : get? y.store.byVersionId versionId = none := by
    cases hv : get? y.store.byVersionId versionId with
    | none => rfl
    | some v =>
      obtain ⟨hlive, hversion⟩ := (h.settled.tables.indexed versionId v).1 hv
      exact absurd hversion (h.held hkept v hlive)
  refine ⟨hunused, y.store.nextVersion record versionId document, rfl, rfl, ?_, fun id => ?_⟩
  · obtain ⟨hlt, -⟩ := List.getElem?_eq_some_iff.1 hjob
    rw [act_advance hjob, Job.advance, finishSuccess_of_some hr hid]
    exact List.getElem?_set_self hlt
  · rw [act_advance hjob, Job.advance, finishSuccess_of_some hr hid]
    dsimp only
    rw [versionsOf_addVersion, hid]
    split
    · rename_i he
      rw [he]
    · rfl

end Sound

/-- In whatever order ingests, registrations and deletions take their steps, nothing is lost and nothing is there
twice. -/
theorem run_intact (config : Config) (actions : List Action) : Intact config (run config actions) := by
  have h := run_sound config actions
  have ht := h.settled.tables
  have hnumbered : ∀ id (i : Nat) v, ((run config actions).store.versionsOf id)[i]? = some v →
      v.versionNumber = i + 1 := by
    intro id i v hv
    rw [ht.versions] at hv
    exact ht.numbered hv
  exact {
    ids := h.settled.keys
    ordered := ht.versions
    numbered := hnumbered
    indexed := h.indexed
    added := fun _ _ _ _ hjob _ hr => h.added config hjob hr
    gone := fun _ _ _ _ hjob hr => act_gone config hjob hr
    failed := fun _ _ _ hjob => act_failed config hjob
    completed := fun _ _ hr hc => h.settled.completed hr hc }

/-- Of two ingests of one file the one that fails, and fails last, leaves the version that the other has added. -/
example :
    let bytes := "CONTROLLER C\nEND_CONTROLLER".toList.map fun c => UInt8.ofNat c.toNat
    let y := acts {} {} [.request (.register "P" "C.L5K" none none (some "F")), .submit "F" bytes, .submit "F" [],
      .advance 0, .advance 1, .advance 1, .advance 0, .advance 0, .advance 1]
    ((y.store.versionsOf "F").map (·.versionNumber), (y.store.file "F").toOption.map (·.status)) =
      ([1], some .failed) := by
  decide +kernel

end System

end LadderAtlas.Store
