import LadderAtlas.Proofs.Store.Step

/-! # Ingests under way

An ingest holds the lock of its store only now and then: to look its file up, to mark the file as being parsed,
and, after a parse without the lock, to add the version or to note the failure. `System.run` lets other ingests,
registrations and deletions come between any two of these steps. Without them the steps are one ingest
(`act_ingest`).

A registration is one step, since what it does before it inserts the record does not look at the store. So is a
deletion: looking its file up first changes nothing, and if the file is gone when it is to be removed, nothing
happens. -/

namespace LadderAtlas.Store
open Keyed

/-- An ingest, by what it has to do next. -/
inductive Job where
  /-- To mark the file. -/
  | found (record : FileRecord) (bytes : List UInt8)
  /-- To parse the bytes. -/
  | marked (record : FileRecord) (bytes : List UInt8)
  /-- To add the version. -/
  | parsed (record : FileRecord) (versionId : String) (document : Document)
  /-- To note the failure. -/
  | refused (record : FileRecord) (failure : Failure)
  | done (result : Except Failure Snapshot)

namespace Job

/-- The next step of an ingest, with the events it leaves. -/
def advance (config : Config) (s : Store) : Job → Log × Job × Store
  | .found record bytes =>
    ([], .marked record bytes, s.updateRecord record.id fun f => { f with status := .processing, error := none })
  | .marked record bytes =>
    match (Document.parse config record.kind bytes).result with
    | .ok document => ([], .parsed record s.freshId.1 document, s.freshId.2)
    | .error e => ([], .refused record e, s)
  | .parsed record versionId document =>
    match s.finishSuccess record versionId document with
    | some (snapshot, s) => ([.ingested snapshot], .done (.ok snapshot), s)
    | none => ([.failed record.id], .done (.error (.missing (.file record.id))), s)
  | .refused record e => ([.failed record.id], .done (.error e), s.finishFailure record.id e.message)
  | .done result => ([], .done result, s)

/-- The id that an ingest keeps for the version it is about to add. -/
def versionId? : Job → Option String
  | .parsed _ versionId _ => some versionId
  | _ => none

end Job

/-- A store with the ingests begun so far and the log of what they and others have done. -/
structure System where
  store : Store := {}
  jobs : List Job := []
  log : Log := []

inductive Action where
  | request (r : Request)
  /-- Begins an ingest. -/
  | submit (id : String) (bytes : List UInt8)
  /-- Lets the ingest at a place go on. -/
  | advance (place : Nat)

namespace System

def act (config : Config) (y : System) : Action → System
  | .request r => { y with store := (y.store.perform config r).2, log := y.log ++ (y.store.perform config r).1 }
  | .submit id bytes =>
    match y.store.file id with
    | .ok record => { y with jobs := y.jobs ++ [.found record bytes] }
    | .error e => { y with jobs := y.jobs ++ [.done (.error e)], log := y.log ++ [.failed id] }
  | .advance place =>
    match y.jobs[place]? with
    | none => y
    | some job =>
      let (events, job, store) := job.advance config y.store
      { store, jobs := y.jobs.set place job, log := y.log ++ events }

/-- What actions do, one after the other, to a system. -/
def acts (config : Config) (y : System) (actions : List Action) : System := actions.foldl (act config) y

/-- What actions do from an empty store on. -/
def run (config : Config) (actions : List Action) : System := acts config {} actions

theorem act_advance {config : Config} {y : System} {place : Nat} {job : Job} (h : y.jobs[place]? = some job) :
    y.act config (.advance place) = {
      store := (job.advance config y.store).2.2
      jobs := y.jobs.set place (job.advance config y.store).2.1
      log := y.log ++ (job.advance config y.store).1 } := by
  rw [act, h]

end System

theorem updateRecord_of_some {s : Store} {id : String} {r : FileRecord} (h : get? s.files id = some r)
    (f : FileRecord → FileRecord) : s.updateRecord id f = { s with files := put s.files id (f r) } := by
  rw [updateRecord, h]

theorem updateRecord_of_none {s : Store} {id : String} (h : get? s.files id = none) (f : FileRecord → FileRecord) :
    s.updateRecord id f = s := by
  rw [updateRecord, h]

/-- A changed record leaves all but the table of files. -/
theorem updateRecord_files (s : Store) (id : String) (f : FileRecord → FileRecord) :
    ∃ files, s.updateRecord id f = { s with files } := by
  unfold updateRecord
  split
  · exact ⟨_, rfl⟩
  · exact ⟨s.files, rfl⟩

/-- The steps of an ingest with nothing between them are one ingest. -/
theorem act_ingest (config : Config) {s : Store} (hids : ∀ {id r}, get? s.files id = some r → r.id = id) (id : String)
    (bytes : List UInt8) :
    System.acts config { store := s } [.submit id bytes, .advance 0, .advance 0, .advance 0] = {
      store := (s.perform config (.ingest id bytes)).2
      jobs := [.done (s.ingest config id bytes).1]
      log := (s.perform config (.ingest id bytes)).1 } := by
  cases hfile : get? s.files id with
  | none =>
    simp [System.acts, System.act, file_eq_error hfile, Job.advance, perform, ingest, start_of_none hfile]
  | some r =>
    obtain rfl := hids hfile
    cases hparse : (Document.parse config r.kind bytes).result with
    | error e =>
      simp [System.acts, System.act, file_eq_ok.2 hfile, Job.advance, updateRecord_of_some hfile, hparse, perform, ingest,
        start_of_some hfile]
    | ok document =>
      -- the store in which the version is to be added
      generalize hmarked : ({ s with
        files := put s.files r.id { r with status := .processing, error := none } } : Store) = s₁
      cases hfinish : s₁.freshId.2.finishSuccess r s₁.freshId.1 document with
      | none =>
        simp [System.acts, System.act, file_eq_ok.2 hfile, Job.advance, updateRecord_of_some hfile, hparse, perform,
          ingest, start_of_some hfile, hmarked, hfinish]
      | some p =>
        simp [System.acts, System.act, file_eq_ok.2 hfile, Job.advance, updateRecord_of_some hfile, hparse, perform,
          ingest, start_of_some hfile, hmarked, hfinish]

end LadderAtlas.Store
