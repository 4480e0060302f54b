import LadderAtlas.Proofs.Store.Log

/-! # Steps of a store

`Step` lists what one request can do to a store and what each leaves in its log. `perform_step`:
a request does nothing, or one step. -/

namespace LadderAtlas.Store
open Keyed

/-- What one request can do to a store, with the event it leaves. -/
inductive Step (s : Store) : Event → Store → Prop
  | register (r : FileRecord) (drawn : Nat) (hr : r.status = .pending) (hd : s.drawn ≤ drawn) :
    Step s (.registered r) ({ s with drawn }.insertRecord r)
  | refuse (id : String) (h : get? s.files id = none) : Step s (.failed id) s
  | fail (id : String) (r : FileRecord) (error : Option String) (h : get? s.files id = some r) :
    Step s (.failed id) { s with files := put s.files id { r with status := .failed, error } }
  | succeed (r : FileRecord) (v : Snapshot) (h : get? s.files r.id = some r) (hf : v.fileId = r.id)
      (hid : v.versionId = s.freshId.1) (hn : v.versionNumber = (s.versionsOf r.id).length + 1)
      (hfrom : v.projectId = some r.projectId ∧ v.fileName = some r.fileName) :
    Step s (.ingested v) { s with
      files := put s.files r.id
        { r with status := .completed, currentVersion := v.versionNumber, error := none }
      versions := put s.versions r.id (s.versionsOf r.id ++ [v])
      byVersionId := put s.byVersionId v.versionId v
      drawn := s.drawn + 1 }
  | delete (id : String) (h : (get? s.files id).isSome) :
    Step s (.deleted id) { s with
      files := erase s.files id
      versions := erase s.versions id
      byVersionId := s.byVersionId.filter fun p => !((s.versionsOf id).map (·.versionId)).contains p.1 }

theorem isCompleted_of_pending {r : FileRecord} (h : r.status = .pending) : r.isCompleted = false := by
  simp [FileRecord.isCompleted, h]

/-- Drawing an id for a file at most moves the counter on. -/
theorem idFor_store (s : Store) (fileId : Option String) :
    ∃ drawn, s.drawn ≤ drawn ∧ (s.idFor fileId).2 = { s with drawn } := by
  unfold idFor
  split
  · exact ⟨s.drawn, Nat.le_refl _, rfl⟩
  · exact ⟨s.drawn + 1, Nat.le_succ _, rfl⟩

theorem register_step {s s' : Store} {projectId fileName : String} {kind folderId fileId : Option String}
    {r : FileRecord} (h : s.register projectId fileName kind folderId fileId = .ok (r, s')) :
    Step s (.registered r) s' := by
  unfold register at h
  cases hk : kindOf fileName kind with
  | error e =>
    rw [hk] at h
    cases h
  | ok k =>
    obtain ⟨drawn, hd, hs⟩ := idFor_store s fileId
    generalize s.idFor fileId = p at h hs
    obtain ⟨id, s₁⟩ := p
    rw [hk] at h
    obtain ⟨rfl, rfl⟩ := Prod.mk.inj (Except.ok.inj h)
    obtain rfl : s₁ = { s with drawn } := hs
    exact .register _ drawn rfl hd

theorem file_eq_ok {s : Store} {id : String} {r : FileRecord} :
    s.file id = .ok r ↔ get? s.files id = some r := by
  unfold file
  cases get? s.files id <;> simp

theorem file_eq_error {s : Store} {id : String} (h : get? s.files id = none) :
    s.file id = .error (.missing (.file id)) := by
  unfold file
  rw [h]

theorem start_of_some {s : Store} {id : String} {r : FileRecord} (h : get? s.files id = some r) :
    s.start id = .ok (r, { s with files := put s.files id { r with status := .processing, error := none } }) := by
  simp only [start, file_eq_ok.2 h, updateRecord, h]
  rfl

theorem start_of_none {s : Store} {id : String} (h : get? s.files id = none) :
    s.start id = .error (.missing (.file id)) := by
  simp only [start, file_eq_error h]
  rfl

theorem finishFailure_of_some {s : Store} {id : String} {r : FileRecord} (h : get? s.files id = some r)
    (message : String) : s.finishFailure id message =
      { s with files := put s.files id { r with status := .failed, error := some message } } := by
  simp only [finishFailure, updateRecord, h]

/-- A parse adds a version or fails; either way the file is the one it was asked for. -/
theorem ingest_step {s : Store} (hids : ∀ {id r}, get? s.files id = some r → r.id = id) (config : Config)
    (id : String) (bytes : List UInt8) :
    (∃ v, (s.ingest config id bytes).1 = .ok v ∧ Step s (.ingested v) (s.ingest config id bytes).2) ∨
      ∃ e, (s.ingest config id bytes).1 = .error e ∧ Step s (.failed id) (s.ingest config id bytes).2 := by
  unfold ingest
  cases h : get? s.files id with
  | none =>
    rw [start_of_none h]
    exact .inr ⟨_, rfl, .refuse id h⟩
  | some r =>
    obtain rfl := hids h
    rw [start_of_some h]
    dsimp only
    cases (Document.parse config r.kind bytes).result with
    | error e =>
      refine .inr ⟨e, rfl, ?_⟩
      dsimp only
      rw [finishFailure_of_some (get?_put_self _ _ _), put_put]
      exact .fail r.id r (some e.message) h
    | ok document =>
      left
      simp only [freshId, finishSuccess, get?_put_self, put_put, Option.bind_eq_bind, Option.bind_some]
      exact ⟨_, rfl, .succeed r _ h rfl rfl rfl ⟨rfl, rfl⟩⟩

theorem delete_step {s s' : Store} {id : String} (h : s.delete id = .ok s') : Step s (.deleted id) s' := by
  unfold delete at h
  cases hf : get? s.files id with
  | none =>
    rw [file_eq_error hf] at h
    cases h
  | some r =>
    rw [file_eq_ok.2 hf] at h
    obtain rfl := Except.ok.inj h
    exact .delete id (by simp [hf])

/-- A request does nothing, or one step with its event. -/
theorem perform_step {s : Store} (hids : ∀ {id r}, get? s.files id = some r → r.id = id) (config : Config)
    (request : Request) : s.perform config request = ([], s) ∨
      ∃ e s', s.perform config request = ([e], s') ∧ Step s e s' := by
  cases request with
  | register projectId fileName kind folderId fileId =>
    simp only [perform]
    cases h : s.register projectId fileName kind folderId fileId with
    | error e => exact .inl rfl
    | ok p => exact .inr ⟨_, _, rfl, register_step h⟩
  | ingest id bytes =>
    right
    simp only [perform]
    rcases ingest_step hids config id bytes with ⟨v, hv, hs⟩ | ⟨e, he, hs⟩
    · rcases hi : s.ingest config id bytes with ⟨result, s'⟩
      rw [hi] at hv hs
      dsimp only at hv hs
      subst hv
      exact ⟨_, _, rfl, hs⟩
    · rcases hi : s.ingest config id bytes with ⟨result, s'⟩
      rw [hi] at he hs
      dsimp only at he hs
      subst he
      exact ⟨_, _, rfl, hs⟩
  | delete id =>
    simp only [perform]
    cases h : s.delete id with
    | error e => exact .inl rfl
    | ok s' => exact .inr ⟨_, _, rfl, delete_step h⟩

end LadderAtlas.Store
