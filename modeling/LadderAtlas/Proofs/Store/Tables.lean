import LadderAtlas.Proofs.Store.Step

/-! # The tables of a store

`Tables` ties the three tables of a store to its log: which files there are, which versions each has, and which
version an id finds. What a step does to the tables is one of four things: a record changes (`update`), nothing
but the log does (`quiet`), a version is added (`addVersion`), or a file is deleted (`delete`). When that happens
is left open, so the laws also hold for ingests whose steps lie apart. -/

namespace LadderAtlas.Store
open Keyed

/-- The tables of a store say what a log says. -/
structure Tables (log : Log) (s : Store) : Prop where
  nodup : (keys s.files).Nodup
  ids : ∀ {id r}, get? s.files id = some r → r.id = id
  registered : ∀ id, (get? s.files id).isSome ↔ life id log ≠ []
  versions : ∀ id, s.versionsOf id = versionsIn id log
  numbered : ∀ {id v} {i : Nat}, (versionsIn id log)[i]? = some v → v.versionNumber = i + 1
  live : ∀ v, Live log v ↔ v ∈ versionsIn v.fileId log
  indexed : ∀ id v, get? s.byVersionId id = some v ↔ Live log v ∧ v.versionId = id

/-- Adds a version to a file with this record. -/
def addVersion (s : Store) (r : FileRecord) (v : Snapshot) : Store :=
  { s with
    files := put s.files r.id { r with status := .completed, currentVersion := v.versionNumber, error := none }
    versions := put s.versions r.id (s.versionsOf r.id ++ [v])
    byVersionId := put s.byVersionId v.versionId v }

theorem versionsOf_addVersion (s : Store) (r : FileRecord) (v : Snapshot) (id : String) :
    (s.addVersion r v).versionsOf id = if id = r.id then s.versionsOf r.id ++ [v] else s.versionsOf id := by
  show (get? (put s.versions r.id (s.versionsOf r.id ++ [v])) id).getD [] = _
  rw [get?_put]
  split
  · rfl
  · rfl

/-- Events that neither add a version nor delete a file. -/
structure Event.Quiet (e : Event) : Prop where
  deletes : ∀ id, e.deletes id = false
  version : ∀ v, e ≠ .ingested v

namespace Event.Quiet
variable {e : Event}

theorem registered (r : FileRecord) : Quiet (.registered r) := ⟨fun _ => rfl, fun _ => Event.noConfusion⟩

theorem failed (id : String) : Quiet (.failed id) := ⟨fun _ => rfl, fun _ => Event.noConfusion⟩

theorem versionsIn_snoc (h : e.Quiet) (log : Log) (id : String) : versionsIn id (log ++ [e]) = versionsIn id log := by
  refine versionsIn_snoc_of_none (h.deletes id) ?_
  cases e with
  | ingested v => exact absurd rfl (h.version v)
  | _ => rfl

theorem live_snoc (h : e.Quiet) (log : Log) (v : Snapshot) : Live (log ++ [e]) v ↔ Live log v := by
  rw [Store.live_snoc]
  refine ⟨fun hv => hv.elim (fun he => absurd he (h.version v)) And.left, fun hv => .inr ⟨hv, ?_⟩⟩
  rintro rfl
  simpa [Event.deletes] using h.deletes v.fileId

end Event.Quiet

theorem live_of_failed {log : Log} {id : String} {v : Snapshot} (h : Live (log ++ [.failed id]) v) : Live log v :=
  ((Event.Quiet.failed id).live_snoc log v).1 h

section added
variable {log : Log} {v : Snapshot}

theorem live_snoc_ingested (w : Snapshot) : Live (log ++ [.ingested v]) w ↔ w = v ∨ Live log w := by
  rw [live_snoc]
  simp [eq_comm]

theorem versionsIn_snoc_self (h : life v.fileId log ≠ []) :
    versionsIn v.fileId (log ++ [.ingested v]) = versionsIn v.fileId log ++ [v] := by
  rw [versionsIn_snoc rfl h]
  simp [Event.version?]

theorem versionsIn_snoc_other {id : String} (h : id ≠ v.fileId) :
    versionsIn id (log ++ [.ingested v]) = versionsIn id log :=
  versionsIn_snoc_of_none rfl (by simp [Event.version?, Ne.symm h])

theorem live_snoc_deleted {id : String} (w : Snapshot) :
    Live (log ++ [.deleted id]) w ↔ Live log w ∧ w.fileId ≠ id := by
  rw [live_snoc]
  simp [eq_comm]

theorem versionsIn_snoc_kept {id id' : String} (h : id' ≠ id) :
    versionsIn id' (log ++ [.deleted id]) = versionsIn id' log :=
  versionsIn_snoc_of_none (by simp [Event.deletes, Ne.symm h]) rfl

end added

namespace Tables
variable {log : Log} {s s' : Store}

theorem empty : Tables [] {} where
  nodup := by simp [keys]
  ids h := by simp [get?] at h
  registered id := by simp [get?, life]
  versions id := by simp [versionsOf, get?, versionsIn, life]
  numbered h := by simp [versionsIn, life] at h
  live v := ⟨fun h => absurd h (not_live_nil v), fun h => by simp [versionsIn, life] at h⟩
  indexed id v := ⟨fun h => by simp [get?] at h, fun h => absurd h.1 (not_live_nil v)⟩

theorem draw (h : Tables log s) (n : Nat) : Tables log { s with drawn := n } :=
  ⟨h.nodup, h.ids, h.registered, h.versions, h.numbered, h.live, h.indexed⟩

/-- The record of a file changes. -/
theorem update (h : Tables log s) {id : String} {r : FileRecord} (hr : get? s.files id = some r) {r' : FileRecord}
    (hid : r'.id = r.id) : Tables log { s with files := put s.files id r' } := by
  refine ⟨nodup_keys_put h.nodup _ _, fun {id' r''} hr'' => ?_, fun id' => ?_, h.versions, h.numbered, h.live, h.indexed⟩
  · rw [get?_put] at hr''
    split at hr''
    · rename_i he
      rw [he, ← Option.some.inj hr'', hid]
      exact h.ids hr
    · exact h.ids hr''
  · rw [get?_put, ← h.registered]
    split
    · rename_i he
      simp [he, hr]
    · exact Iff.rfl

/-- The versions stay, and files are there as the event says. -/
theorem quiet (h : Tables log s) {e : Event} (he : e.Quiet) (hnodup : (keys s'.files).Nodup)
    (hids : ∀ {id r}, get? s'.files id = some r → r.id = id)
    (hreg : ∀ id, (get? s'.files id).isSome ↔ e.registers id = true ∨ (get? s.files id).isSome)
    (hversions : ∀ id, s'.versionsOf id = s.versionsOf id) (hby : s'.byVersionId = s.byVersionId) :
    Tables (log ++ [e]) s' := by
  refine ⟨hnodup, hids, fun id => ?_, fun id => ?_, fun hv => ?_, fun v => ?_, fun id v => ?_⟩
  · rw [life_snoc_ne_nil, hreg, h.registered]
    simp [he.deletes]
  · rw [hversions, h.versions, he.versionsIn_snoc]
  · rw [he.versionsIn_snoc] at hv
    exact h.numbered hv
  · rw [he.live_snoc, he.versionsIn_snoc, h.live]
  · rw [hby, h.indexed, he.live_snoc]

theorem failed (h : Tables log s) (id : String) : Tables (log ++ [.failed id]) s :=
  h.quiet (.failed id) h.nodup h.ids (fun _ => by simp [Event.registers]) (fun _ => rfl) rfl

theorem insertRecord (h : Tables log s) (r : FileRecord) : Tables (log ++ [.registered r]) (s.insertRecord r) := by
  refine h.quiet (.registered r) (nodup_keys_put h.nodup _ _) (fun {id r'} hr' => ?_) (fun id => ?_) (fun id => ?_) rfl
  · simp only [Store.insertRecord, get?_put] at hr'
    split at hr'
    · rename_i hid
      rw [hid, Option.some.inj hr']
    · exact h.ids hr'
  · simp only [Store.insertRecord, get?_put, Event.registers]
    by_cases hid : id = r.id
    · simp [hid]
    · simp [hid, Ne.symm hid]
  · simp only [versionsOf, Store.insertRecord, get?_putNew]
    split
    · rename_i hid
      simp [hid]
    · rfl

/-- A version is added whose id no version has. -/
theorem addVersion (h : Tables log s) {r : FileRecord} {v : Snapshot} (hr : get? s.files r.id = some r)
    (hf : v.fileId = r.id) (hnew : ∀ w, Live log w → w.versionId ≠ v.versionId)
    (hn : v.versionNumber = (s.versionsOf r.id).length + 1) :
    Tables (log ++ [.ingested v]) (s.addVersion r v) := by
  rw [← hf] at hr hn
  have hlife : life v.fileId log ≠ [] := (h.registered _).1 (by rw [hr]; rfl)
  refine ⟨nodup_keys_put h.nodup _ _, fun {id r'} hr' => ?_, fun id => ?_, fun id => ?_, fun {id w i} hw => ?_,
    fun w => ?_, fun id w => ?_⟩
  · simp only [Store.addVersion, get?_put] at hr'
    split at hr'
    · rename_i he
      rw [← Option.some.inj hr', he]
    · exact h.ids hr'
  · simp only [Store.addVersion, get?_put, life_snoc_ne_nil, ← h.registered]
    by_cases he : id = r.id
    · simp [he, ← hf, hr, Event.deletes]
    · simp [he, Event.deletes, Event.registers]
  · rw [versionsOf_addVersion, ← hf]
    by_cases he : id = v.fileId
    · rw [if_pos he, he, versionsIn_snoc_self hlife, h.versions]
    · rw [if_neg he, versionsIn_snoc_other he, h.versions]
  · by_cases he : id = v.fileId
    · rw [he, versionsIn_snoc_self hlife, List.getElem?_append] at hw
      split at hw
      · exact h.numbered hw
      · rename_i hi
        obtain ⟨hi', rfl⟩ := List.getElem?_eq_some_iff.1 hw
        rw [List.length_singleton] at hi'
        rw [List.getElem_singleton, hn, h.versions]
        omega
    · rw [versionsIn_snoc_other he] at hw
      exact h.numbered hw
  · rw [live_snoc_ingested, h.live]
    by_cases he : w.fileId = v.fileId
    · rw [he, versionsIn_snoc_self hlife, List.mem_append, List.mem_singleton, or_comm]
    · rw [versionsIn_snoc_other he]
      refine ⟨fun hw => hw.resolve_left ?_, .inr⟩
      rintro rfl
      exact he rfl
  · simp only [Store.addVersion, get?_put, live_snoc_ingested]
    split
    · rename_i he
      refine ⟨fun hw => ⟨.inl (Option.some.inj hw).symm, ?_⟩, ?_⟩
      · rw [he, Option.some.inj hw]
      · rintro ⟨rfl | hw, hwid⟩
        · rfl
        · exact absurd (hwid.trans he) (hnew w hw)
    · rename_i he
      rw [h.indexed]
      refine and_congr_left fun hwid => ⟨.inr, fun hw => hw.resolve_left ?_⟩
      rintro rfl
      exact he hwid.symm

theorem delete (h : Tables log s) (id : String) : Tables (log ++ [.deleted id]) { s with
    files := erase s.files id
    versions := erase s.versions id
    byVersionId := s.byVersionId.filter fun p => !((s.versionsOf id).map (·.versionId)).contains p.1 } := by
  have hself : versionsIn id (log ++ [.deleted id]) = [] := versionsIn_snoc_of_deletes (by simp [Event.deletes])
  -- a live version has one of the dropped ids exactly if it is one of the dropped versions
  have hdropped : ∀ {v}, Live log v → (v.versionId ∈ (s.versionsOf id).map (·.versionId) ↔ v.fileId = id) := by
    intro v hv
    rw [h.versions, List.mem_map]
    constructor
    · rintro ⟨w, hw, hwid⟩
      have hwf := fileId_of_mem_versionsIn hw
      have hw := (h.indexed v.versionId w).2 ⟨(h.live w).2 (hwf ▸ hw), hwid⟩
      rw [(h.indexed v.versionId v).2 ⟨hv, rfl⟩] at hw
      rw [Option.some.inj hw, hwf]
    · rintro rfl
      exact ⟨v, (h.live v).1 hv, rfl⟩
  refine ⟨nodup_keys_erase h.nodup _, fun {id' r} hr => ?_, fun id' => ?_, fun id' => ?_, fun {id' v i} hv => ?_,
    fun v => ?_, fun vid v => ?_⟩
  · rw [get?_erase] at hr
    split at hr
    · cases hr
    · exact h.ids hr
  · rw [get?_erase, life_snoc_ne_nil, ← h.registered]
    by_cases he : id' = id
    · simp [he, Event.deletes]
    · simp [he, Event.deletes, Event.registers, Ne.symm he]
  · simp only [versionsOf, get?_erase]
    by_cases he : id' = id
    · rw [he, hself, if_pos rfl, Option.getD_none]
    · rw [versionsIn_snoc_kept he, if_neg he]
      exact h.versions id'
  · by_cases he : id' = id
    · rw [he, hself] at hv
      simp at hv
    · rw [versionsIn_snoc_kept he] at hv
      exact h.numbered hv
  · rw [live_snoc_deleted, h.live]
    by_cases he : v.fileId = id
    · rw [he, hself]
      simp
    · rw [versionsIn_snoc_kept he]
      simp [he]
  · rw [get?_filter s.byVersionId fun k => !((s.versionsOf id).map (·.versionId)).contains k, live_snoc_deleted]
    by_cases hv : Live log v ∧ v.versionId = vid
    · obtain ⟨hv, rfl⟩ := hv
      rw [(h.indexed _ v).2 ⟨hv, rfl⟩]
      simp [hv, hdropped hv]
    · refine ⟨fun hw => ?_, fun hw => absurd ⟨hw.1.1, hw.2⟩ hv⟩
      split at hw
      · exact absurd ((h.indexed _ _).1 hw) hv
      · cases hw

end Tables

end LadderAtlas.Store
