import LadderAtlas.Proofs.Store.Answers

/-!
# Registrations and the versions under them

A version states the project and the name under which its file was registered when it was added, and keeps
stating them: `run_identified`. A file may be registered again under its id, with another project or name, and
keeps its versions, so a version need not agree with the record of its file and a file that is pending may have
versions (`run_unfaithful`). Both are true only of files that have been registered again since.

`Registered` is the invariant. It also says in which order a store lists its files (`order`), which
`LadderAtlas.Diff` uses to tell the first of several files with one name.
-/

namespace LadderAtlas.Store
open Keyed

/-- The registration of a file that an event is. -/
def Event.registration? (id : String) : Event → Option FileRecord
  | .registered r => if r.id = id then some r else none
  | _ => none

/-- The registrations of a file in its present life, oldest first. -/
def registrationsIn (id : String) (log : Log) : List FileRecord := (life id log).filterMap (·.registration? id)

/-- What an event does to the list of registered files: a new one comes last, and one that is registered again
keeps its place. -/
def Event.place (ids : List String) : Event → List String
  | .registered r => if r.id ∈ ids then ids else ids ++ [r.id]
  | .deleted id => ids.filter (· ≠ id)
  | _ => ids

/-- The registered files in the order of their first registrations. -/
def registeredIds (log : Log) : List String := log.foldl Event.place []

/-! ### Registrations in a log -/

theorem registeredIds_snoc (log : Log) (e : Event) : registeredIds (log ++ [e]) = e.place (registeredIds log) := by
  simp [registeredIds]

theorem registers_iff {id : String} {e : Event} : e.registers id = true ↔ ∃ r, e.registration? id = some r := by
  cases e with
  | registered r => simp [Event.registers, Event.registration?]
  | _ => simp [Event.registers, Event.registration?]

theorem registration?_eq_none {id : String} {e : Event} (h : e.registers id = false) : e.registration? id = none := by
  rw [Option.eq_none_iff_forall_not_mem]
  intro r hr
  rw [registers_iff.2 ⟨r, hr⟩] at h
  cases h

theorem registrationsIn_snoc (id : String) (log : Log) (e : Event) : registrationsIn id (log ++ [e]) =
    if e.deletes id then [] else registrationsIn id log ++ (e.registration? id).toList := by
  unfold registrationsIn
  rw [life_snoc]
  by_cases hd : e.deletes id
  · simp [hd]
  · rw [if_neg hd, if_neg hd]
    by_cases hl : life id log = []
    · rw [if_pos hl, hl]
      by_cases hr : e.registers id
      · obtain ⟨r, hr'⟩ := registers_iff.1 hr
        simp [hr, hr']
      · simp [hr, registration?_eq_none (Bool.eq_false_iff.2 hr)]
    · rw [if_neg hl, List.filterMap_append]
      cases hr : e.registration? id <;> simp [hr]

theorem deletes_of_notMem {id : String} {l : Log} (h : .deleted id ∉ l) : ∀ e ∈ l, e.deletes id = false := by
  intro e he
  refine Bool.eq_false_iff.2 fun hd => h ?_
  cases e with
  | deleted file =>
    obtain rfl : file = id := by simpa [Event.deletes] using hd
    exact he
  | _ => simp [Event.deletes] at hd

/-- As long as a file is not deleted its registrations are only added to. -/
theorem registrationsIn_append {id : String} (log : Log) {l : Log} (h : ∀ e ∈ l, e.deletes id = false) :
    registrationsIn id (log ++ l) = registrationsIn id log ++ l.filterMap (·.registration? id) := by
  induction l generalizing log with
  | nil => simp
  | cons e l ih =>
    have he : e.deletes id = false := h e (by simp)
    have hl : ∀ e' ∈ l, e'.deletes id = false := fun e' he' => h e' (List.mem_cons_of_mem e he')
    rw [List.append_cons, ih _ hl, registrationsIn_snoc, if_neg (by simp [he]), List.filterMap_cons]
    cases e.registration? id <;> simp

theorem registrationsIn_append_of_quiet {id : String} (log : Log) {l : Log}
    (hd : ∀ e ∈ l, e.deletes id = false) (hr : ∀ e ∈ l, e.registers id = false) :
    registrationsIn id (log ++ l) = registrationsIn id log := by
  have hnone : l.filterMap (·.registration? id) = [] :=
    List.filterMap_eq_nil_iff.2 fun e he => registration?_eq_none (hr e he)
  rw [registrationsIn_append log hd, hnone, List.append_nil]

/-! ### What versions state -/

/-- A version states the identity of a file as a record gives it. -/
structure States (v : Snapshot) (r : FileRecord) : Prop where
  file : v.fileId = r.id
  project : v.projectId = some r.projectId
  name : v.fileName = some r.fileName

/-- A record gives the identity that was registered. -/
structure Keeps (r g : FileRecord) : Prop where
  id : r.id = g.id
  project : r.projectId = g.projectId
  name : r.fileName = g.fileName

theorem States.of_keeps {v : Snapshot} {r g : FileRecord} (h : States v g) (hk : Keeps r g) : States v r :=
  ⟨h.file.trans hk.id.symm, by rw [h.project, hk.project], by rw [h.name, hk.name]⟩

theorem Keeps.states {v : Snapshot} {r g : FileRecord} (hk : Keeps r g) (h : States v r) : States v g :=
  ⟨h.file.trans hk.id, by rw [h.project, hk.project], by rw [h.name, hk.name]⟩

/-- The files of a store are as their registrations say, and each version was added under one of them. -/
structure Registered (log : Log) (s : Store) : Prop where
  order : keys s.files = registeredIds log
  keeps : ∀ {id r}, get? s.files id = some r → ∃ g, (registrationsIn id log).getLast? = some g ∧ Keeps r g
  pending : ∀ {id r}, get? s.files id = some r → r.status = .pending →
    ∃ g, lastAttempt? id log = some (.registered g)
  origin : ∀ {before after v}, log = before ++ .ingested v :: after →
    ∃ g, (registrationsIn v.fileId before).getLast? = some g ∧ States v g

namespace Registered
variable {log : Log} {s s' : Store}

theorem empty : Registered [] {} where
  order := rfl
  keeps h := by simp [get?] at h
  pending h := by simp [get?] at h
  origin h := by simp at h

/-- The events that added versions are those of before, and perhaps the new one. -/
theorem origin_snoc (h : Registered log s) {e : Event}
    (he : ∀ v, e = .ingested v → ∃ g, (registrationsIn v.fileId log).getLast? = some g ∧ States v g)
    {before after : Log} {v : Snapshot} (hlog : log ++ [e] = before ++ .ingested v :: after) :
    ∃ g, (registrationsIn v.fileId before).getLast? = some g ∧ States v g := by
  rcases List.eq_nil_or_concat after with rfl | ⟨after', e', rfl⟩
  · obtain ⟨rfl, he'⟩ := List.append_inj' hlog rfl
    exact he v (List.singleton_inj.1 he')
  · rw [List.concat_eq_append, ← List.cons_append, ← List.append_assoc] at hlog
    obtain ⟨rfl, -⟩ := List.append_inj' hlog rfl
    exact h.origin rfl

/-- Only the table of files matters. -/
theorem congr {t : Store} (h : Registered log s) (hfiles : t.files = s.files) : Registered log t :=
  ⟨hfiles ▸ h.order, fun hr => h.keeps (hfiles ▸ hr), fun hr => h.pending (hfiles ▸ hr), h.origin⟩

/-- The record of a file changes to one that keeps its identity and is not pending. -/
theorem update (h : Registered log s) {id : String} {r t : FileRecord} (hr : get? s.files id = some r)
    (hk : Keeps t r) (hp : t.status ≠ .pending) : Registered log { s with files := put s.files id t } := by
  have hmem : id ∈ keys s.files := (mem_keys_iff s.files id).2 (by simp [hr])
  refine ⟨?_, fun {id' q} hq => ?_, fun {id' q} hq hpend => ?_, h.origin⟩
  · show keys (put s.files id t) = registeredIds log
    rw [keys_put, if_pos hmem, h.order]
  · rw [get?_put] at hq
    split at hq
    · rename_i hid
      obtain ⟨g, hg, hrg⟩ := h.keeps hr
      obtain rfl := Option.some.inj hq
      exact ⟨g, hid ▸ hg, hk.id.trans hrg.id, hk.project.trans hrg.project, hk.name.trans hrg.name⟩
    · exact h.keeps hq
  · rw [get?_put] at hq
    split at hq
    · exact absurd (Option.some.inj hq ▸ hpend) hp
    · exact h.pending hq hpend

/-- Work on files, which leaves their registrations as they are, on none that is pending. -/
theorem worked (h : Registered log s) {e : Event} (hd : ∀ id, e.deletes id = false)
    (hr : ∀ id, e.registers id = false)
    (hp : ∀ {id r}, get? s.files id = some r → e.attempts id = true → r.status ≠ .pending)
    (he : ∀ v, e = .ingested v → ∃ g, (registrationsIn v.fileId log).getLast? = some g ∧ States v g) :
    Registered (log ++ [e]) s := by
  have hin : ∀ id, registrationsIn id (log ++ [e]) = registrationsIn id log := fun id =>
    registrationsIn_append_of_quiet log (by simp [hd]) (by simp [hr])
  refine ⟨?_, fun hq => ?_, fun {id q} hq hpend => ?_, fun hlog => h.origin_snoc he hlog⟩
  · have hplace : e.place (registeredIds log) = registeredIds log := by
      cases e with
      | registered r => simpa [Event.registers] using hr r.id
      | deleted id => simpa [Event.deletes] using hd id
      | _ => rfl
    rw [registeredIds_snoc, hplace, h.order]
  · rw [hin]
    exact h.keeps hq
  · have hno : e.attempts id = false := Bool.eq_false_iff.2 fun ha => hp hq ha hpend
    rw [lastAttempt?_snoc, hno]
    simpa using h.pending hq hpend

theorem insertRecord (h : Registered log s) (r : FileRecord) :
    Registered (log ++ [.registered r]) (s.insertRecord r) := by
  have hin : ∀ id, registrationsIn id (log ++ [.registered r]) =
      registrationsIn id log ++ if r.id = id then [r] else [] := by
    intro id
    rw [registrationsIn_snoc]
    by_cases hid : r.id = id <;> simp [Event.deletes, Event.registration?, hid]
  refine ⟨?_, fun {id q} hq => ?_, fun {id q} hq hpend => ?_, fun hlog => h.origin_snoc (by simp) hlog⟩
  · show keys (put s.files r.id r) = _
    rw [keys_put, registeredIds_snoc, Event.place, h.order]
  · rw [hin]
    simp only [Store.insertRecord, get?_put] at hq
    by_cases hid : id = r.id
    · rw [if_pos hid] at hq
      obtain rfl := Option.some.inj hq
      exact ⟨r, by simp [hid], rfl, rfl, rfl⟩
    · rw [if_neg hid] at hq
      rw [if_neg (Ne.symm hid), List.append_nil]
      exact h.keeps hq
  · rw [lastAttempt?_snoc]
    simp only [Store.insertRecord, get?_put] at hq
    by_cases hid : id = r.id
    · exact ⟨r, by simp [Event.attempts, hid]⟩
    · rw [if_neg hid] at hq
      simpa [Event.attempts, Ne.symm hid] using h.pending hq hpend

theorem delete (h : Registered log s) {id : String} (hfiles : s'.files = erase s.files id) :
    Registered (log ++ [.deleted id]) s' := by
  refine ⟨?_, fun {id' q} hq => ?_, fun {id' q} hq hpend => ?_, fun hlog => h.origin_snoc (by simp) hlog⟩
  · rw [hfiles, keys_erase, registeredIds_snoc, Event.place, h.order]
  · rw [hfiles, get?_erase] at hq
    split at hq
    · cases hq
    · rename_i hid
      rw [registrationsIn_snoc, if_neg (by simpa [Event.deletes] using Ne.symm hid)]
      simpa [Event.registration?] using h.keeps hq
  · rw [hfiles, get?_erase] at hq
    split at hq
    · cases hq
    · rw [lastAttempt?_snoc]
      simpa [Event.attempts] using h.pending hq hpend

theorem step (h : Registered log s) {e : Event} (hs : Step s e s') : Registered (log ++ [e]) s' := by
  cases hs with
  | register r drawn hr hd =>
    have hdrawn : Registered log { s with drawn } := h.congr rfl
    exact hdrawn.insertRecord r
  | refuse id hf =>
    refine h.worked (fun _ => rfl) (fun _ => rfl) (fun {id' r} hr ha => ?_) (by simp)
    obtain rfl : id = id' := by simpa [Event.attempts] using ha
    rw [hf] at hr
    cases hr
  | fail id r error hf =>
    have hput := h.update hf (t := { r with status := .failed, error }) ⟨rfl, rfl, rfl⟩ (by simp)
    refine hput.worked (fun _ => rfl) (fun _ => rfl) (fun {id' q} hq ha => ?_) (by simp)
    obtain rfl : id = id' := by simpa [Event.attempts] using ha
    rw [get?_put_self] at hq
    simp [← Option.some.inj hq]
  | succeed r v hf hfile hid hn hfrom =>
    obtain ⟨g, hg, hk⟩ := h.keeps hf
    have hv : States v g := hk.states ⟨hfile, hfrom.1, hfrom.2⟩
    have hput := h.update hf (t := { r with status := .completed, currentVersion := v.versionNumber, error := none })
      ⟨rfl, rfl, rfl⟩ (by simp)
    have hafter := hput.congr (t := { s with
      files := put s.files r.id { r with status := .completed, currentVersion := v.versionNumber, error := none }
      versions := put s.versions r.id (s.versionsOf r.id ++ [v])
      byVersionId := put s.byVersionId v.versionId v
      drawn := s.drawn + 1 }) rfl
    refine hafter.worked (fun _ => rfl) (fun _ => rfl) (fun {id' q} hq ha => ?_) fun w hw => ?_
    · obtain rfl : v.fileId = id' := by simpa [Event.attempts] using ha
      rw [hfile, get?_put_self] at hq
      simp [← Option.some.inj hq]
    · obtain rfl := Event.ingested.inj hw
      exact ⟨g, hfile ▸ hg, hv⟩
  | delete id hf => exact h.delete rfl

end Registered

theorem run_registered (config : Config) (requests : List Request) :
    Registered (run config requests).1 (run config requests).2 :=
  run_induction Registered.empty (fun h hs => h.step hs) config requests

/-! ### What can be read -/

/-- A version of a file that can be read: one of its list, or one that is found by a number. -/
def Shows (s : Store) (id : String) (v : Snapshot) : Prop :=
  (∃ l, s.versionList id = .ok l ∧ v ∈ l) ∨ ∃ number, s.snapshot id number = .ok v

theorem mem_versionsOf_of_snapshot {s : Store} {id : String} {number : Value} {v : Snapshot}
    (h : s.snapshot id number = .ok v) : v ∈ s.versionsOf id := by
  unfold snapshot at h
  cases hf : s.file id with
  | error e =>
    rw [hf] at h
    cases h
  | ok f =>
    simp only [hf, bind, Except.bind] at h
    split at h
    · cases h
    split at h
    · cases h
    split at h
    · rename_i w hw
      obtain rfl := Except.ok.inj h
      exact List.mem_of_find?_eq_some hw
    · cases h

theorem mem_versionsOf_of_shows {s : Store} {id : String} {v : Snapshot} (h : s.Shows id v) : v ∈ s.versionsOf id := by
  rcases h with ⟨l, hl, hv⟩ | ⟨number, hn⟩
  · unfold versionList at hl
    cases hf : s.file id with
    | error e =>
      rw [hf] at hl
      cases hl
    | ok f =>
      rw [hf] at hl
      obtain rfl := Except.ok.inj hl
      exact hv
  · exact mem_versionsOf_of_snapshot hn

/-- A version that can be read was added in the present life of its file. -/
theorem Consistent.live_of_shows {log : Log} {s : Store} (h : Consistent log s) {id : String} {v : Snapshot}
    (hv : s.Shows id v) : v.fileId = id ∧ Live log v := by
  have hmem := mem_versionsOf_of_shows hv
  rw [h.versions] at hmem
  have hfile := fileId_of_mem_versionsIn hmem
  exact ⟨hfile, (h.live v).2 (hfile.symm ▸ hmem)⟩

/-- The last work on a file is that of a tail of the log that works on it. -/
theorem lastAttempt?_append {id : String} (before : Log) {after : Log} (h : ∃ e ∈ after, e.attempts id = true) :
    ∃ e ∈ after, e.attempts id = true ∧ lastAttempt? id (before ++ after) = some e := by
  obtain ⟨e, he, ha⟩ := h
  have hne : after.filter (·.attempts id) ≠ [] := List.ne_nil_of_mem (List.mem_filter.2 ⟨he, ha⟩)
  have hlast := List.getLast_mem hne
  refine ⟨_, (List.mem_filter.1 hlast).1, (List.mem_filter.1 hlast).2, ?_⟩
  rw [lastAttempt?, List.filter_append, List.getLast?_append, List.getLast?_eq_some_getLast hne, Option.some_or]

namespace Registered
variable {log : Log} {s : Store}

/-- A version stays in step with the record of its file until the file is registered again. -/
theorem states_record (h : Registered log s) {before after : Log} {v : Snapshot}
    (hlog : log = before ++ .ingested v :: after) (hd : .deleted v.fileId ∉ after) {f : FileRecord}
    (hf : get? s.files v.fileId = some f) (hr : ∀ e ∈ after, e.registers v.fileId = false) :
    States v f ∧ f.status ≠ .pending := by
  obtain ⟨g, hg, hv⟩ := h.origin hlog
  have hdel : ∀ e ∈ Event.ingested v :: after, e.deletes v.fileId = false :=
    deletes_of_notMem (by simpa using hd)
  have hreg : ∀ e ∈ Event.ingested v :: after, e.registers v.fileId = false := by
    intro e he
    rcases List.mem_cons.1 he with rfl | he
    · rfl
    · exact hr e he
  constructor
  · obtain ⟨g', hg', hk⟩ := h.keeps hf
    rw [hlog, registrationsIn_append_of_quiet before hdel hreg, hg] at hg'
    obtain rfl := Option.some.inj hg'
    exact hv.of_keeps hk
  · intro hp
    obtain ⟨g', hg'⟩ := h.pending hf hp
    have hworked : ∃ e ∈ Event.ingested v :: after, e.attempts v.fileId = true :=
      ⟨.ingested v, by simp, by simp [Event.attempts]⟩
    obtain ⟨e, he, ha, hlast⟩ := lastAttempt?_append before hworked
    rw [hlog, hlast] at hg'
    obtain rfl := Option.some.inj hg'
    have hno := hreg _ he
    simp only [Event.attempts, Event.registers] at ha hno
    rw [ha] at hno
    cases hno

end Registered

/-- Every version that can be read states what the record of its file gives, and a pending file has none. -/
def Faithful (s : Store) : Prop :=
  ∀ id f v, s.file id = .ok f → s.Shows id v → States v f ∧ f.status ≠ .pending

/-- What the versions of a store state, said of its log. -/
structure Identified (log : Log) (s : Store) : Prop where
  /-- A version was added in the present life of its file and states what was registered last before; it
  disagrees with the record, or the record is pending, only if the file has been registered again since. -/
  readable : ∀ id f v, s.file id = .ok f → s.Shows id v → ∃ before after g,
    log = before ++ .ingested v :: after ∧ .deleted id ∉ after ∧
    (registrationsIn id before).getLast? = some g ∧ States v g ∧
    ((∀ e ∈ after, e.registers id = false) → States v f ∧ f.status ≠ .pending)
  record : ∀ id f, s.file id = .ok f → ∃ g, (registrationsIn id log).getLast? = some g ∧ Keeps f g
  /-- A file that has been registered once in its present life shows no versions of others. -/
  once : ∀ id f v, s.file id = .ok f → (registrationsIn id log).length = 1 → s.Shows id v →
    States v f ∧ f.status ≠ .pending

theorem run_identified (config : Config) (requests : List Request) :
    Identified (run config requests).1 (run config requests).2 := by
  have hc := run_consistent config requests
  have h := run_registered config requests
  generalize run config requests = p at hc h
  obtain ⟨log, s⟩ := p
  have hreadable : ∀ id f v, s.file id = .ok f → s.Shows id v → ∃ before after g,
      log = before ++ .ingested v :: after ∧ .deleted id ∉ after ∧
      (registrationsIn id before).getLast? = some g ∧ States v g ∧
      ((∀ e ∈ after, e.registers id = false) → States v f ∧ f.status ≠ .pending) := by
    intro id f v hf hv
    obtain ⟨rfl, before, after, hlog, hd⟩ := hc.live_of_shows hv
    obtain ⟨g, hg, hvg⟩ := h.origin hlog
    exact ⟨before, after, g, hlog, hd, hg, hvg, h.states_record hlog hd (file_eq_ok.1 hf)⟩
  refine ⟨hreadable, fun id f hf => h.keeps (file_eq_ok.1 hf), fun id f v hf hone hv => ?_⟩
  obtain ⟨before, after, g, hlog, hd, hg, -, hstates⟩ := hreadable id f v hf hv
  refine hstates fun e he => Bool.eq_false_iff.2 fun hr => ?_
  -- the registration before the version and one after it would be two
  obtain ⟨r, hr⟩ := registers_iff.1 hr
  have hbefore : 0 < (registrationsIn id before).length :=
    List.length_pos_of_mem (List.mem_of_getLast? hg)
  have hafter : 0 < ((Event.ingested v :: after).filterMap (·.registration? id)).length :=
    List.length_pos_of_mem (List.mem_filterMap.2 ⟨e, List.mem_cons_of_mem _ he, hr⟩)
  have hall : registrationsIn id log = registrationsIn id before ++
      (Event.ingested v :: after).filterMap (·.registration? id) :=
    hlog ▸ registrationsIn_append before (deletes_of_notMem (by simpa using hd))
  rw [hall, List.length_append] at hone
  omega

/-- The bytes of a file that can be parsed. -/
def plainFile : List UInt8 := "CONTROLLER C\nEND_CONTROLLER\n".toList.map fun c => UInt8.ofNat c.toNat

/-- A file is taken in, and then its id is given to a file of another project. -/
def reusedId : List Request := [
  .register "p1" "a.l5k" none none (some "F"), .ingest "F" plainFile, .register "p2" "b.l5k" none none (some "F")]

/-- The version of the first project is shown for the file of the second, which is pending. -/
theorem run_unfaithful :
    (∃ f v, (run {} reusedId).2.file "F" = .ok f ∧ (run {} reusedId).2.Shows "F" v ∧
      f.status = .pending ∧ f.projectId = "p2" ∧ v.projectId = some "p1") ∧ ¬ Faithful (run {} reusedId).2 := by
  have hfile : ((run {} reusedId).2.file "F").toOption.map (fun f => (f.status, f.projectId)) =
      some (.pending, "p2") := by decide +kernel
  have hlist : ((run {} reusedId).2.versionList "F").toOption.map (fun l => l.map (·.projectId)) =
      some [some "p1"] := by decide +kernel
  generalize (run {} reusedId).2 = s at hfile hlist
  have hshown : ∃ f v, s.file "F" = .ok f ∧ s.Shows "F" v ∧ f.status = .pending ∧ f.projectId = "p2" ∧
      v.projectId = some "p1" := by
    cases hf : s.file "F" with
    | error e =>
      rw [hf] at hfile
      cases hfile
    | ok f =>
      cases hl : s.versionList "F" with
      | error e =>
        rw [hl] at hlist
        cases hlist
      | ok l =>
        rw [hf] at hfile
        rw [hl] at hlist
        obtain ⟨hpending, hproject⟩ := Prod.mk.inj (Option.some.inj hfile)
        obtain ⟨v, rfl, hv⟩ := List.map_eq_singleton_iff.1 (Option.some.inj hlist)
        exact ⟨f, v, rfl, .inl ⟨[v], hl, by simp⟩, hpending, hproject, hv⟩
  refine ⟨hshown, fun h => ?_⟩
  obtain ⟨f, v, hf, hv, hpending, -, -⟩ := hshown
  exact (h "F" f v hf hv).2 hpending

end LadderAtlas.Store
