import LadderAtlas.Diff.Folders
import LadderAtlas.Proofs.Diff.Report
import LadderAtlas.Proofs.Store.Registrations
import Mathlib.Algebra.Ring.Nat
import Mathlib.Data.List.Basic

/-!
# What a comparison of folders covers

`compareFolders_covers`: whatever has been done to a store, comparing two of its folders succeeds, pairs the
first files of each name that stands in both, and lists each other name once. It succeeds because a completed
file has a current snapshot; the rest is about the names (`sharedNames`, `unmatchedFiles`), each with the first
file that has it. Comparing the other way round gives the same with the sides exchanged (`Exchanged`).
-/

namespace LadderAtlas.Diff
open Keyed Store

/-- The completed files of a folder in the order of their first registrations. -/
def completedIn (log : Log) (s : Store) (folder : String) : List FileRecord :=
  ((registeredIds log).filterMap fun id => (s.file id).toOption).filter fun f =>
    f.folderId = some folder && f.isCompleted

/-- The first of the completed files with its name in a folder. -/
def IsFirstFile (log : Log) (s : Store) (folder : String) (f : FileRecord) : Prop :=
  IsFirst (·.fileName) (completedIn log s folder) f

def Side.other : Side → Side
  | .left => .right
  | .right => .left

/-- The folder on a side. -/
def Side.folder (left right : String) : Side → String
  | .left => left
  | .right => right

def Unmatched.exchanged (u : Unmatched) : Unmatched := { u with side := u.side.other }

/-- The files of a comparison without a counterpart on one side. -/
def FolderComparison.alone (c : FolderComparison) (side : Side) : List Unmatched := c.unmatched.filter (·.side = side)

/-- A comparison of two folders accounts for all of their completed files by name. -/
structure Covers (log : Log) (s : Store) (left right : String) (c : FolderComparison) : Prop where
  pairs : ∀ p, p ∈ c.pairs ↔ ∃ f g old new, IsFirstFile log s left f ∧ IsFirstFile log s right g ∧
    f.fileName = g.fileName ∧ s.snapshot f.id .null = .ok old ∧ s.snapshot g.id .null = .ok new ∧
    p = ⟨f.fileName, f.id, g.id, .compare old.document new.document⟩
  alone : ∀ side u, u ∈ c.alone side ↔ ∃ f, IsFirstFile log s (side.folder left right) f ∧
    (∀ g ∈ completedIn log s (side.other.folder left right), g.fileName ≠ f.fileName) ∧ u = ⟨f.fileName, f.id, side⟩
  pairsInOrder : c.pairs.Pairwise fun p q => p.fileName < q.fileName
  aloneInOrder : ∀ side, (c.alone side).Pairwise fun u v => u.fileName < v.fileName
  totalFiles : c.totalFiles = 2 * c.pairs.length + c.unmatched.length
  totalChanges : c.totalChanges = (c.pairs.map (·.report.totalChanges)).sum

/-- One comparison is the other one with its sides exchanged. -/
structure Exchanged (c c' : FolderComparison) : Prop where
  pairs : c'.pairs.map (fun p => (p.fileName, p.left, p.right)) = c.pairs.map fun p => (p.fileName, p.right, p.left)
  alone : ∀ side, c'.alone side = (c.alone side.other).map (·.exchanged)
  totalChanges : c'.totalChanges = c.totalChanges

/-! ### The files of a folder -/

theorem folderFiles_eq {log : Log} {s : Store} (h : Consistent log s) (hr : Registered log s) (folder : String) :
    s.folderFiles folder = completedIn log s folder := by
  have hfile : ∀ id, (s.file id).toOption = get? s.files id := by
    intro id
    cases hid : get? s.files id with
    | none => rw [file_eq_error hid]; rfl
    | some r => rw [file_eq_ok.2 hid]; rfl
  have hvalues : ∀ m : List (String × FileRecord), (keys m).Nodup → (keys m).filterMap (get? m) = m.map (·.2) := by
    intro m hm
    have hget : ∀ p ∈ m, get? m p.1 = some p.2 := fun p hp => (get?_eq_some_iff hm p.1 p.2).2 hp
    rw [keys, List.filterMap_map, List.filterMap_congr (g := some ∘ fun p => p.2) hget, List.filterMap_eq_map]
  rw [folderFiles, completedIn, ← hr.order, funext hfile, hvalues s.files h.nodup]

section names
variable {s : Store} {folder left right name : String}

theorem keys_filesByName : keys (filesByName s folder) = keys (firsts (·.fileName) (s.folderFiles folder)) := by
  rw [filesByName, keys, List.map_map]
  rfl

theorem mem_keys_filesByName : name ∈ keys (filesByName s folder) ↔ ∃ f ∈ s.folderFiles folder, f.fileName = name := by
  rw [keys_filesByName, mem_keys_firsts, List.mem_map]

theorem nodup_filesByName : (keys (filesByName s folder)).Nodup := by
  rw [keys_filesByName]
  exact nodup_keys_firsts _ _

theorem get?_filesByName : get? (filesByName s folder) name =
    (firstOf (·.fileName) (s.folderFiles folder) name).map (·.id) := by
  have hmap : ∀ m : List (String × FileRecord), get? (m.map fun p => (p.1, p.2.id)) name = (get? m name).map (·.id) := by
    intro m
    simp [get?, List.find?_map, Function.comp_def]
  rw [filesByName, firstOf, ← get?_firsts]
  exact hmap _

theorem mem_filesByName {id : String} : (name, id) ∈ filesByName s folder ↔
    ∃ f, IsFirst (·.fileName) (s.folderFiles folder) f ∧ f.fileName = name ∧ f.id = id := by
  rw [← get?_eq_some_iff nodup_filesByName, get?_filesByName, Option.map_eq_some_iff]
  simp only [firstOf_eq_some_iff, and_assoc]

end names

/-! ### Pairs -/

/-- The names in both folders, in order. -/
def sharedNames (s : Store) (left right : String) : List String :=
  ((keys (filesByName s left)).filter (keys (filesByName s right)).contains).mergeSort textLe

/-- The comparison of the first files with a name, if both folders have one and both files are parsed. -/
def pairOf (s : Store) (left right name : String) : Option FilePair := do
  let f ← firstOf (·.fileName) (s.folderFiles left) name
  let g ← firstOf (·.fileName) (s.folderFiles right) name
  let old ← (s.snapshot f.id .null).toOption
  let new ← (s.snapshot g.id .null).toOption
  return ⟨name, f.id, g.id, .compare old.document new.document⟩

/-- What comparing two folders of parsed files gives. -/
def comparison (s : Store) (left right : String) : FolderComparison where
  left
  right
  pairs := (sharedNames s left right).filterMap (pairOf s left right)
  unmatched := unmatchedFiles .left (filesByName s left) (filesByName s right) ++
    unmatchedFiles .right (filesByName s right) (filesByName s left)
  totalFiles := (filesByName s left).length + (filesByName s right).length

section pairs
variable {s : Store} {left right name : String}

theorem mem_sharedNames : name ∈ sharedNames s left right ↔
    (∃ f ∈ s.folderFiles left, f.fileName = name) ∧ ∃ g ∈ s.folderFiles right, g.fileName = name := by
  rw [sharedNames, List.mem_mergeSort, List.mem_filter, List.contains_iff_mem, mem_keys_filesByName,
    mem_keys_filesByName]

theorem nodup_sharedNames_unsorted :
    ((keys (filesByName s left)).filter (keys (filesByName s right)).contains).Nodup :=
  nodup_filesByName.filter _

theorem pairwise_sharedNames : (sharedNames s left right).Pairwise (· < ·) :=
  (isOrder_textLe.pairwise_ne_mergeSort nodup_sharedNames_unsorted).imp fun h => lt_of_textLe h.1 h.2

theorem sharedNames_comm : sharedNames s right left = sharedNames s left right := by
  refine isOrder_textLe.mergeSort_eq ((List.perm_ext_iff_of_nodup nodup_sharedNames_unsorted
    nodup_sharedNames_unsorted).2 fun name => ?_)
  simp only [List.mem_filter, List.contains_iff_mem]
  exact and_comm

theorem pairOf_eq_some_iff {p : FilePair} : pairOf s left right name = some p ↔
    ∃ f g old new, firstOf (·.fileName) (s.folderFiles left) name = some f ∧
      firstOf (·.fileName) (s.folderFiles right) name = some g ∧
      s.snapshot f.id .null = .ok old ∧ s.snapshot g.id .null = .ok new ∧
      p = ⟨name, f.id, g.id, .compare old.document new.document⟩ := by
  have hok : ∀ (x : Except Failure Snapshot) v, x.toOption = some v ↔ x = .ok v := by
    intro x v
    cases x <;> simp [Except.toOption]
  simp only [pairOf, Option.bind_eq_bind, Option.bind_eq_some_iff, hok, Option.pure_def, Option.some.injEq]
  constructor
  · rintro ⟨f, hf, g, hg, old, hold, new, hnew, rfl⟩
    exact ⟨f, g, old, new, hf, hg, hold, hnew, rfl⟩
  · rintro ⟨f, g, old, new, hf, hg, hold, hnew, rfl⟩
    exact ⟨f, hf, g, hg, old, hold, new, hnew, rfl⟩

/-- Every completed file of a folder has a current snapshot. -/
def Parsed (s : Store) (folder : String) : Prop := ∀ f ∈ s.folderFiles folder, ∃ v, s.snapshot f.id .null = .ok v

/-- A name in both folders has a pair. -/
theorem exists_pairOf (hl : Parsed s left) (hr : Parsed s right) (hname : name ∈ sharedNames s left right) :
    ∃ p, pairOf s left right name = some p := by
  obtain ⟨⟨f', hf', hfn⟩, g', hg', hgn⟩ := mem_sharedNames.1 hname
  obtain ⟨f, hfirst, rfl⟩ := exists_isFirst (List.mem_map.2 ⟨f', hf', hfn⟩)
  obtain ⟨g, hsecond, hgname⟩ := exists_isFirst (List.mem_map.2 ⟨g', hg', hgn⟩)
  obtain ⟨old, hold⟩ := hl f hfirst.mem
  obtain ⟨new, hnew⟩ := hr g hsecond.mem
  exact ⟨_, pairOf_eq_some_iff.2 ⟨f, g, old, new, firstOf_key_iff.2 hfirst,
    firstOf_eq_some_iff.2 ⟨hsecond, hgname⟩, hold, hnew, rfl⟩⟩

/-- Where each item that is looked up has a result, a list has the list of them. -/
theorem mapM_filterMap_eq_ok {ε α β γ : Type} {f : α → Option β} {h : β → Except ε γ} {g : α → Option γ} {l : List α}
    (hl : ∀ a ∈ l, ∃ b c, f a = some b ∧ h b = .ok c ∧ g a = some c) :
    (l.filterMap f).mapM h = .ok (l.filterMap g) := by
  induction l with
  | nil => rfl
  | cons a l ih =>
    obtain ⟨b, c, hf, hh, hg⟩ := hl a (by simp)
    have hrest := ih fun a' ha' => hl a' (List.mem_cons_of_mem a ha')
    rw [List.filterMap_cons_some hf, List.filterMap_cons_some hg, List.mapM_cons, hh, hrest]
    rfl

theorem compareFiles_eq_ok {f g : String} {old new : Snapshot} (hold : s.snapshot f .null = .ok old)
    (hnew : s.snapshot g .null = .ok new) :
    compareFiles s f g .null .null = .ok (.compare old.document new.document) := by
  rw [compareFiles, hold, hnew]
  rfl

theorem compareFolders_eq (hl : Parsed s left) (hr : Parsed s right) :
    compareFolders s left right = .ok (comparison s left right) := by
  unfold compareFolders
  dsimp only
  rw [show ((keys (filesByName s left)).filter (keys (filesByName s right)).contains).mergeSort textLe =
    sharedNames s left right from rfl, mapM_filterMap_eq_ok (g := pairOf s left right)]
  · rfl
  intro name hname
  obtain ⟨p, hp⟩ := exists_pairOf hl hr hname
  obtain ⟨f, g, old, new, hf, hg, hold, hnew, rfl⟩ := pairOf_eq_some_iff.1 hp
  refine ⟨(name, f.id, g.id), _, ?_, ?_, hp⟩
  · simp [get?_filesByName, hf, hg]
  · dsimp only
    rw [compareFiles_eq_ok hold hnew]
    rfl

/-- A pair read backwards: the files change places, and so do old and new. -/
theorem pairOf_swap (name : String) :
    (pairOf s right left name).map (fun p => (p.fileName, p.left, p.right, p.report.totalChanges)) =
      (pairOf s left right name).map fun p => (p.fileName, p.right, p.left, p.report.totalChanges) := by
  have himp : ∀ (l r : String) p, pairOf s l r name = some p → ∃ q, pairOf s r l name = some q ∧
      (p.fileName, p.left, p.right, p.report.totalChanges) = (q.fileName, q.right, q.left, q.report.totalChanges) := by
    intro l r p hp
    obtain ⟨f, g, old, new, hf, hg, hold, hnew, rfl⟩ := pairOf_eq_some_iff.1 hp
    have hchanges := Report.totalChanges_eq (Report.mirrors_compare old.document new.document)
      (Report.sameModifiedKeys_compare old.document new.document)
    exact ⟨_, pairOf_eq_some_iff.2 ⟨g, f, new, old, hg, hf, hnew, hold, rfl⟩, by simp [hchanges]⟩
  cases hp : pairOf s right left name with
  | some p =>
    obtain ⟨q, hq, heq⟩ := himp right left p hp
    rw [hq, Option.map_some, Option.map_some, heq]
  | none =>
    cases hq : pairOf s left right name with
    | none => rfl
    | some q =>
      obtain ⟨p, hp', -⟩ := himp left right q hq
      rw [hp] at hp'
      cases hp'

end pairs

/-! ### Files without a counterpart -/

section unmatched
variable {side : Side} {own other : List (String × String)}

theorem mem_unmatchedFiles {u : Unmatched} : u ∈ unmatchedFiles side own other ↔
    (u.fileName, u.fileId) ∈ own ∧ u.fileName ∉ keys other ∧ u.side = side := by
  have hlacks : ∀ name, (!(keys other).contains name) = true ↔ name ∉ keys other := by simp
  simp only [unmatchedFiles, List.mem_map, List.mem_mergeSort, List.mem_filter, hlacks, Prod.exists]
  constructor
  · rintro ⟨name, id, ⟨hown, hother⟩, rfl⟩
    exact ⟨hown, hother, rfl⟩
  · rintro ⟨hown, hother, rfl⟩
    exact ⟨u.fileName, u.fileId, ⟨hown, hother⟩, rfl⟩

theorem pairwise_unmatchedFiles (h : (keys own).Nodup) :
    (unmatchedFiles side own other).Pairwise fun u v => u.fileName < v.fileName := by
  have htrans : ∀ a b c : String × String, textLe a.1 b.1 = true → textLe b.1 c.1 = true → textLe a.1 c.1 = true :=
    fun _ _ _ => isOrder_textLe.trans
  have htotal : ∀ a b : String × String, (textLe a.1 b.1 || textLe b.1 a.1) = true :=
    fun a b => isOrder_textLe.total a.1 b.1
  have hle := List.pairwise_mergeSort htrans htotal (own.filter fun p => !(keys other).contains p.1)
  have hne : (own.filter fun p => !(keys other).contains p.1).Pairwise fun a b => a.1 ≠ b.1 :=
    (List.pairwise_map.1 h).filter _
  have hne' := (List.mergeSort_perm _ fun a b => textLe a.1 b.1).symm.pairwise hne fun h => Ne.symm h
  rw [unmatchedFiles, List.pairwise_map]
  exact (hle.and hne').imp fun h => lt_of_textLe h.1 h.2

theorem length_unmatchedFiles : (unmatchedFiles side own other).length =
    ((keys own).filter fun name => !(keys other).contains name).length := by
  simp only [unmatchedFiles, List.length_map, List.length_mergeSort, keys, List.filter_map]
  rfl

theorem exchanged_unmatchedFiles :
    (unmatchedFiles side own other).map (·.exchanged) = unmatchedFiles side.other own other := by
  rw [unmatchedFiles, List.map_map]
  rfl

theorem filter_side_unmatchedFiles (side' : Side) : (unmatchedFiles side own other).filter (·.side = side') =
    if side = side' then unmatchedFiles side own other else [] := by
  split
  · rename_i hside
    exact List.filter_eq_self.2 fun u hu => decide_eq_true ((mem_unmatchedFiles.1 hu).2.2.trans hside)
  · rename_i hside
    exact List.filter_eq_nil_iff.2 fun u hu => by simpa [(mem_unmatchedFiles.1 hu).2.2] using hside

end unmatched

/-! ### Comparisons -/

theorem FolderComparison.totalChanges_eq_sum (c : FolderComparison) :
    c.totalChanges = (c.pairs.map (·.report.totalChanges)).sum := by
  rw [FolderComparison.totalChanges]
  induction c.pairs with
  | nil => rfl
  | cons p pairs ih => rw [List.foldr_cons, ih, List.map_cons, List.sum_cons]

section comparison
variable {log : Log} {s : Store} {left right : String}

theorem mem_pairs_comparison {p : FilePair} : p ∈ (comparison s left right).pairs ↔
    ∃ f g old new, IsFirst (·.fileName) (s.folderFiles left) f ∧ IsFirst (·.fileName) (s.folderFiles right) g ∧
      f.fileName = g.fileName ∧ s.snapshot f.id .null = .ok old ∧ s.snapshot g.id .null = .ok new ∧
      p = ⟨f.fileName, f.id, g.id, .compare old.document new.document⟩ := by
  rw [comparison, List.mem_filterMap]
  constructor
  · rintro ⟨name, -, hp⟩
    obtain ⟨f, g, old, new, hf, hg, hold, hnew, rfl⟩ := pairOf_eq_some_iff.1 hp
    obtain ⟨hfirst, rfl⟩ := firstOf_eq_some_iff.1 hf
    obtain ⟨hsecond, hname⟩ := firstOf_eq_some_iff.1 hg
    exact ⟨f, g, old, new, hfirst, hsecond, hname.symm, hold, hnew, rfl⟩
  · rintro ⟨f, g, old, new, hfirst, hsecond, hname, hold, hnew, rfl⟩
    refine ⟨f.fileName, mem_sharedNames.2 ⟨⟨f, hfirst.mem, rfl⟩, g, hsecond.mem, hname.symm⟩, ?_⟩
    exact pairOf_eq_some_iff.2 ⟨f, g, old, new, firstOf_key_iff.2 hfirst,
      firstOf_eq_some_iff.2 ⟨hsecond, hname.symm⟩, hold, hnew, rfl⟩

/-- The pairs are for the shared names, each once and in order. -/
theorem names_comparison (hl : Parsed s left) (hr : Parsed s right) :
    (comparison s left right).pairs.map (·.fileName) = sharedNames s left right := by
  have hname : ∀ {name p}, pairOf s left right name = some p → p.fileName = name := by
    intro name p hp
    obtain ⟨_, _, _, _, _, _, _, _, rfl⟩ := pairOf_eq_some_iff.1 hp
    rfl
  rw [comparison, map_filterMap_eq_filter hname, List.filter_eq_self]
  intro name hmem
  obtain ⟨p, hp⟩ := exists_pairOf hl hr hmem
  rw [hp, Option.isSome_some]

theorem alone_comparison (side : Side) : (comparison s left right).alone side =
    unmatchedFiles side (filesByName s (side.folder left right)) (filesByName s (side.other.folder left right)) := by
  rw [FolderComparison.alone, comparison, List.filter_append, filter_side_unmatchedFiles, filter_side_unmatchedFiles]
  cases side with
  | left => simp [Side.folder, Side.other]
  | right => simp [Side.folder, Side.other]

theorem mem_alone_comparison {side : Side} {u : Unmatched} : u ∈ (comparison s left right).alone side ↔
    ∃ f, IsFirst (·.fileName) (s.folderFiles (side.folder left right)) f ∧
      (∀ g ∈ s.folderFiles (side.other.folder left right), g.fileName ≠ f.fileName) ∧
      u = ⟨f.fileName, f.id, side⟩ := by
  rw [alone_comparison, mem_unmatchedFiles, mem_filesByName, mem_keys_filesByName]
  constructor
  · rintro ⟨⟨f, hfirst, hname, hid⟩, hother, rfl⟩
    refine ⟨f, hfirst, fun g hg hgf => hother ⟨g, hg, hgf.trans hname⟩, ?_⟩
    rw [hname, hid]
  · rintro ⟨f, hfirst, hother, rfl⟩
    exact ⟨⟨f, hfirst, rfl, rfl⟩, fun ⟨g, hg, hgf⟩ => hother g hg hgf, rfl⟩

/-- Each name of a folder is shared or stands alone. -/
theorem length_filesByName (side : Side) (left right : String) : (filesByName s left).length =
    (sharedNames s left right).length + (unmatchedFiles side (filesByName s left) (filesByName s right)).length := by
  have hkeys : (filesByName s left).length = (keys (filesByName s left)).length := by simp [keys]
  have hparts := List.length_eq_countP_add_countP (keys (filesByName s right)).contains (l := keys (filesByName s left))
  rw [hkeys, hparts, length_unmatchedFiles, sharedNames, List.length_mergeSort, ← List.countP_eq_length_filter,
    ← List.countP_eq_length_filter]
  simp

theorem covers_comparison (hf : ∀ folder, s.folderFiles folder = completedIn log s folder) (hl : Parsed s left)
    (hr : Parsed s right) : Covers log s left right (comparison s left right) := by
  have hnames := names_comparison hl hr
  have hlength : (comparison s left right).pairs.length = (sharedNames s left right).length := by
    rw [← hnames, List.length_map]
  refine ⟨fun p => ?_, fun side u => ?_, ?_, fun side => ?_, ?_, FolderComparison.totalChanges_eq_sum _⟩
  · rw [mem_pairs_comparison, hf, hf]
    rfl
  · rw [mem_alone_comparison, hf, hf]
    rfl
  · rw [← List.pairwise_map (f := fun p : FilePair => p.fileName) (R := (· < ·)), hnames]
    exact pairwise_sharedNames
  · rw [alone_comparison]
    exact pairwise_unmatchedFiles nodup_filesByName
  · have hleft := length_filesByName (s := s) .left left right
    have hright := length_filesByName (s := s) .right right left
    rw [sharedNames_comm] at hright
    rw [hlength]
    simp only [comparison, List.length_append]
    omega

theorem exchanged_comparison : Exchanged (comparison s left right) (comparison s right left) := by
  have hswap := @pairOf_swap s left right
  refine ⟨?_, fun side => ?_, ?_⟩
  · have hname : ∀ name, (pairOf s right left name).map (fun p => (p.fileName, p.left, p.right)) =
        (pairOf s left right name).map fun p => (p.fileName, p.right, p.left) := by
      intro name
      simpa [Function.comp_def] using congrArg (Option.map fun q => (q.1, q.2.1, q.2.2.1)) (hswap name)
    simp only [comparison, List.map_filterMap, sharedNames_comm, hname]
  · rw [alone_comparison, alone_comparison, exchanged_unmatchedFiles]
    cases side <;> rfl
  · have hchanges : ∀ name, (pairOf s right left name).map (·.report.totalChanges) =
        (pairOf s left right name).map (·.report.totalChanges) := by
      intro name
      simpa [Function.comp_def] using congrArg (Option.map fun q => q.2.2.2) (hswap name)
    rw [FolderComparison.totalChanges_eq_sum, FolderComparison.totalChanges_eq_sum]
    simp only [comparison, List.map_filterMap, sharedNames_comm, hchanges]

end comparison

/-- After any requests two folders can be compared, in either direction; the comparison accounts for all of their
completed files, and the directions differ in nothing but the sides. -/
theorem compareFolders_covers (config : Config) (requests : List Request) (left right : String) :
    ∃ c c', compareFolders (run config requests).2 left right = .ok c ∧
      Covers (run config requests).1 (run config requests).2 left right c ∧
      compareFolders (run config requests).2 right left = .ok c' ∧ Exchanged c c' := by
  have hc := run_consistent config requests
  have hr := run_registered config requests
  generalize run config requests = p at hc hr
  obtain ⟨log, s⟩ := p
  have hparsed : ∀ folder, Parsed s folder := by
    intro folder f hf
    obtain ⟨hmem, hcompleted⟩ := List.mem_filter.1 hf
    have hfile : get? s.files f.id = some f := (hc.mem_files f).1 hmem
    have hdone : f.isCompleted = true := by
      rw [Bool.and_eq_true] at hcompleted
      exact hcompleted.2
    obtain ⟨v, hv⟩ := (hc.completed hfile).1 hdone
    exact ⟨v, hc.snapshot_current hfile hv⟩
  refine ⟨comparison s left right, comparison s right left, compareFolders_eq (hparsed left) (hparsed right), ?_,
    compareFolders_eq (hparsed right) (hparsed left), exchanged_comparison⟩
  exact covers_comparison (folderFiles_eq hc hr) (hparsed left) (hparsed right)

end LadderAtlas.Diff
