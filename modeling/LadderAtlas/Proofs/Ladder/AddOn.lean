import LadderAtlas.Proofs.Ladder.Literals
import Mathlib.Data.List.Basic
import Mathlib.Data.List.Induction

/-! # Calls of add-on instructions

A table with add-on instructions takes a mnemonic for the last of them that bears it, in any case, and
otherwise answers as before (`lookup_withAois`). Of rungs written as calls on tag paths the references
are then known operand by operand, as `extract_withAois` states. -/

namespace LadderAtlas.Ladder
open Text

/-- How a call of an add-on instruction uses its operand at place `i`: the backing tag comes first, then
the parameters that calls list; what comes after those is read. -/
def operandUsage (a : Aoi) : Nat → Usage
  | 0 => .readWrite
  | i + 1 =>
    match a.callParameters[i]? with
    | some p => if p.usage = "Output" then .write else if p.usage = "InOut" then .readWrite else .read
    | none => .read

/-- The last add-on instruction that bears a mnemonic, in any case. -/
def calledAoi? (aois : List Aoi) (mnemonic : String) : Option Aoi :=
  (aois.filter fun a => uppered a.name = uppered mnemonic).getLast?

/-- A reference that a call in a rung makes. -/
def referenceIn (origin : Origin) (rung : Rung) (call : Call) (tag : String) (usage : Usage) : TagReference where
  tagName := tag
  programName := rung.programName
  routineName := rung.routineName
  rungNumber := rung.number
  usage
  instruction := call.mnemonic
  fileId := origin.fileId
  versionId := origin.versionId

/-- The references of an operand that is a tag path: its own, then those of the tags in its indices. -/
def pathReferences (origin : Origin) (rung : Rung) (call : Call) (path : String) (usage : Usage) :
    List TagReference :=
  referenceIn origin rung call path usage ::
    (indexTags path.toList).map fun t => referenceIn origin rung call (String.ofList t) .read

/-- A rung is written as calls on tag paths. -/
structure WrittenAs (rung : Rung) (l : List PlacedCall) : Prop where
  written : ∃ last, IsSeparator last ∧ rung.logicText = String.ofList (render l last)
  wellFormed : ∀ c ∈ l, c.WellFormed
  paths : ∀ c ∈ l, ∀ o ∈ c.operands, isTagPath o.text = true

/-! ### Tables with add-on instructions -/

theorem calledAoi?_snoc (aois : List Aoi) (a : Aoi) (mnemonic : String) :
    calledAoi? (aois ++ [a]) mnemonic =
      if uppered a.name = uppered mnemonic then some a else calledAoi? aois mnemonic := by
  unfold calledAoi?
  rw [List.filter_append]
  by_cases h : uppered a.name = uppered mnemonic
  · simp [h]
  · simp [h]

theorem lookup_register (table : Table) (s : Signature) (mnemonic : String) :
    (table.register s).lookup mnemonic =
      if uppered s.mnemonic = uppered mnemonic then some s else table.lookup mnemonic := by
  unfold Table.register Table.lookup
  rw [Keyed.get?_put]
  by_cases h : uppered s.mnemonic = uppered mnemonic
  · rw [if_pos h, ← h]
    exact if_pos rfl
  · rw [if_neg h]
    exact if_neg (Ne.symm h)

theorem lookup_registerAoi (table : Table) (a : Aoi) (mnemonic : String) :
    (table.registerAoi a).lookup mnemonic =
      if uppered a.name = uppered mnemonic then some (.ofAoi a) else table.lookup mnemonic :=
  lookup_register table (.ofAoi a) mnemonic

/-- Of the signatures of a mnemonic the last one is found. -/
theorem lookup_ofList (l : List Signature) (mnemonic : String) :
    (Table.ofList l).lookup mnemonic = (l.filter fun s => uppered s.mnemonic = uppered mnemonic).getLast? := by
  induction l using List.reverseRecOn with
  | nil => rfl
  | append_singleton l s ih =>
    have hsnoc : Table.ofList (l ++ [s]) = (Table.ofList l).register s := by simp [Table.ofList]
    rw [hsnoc, lookup_register, List.filter_append]
    by_cases h : uppered s.mnemonic = uppered mnemonic
    · simp [h]
    · simp [h, ih]

/-- The last add-on instruction of a name takes the place of all others and of what the table had. -/
theorem lookup_withAois (table : Table) (aois : List Aoi) (mnemonic : String) :
    (withAois table aois).lookup mnemonic =
      ((calledAoi? aois mnemonic).map Signature.ofAoi).or (table.lookup mnemonic) := by
  -- from the end, since the last definition is the one that counts
  induction aois using List.reverseRecOn with
  | nil => rfl
  | append_singleton aois a ih =>
    have hsnoc : withAois table (aois ++ [a]) = (withAois table aois).registerAoi a := by
      simp [withAois]
    rw [hsnoc, lookup_registerAoi, calledAoi?_snoc]
    split
    · rfl
    · exact ih

/-- The role of operands that are used so. -/
def roleOf : Usage → Role
  | .read => .read
  | .write => .write
  | .readWrite => .readWrite

theorem usage?_roleOf (usage : Usage) : (roleOf usage).usage? = some usage := by
  cases usage <;> rfl

theorem roleOf_ne_expression (usage : Usage) : roleOf usage ≠ .expression := by
  cases usage <;> decide

theorem roleFor_ofAoi (a : Aoi) (i : Nat) (operands : List String) :
    (Signature.ofAoi a).roleFor i operands = roleOf (operandUsage a i) := by
  cases i with
  | zero => rfl
  | succ i =>
    simp only [Signature.roleFor, Signature.ofAoi, List.getElem?_cons_succ, List.getElem?_map, operandUsage]
    cases a.callParameters[i]? with
    | none => rfl
    | some p =>
      by_cases hout : p.usage = "Output"
      · simp [hout, roleOf]
      · by_cases hinout : p.usage = "InOut"
        · simp [hinout, roleOf]
        · simp [hout, hinout, roleOf]

/-! ### Tag paths -/

/-- A tag path is used as its place says, and the tags in its indices are read. -/
theorem classify_path {s : List Char} (h : isTagPath s = true) (htrim : trim s = s) (usage : Usage) :
    classify s (roleOf usage) = (s, usage) :: (indexTags s).map fun t => (t, Usage.read) := by
  have hne : s.isEmpty = false := by
    obtain ⟨c, t, rfl, -⟩ := head_of_isTagPath h
    rfl
  unfold classify
  rw [htrim, usage?_roleOf]
  simp [hne, isLiteral_of_isTagPath h, roleOf_ne_expression, h]

/-! ### Calls -/

/-- The references of a call of an add-on instruction, operand by operand. -/
theorem callReferences_ofAoi {table : Table} {a : Aoi} (origin : Origin) (rung : Rung) (c : PlacedCall)
    (ha : table.lookup c.call.mnemonic = some (.ofAoi a)) (hc : c.WellFormed)
    (hpaths : ∀ o ∈ c.operands, isTagPath o.text = true) :
    callReferences table origin rung c.call =
      (c.call.operands.mapIdx fun i path =>
        pathReferences origin rung c.call path (operandUsage a i)).flatten := by
  have hone : ∀ path ∈ c.call.operands, ∀ usage,
      (classify path.toList (roleOf usage)).map
        (fun p => referenceIn origin rung c.call (String.ofList p.1) p.2) =
        pathReferences origin rung c.call path usage := by
    intro path hpath usage
    obtain ⟨o, ho, rfl⟩ := List.mem_map.1 hpath
    rw [String.toList_ofList, classify_path (hpaths o ho) (hc.operands o ho).trimmed]
    simp [pathReferences]
  unfold callReferences
  simp only [ha, roleFor_ofAoi]
  congr 1
  rw [List.mapIdx_eq_mapIdx_iff]
  intro i hi
  exact hone _ (List.getElem_mem hi) _

/-- A call that no add-on instruction bears the name of is read as if there were none. -/
theorem callReferences_of_none {table : Table} {aois : List Aoi} (origin : Origin) (rung : Rung) (call : Call)
    (h : calledAoi? aois call.mnemonic = none) :
    callReferences (withAois table aois) origin rung call = callReferences (withAois table []) origin rung call := by
  have hl := lookup_withAois table aois call.mnemonic
  rw [h] at hl
  unfold callReferences
  rw [hl]
  rfl

/-- The calls that were written are the calls of a rung. -/
theorem rungCalls_of_written {rung : Rung} {l : List PlacedCall} (hl : ∀ c ∈ l, c.WellFormed)
    (hr : ∃ last, IsSeparator last ∧ rung.logicText = String.ofList (render l last)) :
    rungCalls rung = l.map (·.call) := by
  obtain ⟨last, hlast, hr⟩ := hr
  unfold rungCalls
  rw [hr, String.toList_ofList, render, calls_flatten_append hl, calls_of_separator hlast, List.append_nil]

theorem WrittenAs.rungCalls {rung : Rung} {l : List PlacedCall} (h : WrittenAs rung l) :
    rungCalls rung = l.map (·.call) := rungCalls_of_written h.wellFormed h.written

/-- The references of rungs written as calls on tag paths, in the order of rungs, calls and operands. -/
theorem extract_withAois (table : Table) (aois : List Aoi) (origin : Origin) (rungs : List (Rung × List PlacedCall))
    (h : ∀ p ∈ rungs, WrittenAs p.1 p.2) :
    (extract (withAois table aois) origin (rungs.map (·.1))).value =
      rungs.flatMap fun (rung, l) => l.flatMap fun c =>
        match calledAoi? aois c.call.mnemonic with
        | some a => (c.call.operands.mapIdx fun i path =>
            pathReferences origin rung c.call path (operandUsage a i)).flatten
        | none => callReferences (withAois table []) origin rung c.call := by
  show (rungs.map (·.1)).flatMap (rungReferences (withAois table aois) origin) = _
  rw [List.flatMap_map]
  refine List.flatMap_congr fun p hp => ?_
  obtain ⟨rung, l⟩ := p
  have hw : WrittenAs rung l := h _ hp
  show (rungCalls rung).flatMap (callReferences (withAois table aois) origin rung) = _
  rw [hw.rungCalls, List.flatMap_map]
  refine List.flatMap_congr fun c hc => ?_
  cases ha : calledAoi? aois c.call.mnemonic with
  | none => exact callReferences_of_none origin rung c.call ha
  | some a =>
    have hl := lookup_withAois table aois c.call.mnemonic
    rw [ha] at hl
    exact callReferences_ofAoi origin rung c hl (hw.wellFormed c hc) (hw.paths c hc)

/-- Two definitions that bear the name of a standard instruction; the later one counts. -/
def pidAois : List Aoi := [
  { name := "PID", parameters := [⟨"Out", "REAL", "Output", true, true, none, none, none⟩] },
  { name := "Pid", parameters := [
      ⟨"EnableIn", "BOOL", "Input", false, false, none, none, none⟩,
      ⟨"Limit", "DINT", "Input", true, true, none, none, none⟩,
      ⟨"Data", "TREND", "InOut", false, true, none, none, none⟩,
      ⟨"Out", "REAL", "Output", true, true, none, none, none⟩] }]

def pidCalls : List PlacedCall := [
  { mnemonic := "pid".toList,
    operands := [⟨[], "v".toList, []⟩, ⟨[], "Limits[i]".toList, []⟩, ⟨[], "t".toList, []⟩,
      ⟨[], "out.1".toList, []⟩, ⟨[], "x".toList, []⟩] },
  { lead := "[".toList, mnemonic := "OTE".toList, operands := [⟨[], "y".toList, []⟩] }]

def pidRung : Rung := ⟨"Main", "Flow", 3, "pid(v,Limits[i],t,out.1,x)[OTE(y)];", none⟩

theorem pidRung_writtenAs : WrittenAs pidRung pidCalls := by
  refine ⟨⟨"];".toList, by decide, rfl⟩, ?_, by decide +kernel⟩
  have hindexed : Nested false "Limits[i]".toList :=
    .append (s := "Limits".toList) (.of_plain (by decide)) <|
      .brackets (t := "i".toList) (s := []) (.of_plain (by decide)) .nil
  intro c hc
  simp only [pidCalls, List.mem_cons, List.not_mem_nil, or_false] at hc
  rcases hc with rfl | rfl
  · refine ⟨by decide, by decide, by decide, ?_, by decide, by decide⟩
    intro o ho
    simp only [List.mem_cons, List.not_mem_nil, or_false] at ho
    rcases ho with rfl | rfl | rfl | rfl | rfl
    · exact ⟨by decide, by decide, by decide, .of_plain (by decide)⟩
    · exact ⟨by decide, by decide, by decide, hindexed⟩
    · exact ⟨by decide, by decide, by decide, .of_plain (by decide)⟩
    · exact ⟨by decide, by decide, by decide, .of_plain (by decide)⟩
    · exact ⟨by decide, by decide, by decide, .of_plain (by decide)⟩
  · refine ⟨by decide, by decide, by decide, ?_, by decide, by decide⟩
    intro o ho
    obtain rfl := List.mem_singleton.1 ho
    exact ⟨by decide, by decide, by decide, .of_plain (by decide)⟩

theorem extract_pidAois : WrittenAs pidRung pidCalls ∧
    (extract (withAois standardTable pidAois) {} [pidRung]).value.map (fun r => (r.tagName, r.usage)) =
      [("v", .readWrite), ("Limits[i]", .read), ("i", .read), ("t", .readWrite), ("out.1", .write), ("x", .read),
        ("y", .write)] := by
  refine ⟨pidRung_writtenAs, ?_⟩
  have h := extract_withAois standardTable pidAois {} [(pidRung, pidCalls)] (by simp [pidRung_writtenAs])
  rw [List.map_singleton] at h
  rw [h]
  decide +kernel

end LadderAtlas.Ladder
