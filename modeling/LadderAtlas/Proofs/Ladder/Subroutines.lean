import LadderAtlas.Proofs.Ladder.AddOn
import LadderAtlas.Proofs.Number.Written
import LadderAtlas.Proofs.Text.Lines

/-!
# Calls of subroutines

A call of a subroutine states how many of its operands go in; those after them come out. The roles follow from the
number wherever a signature has it stated (`roleFor_counted`), and if it is not a number no operand comes out
(`roleFor_uncounted`). `extract_subroutine`: so the inputs are read and the returns are written, and the name and
the number leave no trace.
-/

namespace LadderAtlas.Ladder
open Text
open Number (natText digitLimit)

/-- As many operands as a numeral can count. No memory holds a longer list. -/
def operandLimit : Nat := 10 ^ digitLimit

/-- A rung is written as one call of a subroutine. -/
structure CallsSubroutine (rung : Rung) (c : PlacedCall) : Prop where
  written : ∃ last, IsSeparator last ∧ rung.logicText = String.ofList (render [c] last)
  wellFormed : c.WellFormed
  mnemonic : uppered c.call.mnemonic = "JSR"

/-- The references of an operand in a given role. -/
def operandReferences (origin : Origin) (rung : Rung) (call : Call) (operand : String) (role : Role) :
    List TagReference :=
  (classify operand.toList role).map fun p => referenceIn origin rung call (String.ofList p.1) p.2

/-! ### Numbers of inputs -/

section counts
variable {operands : List String} {k n : Nat}

theorem trim_toDigits (n : Nat) : trim (Nat.toDigits 10 n) = Nat.toDigits 10 n := by
  have hsolid : ∀ c ∈ Nat.toDigits 10 n, isBlank c = false := fun c hc =>
    Number.isBlank_of_isDigitLike (Number.isDigitLike_of_mem_toDigits hc)
  refine ((isTrimmed_iff _).2 ⟨Nat.toDigits_ne_nil, ?_, ?_⟩).trim_eq
  · exact fun c hc => hsolid c (List.mem_of_head? hc)
  · exact fun c hc => hsolid c (List.mem_of_getLast? hc)

theorem countOf_natText (h : operands[k]? = some (natText n)) :
    Signature.countOf operands k = if n < operandLimit then some (n : Int) else none := by
  rw [Signature.countOf, h, Option.bind_some, natText, String.toList_ofList, trim_toDigits]
  exact Number.whole?_toDigits n

theorem countOf_path {p : String} (h : operands[k]? = some p) (hp : isTagPath p.toList = true)
    (htrim : trim p.toList = p.toList) : Signature.countOf operands k = none := by
  obtain ⟨c, t, hc, hhead⟩ := head_of_isTagPath hp
  have hblank : isBlank c = false := by
    rw [hc] at htrim
    exact (isTrimmed_iff _).1 ⟨by simp, htrim⟩ |>.2.1 c rfl
  have hsign : c ∉ ['-', '+'] := by
    simp only [List.mem_cons, List.not_mem_nil, or_false, not_or]
    refine ⟨?_, ?_⟩ <;> rintro rfl <;> exact absurd hhead (by decide)
  rw [Signature.countOf, h, Option.bind_some, htrim, hc]
  exact Number.whole?_eq_none hblank (isDecimal_of_head hhead) hsign t

/-- After the fixed roles there are as many inputs as the number says. -/
theorem roleFor_counted {s : Signature} {role : Role} (hcount : s.countAt = some k) (hrest : s.rest = some role)
    (h : operands[k]? = some (natText n)) {i : Nat} (hi : i < operandLimit) : s.roleFor i operands =
      if h : i < s.roles.length then s.roles[i] else if i < s.roles.length + n then .read else role := by
  by_cases hfixed : i < s.roles.length
  · rw [dif_pos hfixed, Signature.roleFor, List.getElem?_eq_getElem hfixed]
  · have hnone : s.roles[i]? = none := List.getElem?_eq_none (Nat.le_of_not_lt hfixed)
    rw [dif_neg hfixed]
    simp only [Signature.roleFor, hnone, hcount, hrest, countOf_natText h, Option.getD_some]
    by_cases hn : n < operandLimit
    · rw [if_pos hn]
      have hcast : (i : Int) < s.roles.length + n ↔ i < s.roles.length + n := by omega
      simp only [hcast]
    · -- a number that cannot be read is beyond every place
      rw [if_neg hn, if_pos (by omega)]

/-- If the number of inputs is not stated, none of the operands after the fixed roles is more than read. -/
theorem roleFor_uncounted {s : Signature} (hcount : s.countAt = some k) (h : Signature.countOf operands k = none)
    {i : Nat} (hi : s.roles.length ≤ i) : s.roleFor i operands = .read := by
  simp only [Signature.roleFor, List.getElem?_eq_none hi, hcount, h]

end counts

/-! ### Operands of a call -/

section operands
variable {origin : Origin} {rung : Rung} {call : Call}

theorem callReferences_of_lookup {table : Table} {s : Signature} (h : table.lookup call.mnemonic = some s) :
    callReferences table origin rung call =
      (call.operands.mapIdx fun i o => operandReferences origin rung call o (s.roleFor i call.operands)).flatten := by
  unfold callReferences
  rw [h]
  rfl

theorem operandReferences_path {p : String} (hp : isTagPath p.toList = true) (htrim : trim p.toList = p.toList)
    (usage : Usage) :
    operandReferences origin rung call p (roleOf usage) = pathReferences origin rung call p usage := by
  rw [operandReferences, classify_path hp htrim]
  simp [pathReferences]

theorem isLiteral_toDigits (n : Nat) : isLiteral (Nat.toDigits 10 n) = true := by
  have hdigits : IsDigits (Nat.toDigits 10 n) := ⟨Nat.toDigits_ne_nil, fun _ => Number.isDecimal_of_mem_toDigits⟩
  have hall : afterDigits? (Nat.toDigits 10 n) = some [] := by
    have hall := afterDigits?_append (s := []) hdigits (by simp)
    rwa [List.append_nil] at hall
  obtain ⟨c, t, hc⟩ := List.exists_cons_of_ne_nil hdigits.ne_nil
  have hdecimal : isDecimal c = true := hdigits.digits c (by simp [hc])
  have hne : ∀ d ∈ ['+', '-', '.'], c ≠ d := by
    rintro d hd rfl
    simp only [List.mem_cons, List.not_mem_nil, or_false] at hd
    rcases hd with rfl | rfl | rfl <;> exact absurd hdecimal (by decide)
  have hsign : dropSign (Nat.toDigits 10 n) = Nat.toDigits 10 n := by
    rw [hc]
    unfold dropSign
    split
    · rename_i he
      exact absurd (List.cons.inj he).1 (hne '+' (by decide))
    · rename_i he
      exact absurd (List.cons.inj he).1 (hne '-' (by decide))
    · rfl
  have hmantissa : afterMantissa? (Nat.toDigits 10 n) = some [] := by
    unfold afterMantissa?
    split
    · rename_i he
      rw [hc] at he
      exact absurd (List.cons.inj he).1 (hne '.' (by decide))
    · rw [hall]
  simp [isLiteral, isPlainLiteral, isNumber, hsign, hmantissa, isExponent]

theorem operandReferences_natText (n : Nat) (role : Role) :
    operandReferences origin rung call (natText n) role = [] := by
  have hliteral : isLiteral (trim (natText n).toList) = true := by
    rw [natText, String.toList_ofList, trim_toDigits]
    exact isLiteral_toDigits n
  rw [operandReferences, classify_of_isLiteral hliteral]
  rfl

end operands

/-! ### Subroutines -/

/-- The signature of subroutine calls: the name of the routine, the number of inputs, and after them the returns. -/
def subroutine : Signature where
  mnemonic := "JSR"
  roles := [.name, .read]
  rest := some .write
  countAt := some 1

theorem lookup_subroutine {mnemonic : String} (h : uppered mnemonic = "JSR") :
    standardTable.lookup mnemonic = some subroutine := by
  rw [standardTable, lookup_ofList, h]
  decide +kernel

/-- The name of the routine is no tag. -/
theorem operandReferences_routine (origin : Origin) (rung : Rung) (call : Call) (sub : String)
    (operands : List String) : operandReferences origin rung call sub (subroutine.roleFor 0 operands) = [] := rfl

/-- Two operands of a call of a subroutine come before its inputs and returns. -/
theorem roleFor_subroutine {operands : List String} {n i : Nat} (h : operands[1]? = some (natText n))
    (hi : i + 2 < operandLimit) : subroutine.roleFor (i + 2) operands = if i < n then .read else .write := by
  have hlength : subroutine.roles.length = 2 := rfl
  have hplace : i + 2 < 2 + n ↔ i < n := by omega
  rw [roleFor_counted rfl rfl h hi, dif_neg (by omega), hlength]
  simp only [hplace]

namespace CallsSubroutine
variable {rung : Rung} {c : PlacedCall} {origin : Origin} {sub count : String} {inputs returns paths : List String}

theorem trim_operand (h : CallsSubroutine rung c) {p : String} (hp : p ∈ c.call.operands) :
    trim p.toList = p.toList := by
  obtain ⟨o, ho, rfl⟩ := List.mem_map.1 hp
  rw [String.toList_ofList]
  exact (h.wellFormed.operands o ho).trimmed

theorem value_extract (h : CallsSubroutine rung c) : (extract standardTable origin [rung]).value =
    (c.call.operands.mapIdx fun i o =>
      operandReferences origin rung c.call o (subroutine.roleFor i c.call.operands)).flatten := by
  have hcalls : rungCalls rung = [c].map (·.call) := rungCalls_of_written (by simpa using h.wellFormed) h.written
  show [rung].flatMap (rungReferences standardTable origin) = _
  rw [List.flatMap_singleton, rungReferences, hcalls, List.map_singleton, List.flatMap_singleton]
  exact callReferences_of_lookup (lookup_subroutine h.mnemonic)

/-- Operands of a call that are paths and all used in one way. -/
theorem flatten_paths (h : CallsSubroutine rung c) {usage : Usage} {role : Nat → Role}
    (hmem : ∀ p ∈ paths, p ∈ c.call.operands) (hpaths : ∀ p ∈ paths, isTagPath p.toList = true)
    (hrole : ∀ i < paths.length, role i = roleOf usage) :
    (paths.mapIdx fun i p => operandReferences origin rung c.call p (role i)).flatten =
      paths.flatMap fun p => pathReferences origin rung c.call p usage := by
  have hmap : (paths.mapIdx fun i p => operandReferences origin rung c.call p (role i)) =
      paths.map fun p => pathReferences origin rung c.call p usage := by
    refine List.ext_getElem (by simp) fun i hi _ => ?_
    rw [List.length_mapIdx] at hi
    have hp := List.getElem_mem hi
    rw [List.getElem_mapIdx, List.getElem_map, hrole i hi,
      operandReferences_path (hpaths _ hp) (h.trim_operand (hmem _ hp))]
  rw [hmap, List.flatMap_def]

theorem value_extract_counted (h : CallsSubroutine rung c)
    (hoperands : c.call.operands = sub :: natText inputs.length :: (inputs ++ returns))
    (hlimit : c.call.operands.length ≤ operandLimit) (hpaths : ∀ p ∈ inputs ++ returns, isTagPath p.toList = true) :
    (extract standardTable origin [rung]).value =
      inputs.flatMap (fun p => pathReferences origin rung c.call p .read) ++
        returns.flatMap (fun p => pathReferences origin rung c.call p .write) := by
  have hmem : ∀ p ∈ inputs ++ returns, p ∈ c.call.operands := by
    intro p hp
    rw [hoperands]
    exact List.mem_cons_of_mem _ (List.mem_cons_of_mem _ hp)
  rw [List.forall_mem_append] at hmem hpaths
  have hcount : c.call.operands[1]? = some (natText inputs.length) := by
    rw [hoperands]
    rfl
  have hlength : c.call.operands.length = inputs.length + returns.length + 2 := by simp [hoperands]
  have hinput : ∀ i < inputs.length, subroutine.roleFor (i + 2) c.call.operands = roleOf .read := by
    intro i hi
    rw [roleFor_subroutine hcount (by omega), if_pos hi]
    rfl
  have hreturn : ∀ i < returns.length,
      subroutine.roleFor (i + inputs.length + 2) c.call.operands = roleOf .write := by
    intro i hi
    rw [roleFor_subroutine hcount (by omega), if_neg (by omega)]
    rfl
  have hsplit : ∀ f : Nat → String → List TagReference, (c.call.operands.mapIdx f).flatten =
      f 0 sub ++ (f 1 (natText inputs.length) ++ ((inputs.mapIdx fun i => f (i + 2)).flatten ++
        (returns.mapIdx fun i => f (i + inputs.length + 2)).flatten)) := by
    intro f
    simp [hoperands, List.mapIdx_cons, List.mapIdx_append]
  rw [h.value_extract, hsplit, operandReferences_routine, operandReferences_natText,
    h.flatten_paths hmem.1 hpaths.1 hinput, h.flatten_paths hmem.2 hpaths.2 hreturn, List.nil_append, List.nil_append]

theorem value_extract_uncounted (h : CallsSubroutine rung c) (hoperands : c.call.operands = sub :: paths)
    (hpaths : ∀ p ∈ paths, isTagPath p.toList = true) :
    (extract standardTable origin [rung]).value = paths.flatMap fun p => pathReferences origin rung c.call p .read := by
  have hmem : ∀ p ∈ paths, p ∈ c.call.operands := by
    intro p hp
    rw [hoperands]
    exact List.mem_cons_of_mem _ hp
  have hrole : ∀ i < paths.length, subroutine.roleFor (i + 1) c.call.operands = roleOf .read := by
    intro i hi
    cases i with
    | zero => rfl
    | succ i =>
      -- a path in the place of the number is none
      have hfirst : c.call.operands[1]? = some paths[0] := by simp [hoperands]
      have hp := List.getElem_mem (l := paths) (n := 0) (by omega)
      exact roleFor_uncounted rfl (countOf_path hfirst (hpaths _ hp) (h.trim_operand (hmem _ hp)))
        (Nat.le_add_left 2 i)
  have hsplit : ∀ f : Nat → String → List TagReference, (c.call.operands.mapIdx f).flatten =
      f 0 sub ++ (paths.mapIdx fun i => f (i + 1)).flatten := by
    intro f
    simp [hoperands, List.mapIdx_cons]
  rw [h.value_extract, hsplit, operandReferences_routine, h.flatten_paths hmem hpaths hrole, List.nil_append]

end CallsSubroutine

/-- The tags that go into a subroutine are read and those that come out of it are written, whatever their number.
If it is not stated as a number, all of them are read. And so with every signature that lets an operand state how
many inputs follow the fixed ones. -/
theorem extract_subroutine :
    (∀ (origin : Origin) (rung : Rung) (c : PlacedCall), CallsSubroutine rung c →
      (∀ sub inputs returns, c.call.operands = sub :: natText inputs.length :: (inputs ++ returns) →
        c.call.operands.length ≤ operandLimit → (∀ p ∈ inputs ++ returns, isTagPath p.toList = true) →
        (extract standardTable origin [rung]).value =
          inputs.flatMap (fun p => pathReferences origin rung c.call p .read) ++
            returns.flatMap (fun p => pathReferences origin rung c.call p .write)) ∧
      ∀ sub paths, c.call.operands = sub :: paths → (∀ p ∈ paths, isTagPath p.toList = true) →
        (extract standardTable origin [rung]).value =
          paths.flatMap fun p => pathReferences origin rung c.call p .read) ∧
    ∀ (s : Signature) (k n : Nat) (role : Role) (operands : List String), s.countAt = some k → s.rest = some role →
      operands[k]? = some (natText n) → operands.length ≤ operandLimit → ∀ i < operands.length,
        s.roleFor i operands =
          if h : i < s.roles.length then s.roles[i] else if i < s.roles.length + n then .read else role := by
  refine ⟨fun origin rung c h => ⟨fun sub inputs returns => ?_, fun sub paths => ?_⟩, ?_⟩
  · exact h.value_extract_counted
  · exact h.value_extract_uncounted
  · intro s k n role operands hcount hrest hn hlimit i hi
    exact roleFor_counted hcount hrest hn (Nat.lt_of_lt_of_le hi hlimit)

/-- A call with two inputs, one of them with an index. -/
def scaleRung : Rung := ⟨"Main", "Flow", 4, " JSR ( Scale , 2,Raw[i],Span,Out.0);", none⟩

def scaleCall : PlacedCall where
  lead := [' ']
  mnemonic := "JSR".toList
  gap := [' ']
  operands := [⟨[' '], "Scale".toList, [' ']⟩, ⟨[' '], "2".toList, []⟩, ⟨[], "Raw[i]".toList, []⟩,
    ⟨[], "Span".toList, []⟩, ⟨[], "Out.0".toList, []⟩]

/-- A call with a tag in the place of the number. -/
def tallyRung : Rung := ⟨"Main", "Flow", 5, "JSR(Scale,Tally,Out)", none⟩

def tallyCall : PlacedCall where
  mnemonic := "JSR".toList
  operands := [⟨[], "Scale".toList, []⟩, ⟨[], "Tally".toList, []⟩, ⟨[], "Out".toList, []⟩]

theorem scaleRung_calls : CallsSubroutine scaleRung scaleCall := by
  have hindexed : Nested false "Raw[i]".toList :=
    .append (s := "Raw".toList) (.of_plain (by decide)) <|
      .brackets (t := "i".toList) (s := []) (.of_plain (by decide)) .nil
  refine ⟨⟨[';'], by decide, rfl⟩, ⟨by decide, by decide, by decide, ?_, by decide, by decide⟩, by decide +kernel⟩
  intro o ho
  simp only [scaleCall, List.mem_cons, List.not_mem_nil, or_false] at ho
  rcases ho with rfl | rfl | rfl | rfl | rfl
  · exact ⟨by decide, by decide, by decide, .of_plain (by decide)⟩
  · exact ⟨by decide, by decide, by decide, .of_plain (by decide)⟩
  · exact ⟨by decide, by decide, by decide, hindexed⟩
  · exact ⟨by decide, by decide, by decide, .of_plain (by decide)⟩
  · exact ⟨by decide, by decide, by decide, .of_plain (by decide)⟩

theorem tallyRung_calls : CallsSubroutine tallyRung tallyCall := by
  refine ⟨⟨[], by decide, rfl⟩, ⟨by decide, by decide, by decide, ?_, by decide, by decide⟩, by decide +kernel⟩
  intro o ho
  simp only [tallyCall, List.mem_cons, List.not_mem_nil, or_false] at ho
  rcases ho with rfl | rfl | rfl
  · exact ⟨by decide, by decide, by decide, .of_plain (by decide)⟩
  · exact ⟨by decide, by decide, by decide, .of_plain (by decide)⟩
  · exact ⟨by decide, by decide, by decide, .of_plain (by decide)⟩

theorem extract_subroutine_scale : CallsSubroutine scaleRung scaleCall ∧ CallsSubroutine tallyRung tallyCall ∧
    (extract standardTable {} [scaleRung]).value.map (fun r => (r.tagName, r.usage)) =
      [("Raw[i]", .read), ("i", .read), ("Span", .read), ("Out.0", .write)] ∧
    (extract standardTable {} [tallyRung]).value.map (fun r => (r.tagName, r.usage)) =
      [("Tally", .read), ("Out", .read)] ∧
    subroutine.roleFor 3 scaleCall.call.operands = .read ∧ subroutine.roleFor 4 scaleCall.call.operands = .write := by
  have hlimit : scaleCall.call.operands.length ≤ operandLimit :=
    Nat.le_trans (by decide : 5 ≤ 10) (Nat.le_self_pow (by decide) 10)
  have hcounted := (extract_subroutine.1 {} scaleRung scaleCall scaleRung_calls).1 "Scale" ["Raw[i]", "Span"] ["Out.0"]
    (by decide) hlimit (by decide +kernel)
  have huncounted := (extract_subroutine.1 {} tallyRung tallyCall tallyRung_calls).2 "Scale" ["Tally", "Out"]
    (by decide) (by decide +kernel)
  have hroles := extract_subroutine.2 subroutine 1 2 .write scaleCall.call.operands rfl rfl (by decide) hlimit
  refine ⟨scaleRung_calls, tallyRung_calls, ?_, ?_, hroles 3 (by decide), hroles 4 (by decide)⟩
  · rw [hcounted]
    decide +kernel
  · rw [huncounted]
    decide +kernel

end LadderAtlas.Ladder
