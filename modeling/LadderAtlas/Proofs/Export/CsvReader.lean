import LadderAtlas.Export.Csv
import Mathlib.Data.List.Basic
import Mathlib.Data.List.Infix

/-!
# Reading tables back

A reader of CSV goes through a text character by character. Outside of double quotes a comma ends a cell, and a line
feed or a carriage return ends a record; inside them only a double quote that is not doubled ends the quoted part. A
table is read back as its rows exactly if each cell with a carriage return has another reason to be quoted
(`read_table_iff`): otherwise the cell is written as it is, and the record ends in the middle of it
(`exists_record_of_not_legible`).
-/

namespace LadderAtlas.Csv

/-! ### The reader -/

/-- Where a reader is in a record. -/
inductive Place where
  /-- Before a record. -/
  | start
  /-- Behind a carriage return that ended a record; a line feed belongs to it. -/
  | returned
  /-- Before a cell that is not the first. -/
  | fresh
  | plain
  | quoted
  /-- Behind a double quote in a quoted part. -/
  | closing
deriving DecidableEq

/-- A reader with the part of a cell, the cells of a record and the records it has read. -/
structure Reader where
  place : Place := .start
  cell : List Char := []
  cells : List (List Char) := []
  records : List (List (List Char)) := []

namespace Reader

def push (r : Reader) (p : Place) (c : Char) : Reader := { r with place := p, cell := r.cell ++ [c] }

def endCell (r : Reader) : Reader := { r with place := .fresh, cell := [], cells := r.cells ++ [r.cell] }

def endRecord (r : Reader) (p : Place) : Reader := { place := p, records := r.records ++ [r.cells] }

/-- Reads a character outside of quotes. -/
def readPlain (r : Reader) (c : Char) : Reader :=
  if c = ',' then r.endCell
  else if c = '\n' then r.endCell.endRecord .start
  else if c = '\r' then r.endCell.endRecord .returned
  else r.push .plain c

/-- Reads the first character of a cell. -/
def readFirst (r : Reader) (c : Char) : Reader := if c = '"' then { r with place := .quoted } else r.readPlain c

/-- Reads the first character of a record. An empty line is a record without cells. -/
def readStart (r : Reader) (c : Char) : Reader :=
  if c = '\n' then r.endRecord .start else if c = '\r' then r.endRecord .returned else r.readFirst c

def step (r : Reader) (c : Char) : Reader :=
  match r.place with
  | .start => r.readStart c
  | .returned => if c = '\n' then { r with place := .start } else r.readStart c
  | .fresh => r.readFirst c
  | .plain => r.readPlain c
  | .quoted => if c = '"' then { r with place := .closing } else r.push .quoted c
  | .closing => if c = '"' then r.push .quoted c else r.readPlain c

def run (r : Reader) (s : List Char) : Reader := s.foldl step r

/-- The records at the end of the text, which also ends a record that has begun. -/
def finish (r : Reader) : List (List (List Char)) :=
  match r.place with
  | .start | .returned => r.records
  | _ => (r.endCell.endRecord .start).records

end Reader

/-- The records of a text. -/
def read (s : List Char) : List (List (List Char)) := (({} : Reader).run s).finish

/-- A cell that is read back: a carriage return stands only with a character that has to be quoted. -/
def Legible (s : List Char) : Prop := '\r' ∈ s → ',' ∈ s ∨ '"' ∈ s ∨ '\n' ∈ s

instance (s : List Char) : Decidable (Legible s) := inferInstanceAs (Decidable (_ → _))

theorem needsQuotes_iff (s : List Char) : needsQuotes s = true ↔ ',' ∈ s ∨ '"' ∈ s ∨ '\n' ∈ s := by
  simp only [needsQuotes, List.any_eq_true, Bool.or_eq_true, decide_eq_true_iff]
  constructor
  · rintro ⟨c, hc, (rfl | rfl) | rfl⟩
    · exact .inl hc
    · exact .inr (.inl hc)
    · exact .inr (.inr hc)
  · rintro (h | h | h)
    · exact ⟨_, h, .inl (.inl rfl)⟩
    · exact ⟨_, h, .inl (.inr rfl)⟩
    · exact ⟨_, h, .inr rfl⟩

namespace Reader
variable {r : Reader} {s : List Char} {c : Char}

theorem run_cons (r : Reader) (c : Char) (s : List Char) : r.run (c :: s) = (r.step c).run s := rfl

theorem run_append (r : Reader) (s t : List Char) : r.run (s ++ t) = (r.run s).run t := List.foldl_append

/-! ### Records stay -/

theorem records_readPlain (r : Reader) (c : Char) : r.records <+: (r.readPlain c).records := by
  unfold readPlain
  split_ifs
  · exact List.prefix_refl _
  · exact List.prefix_append _ _
  · exact List.prefix_append _ _
  · exact List.prefix_refl _

theorem records_readFirst (r : Reader) (c : Char) : r.records <+: (r.readFirst c).records := by
  unfold readFirst
  split_ifs
  · exact List.prefix_refl _
  · exact records_readPlain r c

theorem records_readStart (r : Reader) (c : Char) : r.records <+: (r.readStart c).records := by
  unfold readStart
  split_ifs
  · exact List.prefix_append _ _
  · exact List.prefix_append _ _
  · exact records_readFirst r c

theorem records_step (r : Reader) (c : Char) : r.records <+: (r.step c).records := by
  unfold step
  split
  · exact records_readStart r c
  · split_ifs
    · exact List.prefix_refl _
    · exact records_readStart r c
  · exact records_readFirst r c
  · exact records_readPlain r c
  · split_ifs <;> exact List.prefix_refl _
  · split_ifs
    · exact List.prefix_refl _
    · exact records_readPlain r c

/-- What has been read is not taken back. -/
theorem records_run (r : Reader) (s : List Char) : r.records <+: (r.run s).records := by
  induction s generalizing r with
  | nil => exact List.prefix_refl _
  | cons c s ih => exact (records_step r c).trans (ih (r.step c))

theorem records_finish (r : Reader) : r.records <+: r.finish := by
  unfold finish
  split
  · exact List.prefix_refl _
  · exact List.prefix_refl _
  · exact List.prefix_append _ _

/-! ### One cell -/

/-- A character that stands for itself in a cell without quotes. -/
def IsOrdinary (c : Char) : Prop := c ≠ ',' ∧ c ≠ '"' ∧ c ≠ '\n' ∧ c ≠ '\r'

theorem readPlain_of_isOrdinary (r : Reader) (hc : IsOrdinary c) : r.readPlain c = r.push .plain c := by
  rw [readPlain, if_neg hc.1, if_neg hc.2.2.1, if_neg hc.2.2.2]

theorem step_of_isOrdinary (hr : r.place ≠ .quoted) (hc : IsOrdinary c) : r.step c = r.push .plain c := by
  have hfirst : r.readFirst c = r.push .plain c := by rw [readFirst, if_neg hc.2.1, readPlain_of_isOrdinary r hc]
  have hstart : r.readStart c = r.push .plain c := by rw [readStart, if_neg hc.2.2.1, if_neg hc.2.2.2, hfirst]
  unfold step
  cases h : r.place with
  | start => exact hstart
  | returned => exact (if_neg hc.2.2.1).trans hstart
  | fresh => exact hfirst
  | plain => exact readPlain_of_isOrdinary r hc
  | quoted => exact absurd h hr
  | closing => exact (if_neg hc.2.1).trans (readPlain_of_isOrdinary r hc)

theorem run_ordinary (hr : r.place ≠ .quoted) (hs : ∀ c ∈ s, IsOrdinary c) :
    r.run s = { r with place := if s = [] then r.place else .plain, cell := r.cell ++ s } := by
  induction s generalizing r with
  | nil => simp [run]
  | cons c s ih =>
    obtain ⟨hc, hs⟩ := List.forall_mem_cons.1 hs
    rw [run_cons, step_of_isOrdinary hr hc, ih (by simp [push]) hs]
    simp [push]

theorem run_doubled (hr : r.place = .quoted) (s : List Char) : r.run (doubled s) = { r with cell := r.cell ++ s } := by
  induction s generalizing r with
  | nil => simp [run, doubled]
  | cons c s ih =>
    by_cases hc : c = '"'
    · have hpair : (r.step '"').step '"' = r.push .quoted '"' := by simp [step, hr, push]
      rw [doubled, if_pos hc, run_cons, run_cons, hpair, ih rfl, hc]
      simp [push, hr]
    · have hone : r.step c = r.push .quoted c := by simp [step, hr, hc]
      rw [doubled, if_neg hc, run_cons, hone, ih rfl]
      simp [push, hr]

/-- A reader before a cell. -/
def IsReady (r : Reader) : Prop := (r.place = .start ∨ r.place = .fresh) ∧ r.cell = []

theorem IsReady.step_quote (h : r.IsReady) : r.step '"' = { r with place := .quoted } := by
  rcases h.1 with hp | hp <;> simp [step, hp, readStart, readFirst]

theorem run_quoted (h : r.IsReady) (s : List Char) :
    r.run ('"' :: doubled s ++ ['"']) = { r with place := .closing, cell := s } := by
  rw [List.cons_append, run_cons, run_append, h.step_quote, run_doubled rfl]
  simp [run, step, h.2]

/-- The reader behind a legible cell. Only the empty cell leaves it where it was. -/
theorem run_cell (h : r.IsReady) (hs : Legible s) : ∃ p, r.run (Csv.cell s) = { r with place := p, cell := s } ∧
    (p = .plain ∨ p = .closing ∨ p = r.place) ∧ (s ≠ [] → p ≠ .start) := by
  by_cases hq : needsQuotes s = true
  · exact ⟨.closing, by rw [Csv.cell, if_pos hq, run_quoted h], .inr (.inl rfl), by simp⟩
  · have hnone := mt (needsQuotes_iff s).2 hq
    rw [not_or, not_or] at hnone
    have hall : ∀ c ∈ s, IsOrdinary c := fun c hc =>
      ⟨fun e => hnone.1 (e ▸ hc), fun e => hnone.2.1 (e ▸ hc), fun e => hnone.2.2 (e ▸ hc),
        fun e => hq ((needsQuotes_iff s).2 (hs (e ▸ hc)))⟩
    have hplace : r.place ≠ .quoted := by rcases h.1 with hp | hp <;> simp [hp]
    refine ⟨if s = [] then r.place else .plain, ?_, ?_, ?_⟩
    · rw [Csv.cell, if_neg hq, run_ordinary hplace hall, h.2, List.nil_append]
    · split <;> simp
    · intro hne
      simp [hne]

theorem step_comma (hr : r.place ≠ .quoted) : r.step ',' = r.endCell := by
  unfold step
  cases h : r.place <;> simp_all [readStart, readFirst, readPlain]

theorem step_lineFeed (hr : r.place = .fresh ∨ r.place = .plain ∨ r.place = .closing) :
    r.step '\n' = r.endCell.endRecord .start := by
  rcases hr with hp | hp | hp <;> simp [step, hp, readFirst, readPlain]

theorem run_cell_comma (h : r.IsReady) (hs : Legible s) :
    r.run (Csv.cell s ++ [',']) = { place := .fresh, cells := r.cells ++ [s], records := r.records } := by
  obtain ⟨p, hrun, hp, -⟩ := run_cell h hs
  have hplace : p ≠ .quoted := by rcases hp with rfl | rfl | rfl <;> rcases h.1 with hp | hp <;> simp [hp]
  rw [run_append, hrun]
  exact step_comma hplace

theorem run_cell_lineFeed (h : r.IsReady) (hs : Legible s) (hstart : r.place = .start → s ≠ []) :
    r.run (Csv.cell s ++ ['\n']) = { records := r.records ++ [r.cells ++ [s]] } := by
  obtain ⟨p, hrun, hp, hne⟩ := run_cell h hs
  have hplace : p = .fresh ∨ p = .plain ∨ p = .closing := by
    rcases hp with rfl | rfl | rfl
    · exact .inr (.inl rfl)
    · exact .inr (.inr rfl)
    · exact .inl (h.1.resolve_left fun hp => hne (hstart hp) hp)
  rw [run_append, hrun]
  exact step_lineFeed hplace

/-! ### One record -/

theorem record_cons (s t : List Char) (l : List (List Char)) :
    Csv.record (s :: t :: l) = Csv.cell s ++ [','] ++ Csv.record (t :: l) := by
  simp [Csv.record, Csv.cells]

/-- A line with one empty cell would be an empty record, so at its start a record has a second cell. -/
theorem run_record {l : List (List Char)} (h : r.IsReady) (hl : l ≠ []) (hstart : r.place = .start → 2 ≤ l.length)
    (hall : ∀ s ∈ l, Legible s) : r.run (Csv.record l) = { records := r.records ++ [r.cells ++ l] } := by
  induction l generalizing r with
  | nil => exact absurd rfl hl
  | cons s l ih =>
    obtain ⟨hs, hall⟩ := List.forall_mem_cons.1 hall
    cases l with
    | nil => exact run_cell_lineFeed h hs fun hp => absurd (hstart hp) (by simp)
    | cons t l =>
      rw [record_cons, run_append, run_cell_comma h hs, ih ⟨.inr rfl, rfl⟩ (by simp) (by simp) hall]
      simp

/-- A cell that is not legible ends the record before it is complete. -/
theorem exists_record_of_not_legible (h : r.IsReady) (hs : ¬ Legible s) (rest : List Char) :
    ∃ x, (∀ l, x ≠ s :: l) ∧ r.records ++ [r.cells ++ x] <+: (r.run (Csv.cell s ++ rest)).records := by
  obtain ⟨hreturn, hnone⟩ := Classical.not_imp.1 hs
  have hplain : Csv.cell s = s := by rw [Csv.cell, if_neg (mt (needsQuotes_iff s).1 hnone)]
  rw [not_or, not_or] at hnone
  obtain ⟨u, v, rfl, hu⟩ := List.eq_append_cons_of_mem hreturn
  have hall : ∀ c ∈ u, IsOrdinary c := fun c hc =>
    ⟨fun e => hnone.1 (e ▸ List.mem_append_left _ hc), fun e => hnone.2.1 (e ▸ List.mem_append_left _ hc),
      fun e => hnone.2.2 (e ▸ List.mem_append_left _ hc), fun e => hu (e ▸ hc)⟩
  have hplace : r.place ≠ .quoted := by rcases h.1 with hp | hp <;> simp [hp]
  have hsplit : r.run (u ++ '\r' :: v ++ rest) = ((r.run u).step '\r').run (v ++ rest) := by
    rw [List.append_assoc, List.cons_append, run_append, run_cons]
  rw [hplain, hsplit, run_ordinary hplace hall, h.2, List.nil_append]
  by_cases hempty : r.place = .start ∧ u = []
  · have hended : (({ r with place := if u = [] then r.place else .plain, cell := u } : Reader).step '\r').records =
        r.records ++ [r.cells ++ []] := by
      simp [hempty, step, readStart, endRecord]
    exact ⟨[], by simp, hended ▸ records_run _ _⟩
  · have hended : (({ r with place := if u = [] then r.place else .plain, cell := u } : Reader).step '\r').records =
        r.records ++ [r.cells ++ [u]] := by
      by_cases he : u = []
      · have hp : r.place = .fresh := h.1.resolve_left fun hp => hempty ⟨hp, he⟩
        simp [he, hp, step, readFirst, readPlain, endCell, endRecord]
      · simp [he, step, readPlain, endCell, endRecord]
    refine ⟨[u], fun l hl => ?_, hended ▸ records_run _ _⟩
    obtain ⟨hu', -⟩ := List.cons.inj hl
    exact hu (hu' ▸ hreturn)

theorem exists_record {l : List (List Char)} (h : r.IsReady) (hl : ∃ s ∈ l, ¬ Legible s) :
    ∃ x, x ≠ l ∧ r.records ++ [r.cells ++ x] <+: (r.run (Csv.record l)).records := by
  induction l generalizing r with
  | nil => simp at hl
  | cons s l ih =>
    by_cases hs : Legible s
    · have hl' : ∃ t ∈ l, ¬ Legible t := by simpa [hs] using hl
      cases l with
      | nil => simp at hl'
      | cons t l =>
        -- the record goes on behind the comma
        obtain ⟨x, hx, hprefix⟩ := ih (r := { place := .fresh, cells := r.cells ++ [s], records := r.records })
          ⟨.inr rfl, rfl⟩ hl'
        refine ⟨s :: x, by simpa using hx, ?_⟩
        rw [record_cons, run_append, run_cell_comma h hs]
        simpa using hprefix
    · cases l with
      | nil =>
        obtain ⟨x, hx, hprefix⟩ := exists_record_of_not_legible h hs ['\n']
        exact ⟨x, hx [], hprefix⟩
      | cons t l =>
        obtain ⟨x, hx, hprefix⟩ := exists_record_of_not_legible h hs (',' :: Csv.record (t :: l))
        refine ⟨x, hx _, ?_⟩
        rw [record_cons, List.append_assoc]
        exact hprefix

/-! ### Tables -/

theorem run_table_iff {rows : List (List (List Char))} (h : ∀ l ∈ rows, 2 ≤ l.length)
    (before : List (List (List Char))) :
    (({ records := before } : Reader).run (rows.flatMap Csv.record)).finish = before ++ rows ↔
      ∀ l ∈ rows, ∀ s ∈ l, Legible s := by
  induction rows generalizing before with
  | nil => simp [run, finish]
  | cons l rows ih =>
    obtain ⟨hl, h⟩ := List.forall_mem_cons.1 h
    have hready : IsReady { records := before } := ⟨.inl rfl, rfl⟩
    rw [List.flatMap_cons, run_append, List.forall_mem_cons]
    by_cases hall : ∀ s ∈ l, Legible s
    · have hne : l ≠ [] := List.ne_nil_of_length_pos (by omega)
      have hnext := ih h (before ++ [l])
      rw [run_record hready hne (fun _ => hl) hall, and_iff_right hall]
      simpa using hnext
    · rw [iff_false_right fun hboth => hall hboth.1]
      intro heq
      have hbad : ∃ s ∈ l, ¬ Legible s := by simpa using hall
      obtain ⟨x, hx, hprefix⟩ := exists_record hready hbad
      have hread := hprefix.trans ((records_run _ (rows.flatMap Csv.record)).trans (records_finish _))
      rw [heq] at hread
      obtain ⟨t, ht⟩ := hread
      simp only [List.append_assoc, List.append_cancel_left_eq, List.nil_append, List.singleton_append,
        List.cons.injEq] at ht
      exact hx ht.1

end Reader

/-- A table whose rows have two cells or more is read back if all its cells are legible, and only then. -/
theorem read_table_iff {rows : List (List (List Char))} (h : ∀ l ∈ rows, 2 ≤ l.length) :
    read (rows.flatMap record) = rows ↔ ∀ l ∈ rows, ∀ s ∈ l, Legible s :=
  Reader.run_table_iff h []

example : read (record [['a'], ['x', '\r', 'y'], []]) = [[['a'], ['x']], [['y'], []]] := by decide

/-- The records of a text, with their cells as texts. -/
def readTable (s : String) : List (List String) := (read s.toList).map fun l => l.map String.ofList

theorem readTable_table_iff {header : List String} {rows : List (List String)}
    (h : ∀ row ∈ header :: rows, 2 ≤ row.length) :
    readTable (table header rows) = header :: rows ↔ ∀ row ∈ header :: rows, ∀ s ∈ row, Legible s.toList := by
  let chars : List (List (List Char)) := (header :: rows).map fun row => row.map String.toList
  have htexts : (header :: rows) = chars.map fun l => l.map String.ofList := by
    simp [chars, List.map_map, Function.comp_def]
  have hinjective : Function.Injective fun l : List (List (List Char)) => l.map fun l => l.map String.ofList :=
    List.map_injective_iff.2 (List.map_injective_iff.2 fun _ _ => String.ofList_injective)
  have hread : readTable (table header rows) = (read (chars.flatMap record)).map fun l => l.map String.ofList := by
    rw [readTable, table, String.toList_ofList, List.flatMap_map]
  have hchars : ∀ l ∈ chars, 2 ≤ l.length := by simpa [chars] using h
  rw [hread]
  nth_rewrite 1 [htexts]
  rw [hinjective.eq_iff, read_table_iff hchars]
  simp [chars]

end LadderAtlas.Csv
