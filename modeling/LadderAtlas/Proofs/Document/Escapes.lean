import LadderAtlas.Document.Revision
import LadderAtlas.Notice
import LadderAtlas.Proofs.Number.Misread

/-! # Failures that escape

Reading a file is meant to fail with parse failures only; any other failure escapes those who read files.
`escapes_bind` and `escapes_each` say where in a computation it can come from, and `escapes_majorIs` for
which revisions there is one. -/

namespace LadderAtlas

def Failure.IsParse : Failure → Prop
  | .parse _ _ => True
  | _ => False

/-- A computation fails otherwise than with a parse failure. -/
def Escapes {α : Type} (x : Except Failure α) : Prop := ∃ f, x = .error f ∧ ¬ f.IsParse

/-- A computation does not fail. -/
def Succeeds {α : Type} (x : Except Failure α) : Prop := ∃ a, x = .ok a

/-! ### Computations -/

section
variable {α β : Type}

@[simp] theorem isParse_parse (kind : FileKind) (cause : ParseCause) : (Failure.parse kind cause).IsParse := trivial

@[simp] theorem not_isParse_fault (cause : Fault) : ¬ (Failure.fault cause).IsParse := id

@[simp] theorem not_escapes_ok (a : α) : ¬ Escapes (.ok a : Except Failure α) := by
  rintro ⟨f, hf, -⟩
  cases hf

@[simp] theorem escapes_error (f : Failure) : Escapes (.error f : Except Failure α) ↔ ¬ f.IsParse := by
  simp [Escapes]

theorem not_escapes_parse (kind : FileKind) (cause : ParseCause) :
    ¬ Escapes (.error (.parse kind cause) : Except Failure α) := fun h => (escapes_error _).1 h (isParse_parse _ _)

theorem Succeeds.not_escapes {x : Except Failure α} (hx : Succeeds x) : ¬ Escapes x := by
  obtain ⟨a, rfl⟩ := hx
  exact not_escapes_ok a

theorem not_escapes_iff (x : Except Failure α) :
    ¬ Escapes x ↔ Succeeds x ∨ ∃ kind cause, x = .error (.parse kind cause) := by
  cases x with
  | ok a => simp [Succeeds]
  | error f => cases f <;> simp [Succeeds, Failure.IsParse]

theorem escapes_except_bind (x : Except Failure α) (f : α → Except Failure β) :
    Escapes (x >>= f) ↔ Escapes x ∨ ∃ a, x = .ok a ∧ Escapes (f a) := by
  cases x with
  | error e =>
    have he : Escapes (.error e >>= f : Except Failure β) ↔ ¬ e.IsParse := escapes_error e
    simp [he]
  | ok a =>
    have ha : (.ok a >>= f : Except Failure β) = f a := rfl
    simp [ha]

namespace Reading

theorem escapes_ofExcept (x : Except Failure α) : Escapes (ofExcept x) ↔ Escapes x := by
  cases x with
  | ok a => simp [ofExcept]
  | error f => simp [ofExcept]

theorem bind_ok (a : Noted α) (f : α → Reading β) :
    Reading.bind (.ok a) f =
      (f a.value : Except Failure (Noted β)).map fun b => ⟨b.value, a.notices ++ b.notices⟩ := by
  simp only [Reading.bind]
  cases f a.value <;> rfl

theorem escapes_ok_bind (a : Noted α) (f : α → Reading β) :
    Escapes (Reading.bind (.ok a) f) ↔ Escapes (f a.value) := by
  rw [bind_ok]
  cases f a.value with
  | error e => rfl
  | ok b => exact iff_of_false (not_escapes_ok _) (not_escapes_ok _)

/-- A failure escapes from the first part, or from the second part after a result of the first. -/
theorem escapes_bind (x : Reading α) (f : α → Reading β) :
    Escapes (x >>= f : Reading β) ↔ Escapes x ∨ ∃ a, x = .ok a ∧ Escapes (f a.value) := by
  cases x with
  | error e =>
    have he : Escapes (.error e >>= f : Reading β) ↔ ¬ e.IsParse := escapes_error e
    rw [he, ← escapes_error e]
    refine ⟨.inl, ?_⟩
    rintro (h | ⟨a, ha, -⟩)
    · exact h
    · cases ha
  | ok a =>
    refine (escapes_ok_bind a f).trans ⟨fun h => .inr ⟨a, rfl, h⟩, ?_⟩
    rintro (h | ⟨b, hb, h⟩)
    · exact absurd h (not_escapes_ok a)
    · cases hb
      exact h

theorem not_escapes_pure (a : α) : ¬ Escapes (pure a : Reading α) := not_escapes_ok _

theorem succeeds_pure (a : α) : Succeeds (pure a : Reading α) := ⟨_, rfl⟩

theorem escapes_ofExcept_bind (x : Except Failure α) (f : α → Reading β) :
    Escapes (ofExcept x >>= f : Reading β) ↔ Escapes x ∨ ∃ a, x = .ok a ∧ Escapes (f a) := by
  rw [escapes_bind, escapes_ofExcept]
  cases x with
  | error e => exact or_congr Iff.rfl (iff_of_false (fun ⟨a, ha, _⟩ => by cases ha) (fun ⟨a, ha, _⟩ => by cases ha))
  | ok a =>
    refine or_congr Iff.rfl ⟨?_, ?_⟩
    · rintro ⟨b, hb, h⟩
      cases hb
      exact ⟨a, rfl, h⟩
    · rintro ⟨b, hb, h⟩
      cases hb
      exact ⟨_, rfl, h⟩

/-- A check lets a failure escape, or it is passed and then one escapes. -/
theorem escapes_check_bind (x : Except Failure Unit) (y : Reading β) :
    Escapes (ofExcept x >>= fun _ => y : Reading β) ↔ Escapes x ∨ x = .ok () ∧ Escapes y := by
  rw [escapes_ofExcept_bind]
  refine or_congr Iff.rfl ⟨?_, fun h => ⟨(), h⟩⟩
  rintro ⟨_, h⟩
  exact h

theorem succeeds_lift (x : Noted α) : Succeeds (liftM x : Reading α) := ⟨_, rfl⟩

theorem succeeds_or_escapes_ofExcept {x : Except Failure α} (h : Succeeds x ∨ Escapes x) :
    Succeeds (ofExcept x) ∨ Escapes (ofExcept x) := by
  rcases h with ⟨a, rfl⟩ | h
  · exact .inl ⟨_, rfl⟩
  · exact .inr ((escapes_ofExcept x).2 h)

/-- Remarks are no failures. -/
theorem succeeds_map_lift (x : Noted α) (f : α → β) :
    Succeeds (liftM x >>= fun a => pure (f a) : Reading β) := ⟨_, rfl⟩

theorem succeeds_ok_bind (a : Noted α) {f : α → Reading β} (h : Succeeds (f a.value)) :
    Succeeds (Reading.bind (.ok a) f) := by
  obtain ⟨b, hb⟩ := h
  rw [bind_ok, hb]
  exact ⟨_, rfl⟩

theorem succeeds_bind {x : Reading α} {f : α → Reading β} (hx : Succeeds x) (hf : ∀ a, Succeeds (f a)) :
    Succeeds (x >>= f : Reading β) := by
  obtain ⟨a, rfl⟩ := hx
  exact succeeds_ok_bind a (hf a.value)

/-- A failure escapes from one of two parts, if the first does not fail otherwise. -/
theorem escapes_bind_or {x : Reading α} {f : α → Reading β} {p : Prop} (hx : Succeeds x ∨ Escapes x)
    (hf : ∀ a, Escapes (f a) ↔ p) : Escapes (x >>= f : Reading β) ↔ Escapes x ∨ p := by
  rw [escapes_bind]
  simp only [hf]
  refine ⟨?_, ?_⟩
  · rintro (h | ⟨-, -, h⟩)
    · exact .inl h
    · exact .inr h
  · rintro (h | h)
    · exact .inl h
    · rcases hx with ⟨a, ha⟩ | hx
      · exact .inr ⟨a, ha, h⟩
      · exact .inl hx

theorem escapes_bind_of_left {x : Reading α} {f : α → Reading β} {p : Prop} (hx : Succeeds x)
    (hf : ∀ a, Escapes (f a) ↔ p) : Escapes (x >>= f : Reading β) ↔ p := by
  rw [escapes_bind_or (.inl hx) hf, or_iff_right hx.not_escapes]

theorem escapes_bind_of_right {x : Reading α} {f : α → Reading β} (hf : ∀ a, ¬ Escapes (f a)) :
    Escapes (x >>= f : Reading β) ↔ Escapes x := by
  rw [escapes_bind]
  simp [hf]

theorem succeeds_or_escapes_bind {x : Reading α} {f : α → Reading β} (hx : Succeeds x ∨ Escapes x)
    (hf : ∀ a, Succeeds (f a) ∨ Escapes (f a)) : Succeeds (x >>= f : Reading β) ∨ Escapes (x >>= f : Reading β) := by
  rcases hx with ⟨a, rfl⟩ | hx
  · rcases hf a.value with hb | hb
    · exact .inl (succeeds_ok_bind a hb)
    · exact .inr ((escapes_ok_bind a f).2 hb)
  · exact .inr ((escapes_bind _ f).2 (.inl hx))

/-- The items before the first one that fails do not matter. -/
theorem mem_of_escapes_each {f : α → Reading β} {l : List α} (h : Escapes (each f l)) : ∃ a ∈ l, Escapes (f a) := by
  induction l with
  | nil => exact absurd h (not_escapes_pure _)
  | cons a l ih =>
    rw [each, escapes_bind] at h
    rcases h with h | ⟨b, -, h⟩
    · exact ⟨a, by simp, h⟩
    · rw [escapes_bind_of_right fun _ => not_escapes_pure _] at h
      obtain ⟨c, hc, h⟩ := ih h
      exact ⟨c, List.mem_cons_of_mem _ hc, h⟩

/-- Where an item fails only by escaping, every such item counts. -/
theorem escapes_each {f : α → Reading β} (hf : ∀ a, Succeeds (f a) ∨ Escapes (f a)) (l : List α) :
    Escapes (each f l) ↔ ∃ a ∈ l, Escapes (f a) := by
  -- an item before `a` gives a result, or a failure that escapes earlier
  refine ⟨mem_of_escapes_each, ?_⟩
  rintro ⟨a, ha, h⟩
  induction l with
  | nil => cases ha
  | cons b l ih =>
    rw [each]
    rcases hf b with hb | hb
    · rw [escapes_bind_of_left hb fun _ => escapes_bind_of_right fun _ => not_escapes_pure _]
      rcases List.mem_cons.1 ha with rfl | ha
      · exact absurd h hb.not_escapes
      · exact ih ha
    · rw [escapes_bind]
      exact .inl hb

end Reading
end

/-! ### Revisions -/

section
open Number

/-- Where a text of digits is read, a failure escapes if it is misread, and only then. -/
theorem escapes_of_whole {α : Type} {x : Except Failure α} {s : List Char} (hs : s ≠ [])
    (h : ∀ c ∈ s, Text.isDigitLike c = true) (hok : ∀ n, whole s = .ok n → Succeeds x)
    (herror : ∀ f, whole s = .error f → x = .error (.fault (.numeral f))) : Escapes x ↔ Misread s := by
  rw [← whole_eq_error_iff hs h]
  cases hw : whole s with
  | ok n => exact iff_of_false (hok n hw).not_escapes (by simp)
  | error f =>
    rw [herror f hw]
    exact iff_of_true ⟨_, rfl, not_isParse_fault _⟩ ⟨f, rfl⟩

/-- The major number of a revision is misread. -/
def MisreadMajor (revision : List Char) : Prop := Misread (revision.takeWhile (· ≠ '.'))

theorem escapes_majorIs (supported : Int) (revision : List Char) :
    Escapes (Revision.majorIs supported revision) ↔ MisreadMajor revision := by
  unfold Revision.majorIs MisreadMajor
  generalize revision.takeWhile (· ≠ '.') = major
  by_cases h : major ≠ [] ∧ ∀ c ∈ major, Text.isDigitLike c = true
  · have hcond : (major.isEmpty || !major.all Text.isDigitLike) = false := by
      simpa [List.isEmpty_iff] using h
    refine escapes_of_whole h.1 h.2 (fun n hn => ?_) fun f hf => ?_
    · simp only [hcond, hn]
      exact ⟨_, rfl⟩
    · simp only [hcond, hf]
      rfl
  · have hcond : (major.isEmpty || !major.all Text.isDigitLike) = true := by
      rw [← Bool.not_eq_false]
      exact fun hf => h (by simpa [List.isEmpty_iff] using hf)
    simp only [hcond]
    exact iff_of_false (not_escapes_ok _) fun hm => h ⟨hm.ne_nil, hm.digits⟩

end

end LadderAtlas
