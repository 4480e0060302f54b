import LadderAtlas.L5x.Reader
import LadderAtlas.Proofs.Document.Escapes
import LadderAtlas.Proofs.L5x.Clashes
import LadderAtlas.Proofs.Xml.Encodings

/-! # L5X files that are misread

Reading an L5X file insists on the major number of its revision, on the slots that the ports of its
modules state, and on names that do not clash in the settings of modules. `escapes_ofL5x`: a failure
escapes where one of them is at fault, or where the bytes are in an encoding that cannot be read. -/

namespace LadderAtlas

namespace L5x
open Xml

/-- What the address of a port says, blanks aside. -/
def addressOf (port : Element) : List Char := Text.trim ((port.attribute? "Address").getD "").toList

/-- A port towards the controller whose address is of digits. -/
def StatesSlot (port : Element) : Prop :=
  Field.flag false (port.attribute? "Upstream") = true ∧ addressOf port ≠ [] ∧
    (addressOf port).all Text.isDigitLike = true

instance (port : Element) : Decidable (StatesSlot port) := inferInstanceAs (Decidable (_ ∧ _ ∧ _))

/-- Of a module, the slot that its ports state is misread, or names clash in its settings. -/
def MisreadModule (e : Element) : Prop :=
  (∃ port, (itemsOf e "Ports" "Port").find? (StatesSlot ·) = some port ∧ Number.Misread (addressOf port)) ∨
    ∃ c, e.child? "Communications" = some c ∧ Clashes c

theorem parentSlot_cons (p : Element) (ports : List Element) :
    parentSlot (p :: ports) =
      if StatesSlot p then
        match Number.whole (addressOf p) with
        | .ok n => .ok (some n)
        | .error f => .error (.fault (.numeral f))
      else parentSlot ports := by
  have hcond : (Field.flag false (p.attribute? "Upstream") && !(addressOf p).isEmpty &&
      (addressOf p).all Text.isDigitLike) = decide (StatesSlot p) := by
    rw [Bool.eq_iff_iff, decide_eq_true_iff]
    simp [StatesSlot, and_assoc]
  have haddress : Text.trim ((p.attribute? "Address").getD "").toList = addressOf p := rfl
  simp only [parentSlot, haddress, hcond]
  by_cases h : StatesSlot p
  · cases Number.whole (addressOf p) with
    | ok n => simp [h]
    | error f => simp [h]
  · rw [if_neg (by simpa using h), if_neg h]

theorem escapes_parentSlot (ports : List Element) :
    Escapes (parentSlot ports) ↔
      ∃ port, ports.find? (StatesSlot ·) = some port ∧ Number.Misread (addressOf port) := by
  induction ports with
  | nil => simp [parentSlot]
  | cons p ports ih =>
    rw [parentSlot_cons]
    by_cases h : StatesSlot p
    · rw [if_pos h, List.find?_cons_of_pos (by simpa using h)]
      simp only [Option.some.injEq, exists_eq_left']
      refine escapes_of_whole h.2.1 (List.all_eq_true.1 h.2.2) (fun n hn => ?_) fun f hf => ?_
      · rw [hn]
        exact ⟨_, rfl⟩
      · rw [hf]
    · rw [if_neg h, List.find?_cons_of_neg (by simpa using h), ih]

theorem escapes_connectionInfo (e : Element) :
    Escapes (connectionInfo e) ↔ ∃ c, e.child? "Communications" = some c ∧ Clashes c := by
  unfold connectionInfo
  cases e.child? "Communications" with
  | none => exact iff_of_false (not_escapes_ok _) (by simp)
  | some c =>
    simp only [Option.some.injEq, exists_eq_left']
    rw [← subtree_eq_error_iff]
    cases subtree c with
    | ok v => exact iff_of_false (not_escapes_ok _) (by simp)
    | error f => exact iff_of_true ⟨_, rfl, not_isParse_fault f⟩ ⟨f, rfl⟩

/-- Reading the slot that ports state does not fail with a parse failure. -/
theorem succeeds_or_escapes_parentSlot (ports : List Element) :
    Succeeds (parentSlot ports) ∨ Escapes (parentSlot ports) := by
  induction ports with
  | nil => exact .inl ⟨none, rfl⟩
  | cons p ports ih =>
    rw [parentSlot_cons]
    split
    · cases Number.whole (addressOf p) with
      | ok n => exact .inl ⟨some n, rfl⟩
      | error f => exact .inr (by simp)
    · exact ih

theorem succeeds_or_escapes_connectionInfo (e : Element) :
    Succeeds (connectionInfo e) ∨ Escapes (connectionInfo e) := by
  unfold connectionInfo
  cases e.child? "Communications" with
  | none => exact .inl ⟨_, rfl⟩
  | some c =>
    cases hc : subtree c with
    | ok v =>
      simp only [hc]
      exact .inl ⟨_, rfl⟩
    | error f =>
      simp only [hc]
      exact .inr ⟨_, rfl, not_isParse_fault f⟩

theorem escapes_ioModule (e : Element) : Escapes (ioModule e) ↔ MisreadModule e := by
  unfold ioModule MisreadModule
  rw [← escapes_parentSlot, ← escapes_connectionInfo]
  refine Reading.escapes_bind_of_left (Reading.succeeds_lift _) fun slot => ?_
  rw [Reading.escapes_bind_or (Reading.succeeds_or_escapes_ofExcept (succeeds_or_escapes_parentSlot _)),
    Reading.escapes_ofExcept]
  intro stated
  rw [Reading.escapes_bind_of_right fun _ => Reading.not_escapes_pure _, Reading.escapes_ofExcept]

theorem succeeds_or_escapes_ioModule (e : Element) : Succeeds (ioModule e) ∨ Escapes (ioModule e) := by
  unfold ioModule
  refine Reading.succeeds_or_escapes_bind (.inl (Reading.succeeds_lift _)) fun slot => ?_
  refine Reading.succeeds_or_escapes_bind
    (Reading.succeeds_or_escapes_ofExcept (succeeds_or_escapes_parentSlot _)) fun stated => ?_
  exact Reading.succeeds_or_escapes_bind
    (Reading.succeeds_or_escapes_ofExcept (succeeds_or_escapes_connectionInfo e)) fun info => .inl (Reading.succeeds_pure _)

theorem succeeds_sectionOf {controller : Element} {list item : String} {read : List Element → Reading Contents}
    (h : ∀ l, Succeeds (read l)) : Succeeds (sectionOf controller list item read) := by
  unfold sectionOf
  cases controller.items? list item with
  | none => exact Reading.succeeds_pure _
  | some l => exact h l

/-- Of the parts of a controller only its modules can let a failure escape. -/
theorem escapes_contents (controller : Element) :
    Escapes (contents controller) ↔ ∃ m ∈ itemsOf controller "Modules" "Module", MisreadModule m := by
  unfold contents
  refine Reading.escapes_bind_of_left (succeeds_sectionOf fun l => Reading.succeeds_map_lift _ _) fun types => ?_
  refine Reading.escapes_bind_of_left (succeeds_sectionOf fun l => Reading.succeeds_pure _) fun aois => ?_
  refine Reading.escapes_bind_of_left (succeeds_sectionOf fun l => Reading.succeeds_map_lift _ _) fun programs => ?_
  rw [Reading.escapes_bind_of_right]
  · unfold sectionOf itemsOf
    cases controller.items? "Modules" "Module" with
    | none => exact iff_of_false (Reading.not_escapes_pure _) (by simp)
    | some l =>
      show Escapes (Reading.each ioModule l >>= _ : Reading Contents) ↔ _
      rw [Reading.escapes_bind_of_right fun _ => Reading.not_escapes_pure _,
        Reading.escapes_each succeeds_or_escapes_ioModule]
      simp [escapes_ioModule]
  · intro modules
    refine Succeeds.not_escapes (Reading.succeeds_bind ?_ fun tasks => Reading.succeeds_pure _)
    exact succeeds_sectionOf fun l => Reading.succeeds_map_lift _ _

/-- The schema revision that a root element states, if any. -/
def revision? (root : Element) : Option (List Char) :=
  (root.attribute? "SchemaRevision").map fun revision => Text.trim revision.toList

theorem escapes_checkRoot (root : Element) :
    Escapes (checkRoot root) ↔ root.tag = l5xRoot ∧ ∃ r, revision? root = some r ∧ MisreadMajor r := by
  unfold checkRoot revision?
  by_cases h : root.tag = l5xRoot
  · rw [if_neg (by simpa using h), and_iff_right h]
    cases root.attribute? "SchemaRevision" with
    | none => exact iff_of_false (not_escapes_ok _) (by simp)
    | some revision =>
      simp only [Option.map_some, Option.some.injEq, exists_eq_left', ← escapes_majorIs supportedMajor]
      refine (escapes_except_bind _ _).trans (or_iff_left ?_)
      rintro ⟨b, -, hb⟩
      cases b with
      | true => exact not_escapes_ok _ hb
      | false => exact not_escapes_parse _ _ hb
  · rw [if_pos h]
    exact iff_of_false (not_escapes_parse _ _) fun hr => h hr.1

/-- Of a file with the right root, the major number of the revision is misread, or a module is misread
although the revision is supported. -/
def MisreadRoot (root : Element) : Prop :=
  root.tag = l5xRoot ∧
    ((∃ r, revision? root = some r ∧ MisreadMajor r) ∨
      (∀ r, revision? root = some r → Revision.majorIs supportedMajor r = .ok true) ∧
        ∃ controller, root.child? "Controller" = some controller ∧
          ∃ m ∈ itemsOf controller "Modules" "Module", MisreadModule m)

/-- The file is not blank, and its bytes are in an encoding that cannot be read, or its root is misread. -/
def MisreadBytes (bytes : List UInt8) : Prop :=
  bytes.all isBlankByte = false ∧
    ((∃ e, Xml.read bytes = .error (.encoding e)) ∨ ∃ root, Xml.read bytes = .ok root ∧ MisreadRoot root)

/-- Where the declared encoding can be used, only the root counts. -/
theorem misreadBytes_iff {bytes : List UInt8} (h : DeclaresUsable bytes) :
    MisreadBytes bytes ↔ bytes.all isBlankByte = false ∧ ∃ root, Xml.read bytes = .ok root ∧ MisreadRoot root :=
  and_congr_right fun _ => or_iff_right fun ⟨e, he⟩ => h.formal_read e he

theorem checkRoot_eq_ok_iff (root : Element) :
    checkRoot root = .ok () ↔ root.tag = l5xRoot ∧
      ∀ r, revision? root = some r → Revision.majorIs supportedMajor r = .ok true := by
  unfold checkRoot revision?
  by_cases h : root.tag = l5xRoot
  · rw [if_neg (by simpa using h), and_iff_right h]
    cases root.attribute? "SchemaRevision" with
    | none => exact iff_of_true rfl (by simp)
    | some revision =>
      simp only [Option.map_some, Option.some.injEq, forall_eq']
      cases Revision.majorIs supportedMajor (Text.trim revision.toList) with
      | error f => exact iff_of_false (fun hf => by cases hf) (fun hf => by cases hf)
      | ok b =>
        cases b with
        | true => exact iff_of_true rfl rfl
        | false => exact iff_of_false (fun hf => by cases hf) (fun hf => by cases hf)
  · rw [if_pos h]
    exact iff_of_false (fun hf => by cases hf) fun hr => h hr.1

theorem escapes_rootOf (bytes : List UInt8) :
    Escapes (rootOf bytes) ↔ bytes.all isBlankByte = false ∧ ∃ e, Xml.read bytes = .error (.encoding e) := by
  unfold rootOf
  by_cases h : bytes.all isBlankByte = true
  · rw [if_pos h]
    exact iff_of_false (not_escapes_parse _ _) (by simp [h])
  · rw [if_neg h, and_iff_right (by simpa using h)]
    cases Xml.read bytes with
    | ok root => simp
    | error f => cases f <;> simp

theorem rootOf_eq_ok_iff (bytes : List UInt8) (root : Element) :
    rootOf bytes = .ok root ↔ bytes.all isBlankByte = false ∧ Xml.read bytes = .ok root := by
  unfold rootOf
  by_cases h : bytes.all isBlankByte = true
  · simp [h]
  · rw [if_neg h, and_iff_right (by simpa using h)]
    cases Xml.read bytes with
    | ok root' => simp
    | error f => cases f <;> simp

end L5x

theorem escapes_ofL5x (bytes : List UInt8) : Escapes (Document.ofL5x bytes) ↔ L5x.MisreadBytes bytes := by
  unfold Document.ofL5x L5x.MisreadBytes
  rw [Reading.escapes_ofExcept_bind, L5x.escapes_rootOf, and_or_left]
  refine or_congr Iff.rfl ?_
  rw [← exists_and_left]
  refine exists_congr fun root => ?_
  rw [L5x.rootOf_eq_ok_iff, and_assoc]
  refine and_congr Iff.rfl (and_congr Iff.rfl ?_)
  unfold L5x.MisreadRoot
  rw [Reading.escapes_check_bind, L5x.escapes_checkRoot, L5x.checkRoot_eq_ok_iff, and_or_left, and_assoc]
  refine or_congr Iff.rfl (and_congr Iff.rfl (and_congr Iff.rfl ?_))
  cases root.child? "Controller" with
  | none => exact iff_of_false (not_escapes_parse _ _) (by simp)
  | some controller =>
    simp only [Option.some.injEq, exists_eq_left']
    rw [← L5x.escapes_contents]
    exact Reading.escapes_bind_of_right fun _ => Reading.not_escapes_pure _

end LadderAtlas
