import LadderAtlas.Xml.Reader

/-!
# Encodings that cannot be used

A document is refused for its form, or for the encoding that its declaration names. `read_encoding_iff` says that
only the codec of a declared encoding leads to the second: a document without a declaration, or with an encoding that
is known by itself, is never refused for its encoding. A codec that can be used keeps ASCII (`ofName_keepsAscii`), so
the marks of a document mean the same before and after the declaration.
-/

namespace LadderAtlas.Xml

/-! ### Codecs -/

theorem Characters.character?_of_lt (characters : Characters) {b : UInt8} (hb : b < 0x7E) :
    characters.character? b = some (Char.ofNat b.toNat) := by
  have hascii : b < 0x80 := UInt8.lt_trans hb (by decide)
  cases characters with
  | latin => rfl
  | noTilde => exact if_pos (by rw [decide_eq_true hb, Bool.true_or])
  | _ => exact if_pos hascii

namespace EncodingFault

/-- Two of the faults count as faults of form. -/
theorem fault_eq_encoding_iff {e e' : EncodingFault} :
    e.fault = .encoding e' ↔ e = e' ∧ e' ≠ .foreign ∧ e' ≠ .contradictsBytes := by
  cases e with
  | foreign => exact iff_of_false nofun fun h => h.2.1 h.1.symm
  | contradictsBytes => exact iff_of_false nofun fun h => h.2.2 h.1.symm
  | _ =>
    constructor
    · intro h
      obtain rfl := Fault.encoding.inj h
      exact ⟨rfl, nofun, nofun⟩
    · rintro ⟨rfl, -, -⟩
      rfl

end EncodingFault

namespace Encoding

/-- All codecs that can be used read single bytes, and up to the tilde they read ASCII. -/
theorem ofName_keepsAscii {name : String} {e : Encoding} (h : ofName name = .ok e) :
    ∃ character?, e = .singleByte character? ∧ ∀ b : UInt8, b < 0x7E → character? b = some (Char.ofNat b.toNat) := by
  unfold ofName at h
  split at h
  · cases h
  · split at h <;> cases h
    exact ⟨_, rfl, fun b hb => Characters.character?_of_lt _ hb⟩

theorem ofName_ne_contradictsBytes (name : String) : ofName name ≠ .error .contradictsBytes := by
  unfold ofName
  split
  · nofun
  · split <;> nofun

/-- Which encodings are known by themselves does not depend on the order of bytes. -/
theorem builtIn?_eq_none_iff (big : Bool) (name : String) : builtIn? big name = none ↔ builtIn? true name = none := by
  unfold builtIn?
  split <;> simp

variable {current : Encoding} {name : String}

theorem declared_of_none (h : builtIn? true name = none) : current.declared name = ofName name := by
  cases current with
  | utf16 big => simp only [declared, (builtIn?_eq_none_iff big name).2 h]
  | _ => simp only [declared, h]

/-- An encoding that is known by itself is used, or it is a fault of form. -/
theorem declared_of_ne_none (h : builtIn? true name ≠ none) {f : EncodingFault} (hf : current.declared name = .error f) :
    f = .contradictsBytes := by
  cases current with
  | utf16 big =>
    simp only [declared] at hf
    split at hf
    · split at hf <;> cases hf
      rfl
    · exact (Except.error.inj hf).symm
    · exact absurd ((builtIn?_eq_none_iff big name).1 ‹_›) h
  | _ =>
    simp only [declared] at hf
    split at hf
    · exact (Except.error.inj hf).symm
    · cases hf
    · exact absurd ‹_› h

/-- Only the codec of an encoding that is not known by itself makes it one that cannot be used. -/
theorem declared_fault_iff {e : EncodingFault} :
    (current.declared name).mapError (·.fault) = .error (.encoding e) ↔
      builtIn? true name = none ∧ ofName name = .error e ∧ e ≠ .foreign := by
  have hfault : (current.declared name).mapError (·.fault) = .error (.encoding e) ↔
      current.declared name = .error e ∧ e ≠ .foreign ∧ e ≠ .contradictsBytes := by
    cases current.declared name with
    | ok e' => exact iff_of_false nofun nofun
    | error f =>
      show (Except.error f.fault : Except Fault Encoding) = _ ↔ _
      rw [Except.error.injEq, Except.error.injEq, EncodingFault.fault_eq_encoding_iff]
  rw [hfault]
  by_cases h : builtIn? true name = none
  · rw [declared_of_none h, and_iff_right h]
    refine and_congr_right fun hf => and_iff_left ?_
    rintro rfl
    exact ofName_ne_contradictsBytes name hf
  · exact iff_of_false (fun hr => hr.2.2 (declared_of_ne_none h hr.1)) fun hr => h hr.1

end Encoding

/-! ### Documents -/

/-- A computation does not fail for an encoding. -/
def Formal {α : Type} (x : Except Fault α) : Prop := ∀ e, x ≠ .error (.encoding e)

section
variable {α β : Type} {x : Except Fault α} {f : α → Except Fault β}

theorem formal_ok (a : α) : Formal (.ok a) := nofun

theorem formal_malformed : Formal (.error .malformed : Except Fault α) := nofun

theorem formal_stop (stop : Stop) : Formal (.error stop.fault : Except Fault α) := by
  cases stop <;> exact nofun

theorem formal_mapError (x : Except Stop α) : Formal (x.mapError (·.fault)) := by
  cases x with
  | error stop => exact formal_stop stop
  | ok a => exact formal_ok a

theorem Formal.bind (hx : Formal x) (hf : ∀ a, Formal (f a)) : Formal (x >>= f) := by
  cases x with
  | error e => exact fun e' h => hx e' (congrArg _ (Except.error.inj h))
  | ok a => exact hf a

theorem bind_eq_encoding_iff (hf : ∀ a, Formal (f a)) {e : EncodingFault} :
    x >>= f = .error (.encoding e) ↔ x = .error (.encoding e) := by
  cases x with
  | error e' => exact ⟨fun h => congrArg _ (Except.error.inj h), fun h => congrArg _ (Except.error.inj h)⟩
  | ok a => exact iff_of_false (hf a e) nofun

end

section
variable {d : Doctype} {m : Medium}

/-- Content is read token by token; only the texts of entities are read elsewhere. -/
theorem formal_contentWith {floor : Nat} {expand : String → List OpenElement → Except Fault (List OpenElement)}
    (hexpand : ∀ name stack, Formal (expand name stack)) (bound : Nat) (stack : List OpenElement) (s : List Char) :
    Formal (contentWith d m floor expand bound stack s) := by
  induction bound generalizing stack s with
  | zero => exact formal_ok _
  | succ bound ih =>
    cases s with
    | nil => exact formal_ok _
    | cons c s =>
      unfold contentWith
      refine (formal_mapError _).bind fun (token, rest) => ?_
      cases token with
      | nothing => exact ih _ _
      | text t => exact ih _ _
      | reference r =>
        cases r with
        | code n =>
          dsimp only
          split
          · exact ih _ _
          · exact formal_malformed
        | entity e =>
          dsimp only
          split
          · exact ih _ _
          · exact (hexpand _ _).bind fun _ => ih _ _
      | start n attributes closed =>
        dsimp only
        split
        · exact formal_malformed
        · split
          · split
            · exact formal_ok _
            · exact ih _ _
          · exact ih _ _
      | finish n =>
        cases stack with
        | nil => exact formal_malformed
        | cons e stack =>
          dsimp only
          split
          · exact formal_malformed
          · split
            · exact formal_ok _
            · exact ih _ _

/-- By induction on how deep entities are nested. -/
theorem formal_entityContent (depth : Nat) (name : String) (stack : List OpenElement) :
    Formal (entityContent d depth name stack) := by
  induction depth generalizing name stack with
  | zero => exact formal_malformed
  | succ depth ih =>
    unfold entityContent
    split
    · refine (formal_contentWith ih _ _ _).bind fun (build, _) => ?_
      cases build with
      | within after =>
        dsimp only
        split
        · exact formal_ok _
        · exact formal_malformed
      | done _ => exact formal_malformed
    · exact formal_malformed

theorem formal_epilog (bound : Nat) (s : List Char) : Formal (epilog m bound s) := by
  induction bound generalizing s with
  | zero => exact formal_ok _
  | succ bound ih =>
    cases s with
    | nil =>
      unfold epilog
      split
      · exact formal_ok _
      · exact formal_stop _
    | cons c s =>
      unfold epilog
      refine (formal_mapError _).bind fun (mark, rest) => ?_
      split
      · exact ih _
      · exact formal_malformed

theorem formal_readBody (standalone : Bool) (s : List Char) : Formal (readBody m standalone s) := by
  unfold readBody
  refine (formal_mapError _).bind fun (d, s) => ?_
  refine (formal_contentWith (formal_entityContent _) _ _ _).bind fun (build, s) => ?_
  cases build with
  | within _ => exact formal_stop _
  | done root => exact (formal_epilog _ _).bind fun _ => formal_ok _

end

/-- A document begins with a declaration that names an encoding. -/
def Declares (bytes : List UInt8) (name : String) : Prop :=
  Encoding.endsInSignature bytes = false ∧ ∃ standalone rest,
    let (encoding, body) := Encoding.detect bytes
    let source := encoding.decode body
    Declaration.ofStart (.ofSource encoding source.ending) source.chars = .ok (some ⟨some name, standalone⟩, rest)

/-- A document is refused for its encoding just if its declaration names one that is left to the codecs and has none
that can be used. -/
theorem read_encoding_iff (bytes : List UInt8) (e : EncodingFault) : read bytes = .error (.encoding e) ↔
    ∃ name, Declares bytes name ∧ Encoding.builtIn? true name = none ∧ Encoding.ofName name = .error e ∧
      e ≠ .foreign := by
  unfold read Declares
  cases hsignature : Encoding.endsInSignature bytes with
  | true => exact iff_of_false nofun fun ⟨_, h, _⟩ => nomatch h.1
  | false =>
    obtain ⟨encoding, body⟩ := Encoding.detect bytes
    dsimp only
    cases hstart : Declaration.ofStart (.ofSource encoding (encoding.decode body).ending)
        (encoding.decode body).chars with
    | error stop => exact iff_of_false (formal_stop stop e) (by simp)
    | ok p =>
      obtain ⟨_ | ⟨_ | name, standalone⟩, rest⟩ := p
      · refine iff_of_false (formal_readBody _ _ e) (by simp)
      · refine iff_of_false (formal_readBody _ _ e) (by simp)
      · -- What follows the declaration is read in the encoding that it names.
        refine ((bind_eq_encoding_iff fun _ => formal_readBody _ _).trans Encoding.declared_fault_iff).trans ?_
        simp

/-- If the declaration of a document names an encoding, it can be used, or it is at fault in its form. -/
def DeclaresUsable (bytes : List UInt8) : Prop :=
  ∀ name, Declares bytes name → Encoding.builtIn? true name = none → ∀ e, Encoding.ofName name = .error e → e = .foreign

theorem DeclaresUsable.formal_read {bytes : List UInt8} (h : DeclaresUsable bytes) : Formal (read bytes) := by
  intro e hread
  obtain ⟨name, hname, hcodec, he, hforeign⟩ := (read_encoding_iff bytes e).1 hread
  exact hforeign (h name hname hcodec e he)

end LadderAtlas.Xml
