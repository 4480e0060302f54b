import LadderAtlas.Proofs.Ladder.Blanking
import LadderAtlas.Proofs.Ladder.Paths

/-!
# Searching for paths

In an expression a path may have indices as long as these hold no brackets. Such a path is found whole
(`pathsFrom_path`), if one may begin after the text before it (`admitsAfter`) and nothing behind it continues it.
Other texts are passed over.
-/

namespace LadderAtlas.Ladder
open Text

/-! ### Paths with flat indices -/

section flat
variable {s t : List Char}

/-- What a path begins with, members and indices aside. -/
inductive IsBase : List Char → Prop
  | base {lead name modules : List Char} (hlead : lead = [] ∨ lead = ['\\']) (hname : IsIdentifier name)
      (hmodules : IsModules modules) : IsBase (lead ++ (name ++ modules))

theorem mem_modules {modules : List Char} (h : IsModules modules) {c : Char} (hc : c ∈ modules) :
    c = ':' ∨ isIdentifierPart c = true := by
  induction h with
  | nil => cases hc
  | segment hg _ ih =>
    rcases List.mem_append.1 hc with hc | hc
    · exact (List.mem_cons.1 hc).imp_right (hg.parts c)
    · exact ih hc

theorem IsBase.mem {u : List Char} (h : IsBase u) {c : Char} (hc : c ∈ u) :
    c = '\\' ∨ c = ':' ∨ isIdentifierPart c = true := by
  obtain ⟨hlead, hname, hmodules⟩ := h
  rcases List.mem_append.1 hc with hc | hc
  · rcases hlead with rfl | rfl
    · cases hc
    · exact .inl (List.mem_singleton.1 hc)
  · rcases List.mem_append.1 hc with hc | hc
    · exact .inr (.inr (mem_identifier hname hc))
    · exact .inr (mem_modules hmodules hc)

theorem IsBase.not_mem {u : List Char} (h : IsBase u) {c : Char} (hc : c ≠ '\\' ∧ c ≠ ':')
    (hpart : isIdentifierPart c = false) : c ∉ u := by
  intro hm
  rcases h.mem hm with he | he | hp
  · exact hc.1 he
  · exact hc.2 he
  · rw [hpart] at hp
    cases hp

/-- Members, and indices that hold no brackets. -/
inductive IsFlatParts : List Char → Prop
  | nil : IsFlatParts []
  | member {g s : List Char} (hg : IsSegment g) (hs : IsFlatParts s) : IsFlatParts ('.' :: g ++ s)
  | index {t s : List Char} (ht : IsUnbracketed t) (hs : IsFlatParts s) :
      IsFlatParts ('[' :: t ++ ']' :: s)

/-- A tag path whose indices hold no brackets. -/
inductive IsFlatPath : List Char → Prop
  | path {u p : List Char} (hu : IsBase u) (hp : IsFlatParts p) : IsFlatPath (u ++ p)

theorem IsFlatParts.isParts (h : IsFlatParts s) : IsParts s := by
  induction h with
  | nil => exact .nil
  | member hg _ ih => exact .member hg ih
  | index ht _ ih => exact .index (.of_plain ht) ih

theorem dropWhile_identifierPart (hs : Stops s) : s.dropWhile isIdentifierPart = s := by
  cases s with
  | nil => rfl
  | cons c s => rw [List.dropWhile_cons_of_neg (by simp [hs c s rfl])]

theorem flatPartRest_member {r : List Char} (h : afterSegment? s = some r) :
    flatPartRest ('.' :: s) = flatPartRest r := by
  rw [flatPartRest]
  split
  · rename_i r' h'
    cases h.symm.trans h'
    rfl
  · rename_i h'
    cases h.symm.trans h'

theorem flatPartRest_stuck (h : afterSegment? s = none) : flatPartRest ('.' :: s) = '.' :: s := by
  rw [flatPartRest]
  split
  · rename_i r' h'
    cases h.symm.trans h'
  · rfl

theorem dropWhile_flat (ht : IsUnbracketed t) (s : List Char) :
    (t ++ s).dropWhile (fun c => c ≠ '[' && c ≠ ']') = s.dropWhile fun c => c ≠ '[' && c ≠ ']' :=
  List.dropWhile_append_of_pos fun c hc => by simp [ht c hc]

theorem flatPartRest_index (ht : IsUnbracketed t) (s : List Char) :
    flatPartRest ('[' :: (t ++ ']' :: s)) = flatPartRest s := by
  have hdrop : (t ++ ']' :: s).dropWhile (fun c => c ≠ '[' && c ≠ ']') = ']' :: s := by
    rw [dropWhile_flat ht, List.dropWhile_cons_of_neg (by decide)]
  rw [flatPartRest]
  split
  · rename_i r' h'
    cases hdrop.symm.trans h'
    rfl
  · rename_i hno
    exact absurd hdrop (hno s)

theorem flat_of_dropWhile {r : List Char} (h : s.dropWhile (fun c => c ≠ '[' && c ≠ ']') = ']' :: r) :
    ∃ t, IsUnbracketed t ∧ s = t ++ ']' :: r := by
  refine ⟨s.takeWhile (fun c => c ≠ '[' && c ≠ ']'), fun c hc => ?_, ?_⟩
  · simpa using List.all_eq_true.1 List.all_takeWhile c hc
  · rw [← h, List.takeWhile_append_dropWhile]

theorem flatPartRest_open (h : ∀ r, s.dropWhile (fun c => c ≠ '[' && c ≠ ']') ≠ ']' :: r) :
    flatPartRest ('[' :: s) = '[' :: s := by
  rw [flatPartRest]
  split
  · rename_i r' h'
    exact absurd h' (h r')
  · rfl

/-- The scan stops at an index that holds a bracket. -/
theorem flatPartRest_deep (ht : IsUnbracketed t) (s : List Char) :
    flatPartRest ('[' :: (t ++ '[' :: s)) = '[' :: (t ++ '[' :: s) := by
  refine flatPartRest_open fun r hr => ?_
  rw [dropWhile_flat ht, List.dropWhile_cons_of_neg (by decide)] at hr
  cases hr

theorem flatPartRest_of_head (hs : ∀ c t, s = c :: t → c ≠ '.' ∧ c ≠ '[') : flatPartRest s = s := by
  rw [flatPartRest.eq_def]
  split
  · exact absurd rfl (hs _ _ rfl).1
  · exact absurd rfl (hs _ _ rfl).2
  · rfl

theorem Stops.append (ht : Stops t) (hs : Stops s) : Stops (t ++ s) := by
  cases t with
  | nil => exact hs
  | cons x t =>
    intro c r he
    obtain ⟨rfl, -⟩ := List.cons.inj he
    exact ht x t rfl

/-- A text that goes on neither with a letter, digit or underscore nor with a colon. -/
def EndsBase (s : List Char) : Prop := ∀ c r, s = c :: r → isIdentifierPart c = false ∧ c ≠ ':'

theorem EndsBase.stops (h : EndsBase s) : Stops s := fun c r he => (h c r he).1

theorem IsFlatParts.endsBase (hp : IsFlatParts t) (hs : EndsBase s) : EndsBase (t ++ s) := by
  cases hp with
  | nil => exact hs
  | member _ _ =>
    rintro c r he
    obtain ⟨rfl, -⟩ := List.cons.inj he
    decide
  | index _ _ =>
    rintro c r he
    obtain ⟨rfl, -⟩ := List.cons.inj he
    decide

theorem flatPartRest_append (hp : IsFlatParts t) (hs : Stops s) : flatPartRest (t ++ s) = flatPartRest s := by
  induction hp with
  | nil => rfl
  | @member g u hg hu ih =>
    rw [List.append_assoc, List.cons_append, flatPartRest_member (afterSegment?_append hg _),
      dropWhile_identifierPart (hu.isParts.stops.append hs), ih]
  | @index i u hi _ ih => rw [List.append_assoc, List.cons_append, List.cons_append, flatPartRest_index hi, ih]

theorem moduleRest_stuck (h : afterSegment? s = none) : moduleRest (':' :: s) = ':' :: s := by
  rw [moduleRest]
  split
  · rename_i r' h'
    cases h.symm.trans h'
  · rfl

theorem moduleRest_append (hm : IsModules t) (hs : EndsBase s) : moduleRest (t ++ s) = s := by
  induction hm with
  | nil =>
    cases s with
    | nil => rw [List.append_nil, moduleRest.eq_def]
    | cons c s => exact moduleRest_of_head (hs c s rfl).2 s
  | @segment g u hg hu ih =>
    have hstops : Stops (u ++ s) := by
      have hu' := hu.stops .nil
      rw [List.append_nil] at hu'
      exact hu'.append hs.stops
    rw [List.append_assoc, List.cons_append, moduleRest_segment (afterSegment?_append hg _),
      dropWhile_identifierPart hstops, ih]

theorem flatPathRest?_append {u : List Char} (hu : IsBase u) (ht : IsFlatParts t) (hs : EndsBase s) :
    flatPathRest? (u ++ (t ++ s)) = some (flatPartRest s) := by
  obtain ⟨hlead, hname, hmodules⟩ := hu
  rename_i lead name modules
  have hends := ht.endsBase hs
  have hstops : Stops (modules ++ (t ++ s)) := by
    have hm := hmodules.stops .nil
    rw [List.append_nil] at hm
    exact hm.append hends.stops
  rw [flatPathRest?, List.append_assoc, List.append_assoc, dropBackslash_identifier hlead hname,
    afterIdentifier?_append hname, dropWhile_identifierPart hstops, Option.map_some, moduleRest_append hmodules hends,
    flatPartRest_append ht hs.stops]

/-! What the scan takes is such a path. -/

theorem flatParts_of_flatPartRest (s : List Char) : ∃ p, IsFlatParts p ∧ s = p ++ flatPartRest s := by
  fun_induction flatPartRest s with
  | case1 s r h _ ih =>
    obtain ⟨g, hg, rfl⟩ := segment_of_afterSegment? h
    obtain ⟨p, hp, hr⟩ := ih
    refine ⟨'.' :: g ++ p, .member hg hp, ?_⟩
    rw [List.cons_append, List.cons_append, List.append_assoc, ← hr]
  | case2 s h => exact ⟨[], .nil, rfl⟩
  | case3 s r h _ ih =>
    obtain ⟨t, ht, rfl⟩ := flat_of_dropWhile h
    obtain ⟨p, hp, hr⟩ := ih
    refine ⟨'[' :: t ++ ']' :: p, .index ht hp, ?_⟩
    rw [List.append_assoc, List.cons_append, List.cons_append, ← hr]
  | case4 s h => exact ⟨[], .nil, rfl⟩
  | case5 s h h' => exact ⟨[], .nil, rfl⟩

theorem flatPath_of_flatPathRest? {r : List Char} (h : flatPathRest? s = some r) :
    ∃ t, IsFlatPath t ∧ s = t ++ r := by
  obtain ⟨lead, hlead, hs⟩ := dropBackslash_append s
  obtain ⟨u, hu, rfl⟩ := Option.map_eq_some_iff.1 h
  obtain ⟨name, hname, hdrop⟩ := identifier_of_afterIdentifier? hu
  obtain ⟨modules, hmodules, hm⟩ := modules_of_moduleRest u
  obtain ⟨parts, hparts, hp⟩ := flatParts_of_flatPartRest (moduleRest u)
  refine ⟨lead ++ (name ++ modules) ++ parts, .path (.base hlead hname hmodules) hparts, ?_⟩
  calc s = lead ++ (name ++ u) := by rw [hs, hdrop]
    _ = lead ++ (name ++ (modules ++ (parts ++ flatPartRest (moduleRest u)))) := by rw [← hp, ← hm]
    _ = lead ++ (name ++ modules) ++ parts ++ flatPartRest (moduleRest u) := by simp only [List.append_assoc]

theorem dropBackslash_of_head {c : Char} (hc : c ≠ '\\') (s : List Char) : dropBackslash (c :: s) = c :: s := by
  unfold dropBackslash
  split
  · rename_i he
    exact absurd (List.cons.inj he).1 hc
  · rfl

theorem flatPathRest?_of_head {c : Char} (hlead : c ≠ '\\') (hstart : isIdentifierStart c = false)
    (s : List Char) : flatPathRest? (c :: s) = none := by
  simp [flatPathRest?, dropBackslash_of_head hlead, afterIdentifier?, hstart]

end flat

/-! ### Searching for paths -/

section search
variable {s t p r : List Char} {b : Bool}

/-- Whether a path may begin after a text, given whether one might before it. -/
def admitsAfter (b : Bool) : List Char → Bool
  | [] => b
  | c :: s => admitsAfter (admitsPath c) s

theorem pathsFrom_skip (b : Bool) (t s : List Char) :
    pathsFrom b t.length (t ++ s) = pathsFrom (admitsAfter b t) 0 s := by
  induction t generalizing b with
  | nil => rfl
  | cons c t ih =>
    rw [List.cons_append, List.length_cons, pathsFrom]
    exact ih _

theorem pathsFrom_found (hp : p ≠ []) (h : flatPathRest? (p ++ r) = some r) :
    pathsFrom true 0 (p ++ r) = p :: pathsFrom (admitsAfter true p) 0 r := by
  obtain ⟨c, p, rfl⟩ := List.exists_cons_of_ne_nil hp
  have hsize : (p ++ r).length + 1 - r.length = p.length + 1 := by
    rw [List.length_append]
    omega
  have htake : (c :: (p ++ r)).take (p.length + 1) = c :: p := by simp
  rw [List.cons_append] at h ⊢
  rw [pathsFrom]
  simp only [if_true, h, hsize, htake, Nat.add_sub_cancel]
  rw [pathsFrom_skip]
  rfl

theorem pathsFrom_pass {c : Char} (h : b = true → flatPathRest? (c :: s) = none) :
    pathsFrom b 0 (c :: s) = pathsFrom (admitsPath c) 0 s := by
  rw [pathsFrom]
  cases b with
  | false => rfl
  | true => simp only [if_true, h rfl]

/-- Texts without a character that a path can begin with. -/
def IsPathless (t : List Char) : Prop := ∀ c ∈ t, c ≠ '\\' ∧ isIdentifierStart c = false

theorem pathsFrom_pathless (ht : IsPathless t) (s : List Char) :
    pathsFrom b 0 (t ++ s) = pathsFrom (admitsAfter b t) 0 s := by
  induction t generalizing b with
  | nil => rfl
  | cons c t ih =>
    obtain ⟨hc, ht⟩ := List.forall_mem_cons.1 ht
    rw [List.cons_append, pathsFrom_pass fun _ => flatPathRest?_of_head hc.1 hc.2 _, ih ht]
    rfl

theorem pathsFrom_eq_nil (ht : IsPathless t) : pathsFrom b 0 t = [] := by
  have h := pathsFrom_pathless (b := b) ht []
  rw [List.append_nil] at h
  rw [h, pathsFrom]

/-- In the rest of a word no path begins. -/
theorem pathsFrom_word (ht : ∀ c ∈ t, isWordChar c = true) (s : List Char) :
    pathsFrom false 0 (t ++ s) = pathsFrom false 0 s := by
  induction t with
  | nil => rfl
  | cons c t ih =>
    obtain ⟨hc, ht⟩ := List.forall_mem_cons.1 ht
    rw [List.cons_append, pathsFrom_pass (by simp), admitsPath_of_isWordChar hc, ih ht]

theorem IsBase.ne_nil {u : List Char} (hu : IsBase u) : u ≠ [] := by
  obtain ⟨-, hname, -⟩ := hu
  rintro h
  rw [List.append_eq_nil_iff, List.append_eq_nil_iff] at h
  rw [h.2.1] at hname
  exact hname

/-- A path is found whole if nothing behind it continues it. -/
theorem pathsFrom_path {u : List Char} (hu : IsBase u) (ht : IsFlatParts t) (hs : EndsBase s)
    (hrest : flatPartRest s = s) :
    pathsFrom true 0 (u ++ t ++ s) = (u ++ t) :: pathsFrom (admitsAfter true (u ++ t)) 0 s := by
  refine pathsFrom_found (by simp [hu.ne_nil]) ?_
  rw [List.append_assoc, flatPathRest?_append hu ht hs, hrest]

/-- Whatever the search finds is a path and stands in the text. -/
theorem mem_pathsFrom {k : Nat} (h : p ∈ pathsFrom b k s) : IsFlatPath p ∧ p <:+: s := by
  have hlater : ∀ {c : Char} {s : List Char}, IsFlatPath p ∧ p <:+: s → IsFlatPath p ∧ p <:+: c :: s :=
    fun h => ⟨h.1, List.infix_cons h.2⟩
  induction s generalizing b k with
  | nil => cases h
  | cons c s ih =>
    cases k with
    | succ k => exact hlater (ih h)
    | zero =>
      cases hscan : (if b then flatPathRest? (c :: s) else none) with
      | none =>
        rw [pathsFrom] at h
        simp only [hscan] at h
        exact hlater (ih h)
      | some r =>
        have hrest : flatPathRest? (c :: s) = some r := by
          cases b with
          | true => exact hscan
          | false => cases hscan
        obtain ⟨t, ht, hsplit⟩ := flatPath_of_flatPathRest? hrest
        have hsize : s.length + 1 - r.length = t.length := by
          have hlength := congrArg List.length hsplit
          rw [List.length_append, List.length_cons] at hlength
          omega
        rw [pathsFrom] at h
        simp only [hscan, hsize] at h
        rcases List.mem_cons.1 h with rfl | h
        · rw [hsplit, List.take_left]
          exact ⟨ht, (List.prefix_append t r).isInfix⟩
        · exact hlater (ih h)

end search

end LadderAtlas.Ladder
