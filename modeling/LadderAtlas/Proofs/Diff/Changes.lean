import LadderAtlas.Diff.Changes
import LadderAtlas.Proofs.Order

/-! # Keyed differences

`Changes.between` depends on a list through its keys in order (`sortedKeys`) and the first item for each
(`firstOf`) alone: `between_eq`. So each part of the result holds what it should (`mem_aloneIn_iff`,
`differing_eq_some_iff`) in the order of the keys: `isDifference_between`. The order of the items plays no
part where each key stands once (`between_perm`), and two lists that are exchanged exchange what is added
and what is removed (`mirrors_between`) and keep which keys are modified (`modifiedKeys_between`). -/

namespace LadderAtlas.Diff

section
variable {κ α : Type}

/-- `a` is the first item of a list with its key. -/
def IsFirst (key : α → κ) (l : List α) (a : α) : Prop :=
  ∃ before after, l = before ++ a :: after ∧ ∀ x ∈ before, key x ≠ key a

variable [DecidableEq κ] {key : α → κ} {le : κ → κ → Bool} {deltas : α → α → List Delta} {l l' old new : List α}

def firstOf (key : α → κ) (l : List α) (k : κ) : Option α := l.find? (key · = k)

/-- The keys of the items, each once and in order. -/
def sortedKeys (key : α → κ) (le : κ → κ → Bool) (l : List α) : List κ :=
  (Keyed.keys (Keyed.firsts key l)).mergeSort le

theorem key_of_firstOf {k : κ} {a : α} (h : firstOf key l k = some a) : key a = k := by
  simpa using List.find?_some h

theorem firstOf_key_iff {a : α} : firstOf key l (key a) = some a ↔ IsFirst key l a := by
  simp [firstOf, IsFirst, List.find?_eq_some_iff_append]

theorem firstOf_eq_some_iff {k : κ} {a : α} : firstOf key l k = some a ↔ IsFirst key l a ∧ key a = k := by
  constructor
  · intro h
    have hk := key_of_firstOf h
    exact ⟨firstOf_key_iff.1 (hk ▸ h), hk⟩
  · rintro ⟨h, rfl⟩
    exact firstOf_key_iff.2 h

theorem IsFirst.unique {a b : α} (ha : IsFirst key l a) (hb : IsFirst key l b) (h : key a = key b) : a = b := by
  have hfa := firstOf_key_iff.2 ha
  rw [h, firstOf_key_iff.2 hb] at hfa
  exact (Option.some.inj hfa).symm

theorem isSome_firstOf (k : κ) : (firstOf key l k).isSome ↔ k ∈ l.map key := by
  simp [firstOf]

theorem exists_isFirst {k : κ} (h : k ∈ l.map key) : ∃ a, IsFirst key l a ∧ key a = k := by
  obtain ⟨a, ha⟩ := Option.isSome_iff_exists.1 ((isSome_firstOf k).2 h)
  exact ⟨a, firstOf_eq_some_iff.1 ha⟩

omit [DecidableEq κ] in
theorem IsFirst.mem {a : α} (h : IsFirst key l a) : a ∈ l := by
  obtain ⟨before, after, rfl, -⟩ := h
  simp

omit [DecidableEq κ] in
/-- In a list without repeated keys every item is the first with its key. -/
theorem isFirst_iff_mem (h : (l.map key).Nodup) {a : α} : IsFirst key l a ↔ a ∈ l := by
  refine ⟨IsFirst.mem, fun ha => ?_⟩
  obtain ⟨before, after, rfl⟩ := List.append_of_mem ha
  refine ⟨before, after, rfl, fun x hx he => ?_⟩
  rw [List.map_append, List.map_cons] at h
  exact (List.nodup_append.1 h).2.2 _ (List.mem_map_of_mem hx) _ List.mem_cons_self he

theorem firstOf_perm (hp : l.Perm l') (h : (l.map key).Nodup) : firstOf key l = firstOf key l' := by
  have h' : (l'.map key).Nodup := (hp.map key).nodup_iff.1 h
  funext k
  refine Option.ext fun a => ?_
  rw [firstOf_eq_some_iff, firstOf_eq_some_iff, isFirst_iff_mem h, isFirst_iff_mem h', hp.mem_iff]

/-! ### Keys -/

theorem mem_sortedKeys (k : κ) : k ∈ sortedKeys key le l ↔ k ∈ l.map key := by
  rw [sortedKeys, List.mem_mergeSort, Keyed.mem_keys_firsts]

theorem pairwise_sortedKeys (h : IsOrder le) :
    (sortedKeys key le l).Pairwise fun a b => le a b = true ∧ a ≠ b :=
  h.pairwise_ne_mergeSort (Keyed.nodup_keys_firsts key l)

theorem sortedKeys_eq (h : IsOrder le) (hk : ∀ k, k ∈ l.map key ↔ k ∈ l'.map key) :
    sortedKeys key le l = sortedKeys key le l' := by
  refine h.mergeSort_eq ((List.perm_ext_iff_of_nodup (Keyed.nodup_keys_firsts key l)
    (Keyed.nodup_keys_firsts key l')).2 fun k => ?_)
  rw [Keyed.mem_keys_firsts, Keyed.mem_keys_firsts, hk]

/-- The keys that two lists share are in the same order in both. -/
theorem filter_sortedKeys_comm (h : IsOrder le) (p : κ → Bool) (hp : ∀ k, p k = true → k ∈ l.map key ∧ k ∈ l'.map key) :
    (sortedKeys key le l).filter p = (sortedKeys key le l').filter p := by
  have hsorted : ∀ m : List α, ((sortedKeys key le m).filter p).Pairwise fun a b => le a b = true ∧ a ≠ b :=
    fun m => (pairwise_sortedKeys h).filter p
  have hnodup : ∀ m : List α, ((sortedKeys key le m).filter p).Nodup := fun m => (hsorted m).imp And.right
  refine ((List.perm_ext_iff_of_nodup (hnodup l) (hnodup l')).2 fun k => ?_).eq_of_pairwise
    (fun _ _ _ _ => h.antisymm) ((hsorted l).imp And.left) ((hsorted l').imp And.left)
  rw [List.mem_filter, List.mem_filter, mem_sortedKeys, mem_sortedKeys]
  constructor
  · exact fun hk => ⟨(hp k hk.2).2, hk.2⟩
  · exact fun hk => ⟨(hp k hk.2).1, hk.2⟩

/-! ### The parts of a difference -/

/-- The first items for the keys that the other list lacks, in order. -/
def aloneIn (key : α → κ) (le : κ → κ → Bool) (own other : List α) : List α :=
  ((sortedKeys key le own).filter fun k => !(sortedKeys key le other).contains k).filterMap (firstOf key own)

/-- The first new item for a key, and how it differs from the first old one. -/
def differing (key : α → κ) (deltas : α → α → List Delta) (old new : List α) (k : κ) : Option (α × List Delta) := do
  let a ← firstOf key old k
  let b ← firstOf key new k
  if (deltas a b).isEmpty then none else some (b, deltas a b)

namespace Changes

theorem between_eq : between key le deltas old new =
    { added := aloneIn key le new old
      removed := aloneIn key le old new
      modified := (sortedKeys key le old).filterMap (differing key deltas old new) } := by
  have hget : ∀ m : List α, Keyed.get? (Keyed.firsts key m) = firstOf key m :=
    fun m => funext (Keyed.get?_firsts key m)
  simp only [between, select, hget]
  rfl

end Changes

theorem mem_aloneIn_iff {own other : List α} {a : α} :
    a ∈ aloneIn key le own other ↔ IsFirst key own a ∧ key a ∉ other.map key := by
  have hlacks : ∀ k, (!(sortedKeys key le other).contains k) = true ↔ k ∉ other.map key := by
    intro k
    rw [Bool.not_eq_true', Bool.eq_false_iff, Ne, List.contains_iff_mem, mem_sortedKeys]
  rw [aloneIn, List.mem_filterMap]
  constructor
  · rintro ⟨k, hk, ha⟩
    obtain ⟨hfirst, rfl⟩ := firstOf_eq_some_iff.1 ha
    exact ⟨hfirst, (hlacks _).1 (List.mem_filter.1 hk).2⟩
  · rintro ⟨hfirst, hother⟩
    have ha : firstOf key own (key a) = some a := firstOf_key_iff.2 hfirst
    have hk : key a ∈ own.map key := (isSome_firstOf _).1 (by rw [ha]; rfl)
    exact ⟨key a, List.mem_filter.2 ⟨(mem_sortedKeys _).2 hk, (hlacks _).2 hother⟩, ha⟩

theorem differing_eq_some_iff {k : κ} {b : α} {ds : List Delta} :
    differing key deltas old new k = some (b, ds) ↔
      ∃ a, firstOf key old k = some a ∧ firstOf key new k = some b ∧ deltas a b ≠ [] ∧ ds = deltas a b := by
  have hif : ∀ a b' : α, (if (deltas a b').isEmpty then none else some (b', deltas a b')) = some (b, ds) ↔
      b' = b ∧ deltas a b ≠ [] ∧ ds = deltas a b := by
    intro a b'
    by_cases hd : deltas a b' = []
    · simp only [hd, List.isEmpty_nil, if_true]
      exact iff_of_false (by simp) fun ⟨he, hne, _⟩ => hne (he ▸ hd)
    · rw [if_neg (by simpa using hd), Option.some.injEq, Prod.mk.injEq]
      constructor
      · rintro ⟨rfl, rfl⟩
        exact ⟨rfl, hd, rfl⟩
      · rintro ⟨rfl, -, rfl⟩
        exact ⟨rfl, rfl⟩
  cases ha : firstOf key old k with
  | none => simp [differing, ha]
  | some a =>
    cases hb : firstOf key new k with
    | none => simp [differing, ha, hb]
    | some b' =>
      simp only [differing, ha, hb, Option.bind_eq_bind, Option.bind_some, hif, Option.some.injEq]
      constructor
      · exact fun ⟨he, h⟩ => ⟨a, rfl, he, h⟩
      · rintro ⟨a', rfl, h⟩
        exact h

theorem isSome_differing_swap (hd : ∀ a b, deltas a b = [] ↔ deltas b a = []) (k : κ) :
    (differing key deltas old new k).isSome = (differing key deltas new old k).isSome := by
  have himp : ∀ l m : List α, (differing key deltas l m k).isSome = true → (differing key deltas m l k).isSome = true := by
    intro l m h
    obtain ⟨⟨b, ds⟩, hb⟩ := Option.isSome_iff_exists.1 h
    obtain ⟨a, ha, hb, hne, -⟩ := differing_eq_some_iff.1 hb
    refine Option.isSome_iff_exists.2 ⟨(a, deltas b a), ?_⟩
    exact differing_eq_some_iff.2 ⟨b, hb, ha, fun h => hne ((hd a b).2 h), rfl⟩
  exact Bool.eq_iff_iff.2 ⟨himp old new, himp new old⟩

theorem aloneIn_self : aloneIn key le l l = [] := by
  refine List.eq_nil_iff_forall_not_mem.2 fun a ha => ?_
  obtain ⟨hfirst, hother⟩ := mem_aloneIn_iff.1 ha
  exact hother (List.mem_map_of_mem hfirst.mem)

/-! ### Order -/

theorem pairwise_of_sortedKeys {β : Type} {lt : κ → κ → Prop} (h : IsOrder le)
    (hlt : ∀ a b, le a b = true → a ≠ b → lt a b) {ks : List κ} (hks : ks.Sublist (sortedKeys key le l))
    {f : κ → Option β} {keyOf : β → κ} (hf : ∀ {k b}, f k = some b → keyOf b = k) :
    (ks.filterMap f).Pairwise fun a b => lt (keyOf a) (keyOf b) := by
  rw [List.pairwise_filterMap]
  refine ((pairwise_sortedKeys h).sublist hks).imp fun {k k'} hk b hb b' hb' => ?_
  rw [hf hb, hf hb']
  exact hlt k k' hk.1 hk.2

omit [DecidableEq κ] in
theorem map_filterMap_eq_filter {β : Type} {f : κ → Option β} {keyOf : β → κ}
    (hf : ∀ {k b}, f k = some b → keyOf b = k) (ks : List κ) :
    (ks.filterMap f).map keyOf = ks.filter fun k => (f k).isSome := by
  induction ks with
  | nil => rfl
  | cons k ks ih =>
    cases hk : f k with
    | none => simp [hk, ih]
    | some b => simp [hk, ih, hf hk]

theorem key_of_differing {k : κ} {p : α × List Delta} (h : differing key deltas old new k = some p) :
    key p.1 = k := by
  obtain ⟨a, -, hb, -⟩ := differing_eq_some_iff.1 h
  exact key_of_firstOf hb

end

/-! ### Differences -/

section
variable {κ α : Type}

/-- `c` is what changed from `old` to `new`, where the first item for each key counts and `same` says of
two items with one key whether they agree. -/
structure IsDifference (key : α → κ) (lt : κ → κ → Prop) (same : α → α → Prop) (old new : List α)
    (c : Changes α) : Prop where
  removed : ∀ a, a ∈ c.removed ↔ IsFirst key old a ∧ key a ∉ new.map key
  added : ∀ b, b ∈ c.added ↔ IsFirst key new b ∧ key b ∉ old.map key
  modified : ∀ b, (∃ ds, (b, ds) ∈ c.modified) ↔
    IsFirst key new b ∧ ∃ a, IsFirst key old a ∧ key a = key b ∧ ¬ same a b
  /-- Whatever is modified comes with what differs about it. -/
  explained : ∀ p ∈ c.modified, p.2 ≠ []
  removedInOrder : c.removed.Pairwise fun a b => lt (key a) (key b)
  addedInOrder : c.added.Pairwise fun a b => lt (key a) (key b)
  modifiedInOrder : c.modified.Pairwise fun p q => lt (key p.1) (key q.1)

/-- The first items of two lists are for the same keys and agree. -/
structure SameFirsts (key : α → κ) (same : α → α → Prop) (old new : List α) : Prop where
  kept : ∀ a, IsFirst key old a → ∃ b, IsFirst key new b ∧ key a = key b ∧ same a b
  known : ∀ b, IsFirst key new b → ∃ a, IsFirst key old a ∧ key a = key b ∧ same a b

/-- One comparison is the other one read backwards. -/
structure Mirrors (c c' : Changes α) : Prop where
  added : c.added = c'.removed
  removed : c.removed = c'.added

namespace Changes

def empty : Changes α := ⟨[], [], []⟩

def modifiedKeys (key : α → κ) (c : Changes α) : List κ := c.modified.map fun p => key p.1

theorem count_eq_of_mirrors {key : α → κ} {c c' : Changes α} (hm : Mirrors c c') (hk : modifiedKeys key c = modifiedKeys key c') :
    c.count = c'.count := by
  have hlen : c.modified.length = c'.modified.length := by
    simpa [modifiedKeys] using congrArg List.length hk
  rw [count, count, hm.added, hm.removed, hlen]
  omega

end Changes

variable [DecidableEq κ] {key : α → κ} {le : κ → κ → Bool} {deltas : α → α → List Delta} {old new : List α}

/-- There are no changes if the first items agree, and only then. -/
theorem IsDifference.eq_empty_iff {lt : κ → κ → Prop} {same : α → α → Prop} {c : Changes α}
    (h : IsDifference key lt same old new c) : c = Changes.empty ↔ SameFirsts key same old new := by
  constructor
  · rintro rfl
    have hagree : ∀ a b, IsFirst key old a → IsFirst key new b → key a = key b → same a b := by
      intro a b ha hb hk
      refine Classical.byContradiction fun hs => ?_
      obtain ⟨ds, hds⟩ := (h.modified b).2 ⟨hb, a, ha, hk, hs⟩
      cases hds
    refine ⟨fun a ha => ?_, fun b hb => ?_⟩
    · have hmem : key a ∈ new.map key :=
        Classical.byContradiction fun hn => absurd ((h.removed a).2 ⟨ha, hn⟩) List.not_mem_nil
      obtain ⟨b, hb, hk⟩ := exists_isFirst hmem
      exact ⟨b, hb, hk.symm, hagree a b ha hb hk.symm⟩
    · have hmem : key b ∈ old.map key :=
        Classical.byContradiction fun hn => absurd ((h.added b).2 ⟨hb, hn⟩) List.not_mem_nil
      obtain ⟨a, ha, hk⟩ := exists_isFirst hmem
      exact ⟨a, ha, hk, hagree a b ha hb hk⟩
  · intro hs
    have hadded : c.added = [] := by
      refine List.eq_nil_iff_forall_not_mem.2 fun b hb => ?_
      obtain ⟨hfirst, hother⟩ := (h.added b).1 hb
      obtain ⟨a, ha, hk, -⟩ := hs.known b hfirst
      exact hother (hk ▸ List.mem_map_of_mem ha.mem)
    have hremoved : c.removed = [] := by
      refine List.eq_nil_iff_forall_not_mem.2 fun a ha => ?_
      obtain ⟨hfirst, hother⟩ := (h.removed a).1 ha
      obtain ⟨b, hb, hk, -⟩ := hs.kept a hfirst
      exact hother (hk ▸ List.mem_map_of_mem hb.mem)
    have hmodified : c.modified = [] := by
      refine List.eq_nil_iff_forall_not_mem.2 fun p hp => ?_
      obtain ⟨hb, a, ha, hk, hne⟩ := (h.modified p.1).1 ⟨p.2, hp⟩
      obtain ⟨b', hb', hk', hsame⟩ := hs.kept a ha
      obtain rfl := hb'.unique hb (hk'.symm.trans hk)
      exact hne hsame
    cases c
    simp only at hadded hremoved hmodified
    rw [hadded, hremoved, hmodified, Changes.empty]

namespace Changes

theorem isDifference_between {lt : κ → κ → Prop} {same : α → α → Prop} (h : IsOrder le)
    (hlt : ∀ a b, le a b = true → a ≠ b → lt a b) (hsame : ∀ a b, deltas a b = [] ↔ same a b) :
    IsDifference key lt same old new (between key le deltas old new) := by
  rw [between_eq]
  refine ⟨fun a => mem_aloneIn_iff, fun b => mem_aloneIn_iff, fun b => ?_, fun p hp => ?_, ?_, ?_, ?_⟩
  · constructor
    · rintro ⟨ds, hds⟩
      obtain ⟨k, -, hk⟩ := List.mem_filterMap.1 hds
      obtain ⟨a, ha, hb, hne, -⟩ := differing_eq_some_iff.1 hk
      obtain ⟨hfirst, rfl⟩ := firstOf_eq_some_iff.1 hb
      obtain ⟨hold, hkey⟩ := firstOf_eq_some_iff.1 ha
      exact ⟨hfirst, a, hold, hkey, fun hs => hne ((hsame a b).2 hs)⟩
    · rintro ⟨hfirst, a, hold, hkey, hs⟩
      have ha : firstOf key old (key b) = some a := firstOf_eq_some_iff.2 ⟨hold, hkey⟩
      have hmem : key b ∈ old.map key := (isSome_firstOf _).1 (by rw [ha]; rfl)
      refine ⟨deltas a b, List.mem_filterMap.2 ⟨key b, (mem_sortedKeys _).2 hmem, ?_⟩⟩
      exact differing_eq_some_iff.2 ⟨a, ha, firstOf_key_iff.2 hfirst, fun hd => hs ((hsame a b).1 hd), rfl⟩
  · obtain ⟨k, -, hk⟩ := List.mem_filterMap.1 hp
    obtain ⟨a, -, -, hne, hds⟩ := differing_eq_some_iff.1 hk
    exact hds ▸ hne
  · exact pairwise_of_sortedKeys h hlt List.filter_sublist key_of_firstOf
  · exact pairwise_of_sortedKeys h hlt List.filter_sublist key_of_firstOf
  · exact pairwise_of_sortedKeys h hlt (List.Sublist.refl _) key_of_differing

theorem between_perm (h : IsOrder le) {old' new' : List α} (ho : old.Perm old') (hn : new.Perm new')
    (hold : (old.map key).Nodup) (hnew : (new.map key).Nodup) :
    between key le deltas old' new' = between key le deltas old new := by
  have hkeys : ∀ {l l' : List α}, l.Perm l' → sortedKeys key le l' = sortedKeys key le l :=
    fun hp => (sortedKeys_eq h fun _ => (hp.map key).mem_iff).symm
  have hdiff : differing key deltas old' new' = differing key deltas old new := by
    funext k
    rw [differing, differing, ← firstOf_perm ho hold, ← firstOf_perm hn hnew]
  rw [between_eq, between_eq, aloneIn, aloneIn, aloneIn, aloneIn, hdiff, hkeys ho, hkeys hn,
    ← firstOf_perm ho hold, ← firstOf_perm hn hnew]

theorem mirrors_between : Mirrors (between key le deltas old new) (between key le deltas new old) := by
  rw [between_eq, between_eq]
  exact ⟨rfl, rfl⟩

theorem modifiedKeys_between (h : IsOrder le) (hd : ∀ a b, deltas a b = [] ↔ deltas b a = []) :
    modifiedKeys key (between key le deltas old new) = modifiedKeys key (between key le deltas new old) := by
  rw [between_eq, between_eq, modifiedKeys, modifiedKeys]
  show ((sortedKeys key le old).filterMap _).map _ = ((sortedKeys key le new).filterMap _).map _
  rw [map_filterMap_eq_filter key_of_differing, map_filterMap_eq_filter key_of_differing,
    funext (isSome_differing_swap hd)]
  refine filter_sortedKeys_comm h _ fun k hk => ?_
  obtain ⟨⟨b, ds⟩, hb⟩ := Option.isSome_iff_exists.1 hk
  obtain ⟨a, ha, hb, -⟩ := differing_eq_some_iff.1 hb
  exact ⟨(isSome_firstOf k).1 (by rw [hb]; rfl), (isSome_firstOf k).1 (by rw [ha]; rfl)⟩

theorem between_self (hd : ∀ a, deltas a a = []) (l : List α) : between key le deltas l l = empty := by
  have hdiff : ∀ k, differing key deltas l l k = none := by
    intro k
    refine Option.eq_none_iff_forall_not_mem.2 fun ⟨b, ds⟩ hb => ?_
    obtain ⟨a, ha, hb, hne, -⟩ := differing_eq_some_iff.1 hb
    rw [ha] at hb
    exact hne (Option.some.inj hb ▸ hd a)
  rw [between_eq, aloneIn_self]
  exact congrArg (Changes.mk [] []) (List.filterMap_eq_nil_iff.2 fun k _ => hdiff k)

end Changes

end

end LadderAtlas.Diff
