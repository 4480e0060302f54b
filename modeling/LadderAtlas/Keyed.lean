/-! # Keyed lists

Association lists in which each key stands once, in the order in which the keys first came.
`put` keeps the place of a key that is there already. -/

namespace LadderAtlas.Keyed

variable {κ α : Type} [DecidableEq κ]

/-- Sets the value of a key. -/
def put (m : List (κ × α)) (k : κ) (a : α) : List (κ × α) :=
  match m with
  | [] => [(k, a)]
  | (k', a') :: m => if k' = k then (k, a) :: m else (k', a') :: put m k a

/-- Sets the value of a key unless it has one. -/
def putNew (m : List (κ × α)) (k : κ) (a : α) : List (κ × α) :=
  if m.any (·.1 = k) then m else m ++ [(k, a)]

def get? (m : List (κ × α)) (k : κ) : Option α := (m.find? (·.1 = k)).map (·.2)

def erase (m : List (κ × α)) (k : κ) : List (κ × α) := m.filter (·.1 ≠ k)

def keys (m : List (κ × α)) : List κ := m.map (·.1)

/-- Changes the value of a key, `start` when it has none. -/
def alter (m : List (κ × α)) (k : κ) (start : α) (f : α → α) : List (κ × α) :=
  put m k (f ((get? m k).getD start))

/-- The keyed list of a list of pairs; the last value of a key counts. -/
def ofList (l : List (κ × α)) : List (κ × α) := l.foldl (fun m p => put m p.1 p.2) []

/-- The first item for each key, in order. -/
def firsts (key : α → κ) (l : List α) : List (κ × α) :=
  l.foldl (fun m a => putNew m (key a) a) []

/-- The items grouped by key, groups in the order of their first items. -/
def groups (key : α → κ) (l : List α) : List (κ × List α) :=
  l.foldl (fun m a => alter m (key a) [] (· ++ [a])) []

theorem get?_put_self (m : List (κ × α)) (k : κ) (a : α) : get? (put m k a) k = some a := by
  induction m with
  | nil => simp [put, get?]
  | cons p m ih =>
    obtain ⟨k', a'⟩ := p
    by_cases h : k' = k
    · simp [put, get?, h]
    · simp only [put, if_neg h]
      simpa [get?, List.find?_cons, h] using ih

theorem get?_put_of_ne (m : List (κ × α)) {k k' : κ} (a : α) (h : k' ≠ k) :
    get? (put m k a) k' = get? m k' := by
  induction m with
  | nil => simp [put, get?, Ne.symm h]
  | cons p m ih =>
    obtain ⟨k₁, a₁⟩ := p
    by_cases h₁ : k₁ = k
    · subst h₁
      simp [put, get?, Ne.symm h]
    · simp only [put, if_neg h₁]
      by_cases h₂ : k₁ = k'
      · simp [get?, h₂]
      · simpa [get?, List.find?_cons, h₂] using ih

theorem put_put (m : List (κ × α)) (k : κ) (a b : α) : put (put m k a) k b = put m k b := by
  induction m with
  | nil => simp [put]
  | cons p m ih =>
    obtain ⟨k₁, a₁⟩ := p
    by_cases h : k₁ = k
    · simp [put, h]
    · simp [put, h, ih]

theorem get?_put (m : List (κ × α)) (k k' : κ) (a : α) :
    get? (put m k a) k' = if k' = k then some a else get? m k' := by
  split
  · rename_i h
    rw [h, get?_put_self]
  · rename_i h
    exact get?_put_of_ne m a h

theorem get?_alter (m : List (κ × α)) (k k' : κ) (start : α) (f : α → α) :
    get? (alter m k start f) k' = if k' = k then some (f ((get? m k).getD start)) else get? m k' :=
  get?_put m k k' _

/-- Leaving out keys does not touch the others. -/
theorem get?_filter (m : List (κ × α)) (q : κ → Bool) (k : κ) :
    get? (m.filter fun p => q p.1) k = if q k then get? m k else none := by
  induction m with
  | nil => simp [get?]
  | cons p m ih =>
    obtain ⟨k₁, a₁⟩ := p
    by_cases hq : q k₁
    · simp only [List.filter_cons, hq, if_true]
      by_cases h : k₁ = k
      · subst h
        simp [get?, hq]
      · simpa [get?, h] using ih
    · simp only [List.filter_cons, hq]
      rw [if_neg (by simp), ih]
      by_cases h : k₁ = k
      · subst h
        simp [hq]
      · simp [get?, h]

theorem get?_erase (m : List (κ × α)) (k k' : κ) :
    get? (erase m k) k' = if k' = k then none else get? m k' := by
  have h := get?_filter m (fun x => decide (x ≠ k)) k'
  rw [erase, h]
  by_cases hk : k' = k <;> simp [hk]

theorem get?_putNew (m : List (κ × α)) (k k' : κ) (a : α) :
    get? (putNew m k a) k' = if k' = k then some ((get? m k).getD a) else get? m k' := by
  unfold putNew
  split
  · rename_i h
    obtain ⟨p, hp, hpk⟩ := List.any_eq_true.1 h
    have hs : (m.find? (·.1 = k)).isSome := List.find?_isSome.2 ⟨p, hp, hpk⟩
    obtain ⟨q, hq⟩ := Option.isSome_iff_exists.1 hs
    split
    · rename_i hk
      simp [hk, get?, hq]
    · rfl
  · rename_i h
    have hn : m.find? (·.1 = k) = none := by
      rw [List.find?_eq_none]
      intro p hp hpk
      exact h (List.any_eq_true.2 ⟨p, hp, hpk⟩)
    split
    · rename_i hk
      simp [hk, get?, List.find?_append, hn]
    · rename_i hk
      simp [get?, List.find?_append, Ne.symm hk]

omit [DecidableEq κ] in
theorem keys_cons (p : κ × α) (m : List (κ × α)) : keys (p :: m) = p.1 :: keys m := rfl

/-- A key that is there keeps its place, and any other one comes last. -/
theorem keys_put (m : List (κ × α)) (k : κ) (a : α) :
    keys (put m k a) = if k ∈ keys m then keys m else keys m ++ [k] := by
  induction m with
  | nil => rfl
  | cons p m ih =>
    obtain ⟨k₁, a₁⟩ := p
    by_cases h : k₁ = k
    · simp [put, keys_cons, h]
    · rw [put, if_neg h, keys_cons, keys_cons, ih]
      by_cases hk : k ∈ keys m
      · rw [if_pos hk, if_pos (List.mem_cons_of_mem _ hk)]
      · rw [if_neg hk, if_neg (by simp [Ne.symm h, hk]), List.cons_append]

theorem put_of_notMem {m : List (κ × α)} {k : κ} (h : k ∉ keys m) (a : α) : put m k a = m ++ [(k, a)] := by
  induction m with
  | nil => rfl
  | cons p m ih =>
    obtain ⟨k₁, a₁⟩ := p
    rw [keys_cons, List.mem_cons, not_or] at h
    rw [put, if_neg (Ne.symm h.1), ih h.2, List.cons_append]

/-- A list in which each key stands once is a keyed list as it is. -/
theorem ofList_of_nodup {m : List (κ × α)} (h : (keys m).Nodup) : ofList m = m := by
  have hfold : ∀ m' : List (κ × α), (keys (m' ++ m)).Nodup → m.foldl (fun m p => put m p.1 p.2) m' = m' ++ m := by
    induction m with
    | nil => simp
    | cons p m ih =>
      intro m' hm'
      have hp : p.1 ∉ keys m' := by
        rw [keys, List.map_append, List.nodup_append] at hm'
        exact fun hmem => hm'.2.2 p.1 hmem p.1 (by simp) rfl
      have happend : m' ++ p :: m = m' ++ [p] ++ m := by simp
      rw [List.foldl_cons, put_of_notMem hp, happend]
      exact ih (List.nodup_cons.1 h).2 _ (happend ▸ hm')
  exact hfold [] h

/-- A key that is new comes last. -/
theorem nodup_withKey {l : List κ} (h : l.Nodup) (k : κ) : (if k ∈ l then l else l ++ [k]).Nodup := by
  split
  · exact h
  · rename_i hk
    refine List.nodup_append.2 ⟨h, by simp, fun x hx y hy he => ?_⟩
    rw [List.mem_singleton] at hy
    exact hk (hy ▸ he ▸ hx)

theorem nodup_keys_put {m : List (κ × α)} (h : (keys m).Nodup) (k : κ) (a : α) :
    (keys (put m k a)).Nodup := by
  rw [keys_put]
  exact nodup_withKey h k

theorem keys_putNew (m : List (κ × α)) (k : κ) (a : α) :
    keys (putNew m k a) = if k ∈ keys m then keys m else keys m ++ [k] := by
  have hany : m.any (·.1 = k) = true ↔ k ∈ keys m := by simp [keys]
  unfold putNew
  by_cases h : k ∈ keys m
  · rw [if_pos (hany.2 h), if_pos h]
  · rw [if_neg (fun ha => h (hany.1 ha)), if_neg h]
    simp [keys]

theorem nodup_keys_putNew {m : List (κ × α)} (h : (keys m).Nodup) (k : κ) (a : α) :
    (keys (putNew m k a)).Nodup := by
  rw [keys_putNew]
  exact nodup_withKey h k

theorem keys_erase (m : List (κ × α)) (k : κ) : keys (erase m k) = (keys m).filter (· ≠ k) := by
  rw [keys, keys, erase, List.filter_map]
  rfl

theorem nodup_keys_erase {m : List (κ × α)} (h : (keys m).Nodup) (k : κ) : (keys (erase m k)).Nodup :=
  h.sublist (List.filter_sublist.map _)

omit [DecidableEq κ] in
/-- Changing each value keeps the keys and their order. -/
theorem keys_mapValues {β : Type} (m : List (κ × α)) (f : α → β) :
    keys (m.map fun p => (p.1, f p.2)) = keys m := by
  rw [keys, keys, List.map_map]
  rfl

theorem get?_mapValues {β : Type} (m : List (κ × α)) (f : α → β) (k : κ) :
    get? (m.map fun p => (p.1, f p.2)) k = (get? m k).map f := by
  induction m with
  | nil => rfl
  | cons p m ih =>
    obtain ⟨k₁, a₁⟩ := p
    by_cases h : k₁ = k
    · simp [get?, h]
    · simpa [get?, h] using ih

/-- In a keyed list the entries are what looking up finds. -/
theorem get?_eq_some_iff {m : List (κ × α)} (h : (keys m).Nodup) (k : κ) (a : α) :
    get? m k = some a ↔ (k, a) ∈ m := by
  induction m with
  | nil => simp [get?]
  | cons p m ih =>
    obtain ⟨k₁, a₁⟩ := p
    obtain ⟨hk₁, hm⟩ := List.nodup_cons.1 h
    by_cases hk : k₁ = k
    · subst hk
      have hn : (k₁, a) ∉ m := fun hmem => hk₁ (List.mem_map.2 ⟨_, hmem, rfl⟩)
      simp [get?, hn, eq_comm]
    · simpa [get?, hk, Ne.symm hk] using ih hm

theorem mem_keys_iff (m : List (κ × α)) (k : κ) : k ∈ keys m ↔ (get? m k).isSome := by
  simp [keys, get?]

/-- Of items with one key the first is found. -/
theorem get?_firsts (key : α → κ) (l : List α) (k : κ) : get? (firsts key l) k = l.find? (key · = k) := by
  have hfold : ∀ m : List (κ × α),
      get? (l.foldl (fun m a => putNew m (key a) a) m) k = (get? m k).or (l.find? (key · = k)) := by
    induction l with
    | nil => simp
    | cons a l ih =>
      intro m
      rw [List.foldl_cons, ih, get?_putNew, List.find?_cons]
      by_cases h : key a = k
      · subst h
        cases get? m (key a) <;> simp
      · simp [h, Ne.symm h]
  exact (hfold []).trans (by simp [get?])

theorem mem_keys_firsts (key : α → κ) (l : List α) (k : κ) : k ∈ keys (firsts key l) ↔ k ∈ l.map key := by
  simp [mem_keys_iff, get?_firsts]

theorem nodup_keys_firsts (key : α → κ) (l : List α) : (keys (firsts key l)).Nodup := by
  have hfold : ∀ m : List (κ × α), (keys m).Nodup →
      (keys (l.foldl (fun m a => putNew m (key a) a) m)).Nodup := by
    induction l with
    | nil => exact fun m hm => hm
    | cons a l ih => exact fun m hm => ih _ (nodup_keys_putNew hm _ _)
  exact hfold [] List.nodup_nil

/-- The group of a key is made of the items with this key. -/
theorem get?_groups (key : α → κ) (l : List α) (k : κ) :
    get? (groups key l) k = if k ∈ l.map key then some (l.filter (key · = k)) else none := by
  have hfold : ∀ m : List (κ × List α),
      get? (l.foldl (fun m a => alter m (key a) [] (· ++ [a])) m) k =
        if k ∈ l.map key then some ((get? m k).getD [] ++ l.filter (key · = k)) else get? m k := by
    induction l with
    | nil => simp
    | cons a l ih =>
      intro m
      rw [List.foldl_cons, ih, get?_alter]
      by_cases h : k = key a
      · subst h
        by_cases hl : key a ∈ l.map key
        · simp
        · have hnone : l.filter (key · = key a) = [] := by
            refine List.filter_eq_nil_iff.2 fun b hb hkey => hl ?_
            exact List.mem_map.2 ⟨b, hb, by simpa using hkey⟩
          simp [hl, hnone]
      · simp [h, Ne.symm h]
  exact (hfold []).trans (by simp [get?])

theorem nodup_keys_groups (key : α → κ) (l : List α) : (keys (groups key l)).Nodup := by
  have hfold : ∀ m : List (κ × List α), (keys m).Nodup →
      (keys (l.foldl (fun m a => alter m (key a) [] (· ++ [a])) m)).Nodup := by
    induction l with
    | nil => exact fun m hm => hm
    | cons a l ih => exact fun m hm => ih _ (nodup_keys_put hm _ _)
  exact hfold [] List.nodup_nil

end LadderAtlas.Keyed
