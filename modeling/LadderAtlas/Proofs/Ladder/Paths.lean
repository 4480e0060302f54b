import LadderAtlas.Ladder.TagPath
import LadderAtlas.Proofs.Ladder.Rendering

/-! # The grammar of tag paths

`IsPath` is the grammar, told without the scan. The scan takes a path off the front of a text whenever there is
one (`path_of_pathRest?`), and never a shorter one than it could (`pathRest?_append`): whichever way a text
begins with a path, the scan leaves no more than what stands behind that path. Each segment is followed by a
colon, a point, a bracket or the end of the path, none of which a segment can hold, so taking all letters and
digits of a segment never stands in the way of the next part. -/

namespace LadderAtlas

/-- Texts whose brackets are closed in order. -/
inductive Balanced : List Char → Prop
  | nil : Balanced []
  | plain {c : Char} {s : List Char} (hopen : c ≠ '[') (hclose : c ≠ ']') (hs : Balanced s) : Balanced (c :: s)
  | group {t s : List Char} (ht : Balanced t) (hs : Balanced s) : Balanced ('[' :: t ++ ']' :: s)

theorem Balanced.of_plain {s : List Char} (h : ∀ c ∈ s, c ≠ '[' ∧ c ≠ ']') : Balanced s := by
  induction s with
  | nil => exact .nil
  | cons c s ih =>
    have hc := h c (by simp)
    exact .plain hc.1 hc.2 (ih fun d hd => h d (List.mem_cons_of_mem c hd))

theorem Balanced.append {s t : List Char} (hs : Balanced s) (ht : Balanced t) : Balanced (s ++ t) := by
  induction hs with
  | nil => exact ht
  | plain hopen hclose _ ih => exact .plain hopen hclose ih
  | group hbody _ _ ih =>
    rw [List.append_assoc]
    exact .group hbody ih

def IsUnbracketed (s : List Char) : Prop := ∀ c ∈ s, c ≠ '[' ∧ c ≠ ']'

instance (s : List Char) : Decidable (IsUnbracketed s) :=
  List.decidableBAll (fun c => c ≠ '[' ∧ c ≠ ']') s

/-- The first bracket in balanced ones opens. -/
theorem Balanced.flat_or_deep {s : List Char} (h : Balanced s) :
    IsUnbracketed s ∨ ∃ t u, s = t ++ '[' :: u ∧ IsUnbracketed t := by
  induction h with
  | nil => exact .inl (by decide)
  | @plain c s hopen hclose _ ih =>
    rcases ih with hflat | ⟨t, u, rfl, ht⟩
    · exact .inl (List.forall_mem_cons.2 ⟨⟨hopen, hclose⟩, hflat⟩)
    · exact .inr ⟨c :: t, u, rfl, List.forall_mem_cons.2 ⟨⟨hopen, hclose⟩, ht⟩⟩
  | group _ _ _ _ => exact .inr ⟨[], _, rfl, by decide⟩

namespace Ladder

/-- One or more letters, digits and underscores. -/
structure IsSegment (g : List Char) : Prop where
  ne_nil : g ≠ []
  parts : ∀ c ∈ g, isIdentifierPart c = true

instance (g : List Char) : Decidable (IsSegment g) :=
  have := List.decidableBAll (fun c => isIdentifierPart c = true) g
  decidable_of_iff (g ≠ [] ∧ ∀ c ∈ g, isIdentifierPart c = true) ⟨fun h => ⟨h.1, h.2⟩, fun h => ⟨h.ne_nil, h.parts⟩⟩

/-- Segments, each after a colon. -/
inductive IsModules : List Char → Prop
  | nil : IsModules []
  | segment {g s : List Char} (hg : IsSegment g) (hs : IsModules s) : IsModules (':' :: g ++ s)

/-- Members after points and indices in brackets, in any order. -/
inductive IsParts : List Char → Prop
  | nil : IsParts []
  | member {g s : List Char} (hg : IsSegment g) (hs : IsParts s) : IsParts ('.' :: g ++ s)
  | index {t s : List Char} (ht : Balanced t) (hs : IsParts s) : IsParts ('[' :: t ++ ']' :: s)

inductive IsPath : List Char → Prop
  | path {lead name modules parts : List Char} (hlead : lead = [] ∨ lead = ['\\']) (hname : IsIdentifier name)
      (hmodules : IsModules modules) (hparts : IsParts parts) : IsPath (lead ++ (name ++ (modules ++ parts)))

/-- A text that does not go on with a letter, digit or underscore. -/
def Stops (s : List Char) : Prop := ∀ c t, s = c :: t → isIdentifierPart c = false

theorem IsParts.stops {s : List Char} (h : IsParts s) : Stops s := by
  intro c t he
  cases h with
  | nil => cases he
  | member _ _ =>
    obtain ⟨rfl, -⟩ := List.cons.inj he
    decide
  | index _ _ =>
    obtain ⟨rfl, -⟩ := List.cons.inj he
    decide

theorem IsModules.stops {m p : List Char} (hm : IsModules m) (hp : IsParts p) : Stops (m ++ p) := by
  cases hm with
  | nil => exact hp.stops
  | segment _ _ =>
    intro c t he
    obtain ⟨rfl, -⟩ := List.cons.inj he
    decide

/-! ### The segments and brackets that the scan finds -/

section pieces
variable {s t r : List Char}

theorem segment_of_afterSegment? (h : afterSegment? s = some r) : ∃ g, IsSegment g ∧ s = g ++ r := by
  cases s with
  | nil => cases h
  | cons c s =>
    by_cases hc : isIdentifierPart c = true
    · rw [afterSegment?, if_pos hc] at h
      obtain rfl := Option.some.inj h
      refine ⟨(c :: s).takeWhile isIdentifierPart, ⟨?_, fun d hd => ?_⟩, List.takeWhile_append_dropWhile.symm⟩
      · simp [hc]
      · exact List.all_eq_true.1 List.all_takeWhile d hd
    · rw [afterSegment?, if_neg hc] at h
      cases h

theorem identifier_of_afterIdentifier? (h : afterIdentifier? s = some r) : ∃ n, IsIdentifier n ∧ s = n ++ r := by
  cases s with
  | nil => cases h
  | cons c s =>
    by_cases hc : isIdentifierStart c = true
    · rw [afterIdentifier?, if_pos hc,
        List.dropWhile_cons_of_pos (isIdentifierPart_of_isIdentifierStart hc)] at h
      obtain rfl := Option.some.inj h
      refine ⟨c :: s.takeWhile isIdentifierPart, ⟨hc, fun d hd => ?_⟩, ?_⟩
      · exact List.all_eq_true.1 List.all_takeWhile d hd
      · rw [List.cons_append, List.takeWhile_append_dropWhile]
    · rw [afterIdentifier?, if_neg hc] at h
      cases h

theorem afterSegment?_append {g : List Char} (hg : IsSegment g) (s : List Char) :
    afterSegment? (g ++ s) = some (s.dropWhile isIdentifierPart) := by
  cases g with
  | nil => exact absurd rfl hg.ne_nil
  | cons c g =>
    rw [List.cons_append, afterSegment?, if_pos (hg.parts c (by simp)), ← List.cons_append,
      List.dropWhile_append_of_pos hg.parts]

theorem afterIdentifier?_append {n : List Char} (hn : IsIdentifier n) (s : List Char) :
    afterIdentifier? (n ++ s) = some (s.dropWhile isIdentifierPart) := by
  cases n with
  | nil => exact absurd hn id
  | cons c n =>
    have hparts : ∀ d ∈ c :: n, isIdentifierPart d = true := by
      intro d hd
      rcases List.mem_cons.1 hd with rfl | hd
      · exact isIdentifierPart_of_isIdentifierStart hn.1
      · exact hn.2 d hd
    rw [List.cons_append, afterIdentifier?, if_pos hn.1, ← List.cons_append, List.dropWhile_append_of_pos hparts]

theorem afterBracket?_open (depth : Nat) (s : List Char) :
    afterBracket? depth ('[' :: s) = afterBracket? (depth + 1) s := rfl

theorem afterBracket?_close_zero (s : List Char) : afterBracket? 0 (']' :: s) = some s := rfl

theorem afterBracket?_close_succ (depth : Nat) (s : List Char) :
    afterBracket? (depth + 1) (']' :: s) = afterBracket? depth s := rfl

theorem afterBracket?_plain {c : Char} (hopen : c ≠ '[') (hclose : c ≠ ']') (depth : Nat) (s : List Char) :
    afterBracket? depth (c :: s) = afterBracket? depth s := by
  rw [afterBracket?.eq_def]
  simp only [if_neg hopen, if_neg hclose]

/-- Closed brackets do not change how many are open. -/
theorem afterBracket?_balanced (ht : Balanced t) (depth : Nat) (s : List Char) :
    afterBracket? depth (t ++ s) = afterBracket? depth s := by
  induction ht generalizing depth s with
  | nil => rfl
  | plain hopen hclose _ ih => rw [List.cons_append, afterBracket?_plain hopen hclose, ih]
  | group _ _ ihu ihv =>
    rw [List.append_assoc, List.cons_append, afterBracket?_open, ihu, List.cons_append, afterBracket?_close_succ, ihv]

/-- Up to the bracket that closes the innermost open one, the brackets are closed in order. -/
theorem balanced_of_afterBracket? {s r : List Char} {depth : Nat} (h : afterBracket? depth s = some r) :
    ∃ t u, Balanced t ∧ s = t ++ ']' :: u ∧ afterBracket? depth (']' :: u) = some r := by
  match s with
  | [] => cases h
  | c :: s =>
    by_cases hopen : c = '['
    · -- The opened bracket is closed first, and what is sought comes behind it.
      subst hopen
      obtain ⟨t, u, ht, hs, hu⟩ := balanced_of_afterBracket? ((afterBracket?_open depth s).symm.trans h)
      have hshort : u.length < s.length := by
        rw [hs, List.length_append, List.length_cons]
        omega
      obtain ⟨t', u', ht', rfl, hu'⟩ := balanced_of_afterBracket? ((afterBracket?_close_succ depth u).symm.trans hu)
      exact ⟨'[' :: t ++ ']' :: t', u', .group ht ht', by simp [hs], hu'⟩
    · by_cases hclose : c = ']'
      · subst hclose
        exact ⟨[], s, .nil, rfl, h⟩
      · rw [afterBracket?_plain hopen hclose] at h
        obtain ⟨t, u, ht, rfl, hu⟩ := balanced_of_afterBracket? h
        exact ⟨c :: t, u, .plain hopen hclose ht, rfl, hu⟩
  termination_by s.length
  decreasing_by all_goals simp only [List.length_cons]; omega

/-- An index goes on to the bracket that matches its first. -/
theorem afterBracket?_eq_some_iff : afterBracket? 0 s = some r ↔ ∃ t, Balanced t ∧ s = t ++ ']' :: r := by
  constructor
  · intro h
    obtain ⟨t, u, ht, rfl, hu⟩ := balanced_of_afterBracket? h
    obtain rfl := Option.some.inj ((afterBracket?_close_zero u).symm.trans hu)
    exact ⟨t, ht, rfl⟩
  · rintro ⟨t, ht, rfl⟩
    rw [afterBracket?_balanced ht, afterBracket?_close_zero]

end pieces

/-! ### What the scan takes is a path -/

section sound
variable {s r : List Char}

theorem modules_of_moduleRest (s : List Char) : ∃ m, IsModules m ∧ s = m ++ moduleRest s := by
  fun_induction moduleRest s with
  | case1 s r h _ ih =>
    obtain ⟨g, hg, rfl⟩ := segment_of_afterSegment? h
    obtain ⟨m, hm, hr⟩ := ih
    refine ⟨':' :: g ++ m, .segment hg hm, ?_⟩
    rw [List.cons_append, List.cons_append, List.append_assoc, ← hr]
  | case2 s h => exact ⟨[], .nil, rfl⟩
  | case3 s h => exact ⟨[], .nil, rfl⟩

theorem parts_of_partRest (s : List Char) : ∃ p, IsParts p ∧ s = p ++ partRest s := by
  fun_induction partRest s with
  | case1 s r h _ ih =>
    obtain ⟨g, hg, rfl⟩ := segment_of_afterSegment? h
    obtain ⟨p, hp, hr⟩ := ih
    refine ⟨'.' :: g ++ p, .member hg hp, ?_⟩
    rw [List.cons_append, List.cons_append, List.append_assoc, ← hr]
  | case2 s h => exact ⟨[], .nil, rfl⟩
  | case3 s r h _ ih =>
    obtain ⟨t, ht, rfl⟩ := afterBracket?_eq_some_iff.1 h
    obtain ⟨p, hp, hr⟩ := ih
    refine ⟨'[' :: t ++ ']' :: p, .index ht hp, ?_⟩
    rw [List.append_assoc, List.cons_append, List.cons_append, ← hr]
  | case4 s h => exact ⟨[], .nil, rfl⟩
  | case5 s h h' => exact ⟨[], .nil, rfl⟩

theorem dropBackslash_append (s : List Char) :
    ∃ lead, (lead = [] ∨ lead = ['\\']) ∧ s = lead ++ dropBackslash s := by
  unfold dropBackslash
  split
  · exact ⟨_, .inr rfl, rfl⟩
  · exact ⟨[], .inl rfl, rfl⟩

theorem path_of_pathRest? (h : pathRest? s = some r) : ∃ t, IsPath t ∧ s = t ++ r := by
  obtain ⟨lead, hlead, hs⟩ := dropBackslash_append s
  obtain ⟨u, hu, rfl⟩ := Option.map_eq_some_iff.1 h
  obtain ⟨name, hname, hdrop⟩ := identifier_of_afterIdentifier? hu
  obtain ⟨modules, hmodules, hm⟩ := modules_of_moduleRest u
  obtain ⟨parts, hparts, hp⟩ := parts_of_partRest (moduleRest u)
  refine ⟨lead ++ (name ++ (modules ++ parts)), .path hlead hname hmodules hparts, ?_⟩
  calc s = lead ++ (name ++ u) := by rw [hs, hdrop]
    _ = lead ++ (name ++ (modules ++ (parts ++ partRest (moduleRest u)))) := by rw [← hp, ← hm]
    _ = lead ++ (name ++ (modules ++ parts)) ++ partRest (moduleRest u) := by simp only [List.append_assoc]

end sound

/-! ### No path at the front is longer -/

section longest
variable {s r p m : List Char}

theorem moduleRest_segment (h : afterSegment? s = some r) : moduleRest (':' :: s) = moduleRest r := by
  rw [moduleRest]
  split
  · rename_i r' h'
    cases h.symm.trans h'
    rfl
  · rename_i h'
    cases h.symm.trans h'

theorem moduleRest_of_head {c : Char} (hc : c ≠ ':') (s : List Char) : moduleRest (c :: s) = c :: s := by
  rw [moduleRest.eq_def]
  split
  · rename_i he
    exact absurd (List.cons.inj he).1 hc
  · rfl

theorem partRest_member (h : afterSegment? s = some r) : partRest ('.' :: s) = partRest r := by
  rw [partRest]
  split
  · rename_i r' h'
    cases h.symm.trans h'
    rfl
  · rename_i h'
    cases h.symm.trans h'

theorem partRest_index (h : afterBracket? 0 s = some r) : partRest ('[' :: s) = partRest r := by
  rw [partRest]
  split
  · rename_i r' h'
    cases h.symm.trans h'
    rfl
  · rename_i h'
    cases h.symm.trans h'

theorem moduleRest_length (s : List Char) : (moduleRest s).length ≤ s.length := by
  obtain ⟨m, -, hs⟩ := modules_of_moduleRest s
  have hlength := congrArg List.length hs
  rw [List.length_append] at hlength
  omega

theorem partRest_length (s : List Char) : (partRest s).length ≤ s.length := by
  obtain ⟨p, -, hs⟩ := parts_of_partRest s
  have hlength := congrArg List.length hs
  rw [List.length_append] at hlength
  omega

/-- Taking the rest of a segment does no harm to a scan of what is behind the segment: either nothing is taken,
or there was nothing more to scan. -/
theorem length_scan_dropWhile {scan : List Char → List Char} (hscan : ∀ s, (scan s).length ≤ s.length)
    {t u : List Char} (ht : Stops t) (h : (scan (t ++ u)).length ≤ u.length) :
    (scan ((t ++ u).dropWhile isIdentifierPart)).length ≤ u.length := by
  cases t with
  | nil => exact Nat.le_trans (hscan _) (List.dropWhile_sublist _).length_le
  | cons c t =>
    rw [List.cons_append, List.dropWhile_cons_of_neg (by rw [ht c t rfl]; simp)]
    exact h

theorem partRest_append (hp : IsParts p) (u : List Char) : (partRest (p ++ u)).length ≤ u.length := by
  induction hp with
  | nil => exact partRest_length u
  | @member g s hg hs ih =>
    rw [List.append_assoc, List.cons_append, partRest_member (afterSegment?_append hg (s ++ u))]
    exact length_scan_dropWhile partRest_length hs.stops ih
  | @index t s ht _ ih =>
    have hclosed : afterBracket? 0 (t ++ (']' :: s ++ u)) = some (s ++ u) :=
      afterBracket?_eq_some_iff.2 ⟨t, ht, rfl⟩
    rw [List.append_assoc, List.cons_append, partRest_index hclosed]
    exact ih

/-- The scan behind the identifier. -/
theorem partRest_moduleRest_length (s : List Char) : (partRest (moduleRest s)).length ≤ s.length :=
  Nat.le_trans (partRest_length _) (moduleRest_length s)

theorem partRest_moduleRest_parts (hp : IsParts p) (u : List Char) :
    (partRest (moduleRest (p ++ u))).length ≤ u.length := by
  have hparts := partRest_append hp u
  cases hp with
  | nil => exact partRest_moduleRest_length u
  | member _ _ =>
    rw [List.append_assoc, List.cons_append, moduleRest_of_head (by decide)]
    rwa [List.append_assoc, List.cons_append] at hparts
  | index _ _ =>
    rw [List.append_assoc, List.cons_append, moduleRest_of_head (by decide)]
    rwa [List.append_assoc, List.cons_append] at hparts

theorem partRest_moduleRest_append (hm : IsModules m) (hp : IsParts p) (u : List Char) :
    (partRest (moduleRest (m ++ (p ++ u)))).length ≤ u.length := by
  induction hm with
  | nil => exact partRest_moduleRest_parts hp u
  | @segment g s hg hs ih =>
    rw [List.append_assoc, List.cons_append, moduleRest_segment (afterSegment?_append hg _), ← List.append_assoc s]
    rw [← List.append_assoc] at ih
    exact length_scan_dropWhile partRest_moduleRest_length (hs.stops hp) ih

theorem dropBackslash_identifier {lead name : List Char} (hlead : lead = [] ∨ lead = ['\\'])
    (hname : IsIdentifier name) (s : List Char) : dropBackslash (lead ++ (name ++ s)) = name ++ s := by
  rcases hlead with rfl | rfl
  · cases name with
    | nil => exact absurd hname id
    | cons c name =>
      have hc : c ≠ '\\' := by
        rintro rfl
        exact absurd hname.1 (by decide)
      rw [List.nil_append, List.cons_append, dropBackslash]
      rintro _ he
      exact hc (List.cons.inj he).1
  · rfl

/-- A path at the front of a text is passed over, and perhaps more. -/
theorem pathRest?_append {t : List Char} (ht : IsPath t) (u : List Char) :
    ∃ r, pathRest? (t ++ u) = some r ∧ r.length ≤ u.length := by
  obtain ⟨hlead, hname, hmodules, hparts⟩ := ht
  rename_i lead name modules parts
  have hscan : pathRest? (lead ++ (name ++ (modules ++ parts)) ++ u) =
      some (partRest (moduleRest ((modules ++ (parts ++ u)).dropWhile isIdentifierPart))) := by
    rw [List.append_assoc, List.append_assoc, pathRest?, dropBackslash_identifier hlead hname,
      afterIdentifier?_append hname, List.append_assoc]
    rfl
  refine ⟨_, hscan, ?_⟩
  rw [← List.append_assoc modules]
  refine length_scan_dropWhile partRest_moduleRest_length (hmodules.stops hparts) ?_
  rw [List.append_assoc]
  exact partRest_moduleRest_append hmodules hparts u

end longest

/-! ### The scan as a whole -/

section whole
variable {s t r : List Char}

/-- What is taken is a path and no path at the front of the text is longer. -/
structure LongestPath (s t r : List Char) : Prop where
  path : IsPath t
  split : s = t ++ r
  longest : ∀ u, u <+: s → IsPath u → u.length ≤ t.length

theorem longestPath_of_pathRest? (h : pathRest? s = some r) : ∃ t, LongestPath s t r := by
  obtain ⟨t, ht, rfl⟩ := path_of_pathRest? h
  refine ⟨t, ht, rfl, ?_⟩
  rintro u ⟨v, hv⟩ hu
  obtain ⟨r', hr', hlength⟩ := pathRest?_append hu v
  rw [hv, h] at hr'
  obtain rfl := Option.some.inj hr'
  have htotal := congrArg List.length hv
  rw [List.length_append, List.length_append] at htotal
  omega

theorem pathRest?_eq_none_iff : pathRest? s = none ↔ ∀ t, t <+: s → ¬ IsPath t := by
  constructor
  · rintro h t ⟨u, rfl⟩ ht
    obtain ⟨r, hr, -⟩ := pathRest?_append ht u
    rw [h] at hr
    cases hr
  · intro h
    cases hr : pathRest? s with
    | none => rfl
    | some r =>
      obtain ⟨t, ht, rfl⟩ := path_of_pathRest? hr
      exact absurd ht (h t (List.prefix_append t r))

theorem isTagPath_iff : isTagPath s = true ↔ IsPath s := by
  rw [isTagPath, decide_eq_true_iff]
  constructor
  · intro h
    obtain ⟨t, ht, rfl⟩ := path_of_pathRest? h
    rwa [List.append_nil]
  · intro h
    obtain ⟨r, hr, hlength⟩ := pathRest?_append h []
    rw [List.append_nil] at hr
    rw [hr, List.eq_nil_of_length_eq_zero (Nat.le_zero.1 hlength)]

end whole

/-- The texts that count as tag paths are those of the grammar, and the scan measures the longest beginning of a
text that is one: it is zero if none is. -/
theorem tagPath_grammar (s : List Char) :
    (isTagPath s = true ↔ IsPath s) ∧
    ((∃ t, t <+: s ∧ IsPath t) → IsPath (s.take (pathLength s))) ∧
    (∀ t, t <+: s → IsPath t → t.length ≤ pathLength s) ∧
    ((∀ t, t <+: s → ¬ IsPath t) → pathLength s = 0) := by
  refine ⟨isTagPath_iff, ?_⟩
  cases h : pathRest? s with
  | none =>
    have hzero : pathLength s = 0 := by rw [pathLength, h]
    have hnone := pathRest?_eq_none_iff.1 h
    exact ⟨fun ⟨t, ht, hp⟩ => absurd hp (hnone t ht), fun t ht hp => absurd hp (hnone t ht), fun _ => hzero⟩
  | some r =>
    obtain ⟨t, ht⟩ := longestPath_of_pathRest? h
    have hlength : pathLength s = t.length := by
      rw [pathLength, h, ht.split, List.length_append]
      exact Nat.add_sub_cancel _ _
    have htake : s.take (pathLength s) = t := by rw [hlength, ht.split, List.take_left]
    have hfront : t <+: s := ⟨r, ht.split.symm⟩
    rw [htake, hlength]
    exact ⟨fun _ => ht.path, ht.longest, fun hno => absurd ht.path (hno t hfront)⟩

example : pathLength "Data[Idx[1]].Value:x".toList = "Data[Idx[1]].Value".length := by cbv

end Ladder

end LadderAtlas
