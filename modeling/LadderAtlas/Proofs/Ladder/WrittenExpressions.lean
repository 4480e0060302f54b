import LadderAtlas.Proofs.Ladder.Literals

/-!
# Written expressions

An expression is written as a list of tokens. Two of them are `Apart` unless both are words, that is paths,
keywords or numerals; quoted texts and separators may stand next to anything. `expressionTags_written`: the tags
of such an expression are the paths written in it, those that are keywords aside.

What is behind a word begins with a separator, or with the blank that a quoted text was replaced by. So each of
the three scans takes the tokens one by one: each law of a scan for one token has what follows behind it, and the
laws for a list are inductions on the tokens.
-/

namespace LadderAtlas.Ladder
open Text

/-- A text in which no literal begins that is blanked out. -/
def IsBare (t : List Char) : Prop := ∀ c ∈ t, ¬ IsQuote c ∧ c ≠ '#'

instance (t : List Char) : Decidable (IsBare t) := List.decidableBAll (fun c => ¬ IsQuote c ∧ c ≠ '#') t

/-- A word of the expression language in any case. -/
def IsKeyword (t : List Char) : Prop := String.ofList (t.map Char.toUpper) ∈ keywords

instance (t : List Char) : Decidable (IsKeyword t) := inferInstanceAs (Decidable (_ ∈ keywords))

inductive Token where
  | path (text : List Char)
  | keyword (text : List Char)
  | decimal (text : List Char)
  | radix (text : List Char)
  | quoted (quote : Char) (inside : List Char)
  | separator (c : Char)

namespace Token

def text : Token → List Char
  | path t | keyword t | decimal t | radix t => t
  | quoted q t => q :: t ++ [q]
  | separator c => [c]

def IsWord : Token → Prop
  | path _ | keyword _ | decimal _ | radix _ => True
  | quoted _ _ | separator _ => False

def WellFormed : Token → Prop
  | path t => IsFlatPath t ∧ IsBare t
  | keyword t => IsKeyword t
  | decimal t => IsNumeral t
  | radix t => IsRadixNumeral t
  | quoted q t => IsQuote q ∧ q ∉ t
  | separator c => c ∈ ['+', '-', '*', '/', '<', '>', '=', '(', ')', ','] ∨ isBlank c = true

/-- The tag that a token names. -/
def tag? : Token → Option (List Char)
  | path t => if IsKeyword t then none else some t
  | _ => none

/-- Two tokens may stand side by side. -/
def Apart (a b : Token) : Prop := ¬ (a.IsWord ∧ b.IsWord)

/-- The token that takes the place of another one once quoted texts are blanked out. -/
def unquoted : Token → Token
  | quoted _ _ => separator ' '
  | t => t

/-- The token that takes the place of another one once numerals with a radix are blanked out, too. -/
def hidden : Token → Token
  | quoted _ _ | radix _ => separator ' '
  | t => t

/-- The path that a scan finds where a token is. -/
def found? : Token → Option (List Char)
  | path t | keyword t => some t
  | _ => none

end Token

/-- The text of some tokens. -/
def written (l : List Token) : List Char := l.flatMap Token.text

/-! ### Characters between words -/

/-- Characters that belong to no token but a separator. -/
structure IsNeutral (c : Char) : Prop where
  word : isWordChar c = false
  mark : c ∉ ['#', '.', ':', '[', '\\', '\'', '"']

theorem isNeutral_separator {c : Char} (h : (Token.separator c).WellFormed) : IsNeutral c := by
  rcases h with h | h
  · simp only [List.mem_cons, List.not_mem_nil, or_false] at h
    rcases h with rfl | rfl | rfl | rfl | rfl | rfl | rfl | rfl | rfl | rfl <;> exact ⟨by decide, by decide⟩
  · refine ⟨isWordChar_of_isBlank h, fun hm => ?_⟩
    simp only [List.mem_cons, List.not_mem_nil, or_false] at hm
    rcases hm with rfl | rfl | rfl | rfl | rfl | rfl | rfl <;> exact absurd h (by decide)

theorem isIdentifierPart_of_isRadixDigit {c : Char} (h : isRadixDigit c = true) : isIdentifierPart c = true := by
  have hall : ∀ n < 128, isRadixDigit (Char.ofNat n) = true → isIdentifierPart (Char.ofNat n) = true := by decide
  have hn : c.toNat < 128 := by
    have hcases := h
    simp only [isRadixDigit, Bool.or_eq_true, Bool.and_eq_true, decide_eq_true_iff] at hcases
    rcases hcases with ((hd | ⟨-, hle⟩) | ⟨-, hle⟩) | rfl
    · have := toNat_of_isDigit hd
      omega
    · exact Nat.lt_of_le_of_lt (UInt32.le_iff_toNat_le.1 hle) (by decide)
    · exact Nat.lt_of_le_of_lt (UInt32.le_iff_toNat_le.1 hle) (by decide)
    · decide
  have hc := hall c.toNat hn
  rw [Char.ofNat_toNat] at hc
  exact hc h

/-- Keywords consist of letters. -/
theorem isAlpha_of_isKeyword {t : List Char} (h : IsKeyword t) : ∀ c ∈ t, c.isAlpha = true := by
  have hupper : ∀ k ∈ keywords, k.toList.all Char.isUpper = true := by decide +kernel
  intro c hc
  have hcapital : c.toUpper.isUpper = true := by
    refine List.all_eq_true.1 (hupper _ h) c.toUpper ?_
    rw [String.toList_ofList]
    exact List.mem_map_of_mem hc
  show (c.isUpper || c.isLower) = true
  rw [Bool.or_eq_true]
  by_cases hlower : c.val ≥ 'a'.val ∧ c.val ≤ 'z'.val
  · right
    exact Bool.and_eq_true_iff.2 ⟨decide_eq_true hlower.1, decide_eq_true hlower.2⟩
  · have hself : c.toUpper = c := dif_neg hlower
    rw [hself] at hcapital
    exact .inl hcapital

theorem isIdentifier_of_isKeyword {t : List Char} (h : IsKeyword t) : IsIdentifier t := by
  have halpha := isAlpha_of_isKeyword h
  cases t with
  | nil => exact absurd h (by decide)
  | cons c t =>
    refine ⟨?_, fun d hd => ?_⟩
    · rw [isIdentifierStart, halpha c (by simp), Bool.true_or]
    · rw [isIdentifierPart, Char.isAlphanum, halpha d (List.mem_cons_of_mem c hd), Bool.true_or, Bool.true_or]

namespace IsNeutral
variable {c : Char}

theorem part (h : IsNeutral c) : isIdentifierPart c = false := by
  rw [Bool.eq_false_iff]
  intro hp
  have hw := isWordChar_of_isIdentifierPart hp
  rw [h.word] at hw
  cases hw

theorem start (h : IsNeutral c) : isIdentifierStart c = false := by
  rw [Bool.eq_false_iff]
  intro hs
  have hp := isIdentifierPart_of_isIdentifierStart hs
  rw [h.part] at hp
  cases hp

theorem decimal (h : IsNeutral c) : isDecimal c = false := by
  rw [Bool.eq_false_iff]
  intro hd
  have hw := isWordChar_of_isDecimal hd
  rw [h.word] at hw
  cases hw

theorem radixDigit (h : IsNeutral c) : isRadixDigit c = false := by
  rw [Bool.eq_false_iff]
  intro hr
  have hp := isIdentifierPart_of_isRadixDigit hr
  rw [h.part] at hp
  cases hp

theorem ne (h : IsNeutral c) : c ≠ '#' ∧ c ≠ '.' ∧ c ≠ ':' ∧ c ≠ '[' ∧ c ≠ '\\' ∧ ¬ IsQuote c := by
  have hm := h.mark
  simp only [List.mem_cons, List.not_mem_nil, or_false, not_or] at hm
  exact ⟨hm.1, hm.2.1, hm.2.2.1, hm.2.2.2.1, hm.2.2.2.2.1, not_or.2 hm.2.2.2.2.2⟩

theorem admitsPath (h : IsNeutral c) : Ladder.admitsPath c = true := by
  simp [Ladder.admitsPath, h.word, h.ne]

end IsNeutral

/-! ### Keywords -/

theorem upper_eq_map {t : List Char} (h : ∀ c ∈ t, c.toNat < 128) : upper t = t.map Char.toUpper := by
  induction t with
  | nil => rfl
  | cons c t ih =>
    obtain ⟨hc, ht⟩ := List.forall_mem_cons.1 h
    rw [upper, List.flatMap_cons, upperChars, if_pos hc, ← upper, ih ht]
    rfl

theorem mem_members {p : List Char} (hp : IsFlatParts p) (hopen : '[' ∉ p) {c : Char} (hc : c ∈ p) :
    c = '.' ∨ isIdentifierPart c = true := by
  induction hp with
  | nil => cases hc
  | member hg _ ih =>
    rw [List.mem_append, not_or] at hopen
    rcases List.mem_append.1 hc with hc | hc
    · exact (List.mem_cons.1 hc).imp_right (hg.parts c)
    · exact ih hopen.2 hc
  | index _ _ _ => exact absurd (by simp) hopen

/-- The scan takes those paths for keywords that are ones in some case. -/
theorem contains_keywords_iff {t : List Char} (ht : IsFlatPath t) :
    keywords.contains (String.ofList (upper t)) = true ↔ IsKeyword t := by
  by_cases hopen : '[' ∈ t
  · have hupper : '[' ∈ upper t := List.mem_flatMap.2 ⟨'[', hopen, by decide⟩
    have hkeyword : ∀ k ∈ keywords, '[' ∉ k.toList := by decide +kernel
    refine iff_of_false (fun h => ?_) fun h => absurd (isAlpha_of_isKeyword h '[' hopen) (by decide)
    refine hkeyword _ (List.contains_iff_mem.1 h) ?_
    rwa [String.toList_ofList]
  · have hascii : ∀ c ∈ t, c.toNat < 128 := by
      intro c hc
      have hpart : c ∈ ['\\', ':', '.'] ∨ isIdentifierPart c = true := by
        obtain ⟨hu, hp⟩ := ht
        rw [List.mem_append, not_or] at hopen
        rcases List.mem_append.1 hc with hc | hc
        · rcases hu.mem hc with rfl | rfl | h
          · exact .inl (by decide)
          · exact .inl (by decide)
          · exact .inr h
        · rcases mem_members hp hopen.2 hc with rfl | h
          · exact .inl (by decide)
          · exact .inr h
      rcases hpart with hm | h
      · simp only [List.mem_cons, List.not_mem_nil, or_false] at hm
        rcases hm with rfl | rfl | rfl <;> decide
      · have := toNat_of_isIdentifierPart h
        omega
    rw [List.contains_iff_mem, upper_eq_map hascii]
    rfl

/-! ### The scans, token by token -/

section scans
variable {t : Token} {l : List Token} {s : List Char} {b : Bool}

/-- A text that nothing in front of it goes on in. -/
def EndsWord (s : List Char) : Prop := ∀ c r, s = c :: r → IsNeutral c

theorem EndsWord.numeral (h : EndsWord s) : EndsNumeral s :=
  fun c r he => ⟨(h c r he).decimal, (h c r he).ne.1⟩

theorem EndsWord.radix (h : EndsWord s) : EndsRadix s := fun c r he => (h c r he).radixDigit

theorem EndsWord.base (h : EndsWord s) : EndsBase s := fun c r he => ⟨(h c r he).part, (h c r he).ne.2.2.1⟩

theorem EndsWord.rest (h : EndsWord s) : flatPartRest s = s :=
  flatPartRest_of_head fun c r he => ⟨(h c r he).ne.2.1, (h c r he).ne.2.2.2.1⟩

theorem isNeutral_blank : IsNeutral ' ' := isNeutral_separator (.inr (by decide))

theorem blankQuotes_token (ht : t.WellFormed) (s : List Char) :
    blankQuotes (t.text ++ s) = t.unquoted.text ++ blankQuotes s := by
  cases t with
  | path t => exact blankQuotes_plain (fun c hc => (ht.2 c hc).1) s
  | keyword t =>
    refine blankQuotes_plain (fun c hc hq => ?_) s
    have halpha := isAlpha_of_isKeyword ht c hc
    rcases hq with rfl | rfl <;> exact absurd halpha (by decide)
  | decimal t => exact blankQuotes_plain (fun c hc => (plain_numeral ht hc).1) s
  | radix t => exact blankQuotes_plain (not_isQuote_radix ht) s
  | quoted q t =>
    show blankQuotes (q :: (t ++ [q]) ++ s) = [' '] ++ blankQuotes s
    have hsplit : q :: (t ++ [q]) ++ s = q :: t ++ q :: s := by simp
    rw [hsplit, blankQuotes_quoted ht.1 ht.2]
    rfl
  | separator c =>
    refine blankQuotes_plain (fun d hd => ?_) s
    obtain rfl := List.mem_singleton.1 hd
    exact (isNeutral_separator ht).ne.2.2.2.2.2

theorem blankRadix_token (ht : t.WellFormed) (hb : t.IsWord → b = false) (hs : t.IsWord → EndsWord s) :
    ∃ b', blankRadix b (t.unquoted.text ++ s) = t.hidden.text ++ blankRadix b' s ∧ (¬ t.IsWord → b' = false) := by
  cases t with
  | path t =>
    have hsign : '#' ∉ t := fun h => (ht.2 _ h).2 rfl
    exact ⟨_, blankRadix_plain hsign (hs trivial).numeral, fun h => absurd trivial h⟩
  | keyword t =>
    have hsign : '#' ∉ t := fun h => absurd (isAlpha_of_isKeyword ht _ h) (by decide)
    exact ⟨_, blankRadix_plain hsign (hs trivial).numeral, fun h => absurd trivial h⟩
  | decimal t =>
    have hsign : '#' ∉ t := fun h => (plain_numeral ht h).2.1 rfl
    exact ⟨_, blankRadix_plain hsign (hs trivial).numeral, fun h => absurd trivial h⟩
  | radix t =>
    rw [hb trivial]
    exact ⟨_, blankRadix_radix ht (hs trivial).radix, fun h => absurd trivial h⟩
  | quoted q t => exact ⟨_, blankRadix_separator isNeutral_blank.word s, fun _ => rfl⟩
  | separator c => exact ⟨_, blankRadix_separator (isNeutral_separator ht).word s, fun _ => rfl⟩

theorem isBase_of_isIdentifier {u : List Char} (hu : IsIdentifier u) : IsBase u := by
  have h := IsBase.base (.inl rfl) hu .nil
  rwa [List.nil_append, List.append_nil] at h

theorem pathsFrom_neutral {c : Char} (hc : IsNeutral c) (s : List Char) :
    pathsFrom b 0 (c :: s) = pathsFrom true 0 s := by
  rw [pathsFrom_pass fun _ => flatPathRest?_of_head hc.ne.2.2.2.2.1 hc.start s, hc.admitsPath]

theorem pathsFrom_token (ht : t.WellFormed) (hb : t.IsWord → b = true) (hs : t.IsWord → EndsWord s) :
    ∃ b', pathsFrom b 0 (t.hidden.text ++ s) = t.found?.toList ++ pathsFrom b' 0 s ∧ (¬ t.IsWord → b' = true) := by
  cases t with
  | path t =>
    rw [hb trivial]
    obtain ⟨⟨hu, hp⟩, -⟩ := ht
    exact ⟨_, pathsFrom_path hu hp (hs trivial).base (hs trivial).rest, fun h => absurd trivial h⟩
  | keyword t =>
    rw [hb trivial]
    have h := pathsFrom_path (isBase_of_isIdentifier (isIdentifier_of_isKeyword ht)) .nil (hs trivial).base
      (hs trivial).rest
    rw [List.append_nil] at h
    exact ⟨_, h, fun h => absurd trivial h⟩
  | decimal t => exact ⟨_, pathsFrom_numeral ht s, fun h => absurd trivial h⟩
  | radix t => exact ⟨_, pathsFrom_neutral isNeutral_blank s, fun _ => rfl⟩
  | quoted q t => exact ⟨_, pathsFrom_neutral isNeutral_blank s, fun _ => rfl⟩
  | separator c => exact ⟨_, pathsFrom_neutral (isNeutral_separator ht) s, fun _ => rfl⟩

end scans

/-! ### The scans of a written expression -/

section lists
variable {t : Token} {l : List Token} {b : Bool}

theorem written_cons (t : Token) (l : List Token) : written (t :: l) = t.text ++ written l := List.flatMap_cons ..

/-- What follows a word begins with a separator, or with the blank in place of a quoted text. -/
theorem endsWord_of_apart {f : Token → Token} (hf : ∀ u, ¬ u.IsWord → f u = u.unquoted)
    (hl : ∀ u ∈ l, u.WellFormed) (hapart : ∀ u ∈ l.head?, t.Apart u) (ht : t.IsWord) :
    EndsWord (written (l.map f)) := by
  cases l with
  | nil =>
    rintro c r he
    cases he
  | cons u l =>
    have hword : ¬ u.IsWord := fun hu => hapart u rfl ⟨ht, hu⟩
    rw [List.map_cons, written_cons, hf u hword]
    rintro c r he
    cases u with
    | quoted q v =>
      obtain ⟨rfl, -⟩ := List.cons.inj he
      exact isNeutral_blank
    | separator d =>
      obtain ⟨rfl, -⟩ := List.cons.inj he
      exact isNeutral_separator (hl _ (by simp))
    | path _ | keyword _ | decimal _ | radix _ => exact absurd trivial hword

theorem blankQuotes_written (hl : ∀ t ∈ l, t.WellFormed) :
    blankQuotes (written l) = written (l.map Token.unquoted) := by
  induction l with
  | nil => exact blankQuotes_eq_self (by simp [written])
  | cons t l ih =>
    obtain ⟨ht, hl⟩ := List.forall_mem_cons.1 hl
    rw [written_cons, blankQuotes_token ht, ih hl, List.map_cons, written_cons]

theorem blankRadix_written (hl : ∀ t ∈ l, t.WellFormed) (hs : l.IsChain Token.Apart)
    (hb : ∀ t ∈ l.head?, t.IsWord → b = false) :
    blankRadix b (written (l.map Token.unquoted)) = written (l.map Token.hidden) := by
  induction l generalizing b with
  | nil => exact blankRadix_eq_self (by simp [written])
  | cons t l ih =>
    obtain ⟨ht, hl⟩ := List.forall_mem_cons.1 hl
    obtain ⟨hapart, hs⟩ := List.isChain_cons.1 hs
    have hends := endsWord_of_apart (f := Token.unquoted) (fun _ _ => rfl) hl hapart
    obtain ⟨b', htoken, hb'⟩ := blankRadix_token ht (hb t rfl) hends
    have hhead : ∀ u ∈ l.head?, u.IsWord → b' = false := fun u hu hword =>
      hb' fun htword => hapart u hu ⟨htword, hword⟩
    rw [List.map_cons, written_cons, htoken, ih hl hs hhead, List.map_cons, written_cons]

theorem pathsFrom_written (hl : ∀ t ∈ l, t.WellFormed) (hs : l.IsChain Token.Apart)
    (hb : ∀ t ∈ l.head?, t.IsWord → b = true) :
    pathsFrom b 0 (written (l.map Token.hidden)) = l.filterMap Token.found? := by
  induction l generalizing b with
  | nil => rfl
  | cons t l ih =>
    obtain ⟨ht, hl⟩ := List.forall_mem_cons.1 hl
    obtain ⟨hapart, hs⟩ := List.isChain_cons.1 hs
    have hhidden : ∀ u : Token, ¬ u.IsWord → u.hidden = u.unquoted := by
      intro u hu
      cases u with
      | radix _ => exact absurd trivial hu
      | _ => rfl
    have hends := endsWord_of_apart (f := Token.hidden) hhidden hl hapart
    obtain ⟨b', htoken, hb'⟩ := pathsFrom_token ht (hb t rfl) hends
    have hhead : ∀ u ∈ l.head?, u.IsWord → b' = true := fun u hu hword =>
      hb' fun htword => hapart u hu ⟨htword, hword⟩
    rw [List.map_cons, written_cons, htoken, ih hl hs hhead, List.filterMap_cons]
    cases t.found? <;> rfl

end lists

theorem isFlatPath_of_isIdentifier {u : List Char} (hu : IsIdentifier u) : IsFlatPath u := by
  have hpath := IsFlatPath.path (isBase_of_isIdentifier hu) .nil
  rwa [List.append_nil] at hpath

/-- Of the paths that the scan finds where a token is, the tags are left. -/
theorem found?_filter {t : Token} (ht : t.WellFormed) :
    (t.found?.filter fun p => !keywords.contains (String.ofList (upper p))) = t.tag? := by
  cases t with
  | path t =>
    have hiff := contains_keywords_iff ht.1
    by_cases h : IsKeyword t
    · rw [Token.found?, Token.tag?, Option.filter_some, hiff.2 h, if_pos h]
      rfl
    · rw [Token.found?, Token.tag?, Option.filter_some, Bool.eq_false_iff.2 (mt hiff.1 h), if_neg h]
      rfl
  | keyword t =>
    have hpath := isFlatPath_of_isIdentifier (isIdentifier_of_isKeyword ht)
    have hkeyword := (contains_keywords_iff hpath).2 ht
    rw [Token.found?, Option.filter_some, hkeyword]
    rfl
  | decimal _ | radix _ | quoted _ _ | separator _ => rfl

/-- The tags of a written expression are its paths, in order, those that are keywords aside. -/
theorem expressionTags_written (l : List Token) (hl : ∀ t ∈ l, t.WellFormed) (hs : l.IsChain Token.Apart) :
    expressionTags (written l) = l.filterMap Token.tag? := by
  rw [expressionTags, blankQuotes_written hl, blankRadix_written hl hs (by simp),
    pathsFrom_written hl hs (by simp), List.filter_filterMap]
  exact List.filterMap_congr fun t ht => found?_filter (hl t ht)

/-- Texts that look like something else next to words, and words that look like something else. -/
def mixedTokens : List Token := [
  .quoted '\'' "x\"16#".toList, .path "Notch".toList, .quoted '"' [], .decimal "1.5e+3".toList, .separator '*',
  .path "Local:1:I.Data[ x, +e9]".toList, .separator '-', .path "\\P.T".toList, .separator ' ', .keyword "and".toList,
  .separator '(', .radix "16#FF_e".toList, .separator ')', .separator '>', .separator '=', .decimal ".5e2".toList,
  .separator '\t', .path "Not".toList]

theorem mixedTokens_wellFormed : ∀ t ∈ mixedTokens, t.WellFormed := by
  have hlocal : IsFlatPath "Local:1:I.Data[ x, +e9]".toList :=
    .path (u := "Local:1:I".toList) (p := ".Data[ x, +e9]".toList)
      (@IsBase.base [] "Local".toList ":1:I".toList (.inl rfl) (by decide)
        (.segment (g := ['1']) (s := ":I".toList) (by decide)
          (.segment (g := ['I']) (s := []) (by decide) .nil)))
      (.member (g := "Data".toList) (s := "[ x, +e9]".toList) (by decide)
        (.index (t := " x, +e9".toList) (s := []) (by decide) .nil))
  have hlead : IsFlatPath "\\P.T".toList :=
    .path (u := "\\P".toList) (p := ".T".toList)
      (@IsBase.base ['\\'] ['P'] [] (.inr rfl) (by decide) .nil)
      (.member (g := ['T']) (s := []) (by decide) .nil)
  have hscaled : IsNumeral "1.5e+3".toList :=
    .scaled (m := "1.5".toList) (x := "e+3".toList)
      (.decimal (d := ['1']) (f := ['5']) (by decide) (List.forall_mem_singleton.2 (by decide)))
      (@IsExponent.exponent 'e' ['+'] ['3'] (.inl rfl) (.inr (.inl rfl)) (by decide))
  have hfraction : IsNumeral ".5e2".toList :=
    .scaled (m := ".5".toList) (x := "e2".toList) (.fraction (f := ['5']) (by decide))
      (@IsExponent.exponent 'e' [] ['2'] (.inl rfl) (.inl rfl) (by decide))
  have hradix : IsRadixNumeral "16#FF_e".toList :=
    ⟨"16".toList, "FF_e".toList, by decide, by decide, List.all_eq_true.1 (by decide), rfl⟩
  intro t ht
  simp only [mixedTokens, List.mem_cons, List.not_mem_nil, or_false] at ht
  rcases ht with rfl | rfl | rfl | rfl | rfl | rfl | rfl | rfl | rfl | rfl | rfl | rfl | rfl | rfl | rfl | rfl | rfl |
    rfl
  · exact ⟨.inl rfl, by decide⟩
  · exact ⟨isFlatPath_of_isIdentifier (by decide), by decide⟩
  · exact ⟨.inr rfl, by decide⟩
  · exact hscaled
  · exact .inl (by decide)
  · exact ⟨hlocal, by decide⟩
  · exact .inl (by decide)
  · exact ⟨hlead, by decide⟩
  · exact .inr (by decide)
  · exact (by decide : IsKeyword "and".toList)
  · exact .inl (by decide)
  · exact hradix
  · exact .inl (by decide)
  · exact .inl (by decide)
  · exact .inl (by decide)
  · exact hfraction
  · exact .inr (by decide)
  · exact ⟨isFlatPath_of_isIdentifier (by decide), by decide⟩

theorem expressionTags_written_mixed :
    (∀ t ∈ mixedTokens, t.WellFormed) ∧ mixedTokens.IsChain Token.Apart ∧
    expressionTags "'x\"16#'Notch\"\"1.5e+3*Local:1:I.Data[ x, +e9]-\\P.T and(16#FF_e)>=.5e2\tNot".toList =
      ["Notch".toList, "Local:1:I.Data[ x, +e9]".toList, "\\P.T".toList] := by
  have hapart : mixedTokens.IsChain Token.Apart := by
    simp [mixedTokens, Token.Apart, Token.IsWord]
  exact ⟨mixedTokens_wellFormed, hapart, expressionTags_written mixedTokens mixedTokens_wellFormed hapart⟩

end LadderAtlas.Ladder
