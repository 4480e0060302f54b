import LadderAtlas.L5k.Reader
import LadderAtlas.Proofs.L5k.Statements
import LadderAtlas.Proofs.Text.Lines

/-!
# Written rungs

A ladder routine is written as its rungs one after the other: perhaps a line `RC:` with a comment between
double quotes, then `N:` and the lines of the logic, the last of them with a semicolon. Reading them back
(`routineRungs_written`) rests on three things: a comment has no bare quote once it is encoded, so it is one
quoted piece (`quotedPiece_encode`) and decodes to itself (`decode_encode`); no semicolon ends a sealed text
early (`Sealed.unsplit`); and the semicolon after a sealed text does end it.
-/

namespace LadderAtlas.L5k
open Text
open Ladder (IsBlankText trim_surrounded exists_trim)

/-! ### Comments between quotes -/

/-- A character as it stands between quotes. -/
def encodeChar (c : Char) : List Char :=
  if c = '$' then ['$', '$'] else if c = '"' then ['$', '"'] else if c = '\n' then ['$', 'N'] else [c]

def encode (s : List Char) : List Char := s.flatMap encodeChar

/-- A character is encoded by a dollar sign and one more, or stands for itself. -/
theorem encodeChar_cases (c : Char) :
    (∃ d, encodeChar c = ['$', d] ∧ d ≠ '\n' ∧ escaped d = c) ∨ encodeChar c = [c] ∧ c ∉ ['$', '"'] := by
  unfold encodeChar
  split
  · rename_i hc
    exact .inl ⟨'$', rfl, by decide, by rw [hc]; decide⟩
  · split
    · rename_i hc
      exact .inl ⟨'"', rfl, by decide, by rw [hc]; decide⟩
    · split
      · rename_i hc
        exact .inl ⟨'N', rfl, by decide, by rw [hc]; decide⟩
      · rename_i hdollar hquote _
        exact .inr ⟨rfl, by simp [hdollar, hquote]⟩

theorem encode_cons (c : Char) (s : List Char) : encode (c :: s) = encodeChar c ++ encode s := List.flatMap_cons

theorem decode_encode (s : List Char) : decode (encode s) = s := by
  induction s with
  | nil => rfl
  | cons c s ih =>
    rw [encode_cons]
    rcases encodeChar_cases c with ⟨d, hc, -, hd⟩ | ⟨hc, hplain⟩
    · rw [hc]
      show escaped d :: decode (encode s) = c :: s
      rw [hd, ih]
    · rw [hc, List.singleton_append, decode, ih]
      · rintro d t rfl -
        exact hplain (by simp)
      · rintro t rfl -
        exact hplain (by simp)

theorem quotedPiece_plain {c : Char} (hc : c ∉ ['$', '"']) (s : List Char) :
    quotedPiece (c :: s) = (quotedPiece s).map fun (b, r) => (c :: b, r) := by
  rw [quotedPiece]
  · rintro rfl -
    exact hc (by simp)
  · rintro d t rfl -
    exact hc (by simp)
  · rintro t rfl -
    exact hc (by simp)
  · rintro rfl
    exact hc (by simp)

/-- Between quotes an encoded text is one piece. -/
theorem quotedPiece_encode (s : List Char) {rest : List Char} (hrest : rest.head? ≠ some '"') :
    quotedPiece (encode s ++ '"' :: rest) = some (encode s, rest) := by
  induction s with
  | nil =>
    show quotedPiece ('"' :: rest) = some ([], rest)
    rw [quotedPiece]
    rintro t rfl
    exact hrest rfl
  | cons c s ih =>
    rw [encode_cons, List.append_assoc]
    rcases encodeChar_cases c with ⟨d, hc, hd, -⟩ | ⟨hc, hplain⟩
    · rw [hc]
      show (if d = '\n' then none else (quotedPiece (encode s ++ '"' :: rest)).map fun (b, r) => ('$' :: d :: b, r)) = _
      rw [if_neg hd, ih]
      rfl
    · rw [hc, List.singleton_append, quotedPiece_plain hplain, ih]
      rfl

/-- A comment between quotes. -/
def quote (s : List Char) : List Char := '"' :: encode s ++ ['"']

theorem remark_quote {s : List Char} (hs : IsTrimmed s) : remark (quote s ++ [';']) = some (String.ofList s) := by
  have hpieces : quotedPieces (quote s ++ [';']) = [encode s] := by
    have hpiece : quotedPiece (encode s ++ ['"'] ++ [';']) = some (encode s, [';']) := by
      rw [List.append_assoc]
      exact quotedPiece_encode s (by decide)
    have hlast : quotedPieces [';'] = [] := by
      rw [quotedPieces]
      · rw [quotedPieces]
      · decide
    rw [quote, List.cons_append, List.cons_append, quotedPieces]
    split
    · rename_i b r hsome
      rw [hpiece] at hsome
      obtain ⟨rfl, rfl⟩ := Prod.mk.inj (Option.some.inj hsome)
      rw [hlast]
    · rename_i hnone
      rw [hpiece] at hnone
      cases hnone
  have hdecode : ([encode s].flatMap decode) = s := by simp [decode_encode]
  rw [remark, hpieces, hdecode, trimmed?, String.toList_ofList, hs.trim_eq]
  cases s with
  | nil => exact absurd rfl hs.ne_nil
  | cons c s => rfl

namespace Sealed
variable {inside : Bool} {depth : Nat} {s t : List Char}

/-- Nothing ends the beginning of a sealed text. -/
theorem unsplit (h : Sealed inside depth (s ++ t)) : splitAtDepth ';' depth (shadeFrom inside s) = [s] := by
  induction inside, s using quoting_induction generalizing depth with
  | nil inside => cases inside <;> rfl
  | dollar => rfl
  | escape c s ih =>
    rw [shadeFrom_escape, splitAtDepth_keep_cons (by simp), splitAtDepth_keep_cons (by simp)]
    exact ih (escape_iff.1 h)
  | inner c s hc ih =>
    rw [shadeFrom_inside hc, splitAtDepth_keep_cons (by simp)]
    exact ih ((inside_iff hc).1 h)
  | outer c s ih =>
    obtain ⟨hcut, hs⟩ := outside_iff.1 h
    rw [shadeFrom_outside, splitAtDepth_keep_cons fun hc => hcut hc.2]
    exact ih hs

end Sealed

theorem sealed_encode_append (s : List Char) {t : List Char} {depth : Nat} (h : Sealed true depth t) :
    Sealed true depth (encode s ++ t) := by
  induction s with
  | nil => exact h
  | cons c s ih =>
    rw [encode_cons, List.append_assoc]
    rcases encodeChar_cases c with ⟨d, hc, -, -⟩ | ⟨hc, hplain⟩
    · rw [hc]
      exact .escape ih
    · rw [hc]
      exact .quoted hplain ih

theorem sealed_quote (s : List Char) : Sealed false 0 (quote s) := .quote (sealed_encode_append s (.unquote .done))

/-! ### Rungs as they are written -/

/-- A semicolon after the last line. -/
def closed : List (List Char) → List (List Char)
  | [] => []
  | [l] => [l ++ [';']]
  | l :: m :: ls => l :: closed (m :: ls)

/-- Something before the first line. -/
def headed (lead : List Char) : List (List Char) → List (List Char)
  | [] => []
  | l :: ls => (lead ++ l) :: ls

/-- A rung with the comment before it, and the blanks after `RC:` and `N:`. -/
structure WrittenRung where
  comment : Option (List Char) := none
  beforeComment : List Char := [' ']
  logic : List (List Char)
  beforeLogic : List Char := [' ']

namespace WrittenRung

def commentLines (r : WrittenRung) : List (List Char) :=
  match r.comment with
  | none => []
  | some c => headed (['R', 'C', ':'] ++ r.beforeComment) (closed [quote c])

def logicLines (r : WrittenRung) : List (List Char) := headed (['N', ':'] ++ r.beforeLogic) (closed r.logic)

def lines (r : WrittenRung) : List (List Char) := r.commentLines ++ r.logicLines

/-- The comment is trimmed, and so are the lines of the logic, which together are sealed. -/
structure WellFormed (r : WrittenRung) : Prop where
  comment : ∀ c ∈ r.comment, IsTrimmed c
  beforeComment : IsBlankText r.beforeComment
  ne_nil : r.logic ≠ []
  logic : ∀ l ∈ r.logic, IsTrimmed l
  closed : Sealed false 0 (joined [' '] r.logic)
  beforeLogic : IsBlankText r.beforeLogic

instance (r : WrittenRung) : Decidable r.WellFormed :=
  decidable_of_iff ((∀ c ∈ r.comment, IsTrimmed c) ∧ IsBlankText r.beforeComment ∧ r.logic ≠ [] ∧
      (∀ l ∈ r.logic, IsTrimmed l) ∧ Sealed false 0 (joined [' '] r.logic) ∧ IsBlankText r.beforeLogic)
    ⟨fun ⟨h₁, h₂, h₃, h₄, h₅, h₆⟩ => ⟨h₁, h₂, h₃, h₄, h₅, h₆⟩, fun h => ⟨h.1, h.2, h.3, h.4, h.5, h.6⟩⟩

/-- The rung at a place of a routine. -/
def rung (program routine : String) (place : Nat) (r : WrittenRung) : Rung where
  programName := program
  routineName := routine
  number := place
  logicText := String.ofList (joined ['\n'] r.logic)
  comment := r.comment.map String.ofList

end WrittenRung

namespace Entry
variable {e : Entry} {l : List Char} {ls : List (List Char)}

@[simp] theorem lines_add (e : Entry) (l : List Char) : (e.add l).lines = e.lines ++ [l] := by
  cases e <;> rfl

/-- An entry with more lines. -/
def extend (e : Entry) (ls : List (List Char)) : Entry :=
  match e with
  | rung p => rung (p ++ ls)
  | remark p => remark (p ++ ls)

theorem extend_singleton (e : Entry) (l : List Char) : e.extend [l] = e.add l := by
  cases e <;> rfl

theorem extend_cons (e : Entry) (l : List Char) (ls : List (List Char)) : e.extend (l :: ls) = (e.add l).extend ls := by
  cases e <;> simp [extend, add]

/-- The beginning of a sealed text does not end. -/
theorem isComplete_beginning (h : Sealed false 0 (joined [' '] (e.lines ++ ls))) : e.isComplete = false := by
  obtain ⟨t, ht⟩ := prefix_joined [' '] e.lines ls
  rw [← ht] at h
  have hsplit : splitTop ';' (joined [' '] e.lines) = [joined [' '] e.lines] := h.unsplit
  rw [isComplete, hsplit]
  rfl

/-- A sealed text ends with the semicolon after it. -/
theorem isComplete_closed (h : Sealed false 0 (joined [' '] (e.lines ++ [l]))) :
    (e.add (l ++ [';'])).isComplete = true := by
  have hsplit : splitTop ';' (joined [' '] (e.lines ++ [l]) ++ [';']) = [joined [' '] (e.lines ++ [l]), []] :=
    (split_iff_sealed _ _ _ _ _).2 ⟨h, rfl⟩
  rw [isComplete, lines_add, joined_snoc_append, hsplit]
  rfl

end Entry

/-! ### Reading line by line -/

variable {comment : Option String} {l : List Char} {ls rest : List (List Char)}

theorem trim_trim (s : List Char) : trim (trim s) = trim s := by
  obtain ⟨b, a, hb, ha, hs⟩ := exists_trim s
  have h := trim_surrounded hb ha (trim s)
  rw [← hs] at h
  exact h.symm

theorem bareRungs_blank (entry : Option Entry) (h : trim l = []) :
    bareRungs comment entry (l :: rest) = bareRungs comment entry rest := by
  rw [bareRungs, h]

theorem bareRungs_congr_trim (entry : Option Entry) {m : List Char} (h : trim l = trim m) :
    bareRungs comment entry (l :: rest) = bareRungs comment entry (m :: rest) := by
  rw [bareRungs, bareRungs, h]

theorem bareRungs_congr {lines : List (List Char)} (l : List Char) (entry : Option Entry)
    (h : ∀ comment entry, bareRungs comment entry lines = bareRungs comment entry rest) :
    bareRungs comment entry (l :: lines) = bareRungs comment entry (l :: rest) := by
  rw [bareRungs, bareRungs]
  simp only [h]

/-- Blank lines and the blanks around a line do not count. -/
theorem bareRungs_trim (comment : Option String) (entry : Option Entry) (lines : List (List Char)) :
    bareRungs comment entry lines = bareRungs comment entry ((lines.map trim).filter (· ≠ [])) := by
  induction lines generalizing comment entry with
  | nil => rfl
  | cons l lines ih =>
    rw [List.map_cons, List.filter_cons]
    by_cases hl : trim l = []
    · rw [bareRungs_blank entry hl, if_neg (by simp [hl]), ih]
    · rw [if_pos (by simp [hl]), bareRungs_congr_trim entry (trim_trim l).symm]
      exact bareRungs_congr (trim l) entry ih

/-- What an entry gives, and then the rungs of the lines after it. -/
def finished (comment : Option String) (e : Entry) (rest : List (List Char)) : List BareRung × Bool :=
  ((finishEntry comment e).1 ++ (bareRungs (finishEntry comment e).2 none rest).1,
    (bareRungs (finishEntry comment e).2 none rest).2)

theorem bareRungs_add (e : Entry) (h : IsTrimmed l) : bareRungs comment (some e) (l :: rest) =
    if (e.add l).isComplete then finished comment (e.add l) rest else bareRungs comment (some (e.add l)) rest := by
  rw [bareRungs, h.trim_eq]
  cases l with
  | nil => exact absurd rfl h.ne_nil
  | cons c l => rfl

theorem trimmed_semicolon (h : IsTrimmed l) : IsTrimmed (l ++ [';']) := by
  have h := h.append (.of_solid (by decide : isBlank ';' = false)) []
  rwa [List.append_nil] at h

/-- A line that begins an entry is the first line of that entry. -/
theorem bareRungs_start {line : List Char} {e : Entry} (hline : IsTrimmed line) (hl : IsTrimmed l)
    (hstart : Entry.start? line = some (e.add l)) :
    bareRungs comment none (line :: rest) = bareRungs comment (some e) (l :: rest) := by
  rw [bareRungs, bareRungs, hline.trim_eq, hl.trim_eq]
  cases line with
  | nil => exact absurd rfl hline.ne_nil
  | cons c line =>
    cases l with
    | nil => exact absurd rfl hl.ne_nil
    | cons d l =>
      dsimp only
      rw [hstart]
      rfl

/-- An entry is over with the line that the semicolon is on, and not before. -/
theorem bareRungs_closed (e : Entry) (hls : ls ≠ []) (h : ∀ l ∈ ls, IsTrimmed l)
    (hsealed : Sealed false 0 (joined [' '] (e.lines ++ ls))) :
    bareRungs comment (some e) (closed ls ++ rest) = finished comment (e.extend (closed ls)) rest := by
  induction ls generalizing e with
  | nil => exact absurd rfl hls
  | cons l ls ih =>
    have hl := h l (by simp)
    cases ls with
    | nil =>
      show bareRungs comment (some e) ((l ++ [';']) :: rest) = finished comment (e.extend [l ++ [';']]) rest
      rw [Entry.extend_singleton, bareRungs_add e (trimmed_semicolon hl), if_pos (Entry.isComplete_closed hsealed)]
    | cons m ls =>
      have hsealed : Sealed false 0 (joined [' '] ((e.add l).lines ++ (m :: ls))) := by
        rwa [Entry.lines_add, List.append_assoc]
      show bareRungs comment (some e) (l :: (closed (m :: ls) ++ rest)) =
        finished comment (e.extend (l :: closed (m :: ls))) rest
      rw [Entry.extend_cons, bareRungs_add e hl, if_neg (by simp [Entry.isComplete_beginning hsealed])]
      exact ih (e.add l) (by simp) (fun k hk => h k (List.mem_cons_of_mem _ hk)) hsealed

theorem closed_append_singleton (ls : List (List Char)) (l : List Char) : closed (ls ++ [l]) = ls ++ [l ++ [';']] := by
  induction ls with
  | nil => rfl
  | cons m ls ih =>
    cases ls with
    | nil => rfl
    | cons k ls => exact congrArg (m :: ·) ih

theorem closed_ne_nil (hls : ls ≠ []) : closed ls ≠ [] := by
  obtain ⟨ms, l, rfl⟩ := (List.eq_nil_or_concat' ls).resolve_left hls
  rw [closed_append_singleton]
  simp

theorem closed_trimmed (h : ∀ l ∈ ls, IsTrimmed l) : ∀ l ∈ closed ls, IsTrimmed l := by
  rcases List.eq_nil_or_concat' ls with rfl | ⟨ms, m, rfl⟩
  · exact h
  · rw [closed_append_singleton]
    intro l hl
    rcases List.mem_append.1 hl with hl | hl
    · exact h l (by simp [hl])
    · rw [List.mem_singleton.1 hl]
      exact trimmed_semicolon (h m (by simp))

/-- What a lead begins is over with the line that the semicolon is on. -/
theorem bareRungs_entry {e : Entry} {lead gap : List Char} (hlead : IsTrimmed lead)
    (hstart : ∀ s, Entry.start? (lead ++ s) = some (e.add (trim s))) (hgap : IsBlankText gap) (hls : ls ≠ [])
    (h : ∀ l ∈ ls, IsTrimmed l) (hsealed : Sealed false 0 (joined [' '] (e.lines ++ ls))) :
    bareRungs comment none (headed (lead ++ gap) (closed ls) ++ rest) =
      finished comment (e.extend (closed ls)) rest := by
  rw [← bareRungs_closed e hls h hsealed]
  obtain ⟨l, ms, hclosed⟩ := List.exists_cons_of_ne_nil (closed_ne_nil hls)
  have hl : IsTrimmed l := closed_trimmed h l (by simp [hclosed])
  have htrim : trim (gap ++ l) = l := by
    have hl' := trim_surrounded hgap (fun _ hc => absurd hc List.not_mem_nil) l
    rwa [List.append_nil, hl.trim_eq] at hl'
  have hline : Entry.start? (lead ++ gap ++ l) = some (e.add l) := by
    rw [List.append_assoc, hstart, htrim]
  rw [hclosed]
  exact bareRungs_start (hlead.append hl gap) hl hline

/-- The logic of a rung is its lines without the semicolon. -/
theorem logic_closed (hls : ls ≠ []) (h : ∀ l ∈ ls, IsTrimmed l) :
    Field.logic (joined ['\n'] (closed ls)) = joined ['\n'] ls := by
  have hjoined : IsTrimmed (joined ['\n'] ls) := IsTrimmed.joined hls h
  have hclosed : joined ['\n'] (closed ls) = joined ['\n'] ls ++ [';'] := by
    obtain ⟨ms, l, rfl⟩ := (List.eq_nil_or_concat' ls).resolve_left hls
    rw [closed_append_singleton, joined_snoc_append]
  rw [Field.logic, hclosed, (trimmed_semicolon hjoined).trim_eq]
  simp only [List.getLast?_concat, if_true, List.dropLast_concat]
  exact hjoined.trimRight_eq

namespace WrittenRung
variable {r : WrittenRung}

/-- The rung without its place. -/
def bare (r : WrittenRung) : BareRung := (r.comment.map String.ofList, joined ['\n'] r.logic)

theorem bareRungs_logicLines (h : r.WellFormed) :
    bareRungs comment none (r.logicLines ++ rest) =
      ((comment, joined ['\n'] r.logic) :: (bareRungs none none rest).1, (bareRungs none none rest).2) := by
  have hsealed : Sealed false 0 (joined [' '] ((Entry.rung []).lines ++ r.logic)) := h.closed
  rw [logicLines, bareRungs_entry (by decide) (fun _ => rfl) h.beforeLogic h.ne_nil h.logic hsealed]
  show ((comment, Field.logic (joined ['\n'] (closed r.logic))) :: (bareRungs none none rest).1, _) = _
  rw [logic_closed h.ne_nil h.logic]
  rfl

/-- A comment is kept for the rung that follows. -/
theorem bareRungs_commentLines (h : r.WellFormed) :
    bareRungs none none (r.commentLines ++ rest) = bareRungs (r.comment.map String.ofList) none rest := by
  cases hc : r.comment with
  | none => rw [commentLines, hc, List.nil_append, Option.map_none]
  | some c =>
    have hcomment : IsTrimmed c := h.comment c hc
    have hquote : ∀ l ∈ [quote c], IsTrimmed l := by
      intro l hl
      rw [List.mem_singleton.1 hl]
      exact (IsTrimmed.of_solid (by decide)).append (.of_solid (by decide)) (encode c)
    have hsealed : Sealed false 0 (joined [' '] ((Entry.remark []).lines ++ [quote c])) := sealed_quote c
    have hread : finishEntry none ((Entry.remark []).extend (closed [quote c])) = ([], some (String.ofList c)) :=
      congrArg (([], ·)) (remark_quote hcomment)
    rw [commentLines, hc]
    dsimp only
    rw [bareRungs_entry (by decide) (fun _ => rfl) h.beforeComment (by simp) hquote hsealed]
    rw [finished, hread]
    rfl

/-- The lines of a rung are read as that rung, and leave no comment for the next. -/
theorem bareRungs_lines (h : r.WellFormed) : bareRungs none none (r.lines ++ rest) =
    (r.bare :: (bareRungs none none rest).1, (bareRungs none none rest).2) := by
  rw [lines, List.append_assoc, bareRungs_commentLines h, bareRungs_logicLines h]
  rfl

theorem bareRungs_flatMap {rs : List WrittenRung} (h : ∀ r ∈ rs, r.WellFormed) :
    bareRungs none none (rs.flatMap lines) = (rs.map bare, false) := by
  induction rs with
  | nil => rfl
  | cons r rs ih =>
    have hrest := ih fun s hs => h s (List.mem_cons_of_mem _ hs)
    rw [List.flatMap_cons, bareRungs_lines (h r (by simp)), hrest, List.map_cons]

end WrittenRung

/-- The rungs of a ladder routine are those written in it, in order, each with its own comment; blank lines and
the blanks around a line do not count. -/
theorem routineRungs_written (program : String) (b : Block) (hladder : b.keyword = "ROUTINE") (rs : List WrittenRung)
    (h : ∀ r ∈ rs, r.WellFormed) (hbody : (b.body.map trim).filter (· ≠ []) = rs.flatMap WrittenRung.lines) :
    routineRungs program b = pure (ladderType, rs.mapIdx fun place r => r.rung program b.name place) := by
  have hbare : bareRungs none none b.body = (rs.map WrittenRung.bare, false) := by
    rw [bareRungs_trim, hbody, WrittenRung.bareRungs_flatMap h]
  have hrungs : rungs program b.name b.body = pure (rs.mapIdx fun place r => r.rung program b.name place) := by
    rw [rungs, hbare]
    refine congrArg pure (List.ext_getElem? fun i => ?_)
    rw [List.getElem?_mapIdx, List.getElem?_mapIdx, List.getElem?_map, Option.map_map]
    rfl
  rw [routineRungs, if_pos hladder, hrungs]
  rfl

def valveRoutine : Block where
  keyword := "ROUTINE"
  name := "Valve"
  attributes := []
  body := [
    "  RC: \"Open $\"V1$\"; costs $$5$N(or N: 6\";",
    "",
    "\tN: [XIC(Start) ,XIC(Held)",
    "  ]OTE(V1);",
    "  N: MSG(V1,\"a;b\");"].map String.toList

def valveRungs : List WrittenRung := [
  { comment := some "Open \"V1\"; costs $5\n(or N: 6".toList
    logic := ["[XIC(Start) ,XIC(Held)", "]OTE(V1)"].map String.toList },
  { logic := ["MSG(V1,\"a;b\")".toList] }]

theorem routineRungs_written_valve : valveRoutine.keyword = "ROUTINE" ∧ (∀ r ∈ valveRungs, r.WellFormed) ∧
    (valveRoutine.body.map trim).filter (· ≠ []) = valveRungs.flatMap WrittenRung.lines ∧
    routineRungs "Main" valveRoutine = pure (ladderType, [
      { programName := "Main", routineName := "Valve", number := 0
        logicText := "[XIC(Start) ,XIC(Held)\n]OTE(V1)", comment := some "Open \"V1\"; costs $5\n(or N: 6" },
      { programName := "Main", routineName := "Valve", number := 1
        logicText := "MSG(V1,\"a;b\")", comment := none }]) := by
  have hwell : ∀ r ∈ valveRungs, r.WellFormed := by decide +kernel
  have hbody : (valveRoutine.body.map trim).filter (· ≠ []) = valveRungs.flatMap WrittenRung.lines := by
    decide +kernel
  exact ⟨rfl, hwell, hbody, routineRungs_written "Main" valveRoutine rfl valveRungs hwell hbody⟩

end LadderAtlas.L5k
