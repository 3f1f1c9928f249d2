import Mathlib.Data.List.TakeWhile
import Simulcast.Yaml.Reader

/-!
# Plain scalars on one line

A line is one plain scalar from its first character to its last when nothing in it means anything
else: it does not begin with an indicator or mark a document, and no comment, no key and no gap ends
the scalar before the line. The words of such a line are read one after another with the gaps
between them, so the line is the text of the one token, and is worth what that text spells.
-/

namespace Simulcast.Yaml

/-- Whether a plain scalar goes on to the end. It ends before a comment, which stands behind a gap,
before a colon with nothing behind it, and before the gap at the end of the line. -/
def staysPlain (afterGap : Bool) : List Char → Bool
  | [] => !afterGap
  | x :: rest =>
    !isBreak x && !(afterGap && x == '#')
      && !(x == ':' && (rest.head?.map isGapOrBreak).getD true) && staysPlain (isGap x) rest

/-- Whether a line begins with a character of a plain scalar. Three of the indicators are such if
something follows them. -/
def startsPlain : List Char → Bool
  | [] => false
  | x :: rest =>
    if ['-', '?', ':'].contains x then !(rest.head?.map isGapOrBreak).getD true
    else !isGapOrBreak x && !Scanner.isIndicator x && x != byteOrderMark

def isPlainLine (cs : List Char) : Bool :=
  startsPlain cs && !({ rest := cs } : Cursor).isDocumentMark && staysPlain false cs
    && cs.all isAllowed

variable {afterGap : Bool} {c : Cursor} {cs rest word : List Char} {x : Char} {n floor : Nat}

/-! ### Words and gaps -/

theorem staysPlain_cons :
    staysPlain afterGap (x :: rest) = true ↔
      isBreak x = false ∧ (afterGap = true → x ≠ '#') ∧
        (x = ':' → (rest.head?.map isGapOrBreak).getD true = false) ∧
        staysPlain (isGap x) rest = true := by
  simp only [staysPlain, Bool.and_eq_true, Bool.not_eq_true', Bool.and_eq_false_imp, beq_iff_eq,
    beq_eq_false_iff_ne, and_assoc, ne_eq]

theorem plainWord_of_staysPlain (h : staysPlain afterGap cs = true) :
    plainWord false cs = some (cs.takeWhile fun x => !isGap x) := by
  induction cs generalizing afterGap with
  | nil => rfl
  | cons x rest ih =>
    obtain ⟨hbreak, -, hcolon, hrest⟩ := staysPlain_cons.1 h
    have hends : endsPlain false x rest = isGap x := by
      unfold endsPlain
      rw [isGapOrBreak, hbreak, Bool.or_false, Bool.false_and, Bool.or_false]
      by_cases hx : x = ':'
      · rw [hcolon hx, Bool.and_false, Bool.or_false]
      · rw [beq_eq_false_iff_ne.2 hx, Bool.false_and, Bool.or_false]
    rw [plainWord, hends, List.takeWhile_cons, ih hrest]
    cases isGap x <;> rfl

theorem staysPlain_behind {isGaps : Bool} (h : staysPlain afterGap (x :: word ++ rest) = true)
    (hword : ∀ y ∈ x :: word, isGap y = isGaps) : staysPlain isGaps rest = true := by
  induction word generalizing afterGap x with
  | nil =>
    rw [← hword x (List.mem_singleton_self x)]
    exact (staysPlain_cons.1 h).2.2.2
  | cons y word ih => exact ih (staysPlain_cons.1 h).2.2.2 (List.forall_mem_cons.1 hword).2

theorem isBreak_of_staysPlain (h : staysPlain afterGap cs = true) :
    ∀ y ∈ cs, isBreak y = false := by
  induction cs generalizing afterGap with
  | nil => exact List.forall_mem_nil _
  | cons x rest ih =>
    obtain ⟨hbreak, -, -, hrest⟩ := staysPlain_cons.1 h
    exact List.forall_mem_cons.2 ⟨hbreak, ih hrest⟩

theorem read_gaps (spaces : List Char) (hc : c.rest = word ++ rest)
    (hword : ∀ y ∈ word, isGap y = true) (hrest : ∀ y ∈ rest.head?, isGapOrBreak y = false) :
    ∃ c', Gap.read floor (n + word.length + 1) { spaces } c =
        some ({ spaces := spaces ++ word }, c') ∧
      c'.rest = rest ∧ c.column ≤ c'.column := by
  induction word generalizing spaces c with
  | nil =>
    refine ⟨c, ?_, hc, Nat.le_refl _⟩
    rw [List.nil_append] at hc
    rw [Gap.read, hc, List.append_nil]
    cases rest with
    | nil => rfl
    | cons y rest =>
      obtain ⟨hgap, hbreak⟩ := Bool.or_eq_false_iff.1 (hrest y rfl)
      simp [hgap, hbreak]
  | cons y word ih =>
    obtain ⟨hgap, hgaps⟩ := List.forall_mem_cons.1 hword
    have hskip : (c.skip 1).rest = word ++ rest := by simp [Cursor.skip, hc]
    obtain ⟨c', hread, hrest', hcolumn⟩ := ih (spaces ++ [y]) hskip hgaps
    refine ⟨c', ?_, hrest', Nat.le_trans (Nat.le_add_right _ _) hcolumn⟩
    rw [List.append_assoc, List.singleton_append] at hread
    rw [Gap.read, hc]
    simpa [hgap, Gap.withSpace, Nat.add_assoc] using hread

theorem not_documentMark (h : 0 < c.column) : c.isDocumentMark = false := by
  have hcolumn : (c.column == 0) = false := beq_eq_false_iff_ne.2 (by omega)
  simp [Cursor.isDocumentMark, Cursor.isMark, hcolumn]

theorem head?_dropWhile {p : Char → Bool} (cs : List Char) :
    ∀ y ∈ (cs.dropWhile p).head?, p y = false := by
  intro y hy
  have hfirst := List.head?_dropWhile_not p cs
  rw [Option.mem_def.1 hy] at hfirst
  simpa using hfirst

theorem exists_gaps (cs : List Char) :
    ∃ gaps more, cs = (cs.takeWhile fun y => !isGap y) ++ (gaps ++ more) ∧
      (∀ y ∈ gaps, isGap y = true) ∧ (∀ y ∈ more.head?, isGap y = false) ∧
      (gaps = [] → more = []) := by
  have hsplit := @List.takeWhile_append_dropWhile _ (fun y => !isGap y) cs
  have hfirst := @head?_dropWhile (fun y => !isGap y) cs
  generalize cs.dropWhile (fun y => !isGap y) = behind at hsplit hfirst
  refine ⟨behind.takeWhile isGap, behind.dropWhile isGap, ?_, fun y => List.mem_takeWhile_imp,
    head?_dropWhile behind, ?_⟩
  · rw [List.takeWhile_append_dropWhile, hsplit]
  · cases behind with
    | nil => exact fun _ => rfl
    | cons y behind =>
      have hy : isGap y = true := by simpa using hfirst y rfl
      rw [List.takeWhile_cons_of_pos hy]
      exact fun h => (List.cons_ne_nil _ _ h).elim

theorem plainWords_of_nil {gap : Gap} (hc : c.rest = []) :
    plainWords false floor (n + 1) gap c = some ([], gap.isBroken, c) := by
  have hmark : c.isDocumentMark = false := by simp [Cursor.isDocumentMark, Cursor.isMark, hc]
  have hat : c.isAt '#' = false := by simp [Cursor.isAt, hc]
  rw [plainWords, hmark, hat, hc]
  rfl

theorem plainWords_of_staysPlain (spaces : List Char) (hc : c.rest = x :: cs)
    (hmark : c.isDocumentMark = false) (hgap : isGap x = false) (hcomment : x ≠ '#')
    (hstays : staysPlain afterGap (x :: cs) = true) (hn : cs.length + 1 < n) :
    ∃ c', plainWords false 0 n { spaces } c = some (spaces ++ x :: cs, false, c') ∧
      c'.rest = [] := by
  induction n generalizing spaces c x cs afterGap with
  | zero => omega
  | succ n ih =>
    obtain ⟨gaps, more, hcs, hgaps, hmore, hbetween⟩ := exists_gaps cs
    have hat : c.isAt '#' = false := by simpa [Cursor.isAt, hc] using hcomment
    have hplain := plainWord_of_staysPlain hstays
    rw [List.takeWhile_cons_of_pos (by simpa using hgap)] at hplain
    have hword : ∀ y ∈ x :: cs.takeWhile (fun y => !isGap y), isGap y = false :=
      List.forall_mem_cons.2 ⟨hgap, fun y hy => by simpa using List.mem_takeWhile_imp hy⟩
    generalize cs.takeWhile (fun y => !isGap y) = word at hcs hplain hword
    subst hcs
    have hbehind : staysPlain false (gaps ++ more) = true := staysPlain_behind hstays hword
    have hnext : ∀ y ∈ more.head?, isGapOrBreak y = false := by
      intro y hy
      have hmem : y ∈ gaps ++ more := List.mem_append_right _ (List.mem_of_mem_head? hy)
      rw [isGapOrBreak, hmore y hy, isBreak_of_staysPlain hbehind y hmem]
      rfl
    have hskip : (c.skip (word.length + 1)).rest = gaps ++ more := by
      simp [Cursor.skip, hc]
    have hcolumn : 0 < (c.skip (word.length + 1)).column := by
      simp only [Cursor.skip, hc, List.length_cons, List.length_append]
      omega
    have hlength : (c.skip (word.length + 1)).rest.length = more.length + gaps.length := by
      rw [hskip, List.length_append, Nat.add_comm]
    obtain ⟨c', hread, hrest, hright⟩ :=
      @read_gaps _ _ _ more.length 0 [] hskip hgaps hnext
    have hstep : plainWords false 0 (n + 1) { spaces } c =
        (plainWords false 0 n { spaces := gaps } c').map fun r =>
          (spaces ++ x :: word ++ r.1, r.2) := by
      rw [plainWords, hmark, hat, hc, hplain]
      simp [hlength, hread, Gap.text]
    rw [hstep]
    obtain ⟨n, rfl⟩ : ∃ k, n = k + 1 := Nat.exists_eq_add_one.2 (by omega)
    cases gaps with
    | nil =>
      obtain rfl := hbetween rfl
      rw [plainWords_of_nil hrest]
      exact ⟨c', by simp, hrest⟩
    | cons g gaps =>
      have hstill : staysPlain true more = true := staysPlain_behind hbehind hgaps
      cases more with
      | nil => cases hstill
      | cons y more =>
        obtain ⟨c'', hwords, hend⟩ := ih (g :: gaps) hrest
          (not_documentMark (Nat.lt_of_lt_of_le hcolumn hright)) (hmore y rfl)
          ((staysPlain_cons.1 hstill).2.1 rfl) hstill (by simp at hn; omega)
        refine ⟨c'', ?_, hend⟩
        rw [hwords]
        simp

theorem readPlain_of_line (hc : c.rest = x :: cs) (hmark : c.isDocumentMark = false)
    (hgap : isGap x = false) (hcomment : x ≠ '#') (hstays : staysPlain false (x :: cs) = true) :
    ∃ c', readPlain false 0 c = some (String.ofList (x :: cs), false, c') ∧ c'.rest = [] := by
  obtain ⟨c', hwords, hend⟩ := plainWords_of_staysPlain [] hc hmark hgap hcomment hstays
    (n := c.rest.length + 1) (by simp [hc])
  refine ⟨c', ?_, hend⟩
  rw [readPlain, hwords]
  rfl

/-! ### The one token -/

theorem isClear_one (hc : c.rest = x :: cs) :
    c.isClear 1 = (cs.head?.map isGapOrBreak).getD true := by
  rw [Cursor.isClear, hc, List.getElem?_cons_succ, List.head?_eq_getElem?]

theorem startsPlain_cons (h : startsPlain (x :: cs) = true) :
    (x ∈ ['-', '?', ':'] ∧ (cs.head?.map isGapOrBreak).getD true = false) ∨
      (isGapOrBreak x = false ∧ Scanner.isIndicator x = false) := by
  rw [startsPlain] at h
  split at h
  next hx => exact .inl ⟨List.contains_iff_mem.1 hx, by simpa using h⟩
  next hx =>
    simp only [Bool.and_eq_true, Bool.not_eq_true'] at h
    exact .inr h.1

theorem isGapOrBreak_of_startsPlain (h : startsPlain (x :: cs) = true) :
    isGapOrBreak x = false := by
  obtain ⟨hx, -⟩ | ⟨hgap, -⟩ := startsPlain_cons h
  · simp only [List.mem_cons, List.not_mem_nil, or_false] at hx
    obtain rfl | rfl | rfl := hx <;> rfl
  · exact hgap

theorem ne_comment_of_startsPlain (h : startsPlain (x :: cs) = true) : x ≠ '#' := by
  rintro rfl
  cases h

theorem beginsPlain_of_startsPlain (hc : c.rest = x :: cs) (h : startsPlain (x :: cs) = true) :
    Scanner.beginsPlain false c = true := by
  rw [Scanner.beginsPlain]
  obtain ⟨hx, hnext⟩ | ⟨hgap, hindicator⟩ := startsPlain_cons h
  · have hclear : c.isClear 1 = false := (isClear_one hc).trans hnext
    have hgap : (cs[0]?.map isGap).getD false = false := by
      cases cs with
      | nil => rfl
      | cons y cs => exact (Bool.or_eq_false_iff.1 hnext).1
    simp only [List.mem_cons, List.not_mem_nil, or_false] at hx
    obtain rfl | rfl | rfl := hx <;> simp [Cursor.isAt, hgap, hclear, hc]
  · simp [Cursor.meets, hc, hgap, hindicator]

theorem not_isAt_of_startsPlain {y : Char} (hc : c.rest = x :: cs)
    (h : startsPlain (x :: cs) = true) (hy : startsPlain (y :: cs) = false) : c.isAt y = false := by
  have hne : x ≠ y := by
    rintro rfl
    rw [hy] at h
    cases h
  simpa [Cursor.isAt, hc] using hne

theorem not_isClear_of_startsPlain {y : Char} (hc : c.rest = x :: cs)
    (h : startsPlain (x :: cs) = true) (hy : Scanner.isIndicator y = true) :
    ¬ (c.isAt y = true ∧ c.isClear 1 = true) := by
  rintro ⟨hat, hclear⟩
  obtain rfl : x = y := by simpa [Cursor.isAt, hc] using hat
  obtain ⟨-, hnext⟩ | ⟨-, hindicator⟩ := startsPlain_cons h
  · rw [isClear_one hc, hnext] at hclear
    cases hclear
  · rw [hy] at hindicator
    cases hindicator

theorem Cursor.skipWhile_of_head {p : Char → Bool} (h : ∀ y ∈ c.rest.head?, p y = false) :
    c.skipWhile p = c := by
  have htaken : c.rest.takeWhile p = [] := by
    cases hrest : c.rest with
    | nil => rfl
    | cons y rest => rw [List.takeWhile_cons_of_neg (by simp [h y (by rw [hrest]; rfl)])]
  rw [skipWhile, htaken, skip]
  simp

namespace Scanner

theorem token_of_startsPlain {s : Scanner} (hc : s.cursor.rest = x :: cs)
    (hflow : s.inFlow = false) (hmark : s.cursor.isDocumentMark = false)
    (hstarts : startsPlain (x :: cs) = true) : s.token = s.plain := by
  have hat (y : Char) (hy : startsPlain (y :: cs) = false) : s.cursor.isAt y = false :=
    not_isAt_of_startsPlain hc hstarts hy
  have hclear (y : Char) (hy : isIndicator y = true) :=
    not_isClear_of_startsPlain hc hstarts hy
  obtain ⟨hminus, hdot⟩ := Bool.or_eq_false_iff.1 hmark
  have hbegins : beginsPlain false s.cursor = true := beginsPlain_of_startsPlain hc hstarts
  simp only [token, hflow, Bool.false_or, hminus, hdot, hat '%' rfl, hat '[' rfl, hat '\x7b' rfl,
    hat ']' rfl, hat '\x7d' rfl, hat ',' rfl, hclear '-' rfl, hclear '?' rfl, hclear ':' rfl,
    hat '*' rfl, hat '&' rfl, hat '!' rfl, hat '|' rfl, hat '>' rfl, hat '\'' rfl, hat '"' rfl,
    hbegins, Bool.false_eq_true, and_false, false_and, or_self, if_false, if_true]

theorem toNextToken_of_content {s : Scanner}
    (hc : ∀ y ∈ s.cursor.rest.head?, isGapOrBreak y = false ∧ y ≠ '#') :
    toNextToken (n + 1) s = s := by
  have hspace (y : Char) (hy : y ∈ s.cursor.rest.head?) :
      (y == ' ' || ((s.inFlow || !s.keyAllowed) && y == '\t')) = false := by
    have hgap := (Bool.or_eq_false_iff.1 (hc y hy).1).1
    obtain ⟨hblank, htab⟩ := Bool.or_eq_false_iff.1 hgap
    rw [hblank, htab, Bool.and_false, Bool.or_false]
  have hcomment : s.cursor.isAt '#' = false := by
    rw [Cursor.isAt, beq_eq_false_iff_ne]
    exact fun h => (hc '#' h).2 rfl
  have hbreak : s.cursor.meets isBreak = false := by
    rw [Cursor.meets]
    cases hhead : s.cursor.rest.head? with
    | none => rfl
    | some y => exact (Bool.or_eq_false_iff.1 (hc y hhead).1).2
  rw [toNextToken]
  simp only [Cursor.skipWhile_of_head hspace, hcomment, hbreak, Bool.false_eq_true, if_false]

theorem dropStale_of_optional {s : Scanner} {candidate : Option Candidate}
    (hs : s.candidates = [candidate]) (hoptional : ∀ k ∈ candidate, k.isRequired = false) :
    s.dropStale =
      some { s with candidates := [candidate.filter fun k => !isStale s.cursor k] } := by
  have hnone : ([candidate].filterMap fun k => k.filter (isStale s.cursor)).any (·.isRequired) =
      false := by
    rw [List.any_eq_false]
    intro k hk
    obtain ⟨found, hmem, hfound⟩ := List.mem_filterMap.1 hk
    obtain rfl := List.mem_singleton.1 hmem
    rw [hoptional k (Option.eq_some_of_filter_eq_some hfound)]
    exact Bool.false_ne_true
  rw [dropStale, hs]
  simp only [hnone, Bool.false_eq_true, if_false, List.map_cons, List.map_nil]

theorem closeAll_of_nil {s : Scanner} (h : s.indents = []) : s.closeAll = s := by
  rw [closeAll, h]
  obtain ⟨cursor, tokens, indents, candidates, keyAllowed⟩ := s
  obtain rfl := h
  exact ite_self _

theorem finish_of_optional {s : Scanner} (hindents : s.indents = [])
    (hoptional : ∀ k ∈ s.candidate?, k.isRequired = false) : s.finish = some s.tokens.reverse := by
  rw [finish, closeAll_of_nil hindents, dropCandidate]
  cases hcandidate : s.candidate? with
  | none => rfl
  | some k =>
    simp only [hoptional k hcandidate, Bool.false_eq_true, if_false]
    rfl

theorem scan_at_end {s : Scanner} {candidate : Option Candidate} (hc : s.cursor.rest = [])
    (hindents : s.indents = []) (hs : s.candidates = [candidate])
    (hoptional : ∀ k ∈ candidate, k.isRequired = false) :
    scan (n + 1) s = some s.tokens.reverse := by
  have hnext : toNextToken (s.cursor.rest.length + 1) s = s :=
    toNextToken_of_content (by rw [hc]; exact nofun)
  rw [scan, hnext, dropStale_of_optional hs hoptional]
  simp only [hc, List.isEmpty_nil, if_true]
  refine finish_of_optional hindents fun k hk => hoptional k ?_
  exact Option.eq_some_of_filter_eq_some hk

def atStart (cs : List Char) : Scanner := { cursor := { rest := cs } }

theorem plain_of_line (hmark : (atStart (x :: cs)).cursor.isDocumentMark = false)
    (hstarts : startsPlain (x :: cs) = true) (hstays : staysPlain false (x :: cs) = true) :
    ∃ s, (atStart (x :: cs)).plain = some s ∧ s.cursor.rest = [] ∧ s.indents = [] ∧
      s.tokens = [.scalar (String.ofList (x :: cs)) true] ∧
      ∃ k, s.candidates = [some k] ∧ k.isRequired = false := by
  have hgap : isGap x = false := (Bool.or_eq_false_iff.1 (isGapOrBreak_of_startsPlain hstarts)).1
  obtain ⟨c', hread, hend⟩ :=
    readPlain_of_line rfl hmark hgap (ne_comment_of_startsPlain hstarts) hstays
  have hread' : readPlain (atStart (x :: cs)).inFlow (atStart (x :: cs)).floor
      (atStart (x :: cs)).cursor = some (String.ofList (x :: cs), false, c') := hread
  have hplain := plain.eq_1 (atStart (x :: cs))
  rw [hread'] at hplain
  exact ⟨_, hplain, hend, rfl, rfl, _, rfl, rfl⟩

theorem scan_of_line (hmark : (atStart (x :: cs)).cursor.isDocumentMark = false)
    (hstarts : startsPlain (x :: cs) = true) (hstays : staysPlain false (x :: cs) = true) :
    scan (n + 2) (atStart (x :: cs)) = some [.scalar (String.ofList (x :: cs)) true] := by
  obtain ⟨s, hplain, hend, hindents, htokens, k, hcandidate, hk⟩ :=
    plain_of_line hmark hstarts hstays
  have hnext : toNextToken ((atStart (x :: cs)).cursor.rest.length + 1) (atStart (x :: cs)) =
      atStart (x :: cs) := by
    refine toNextToken_of_content fun y hy => ?_
    obtain rfl : x = y := Option.some.inj hy
    exact ⟨isGapOrBreak_of_startsPlain hstarts, ne_comment_of_startsPlain hstarts⟩
  have hstep : scan (n + 2) (atStart (x :: cs)) =
      (atStart (x :: cs)).token.bind (scan (n + 1)) := by
    rw [scan, hnext]
    rfl
  rw [hstep, token_of_startsPlain rfl rfl hmark hstarts, hplain, Option.bind_some,
    scan_at_end hend hindents hcandidate (by rintro _ ⟨⟩; exact hk), htokens]
  rfl

end Scanner

theorem tokens_of_plainLine (h : isPlainLine cs = true) :
    tokens? cs = some [.scalar (String.ofList cs) true] := by
  simp only [isPlainLine, Bool.and_eq_true, Bool.not_eq_true'] at h
  obtain ⟨⟨⟨hstarts, hmark⟩, hstays⟩, hallowed⟩ := h
  cases cs with
  | nil => cases hstarts
  | cons x cs =>
    have horder : (x :: cs).head? ≠ some byteOrderMark := by
      intro h
      obtain rfl : x = byteOrderMark := Option.some.inj h
      cases hstarts
    rw [tokens?]
    simp only [if_neg horder, if_pos hallowed]
    exact Scanner.scan_of_line hmark hstarts hstays

theorem valueOf?_plain (s : String) : valueOf? (.scalar {} s true) = plain? s := by
  have hvalue : valueOf? (.scalar {} s true) = ((plain? s).map fun v => (v, 0)).map (·.1) := rfl
  rw [hvalue, Option.map_map]
  exact Option.map_id_apply

/-- A plain line is worth what it spells as a plain scalar. -/
theorem read_of_plainLine {s : String} (h : isPlainLine s.toList = true) :
    Yaml.read s = plain? s := by
  have htokens := tokens_of_plainLine h
  rw [String.ofList_toList] at htokens
  have hnode : Node.readOnly [.scalar s true] = some (.scalar {} s true) := rfl
  rw [Yaml.read, readAll, htokens, Option.bind_some, hnode, Option.bind_some, valueOf?_plain]

/-! ### What a plain scalar spells -/

theorem plain?_cases {s : String} (hs : s ≠ "") :
    (isNullWord s = true ∧ plain? s = some .null) ∨
      (∃ b, boolWord? s = some b ∧ plain? s = some (.bool b)) ∨
      (isNullWord s = false ∧ boolWord? s = none ∧
        (plain? s = none ∨ plain? s = some (.text s) ∨
          ∃ w t, plain? s = some w ∧ w.numberText? = some t)) := by
  cases hnull : isNullWord s with
  | true => exact .inl ⟨rfl, if_pos (.inr hnull)⟩
  | false =>
    have hplain := plain?.eq_1 s
    rw [if_neg (by simp [hs, hnull])] at hplain
    cases hbool : boolWord? s with
    | some b =>
      rw [hbool] at hplain
      exact .inr (.inl ⟨b, rfl, hplain⟩)
    | none =>
      refine .inr (.inr ⟨rfl, rfl, ?_⟩)
      simp only [hbool] at hplain
      rw [hplain]
      cases whole s.toList with
      | number n => exact .inr (.inr ⟨_, _, rfl, rfl⟩)
      | outOfRange => exact .inl rfl
      | other =>
        cases (if isPadded s.toList then none else float? s) with
        | some x => exact .inr (.inr ⟨_, _, rfl, rfl⟩)
        | none => exact .inr (.inl rfl)

end Simulcast.Yaml
