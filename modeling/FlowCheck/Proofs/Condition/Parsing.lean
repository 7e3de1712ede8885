import FlowCheck.Proofs.Condition.Cut
import FlowCheck.Proofs.Condition.Operand

/-!
# Reading conditions by the grammar

What the reader accepts is what the grammar derives.  It is read at three levels, operands, clauses
and separated rows of them, and each level is handed a part of the text.  `Settled` is what the
documented grammar needs to know of a part: that its marks are tidy and which separators may still
stand in it.  Both grammars are treated at once: the hypotheses on the marks are made under the
proposition `strict`, and the lenient grammar is the case where it is false.

## Main results

* `conditionText_of_parse` : an accepted text is a text of the condition in the lenient grammar,
  and in the documented one if its marks are tidy
* `parse_of_documented`, `tidy_of_documented` : a documented text is accepted, and its marks are
  tidy
-/

namespace FlowCheck
namespace Condition

open Text (AllBlank Tight isBlank trim)

/-! ## Parts of a text -/

/-- The marks are tidy, and only some separators stand outside quotes. -/
structure Settled (seps : List Char) (cs : List Char) : Prop where
  tidy : Tidy (marks none cs)
  separator_mem : ∀ c, .separator c ∈ marks none cs → c ∈ seps

/-- The text also has a last character, which starts nothing together with what follows it. -/
structure Firm (seps : List Char) (cs : List Char) : Prop extends Settled seps cs where
  last : ∃ c ∈ cs.getLast?, ∀ next, markAt c next = .plain

theorem Settled.of_isInfix {seps cs part : List Char} (h : Settled seps cs)
    (hpart : marks none part <:+: marks none cs) : Settled seps part where
  tidy := h.tidy.of_isInfix hpart
  separator_mem := fun c hc => h.separator_mem c (hpart.subset hc)

theorem Settled.of_cons {sep : Char} {seps cs : List Char} (h : Settled (sep :: seps) cs)
    (hcs : .separator sep ∉ marks none cs) : Settled seps cs where
  tidy := h.tidy
  separator_mem := by
    intro c hc
    rcases List.mem_cons.1 (h.separator_mem c hc) with rfl | hmem
    · exact absurd hc hcs
    · exact hmem

theorem Settled.no_separator {cs : List Char} (h : Settled [] cs) (c : Char) :
    .separator c ∉ marks none cs :=
  fun hc => List.not_mem_nil (h.separator_mem c hc)

theorem settled_of_tidy {cs : List Char} (h : Tidy (marks none cs)) :
    Settled ['|', '&'] cs where
  tidy := h
  separator_mem := fun c hc => by simpa [IsSeparator] using isSeparator_of_mem_marks hc

variable {sep : Char}

theorem Firm.getLast?_ne (hsep : IsSeparator sep) {seps cs : List Char} (h : Firm seps cs) :
    cs.getLast? ≠ some sep := by
  obtain ⟨c, hc, hplain⟩ := h.last
  intro heq
  obtain rfl : c = sep := Option.some.inj (hc.symm.trans heq)
  have hmark := hplain (some c)
  rcases hsep with rfl | rfl <;> simp [markAt] at hmark

/-- Trimming takes marks only from the ends. -/
theorem marks_trim_isInfix {cs : List Char} (h : .unclosed ∉ marks none cs) :
    marks none (trim cs) <:+: marks none cs := by
  obtain ⟨before, after, hb, ha, heq⟩ := Text.exists_eq_append_trim cs
  have hafter : ∀ c ∈ after, isQuote c = false :=
    fun c hc => isQuote_eq_false_of_isInert (isInert_of_isBlank (ha c hc))
  have hfront : marks none cs = marks none before ++ marks none (trim cs ++ after) := by
    conv_lhs => rw [heq, List.append_assoc]
    exact (calm_of_allBlank hb).marks_append _
  have hclosed : .unclosed ∉ marks none (trim cs) := by
    intro hmem
    rw [hfront] at h
    exact h (List.mem_append_right _ (unclosed_mem_marks_append (by simp) hafter hmem))
  have hback : marks none (trim cs ++ after) = marks none (trim cs) ++ marks none after := by
    refine marks_append hclosed fun c _ => ?_
    cases after with
    | nil => rfl
    | cons d after =>
      have hd := isInert_of_isBlank (ha d List.mem_cons_self)
      unfold isInert at hd
      unfold markAt
      grind
  exact ⟨marks none before, marks none after, by rw [hfront, hback, List.append_assoc]⟩

theorem Settled.trim {seps cs : List Char} (h : Settled seps cs) :
    Settled seps (Text.trim cs) :=
  h.of_isInfix (marks_trim_isInfix h.tidy.closed)

/-! ## Separated rows -/

section

variable {α : Type} {seps : List Char} {read : List Char → Except SyntaxProblem α}
  {spell : α → List Char → Prop}

theorem mapM_cons_eq_ok_iff {part : List Char} {parts : List (List Char)} {as : List α} :
    (part :: parts).mapM read = .ok as ↔
      ∃ a rest, read part = .ok a ∧ parts.mapM read = .ok rest ∧ as = a :: rest := by
  rw [List.mapM_cons]
  cases hread : read part with
  | error p => simp [bind, Except.bind]
  | ok a =>
    cases hrest : parts.mapM read with
    | error p => simp [bind, Except.bind]
    | ok rest => simp [bind, Except.bind, pure, Except.pure, eq_comm]

/-- If what is read from a part is spelled by it, then what is read from a row of parts is spelled
by the row. -/
theorem joined_of_mapM (hsep : IsSeparator sep) {strict : Prop}
    (hread : ∀ t a, (strict → Settled seps t) → read t = .ok a → spell a t)
    {cs : List Char} (hcs : strict → Settled (sep :: seps) cs) {as : List α}
    (h : (split sep none cs).mapM read = .ok as) : Joined sep spell as cs := by
  have hcut : Cut sep none cs (split sep none cs) := cut_split hsep (by simp) cs
  generalize split sep none cs = parts at h hcut
  generalize hquote : none = quote at hcut
  induction hcut generalizing as with
  | last hno =>
    subst hquote
    obtain ⟨a, rest, ha, hrest, rfl⟩ := mapM_cons_eq_ok_iff.1 h
    obtain rfl : [] = rest := by simpa [pure, Except.pure] using hrest
    exact .one (hread _ _ (fun hstrict => (hcs hstrict).of_cons hno) ha)
  | @part quote p cs parts hno hclosed hlast _ ih =>
    subst hquote
    have hmarks := marks_append_separator hsep hclosed hlast cs
    obtain ⟨a, rest, ha, hrest, rfl⟩ := mapM_cons_eq_ok_iff.1 h
    refine .cons (hread _ _ (fun hstrict => ?_) ha) (ih (fun hstrict => ?_) hrest rfl)
    · refine ((hcs hstrict).of_isInfix ?_).of_cons hno
      rw [hmarks]
      exact (List.prefix_append _ _).isInfix
    · refine (hcs hstrict).of_isInfix ?_
      rw [hmarks]
      exact ⟨marks none p ++ [.separator sep, markAt sep cs.head?], [], by simp⟩

/-- A row of spelled things is cut where they were joined, and so it is read as those things. -/
theorem mapM_of_joined (hsep : IsSeparator sep) {cs : List Char} {as : List α}
    (h : Joined sep spell as cs) (hseps : sep ∉ seps) (hspell : ∀ t a, spell a t → Firm seps t)
    (hread : ∀ t a, spell a t → read t = .ok a) : (split sep none cs).mapM read = .ok as := by
  have hno : ∀ t a, spell a t → .separator sep ∉ marks none t :=
    fun t a ht hmem => hseps ((hspell t a ht).separator_mem sep hmem)
  induction h with
  | one ht =>
    rw [split_eq_singleton hsep (hno _ _ ht)]
    exact mapM_cons_eq_ok_iff.2 ⟨_, [], hread _ _ ht, rfl, rfl⟩
  | @cons a as t cs ht _ ih =>
    have hfirm := hspell _ _ ht
    rw [split_append hsep (hno _ _ ht) hfirm.tidy.closed (hfirm.getLast?_ne hsep)]
    exact mapM_cons_eq_ok_iff.2 ⟨_, as, hread _ _ ht, ih, rfl⟩

theorem firm_of_joined (hsep : IsSeparator sep) {cs : List Char} {as : List α}
    (h : Joined sep spell as cs) (hspell : ∀ t a, spell a t → Firm seps t) :
    Firm (sep :: seps) cs := by
  induction h with
  | one ht =>
    have hfirm := hspell _ _ ht
    exact ⟨⟨hfirm.tidy, fun c hc => List.mem_cons_of_mem _ (hfirm.separator_mem c hc)⟩, hfirm.last⟩
  | @cons a as t cs ht _ ih =>
    have hfirm := hspell _ _ ht
    have hmarks := marks_append_separator hsep hfirm.tidy.closed (hfirm.getLast?_ne hsep) cs
    -- the second separator of a pair is a stray, or pairs with one that follows
    have hsecond : markAt sep cs.head? = .stray ∨ markAt sep cs.head? = .separator sep := by
      unfold markAt IsSeparator at *
      grind
    have hrest : Tidy (markAt sep cs.head? :: marks none cs) := by
      rcases hsecond with h | h
      · rw [h]
        exact ih.tidy.cons_stray
      · rw [h]
        exact Tidy.append_separator tidy_nil ih.tidy sep
    refine ⟨⟨by rw [hmarks]; exact hfirm.tidy.append_separator hrest sep, fun c hc => ?_⟩, ?_⟩
    · rw [hmarks] at hc
      rcases List.mem_append.1 hc with hc | hc
      · exact List.mem_cons_of_mem _ (hfirm.separator_mem c hc)
      · rcases List.mem_cons.1 hc with hc | hc
        · simp [Mark.separator.inj hc]
        · rcases List.mem_cons.1 hc with hc | hc
          · rcases hsecond with h | h
            · simp [h] at hc
            · simp [Mark.separator.inj (hc.trans h)]
          · exact ih.separator_mem c hc
    · obtain ⟨c, hc, hplain⟩ := ih.last
      rw [Option.mem_def] at hc
      exact ⟨c, by simp [List.getLast?_append, List.getLast?_cons, hc], hplain⟩

end

/-! ## Clauses -/

section

variable {strict : Prop}

theorem spaced_operandText_iff {x : Operand} {cs : List Char} :
    Spaced (OperandText strict) x cs ↔ OperandText strict x (trim cs) :=
  spaced_iff fun _ _ h => tight_of_operandText h

theorem elastic_operandText : Elastic (Spaced (OperandText strict)) :=
  elastic_spaced fun _ _ h => tight_of_operandText h

/-- An operand without separators and operators has one string at most if its marks are tidy. -/
theorem spaced_of_parseOperand {raw : List Char} {x : Operand}
    (hraw : strict → Settled [] raw ∧ .operator ∉ marks none raw)
    (h : parseOperand raw = .ok x) : Spaced (OperandText strict) x raw := by
  rw [spaced_operandText_iff]
  have htext := parseOperand_eq_ok_iff.1 h
  by_cases hstrict : strict
  · obtain ⟨hsettled, hop⟩ := hraw hstrict
    have hone := hsettled.tidy.one_string _ List.infix_rfl hsettled.no_separator hop
    have htrim := marks_trim_isInfix hsettled.tidy.closed
    exact operandText_of_one_string htext hsettled.trim.tidy.closed
      ((htrim.sublist.count_le _).trans hone)
  · exact htext.mono fun hs => absurd hs hstrict

/-- The ways in which a clause is read. -/
theorem parseClause_eq_ok_iff {raw : List Char} {clause : Clause} :
    parseClause raw = .ok clause ↔ trim raw ≠ [] ∧
      ((∃ found left right, findOperator none (trim raw) = .ok (some found) ∧
        parseOperand found.left = .ok left ∧ parseOperand found.right = .ok right ∧
        clause = .compare left found.operator right) ∨
      (findOperator none (trim raw) = .ok none ∧
        ((∃ cs x, trim raw = '!' :: cs ∧ parseOperand cs = .ok x ∧ clause = .truthy x true) ∨
        ((trim raw).head? ≠ some '!' ∧
          ∃ x, parseOperand (trim raw) = .ok x ∧ clause = .truthy x false)))) := by
  unfold parseClause
  generalize trim raw = cs
  cases cs with
  | nil => simp
  | cons c cs =>
    simp only [List.isEmpty_cons, Bool.false_eq_true, if_false]
    cases hfind : findOperator none (c :: cs) with
    | error p => simp [bind, Except.bind]
    | ok o =>
      cases o with
      | some found =>
        cases hl : parseOperand found.left <;> cases hr : parseOperand found.right <;>
          simp [bind, Except.bind, pure, Except.pure, hl, hr, eq_comm]
      | none =>
        by_cases hc : c = '!'
        · subst hc
          cases hx : parseOperand cs <;>
            simp [bind, Except.bind, pure, Except.pure, hx, eq_comm]
        · cases hx : parseOperand (c :: cs) <;>
            simp [bind, Except.bind, pure, Except.pure, hx, hc, eq_comm]

/-- Both sides of a comparison are settled, and on neither stands a further operator. -/
theorem Found.settled {cs : List Char} {found : Comparison} (h : Found none cs found)
    (hcs : Settled [] cs) :
    (Settled [] found.left ∧ .operator ∉ marks none found.left) ∧
      (Settled [] found.right ∧ .operator ∉ marks none found.right) := by
  obtain ⟨-, hfirst, tail, hmarks, htail⟩ := h
  have hleft : marks none found.left <:+: marks none cs := by
    rw [hmarks]
    exact (List.prefix_append _ _).isInfix
  have hright : marks none found.right <:+: marks none cs := by
    rw [hmarks]
    exact (htail.trans ((List.suffix_cons _ _).trans (List.suffix_append _ _))).isInfix
  refine ⟨⟨hcs.of_isInfix hleft, hfirst⟩, hcs.of_isInfix hright, fun hmem => ?_⟩
  -- a second operator would be one too many
  have hone := hcs.tidy.one_operator _ List.infix_rfl hcs.no_separator
  have hpos := List.count_pos_iff.2 (htail.subset hmem)
  rw [hmarks, List.count_append, List.count_cons_self] at hone
  omega

theorem clauseText_of_parseClause {raw : List Char} {clause : Clause}
    (hraw : strict → Settled [] raw) (h : parseClause raw = .ok clause) :
    ClauseText (OperandText strict) clause raw := by
  obtain ⟨-, h⟩ := parseClause_eq_ok_iff.1 h
  rw [← (elastic_clauseText elastic_operandText).trim_iff]
  have htrim : strict → Settled [] (trim raw) := fun hstrict => (hraw hstrict).trim
  generalize trim raw = cs at h htrim
  rcases h with ⟨found, left, right, hfind, hl, hr, rfl⟩ | ⟨hfind, h⟩
  · have hfound := found_of_findOperator hfind
    rw [hfound.text]
    exact .compare _
      (spaced_of_parseOperand (fun hstrict => (hfound.settled (htrim hstrict)).1) hl)
      (spaced_of_parseOperand (fun hstrict => (hfound.settled (htrim hstrict)).2) hr)
  · have hop := operator_not_mem_of_findOperator hfind
    rcases h with ⟨cs, x, rfl, hx, rfl⟩ | ⟨-, x, hx, rfl⟩
    · have hmarks := marks_none_cons (c := '!') (by decide) cs
      refine .negated (b := []) Text.allBlank_nil
        (spaced_of_parseOperand (fun hstrict => ⟨?_, fun hmem => ?_⟩) hx)
      · refine (htrim hstrict).of_isInfix ?_
        rw [hmarks]
        exact (List.suffix_cons _ _).isInfix
      · rw [hmarks] at hop
        exact hop (List.mem_cons_of_mem _ hmem)
    · exact .plain (spaced_of_parseOperand (fun hstrict => ⟨htrim hstrict, hop⟩) hx)

end

variable {x : Operand} {cs : List Char}

theorem calm_of_spaced (h : Spaced (OperandText True) x cs) : Calm cs := by
  obtain ⟨before, core, after, hb, ha, hcore, rfl⟩ := h
  exact (calm_of_operandText hcore).spaced hb ha

theorem parseOperand_of_spaced (h : Spaced (OperandText True) x cs) : parseOperand cs = .ok x :=
  parseOperand_eq_ok_iff.2 ((spaced_operandText_iff.1 h).mono False.elim)

/-- A spaced operand ends in a character that starts nothing. -/
theorem last_of_spaced (h : Spaced (OperandText True) x cs) :
    ∃ c ∈ cs.getLast?, ∀ next, markAt c next = .plain := by
  have hne : cs ≠ [] := fun hnil => elastic_operandText.not_blank h (hnil ▸ Text.allBlank_nil)
  have hlast := List.getLast?_eq_some_getLast hne
  exact ⟨cs.getLast hne, hlast, (calm_of_spaced h).last _ hlast⟩

theorem Calm.head?_ne (h : Calm cs) : cs.head? ≠ some '=' ∧ cs.head? ≠ some '!' := by
  cases cs with
  | nil => simp
  | cons c cs =>
    simp only [List.head?_cons, ne_eq, Option.some.injEq]
    have hnot : ∀ d, isQuote d = false → markAt d cs.head? ≠ .plain → c ≠ d := by
      rintro d hd hmark rfl
      have hmem : markAt c cs.head? ∈ marks none (c :: cs) := by
        rw [marks_none_cons hd]
        exact List.mem_cons_self
      exact hmark ((h.mark_mem _ hmem).resolve_left (markAt_ne_quoted c _))
    constructor
    · exact hnot '=' (by decide) (by simp only [markAt]; grind)
    · exact hnot '!' (by decide) (by simp only [markAt]; grind)

theorem findOperator_of_calm (h : Calm cs) : findOperator none cs = .ok none := by
  rw [← List.append_nil cs]
  exact findOperator_append h.mark_mem h.last []

theorem findOperator_negated (h : Calm cs) : findOperator none ('!' :: cs) = .ok none := by
  have hop : operatorAt? ('!' :: cs) = none := by
    have hne := h.head?_ne.1
    cases cs with
    | nil => rfl
    | cons c cs =>
      have hc : c ≠ '=' := by simpa using hne
      simp [operatorAt?, hc]
  simp [findOperator, hop, isQuote, findOperator_of_calm h, Except.map]

theorem parseClause_of_clauseText {clause : Clause}
    (h : ClauseText (OperandText True) clause cs) : parseClause cs = .ok clause := by
  have hne : trim cs ≠ [] := fun hnil =>
    (elastic_clauseText elastic_operandText).not_blank h (Text.trim_eq_nil_iff.1 hnil)
  refine parseClause_eq_ok_iff.2 ⟨hne, ?_⟩
  cases h with
  | @compare left right l r op hl hr =>
    have hl := elastic_operandText.start hl
    have hr := elastic_operandText.stop hr
    have hcalm := calm_of_spaced hl
    have hfind : findOperator none (trim (l ++ op.symbol.toList ++ r)) =
        .ok (some ⟨Text.trimStart l, op, Text.trimEnd r⟩) := by
      rw [trim, trimStart_append_symbol, trimEnd_append_symbol, List.append_assoc,
        findOperator_append hcalm.mark_mem hcalm.last,
        findOperator_symbol_append op (calm_of_spaced hr).head?_ne.1]
      simp [Except.map]
    exact .inl ⟨_, left, right, hfind, parseOperand_of_spaced hl, parseOperand_of_spaced hr, rfl⟩
  | @plain x _ h =>
    have h := elastic_operandText.stop (elastic_operandText.start h)
    have hcalm := calm_of_spaced h
    exact .inr ⟨findOperator_of_calm hcalm,
      .inr ⟨hcalm.head?_ne.2, x, parseOperand_of_spaced h, rfl⟩⟩
  | @negated x b t hb h =>
    have h := elastic_operandText.stop h
    have hcalm := calm_of_spaced h
    have htrim : trim (b ++ '!' :: t) = '!' :: Text.trimEnd t := by
      rw [trim, Text.trimStart_append_of_allBlank hb]
      exact Text.trimEnd_append_cons (by decide) [] t
    rw [htrim]
    exact .inr ⟨findOperator_negated (calm_of_spaced h),
      .inl ⟨_, x, rfl, parseOperand_of_spaced h, rfl⟩⟩

theorem Calm.settled (h : Calm cs) : Settled [] cs :=
  ⟨h.tidy, fun c hc => absurd hc (h.no_separator c)⟩

theorem settled_comparison {l r : List Char} (hl : Calm l) (hr : Calm r) (op : Operator) :
    Settled [] (l ++ op.symbol.toList ++ r) := by
  obtain ⟨second, hsymbol, hstray⟩ := marks_symbol_append op r
  have hsecond := hstray hr.head?_ne.1
  have hmarks : marks none (l ++ op.symbol.toList ++ r) =
      marks none l ++ .operator :: (second ++ marks none r) := by
    rw [List.append_assoc, hl.marks_append, hsymbol]
  have hnot : ∀ m, m ≠ .stray → m ∉ marks none r → m ∉ second ++ marks none r := by
    intro m hm hmr hmem
    exact (List.mem_append.1 hmem).elim (fun h => hm (hsecond m h)) hmr
  have hop := hnot .operator (by simp) hr.no_operator
  have hrest : Tidy (second ++ marks none r) := by
    refine tidy_of_no_operator (hnot _ (by simp) hr.closed) hop ?_
    rw [List.count_append, List.count_eq_zero.2 fun h => by simpa using hsecond _ h, Nat.zero_add]
    exact hr.one_string
  refine ⟨?_, fun c hc => ?_⟩
  · rw [hmarks]
    exact tidy_append_operator hl.tidy hrest hl.no_operator hop
  · rw [hmarks] at hc
    rcases List.mem_append.1 hc with hc | hc
    · exact absurd hc (hl.no_separator c)
    · rcases List.mem_cons.1 hc with hc | hc
      · contradiction
      · exact absurd hc (hnot _ (by simp) (hr.no_separator c))

theorem settled_negation {b t : List Char} (hb : AllBlank b) (ht : Calm t) :
    Settled [] (b ++ '!' :: t) := by
  have hcalm := calm_of_allBlank hb
  have hstray : markAt '!' t.head? = .stray := by simp [markAt, ht.head?_ne.1]
  have hmarks : marks none (b ++ '!' :: t) = marks none b ++ .stray :: marks none t := by
    rw [hcalm.marks_append, marks_none_cons (by decide), hstray]
  refine ⟨?_, fun c hc => ?_⟩
  · rw [hmarks]
    refine tidy_of_no_operator ?_ ?_ ?_
    · simp [hcalm.closed, ht.closed]
    · simp [hcalm.no_operator, ht.no_operator]
    · rw [List.count_append, count_quoted_of_allBlank hb, List.count_cons_of_ne (by decide),
        Nat.zero_add]
      exact ht.one_string
  · rw [hmarks] at hc
    simp [hcalm.no_separator, ht.no_separator] at hc

theorem firm_of_clauseText {clause : Clause} (h : ClauseText (OperandText True) clause cs) :
    Firm [] cs := by
  cases h with
  | @compare left right l r op hl hr =>
    obtain ⟨c, hc, hplain⟩ := last_of_spaced hr
    rw [Option.mem_def] at hc
    exact ⟨settled_comparison (calm_of_spaced hl) (calm_of_spaced hr) op,
      c, by simp [List.getLast?_append, hc], hplain⟩
  | plain h => exact ⟨(calm_of_spaced h).settled, last_of_spaced h⟩
  | @negated x b t hb h =>
    obtain ⟨c, hc, hplain⟩ := last_of_spaced h
    rw [Option.mem_def] at hc
    exact ⟨settled_negation hb (calm_of_spaced h),
      c, by simp [List.getLast?_append, List.getLast?_cons, hc], hplain⟩

/-! ## Conditions -/

theorem elastic_conjunctions {strict : Prop} :
    Elastic (Joined '|' (ConjunctionText (OperandText strict))) :=
  elastic_joined (by decide)
    (elastic_joined (by decide) (elastic_clauseText elastic_operandText))

theorem conjunctionText_of_parseConjunction {strict : Prop} {raw : List Char}
    {conjunction : Conjunction} (hraw : strict → Settled ['&'] raw)
    (h : parseConjunction raw = .ok conjunction) :
    ConjunctionText (OperandText strict) conjunction raw :=
  joined_of_mapM (.inr rfl) (fun _ _ hpart hclause => clauseText_of_parseClause hpart hclause)
    hraw h

theorem parseConjunction_of_conjunctionText {conjunction : Conjunction}
    (h : ConjunctionText (OperandText True) conjunction cs) :
    parseConjunction cs = .ok conjunction :=
  mapM_of_joined (.inr rfl) h List.not_mem_nil (fun _ _ => firm_of_clauseText)
    fun _ _ => parseClause_of_clauseText

theorem firm_of_conjunctionText {conjunction : Conjunction}
    (h : ConjunctionText (OperandText True) conjunction cs) : Firm ['&'] cs :=
  firm_of_joined (.inr rfl) h fun _ _ => firm_of_clauseText

theorem parse_eq_ok_iff {s : String} {c : Condition} :
    parse s = .ok c ↔ (trim s.toList = [] ∧ c.any = []) ∨ (trim s.toList ≠ [] ∧
      (split '|' none (trim s.toList)).mapM parseConjunction = .ok c.any) := by
  obtain ⟨any⟩ := c
  unfold parse
  generalize trim s.toList = cs
  cases cs with
  | nil => simp [eq_comm]
  | cons d cs =>
    cases hread : (split '|' none (d :: cs)).mapM parseConjunction <;> simp [hread, Except.map]

/-- An accepted text is a text of the condition in the lenient grammar, and in the documented one
if its marks are tidy. -/
theorem conditionText_of_parse {strict : Prop} {s : String} {c : Condition}
    (htidy : strict → Tidy (marks none s.toList)) (h : parse s = .ok c) :
    ConditionText (OperandText strict) c s.toList := by
  rcases parse_eq_ok_iff.1 h with ⟨htrim, hany⟩ | ⟨-, hread⟩
  · exact .inl ⟨hany, Text.trim_eq_nil_iff.1 htrim⟩
  · refine .inr (elastic_conjunctions.trim_iff.1 ?_)
    exact joined_of_mapM (.inl rfl)
      (fun _ _ hpart hconj => conjunctionText_of_parseConjunction hpart hconj)
      (fun hstrict => (settled_of_tidy (htidy hstrict)).trim) hread

theorem parse_of_documented {s : String} {c : Condition} (h : Documented c s.toList) :
    parse s = .ok c := by
  rw [parse_eq_ok_iff]
  rcases h with ⟨hany, hblank⟩ | h
  · exact .inl ⟨Text.trim_eq_nil_iff.2 hblank, hany⟩
  · refine .inr ⟨fun hnil => elastic_conjunctions.not_blank h (Text.trim_eq_nil_iff.1 hnil), ?_⟩
    exact mapM_of_joined (.inl rfl) (elastic_conjunctions.trim_iff.2 h) (by decide)
      (fun _ _ => firm_of_conjunctionText) fun _ _ => parseConjunction_of_conjunctionText

theorem tidy_of_documented {c : Condition} (h : Documented c cs) : Tidy (marks none cs) := by
  rcases h with ⟨-, hblank⟩ | h
  · exact (calm_of_allBlank hblank).tidy
  · exact (firm_of_joined (.inl rfl) h fun _ _ => firm_of_conjunctionText).tidy

/-- The reader accepts texts of the lenient grammar only, and it takes a text by the documented one
exactly when the text is accepted and its marks are tidy.  In both grammars `nil` is a word like
`null`, and the blank text is a condition. -/
theorem documented_iff_parse_and_tidy (s : String) (c : Condition) :
    (parse s = .ok c → Lenient c s.toList) ∧
      (Documented c s.toList ↔ parse s = .ok c ∧ Tidy (marks none s.toList)) := by
  refine ⟨conditionText_of_parse False.elim, fun h => ?_, fun ⟨hparse, htidy⟩ => ?_⟩
  · exact ⟨parse_of_documented h, tidy_of_documented h⟩
  · exact conditionText_of_parse (fun _ => htidy) hparse

/-- Only the quotes at the ends of an operand are looked at, so that two strings with an operator
between them are read as one string. -/
theorem parse_two_operators :
    parse "x == 'a' == 'b'" =
      .ok ⟨[[.compare (.path "x") .eq (.literal (.str "a' == 'b"))]]⟩ ∧
    ∀ c, ¬ Documented c "x == 'a' == 'b'".toList := by
  refine ⟨rfl, fun c h => ?_⟩
  have hmarks : marks none "x == 'a' == 'b'".toList = [.plain, .plain, .operator, .stray, .plain,
      .quoted, .plain, .operator, .stray, .plain, .quoted] := by decide
  have hone := (tidy_of_documented h).one_operator _ List.infix_rfl
  rw [hmarks] at hone
  exact absurd (hone (by simp)) (by decide)

end Condition
end FlowCheck
