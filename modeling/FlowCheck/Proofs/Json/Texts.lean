import FlowCheck.Json.Writer
import FlowCheck.Proofs.Number.Numeral
import FlowCheck.Proofs.Text.Search

/-!
# Texts inside a value

The text of a value holds the strings and the keys of the value, each between quotes and with its
quotes, backslashes and control characters escaped, and apart from these only digits, brackets,
commas and the three words.  So words of plain characters that occur in the text of a value occur
inside one of its strings or keys; this is shown for words that start with an `i`, which no number,
no bracket and none of the three words contains (`Json.firstBehind_chars`).
-/

namespace FlowCheck

/-- What is wanted behind some words in the first of the texts where it is there. -/
def Text.firstAmong {α : Type} (lead : List Char) (wanted : List Char → Option α)
    (texts : List String) : Option α :=
  texts.findSome? fun text => firstBehind lead wanted text.toList

theorem Text.firstAmong_append {α : Type} (lead : List Char) (wanted : List Char → Option α)
    (texts more : List String) : firstAmong lead wanted (texts ++ more) =
      (firstAmong lead wanted texts).or (firstAmong lead wanted more) :=
  List.findSome?_append

namespace Json

mutual

/-- The strings and keys of a value, in the order in which they are written. -/
def texts : Json → List String
  | .null => []
  | .bool _ => []
  | .num _ => []
  | .str s => [s]
  | .arr items => textsItems items
  | .obj members => textsMembers members

def textsItems : List Json → List String
  | [] => []
  | x :: rest => texts x ++ textsItems rest

def textsMembers : List (String × Json) → List String
  | [] => []
  | (k, x) :: rest => [k] ++ (texts x ++ textsMembers rest)

end

/-! ## Escaped characters -/

/-- The characters that are written as themselves. -/
def IsPlainChar (c : Char) : Prop := c ≠ '"' ∧ c ≠ '\\' ∧ 32 ≤ c.toNat

theorem escapeChar_of_isPlainChar {c : Char} (h : IsPlainChar c) : escapeChar c = [c] := by
  obtain ⟨hquote, hbackslash, hcontrol⟩ := h
  unfold escapeChar
  split
  all_goals first
    | contradiction
    | exact absurd hcontrol (by decide)
    | exact if_neg (by omega)

/-- How a character that is not plain is written, and that it belongs to no word. -/
structure IsEscaped (c : Char) : Prop where
  backslash : (escapeChar c).head? = some '\\'
  noLead : 'i' ∉ escapeChar c
  noWord : Unicode.isWord c = false

instance (c : Char) : Decidable (IsEscaped c) :=
  decidable_of_iff ((escapeChar c).head? = some '\\' ∧ 'i' ∉ escapeChar c ∧
    Unicode.isWord c = false) ⟨fun h => ⟨h.1, h.2.1, h.2.2⟩, fun h => ⟨h.1, h.2, h.3⟩⟩

theorem isEscaped_control : ∀ n < 32, IsEscaped (Char.ofNat n) := by
  decide

theorem isEscaped_of_not_isPlainChar {c : Char} (h : ¬ IsPlainChar c) : IsEscaped c := by
  by_cases hcontrol : c.toNat < 32
  · have hescaped := isEscaped_control c.toNat hcontrol
    rwa [Char.ofNat_toNat] at hescaped
  · have hmark : c = '"' ∨ c = '\\' := by
      rw [IsPlainChar, not_and_or, not_and_or, not_not, not_not] at h
      exact h.imp_right fun h => h.resolve_right (by simpa using hcontrol)
    rcases hmark with rfl | rfl <;> decide

/-- A string between quotes, behind its opening quote, with more text behind it. -/
def quotedBefore (rest cs : List Char) : List Char := cs.flatMap escapeChar ++ '"' :: rest

theorem quotedBefore_plain {c : Char} (h : IsPlainChar c) (rest cs : List Char) :
    quotedBefore rest (c :: cs) = c :: quotedBefore rest cs := by
  simp [quotedBefore, escapeChar_of_isPlainChar h]

theorem quotedBefore_cons (c : Char) (rest cs : List Char) :
    quotedBefore rest (c :: cs) = escapeChar c ++ quotedBefore rest cs := by
  simp [quotedBefore]

/-- What follows plain characters in a string follows them in its written form. -/
theorem after?_quotedBefore {lead : List Char} (h : ∀ c ∈ lead, IsPlainChar c)
    (rest cs : List Char) :
    Text.after? lead (quotedBefore rest cs) =
      (Text.after? lead cs).map (quotedBefore rest) := by
  induction lead generalizing cs with
  | nil => rfl
  | cons l lead ih =>
    obtain ⟨hl, hlead⟩ := List.forall_mem_cons.1 h
    cases cs with
    | nil =>
      -- the closing quote is not plain
      simp [quotedBefore, Text.after?, hl.1]
    | cons c cs =>
      by_cases hc : IsPlainChar c
      · rw [quotedBefore_plain hc, Text.after?, Text.after?]
        by_cases hlc : l = c
        · rw [if_pos hlc, if_pos hlc, ih hlead]
        · rw [if_neg hlc, if_neg hlc, Option.map_none]
      · have hescaped := isEscaped_of_not_isPlainChar hc
        have hne : l ≠ c := fun h => hc (h ▸ hl)
        obtain ⟨marks, hmarks⟩ := List.head?_eq_some_iff.1 hescaped.backslash
        rw [quotedBefore_cons, hmarks, List.cons_append, Text.after?, Text.after?,
          if_neg hl.2.1, if_neg hne, Option.map_none]

theorem word?_of_not_isWord {c : Char} (h : Unicode.isWord c = false) (cs : List Char) :
    Text.word? (c :: cs) = none := by
  rw [Text.word?, List.takeWhile_cons_of_neg (by simp [h])]

/-- A string starts with the same word as its written form. -/
theorem takeWhile_isWord_quotedBefore (rest cs : List Char) :
    (quotedBefore rest cs).takeWhile Unicode.isWord = cs.takeWhile Unicode.isWord := by
  have hquote : Unicode.isWord '"' = false := by decide
  have hbackslash : Unicode.isWord '\\' = false := by decide
  induction cs with
  | nil => simp [quotedBefore, hquote]
  | cons c cs ih =>
    by_cases hc : IsPlainChar c
    · rw [quotedBefore_plain hc, List.takeWhile_cons, List.takeWhile_cons, ih]
    · have hescaped := isEscaped_of_not_isPlainChar hc
      obtain ⟨marks, hmarks⟩ := List.head?_eq_some_iff.1 hescaped.backslash
      rw [quotedBefore_cons, hmarks, List.cons_append,
        List.takeWhile_cons_of_neg (by simp [hbackslash]),
        List.takeWhile_cons_of_neg (by simp [hescaped.noWord])]

theorem word?_quotedBefore (rest cs : List Char) :
    Text.word? (quotedBefore rest cs) = Text.word? cs := by
  rw [Text.word?, Text.word?, takeWhile_isWord_quotedBefore]

/-! ## Numbers -/

section
variable {ds : List Char} (hds : ∀ c ∈ ds, Numeral.isNumeralChar c = true)
include hds

theorem isNumeralChar_layPositional (form : DecimalForm) (exponent : Int) :
    ∀ c ∈ form.layPositional ds exponent, Numeral.isNumeralChar c = true := by
  have hzeros (n : Nat) : ∀ c ∈ DecimalForm.zeros n, Numeral.isNumeralChar c = true :=
    fun c hc => List.eq_of_mem_replicate hc ▸ by decide
  have hpoint : Numeral.isNumeralChar '.' = true := by decide
  have hzero : Numeral.isNumeralChar '0' = true := by decide
  unfold DecimalForm.layPositional
  split
  · refine List.forall_mem_append.2 ⟨List.forall_mem_append.2 ⟨hds, hzeros _⟩, ?_⟩
    split
    · simp [hpoint, hzero]
    · simp
  · simp only
    split
    · exact List.forall_mem_append.2 ⟨fun c hc => hds c (List.mem_of_mem_take hc),
        List.forall_mem_cons.2 ⟨hpoint, fun c hc => hds c (List.mem_of_mem_drop hc)⟩⟩
    · exact List.forall_mem_append.2 ⟨List.forall_mem_cons.2 ⟨hzero,
        List.forall_mem_cons.2 ⟨hpoint, hzeros _⟩⟩, hds⟩

theorem isNumeralChar_layScientific (first : Int) :
    ∀ c ∈ DecimalForm.layScientific ds first, Numeral.isNumeralChar c = true := by
  have hexponent : ∀ c ∈ Nat.toDigits 10 first.natAbs, Numeral.isNumeralChar c = true :=
    fun c hc => Numeral.isNumeralChar_of_isDigit
      (Nat.isDigit_of_mem_toDigits (by decide) (by decide) hc)
  simp only [DecimalForm.layScientific]
  refine List.forall_mem_append.2 ⟨?mantissa, List.forall_mem_cons.2 ⟨by decide,
    List.forall_mem_cons.2 ⟨?sign, hexponent⟩⟩⟩
  case mantissa =>
    split
    · next d d' rest =>
      obtain ⟨hd, hrest⟩ := List.forall_mem_cons.1 hds
      exact List.forall_mem_cons.2 ⟨hd, List.forall_mem_cons.2 ⟨by decide, hrest⟩⟩
    · exact hds
  case sign => split <;> decide

end

theorem isNumeralChar_render (form : DecimalForm) (x : Binary64) :
    ∀ c ∈ (form.render x).toList, Numeral.isNumeralChar c = true := by
  have hdigits : ∀ c ∈ Nat.toDigits 10 (x.shortest form.tie).digits,
      Numeral.isNumeralChar c = true := fun c hc => Numeral.isNumeralChar_of_isDigit
        (Nat.isDigit_of_mem_toDigits (by decide) (by decide) hc)
  unfold DecimalForm.render
  simp only [String.toList_ofList]
  split
  · refine List.forall_mem_cons.2 ⟨by decide, ?_⟩
    split
    · exact isNumeralChar_layPositional hdigits form _
    · exact isNumeralChar_layScientific hdigits _
  · split
    · exact isNumeralChar_layPositional hdigits form _
    · exact isNumeralChar_layScientific hdigits _

theorem lead_not_mem_text (n : Number) : 'i' ∉ n.text.toList := by
  have hchars : ∀ c ∈ n.text.toList, Numeral.isNumeralChar c = true := by
    cases n with
    | int n => exact (Numeral.shaped_of_integer? (Numeral.integer?_toString n)).chars
    | real x => exact isNumeralChar_render .json x
  exact fun h => absurd (hchars 'i' h) (by decide)

/-! ## Words inside the text of a value -/

section
variable {α : Type} {lead : List Char} {wanted within : List Char → Option α}

/-- Words of plain characters, with an `i` in front of `lead`, and the same thing wanted behind them
in a string and in its written form, which ends in a quote with no word behind it. -/
structure IsSought (lead : List Char) (wanted within : List Char → Option α) : Prop where
  plain : ∀ c ∈ 'i' :: lead, IsPlainChar c
  behind : ∀ rest cs, Text.word? rest = none → wanted (quotedBefore rest cs) = within cs

/-- What is wanted behind some words in a quoted string is what is wanted behind them in the
string itself, if it is there. -/
theorem firstBehind_quotedBefore (h : IsSought lead wanted within) {rest : List Char}
    (hrest : Text.word? rest = none) (cs : List Char) :
    Text.firstBehind ('i' :: lead) wanted (quotedBefore rest cs) =
      (Text.firstBehind ('i' :: lead) within cs).or
        (Text.firstBehind ('i' :: lead) wanted rest) := by
  induction cs with
  | nil => exact Text.firstBehind_cons_of_ne lead wanted (by decide) rest
  | cons c cs ih =>
    by_cases hc : IsPlainChar c
    · have hhere : (Text.after? ('i' :: lead) (quotedBefore rest (c :: cs))).bind wanted =
          (Text.after? ('i' :: lead) (c :: cs)).bind within := by
        rw [after?_quotedBefore h.plain, Option.bind_map]
        exact Option.bind_congr fun behind _ => h.behind rest behind hrest
      rw [quotedBefore_plain hc] at hhere ⊢
      rw [Text.firstBehind_cons, Text.firstBehind_cons, hhere, ih, Option.or_assoc]
    · have hescaped := isEscaped_of_not_isPlainChar hc
      have hne : 'i' ≠ c := fun hi => hc (hi ▸ h.plain 'i' List.mem_cons_self)
      rw [quotedBefore_cons, Text.firstBehind_append_of_not_mem lead wanted hescaped.noLead, ih,
        Text.firstBehind_cons_of_ne lead within hne]

theorem firstBehind_quote (h : IsSought lead wanted within) {rest : List Char}
    (hrest : Text.word? rest = none) (s : String) :
    Text.firstBehind ('i' :: lead) wanted (quote s ++ rest) =
      (Text.firstAmong ('i' :: lead) within [s]).or
        (Text.firstBehind ('i' :: lead) wanted rest) := by
  have hquote : quote s ++ rest = '"' :: quotedBefore rest s.toList := by
    simp [quote, quotedBefore]
  rw [hquote, Text.firstBehind_cons_of_ne lead wanted (by decide),
    firstBehind_quotedBefore h hrest, Text.firstAmong, List.findSome?_singleton]

/-- A quoted key with its colon. -/
theorem firstBehind_key (h : IsSought lead wanted within) (key : String) (rest : List Char) :
    Text.firstBehind ('i' :: lead) wanted (quote key ++ ':' :: rest) =
      (Text.firstAmong ('i' :: lead) within [key]).or
        (Text.firstBehind ('i' :: lead) wanted rest) := by
  rw [firstBehind_quote h (word?_of_not_isWord (by decide) rest),
    Text.firstBehind_cons_of_ne lead wanted (by decide)]

mutual

/-- What is wanted behind some words in the text of a value is what is wanted behind them in the
first of its strings and keys where it is there. -/
theorem firstBehind_chars (h : IsSought lead wanted within) {rest : List Char}
    (hrest : Text.word? rest = none) (j : Json) :
    Text.firstBehind ('i' :: lead) wanted (j.chars ++ rest) =
      (Text.firstAmong ('i' :: lead) within j.texts).or
        (Text.firstBehind ('i' :: lead) wanted rest) := by
  cases j with
  | null => exact Text.firstBehind_append_of_not_mem lead wanted (by decide) rest
  | bool b =>
    cases b <;> exact Text.firstBehind_append_of_not_mem lead wanted (by decide) rest
  | num n => exact Text.firstBehind_append_of_not_mem lead wanted (lead_not_mem_text n) rest
  | str s => exact firstBehind_quote h hrest s
  | arr items =>
    have hchars : (arr items).chars ++ rest = '[' :: (charsItems items ++ ']' :: rest) := by
      simp [chars]
    rw [hchars, Text.firstBehind_cons_of_ne lead wanted (by decide),
      firstBehind_charsItems h (word?_of_not_isWord (by decide) rest) items,
      Text.firstBehind_cons_of_ne lead wanted (by decide), texts]
  | obj members =>
    have hchars : (obj members).chars ++ rest =
        '\x7b' :: (charsMembers members ++ '\x7d' :: rest) := by
      simp [chars]
    rw [hchars, Text.firstBehind_cons_of_ne lead wanted (by decide),
      firstBehind_charsMembers h (word?_of_not_isWord (by decide) rest) members,
      Text.firstBehind_cons_of_ne lead wanted (by decide), texts]

theorem firstBehind_charsItems (h : IsSought lead wanted within) {rest : List Char}
    (hrest : Text.word? rest = none) (items : List Json) :
    Text.firstBehind ('i' :: lead) wanted (charsItems items ++ rest) =
      (Text.firstAmong ('i' :: lead) within (textsItems items)).or
        (Text.firstBehind ('i' :: lead) wanted rest) := by
  match items with
  | [] => rfl
  | [x] =>
    rw [charsItems, firstBehind_chars h hrest x, textsItems, textsItems, List.append_nil]
  | x :: y :: items =>
    have hchars : charsItems (x :: y :: items) ++ rest =
        x.chars ++ ',' :: (charsItems (y :: items) ++ rest) := by
      simp [charsItems]
    have htexts : textsItems (x :: y :: items) = x.texts ++ textsItems (y :: items) := rfl
    rw [hchars, htexts, firstBehind_chars h (word?_of_not_isWord (by decide) _) x,
      Text.firstBehind_cons_of_ne lead wanted (by decide),
      firstBehind_charsItems h hrest (y :: items), Text.firstAmong_append, Option.or_assoc]

theorem firstBehind_charsMembers (h : IsSought lead wanted within) {rest : List Char}
    (hrest : Text.word? rest = none) (members : Members) :
    Text.firstBehind ('i' :: lead) wanted (charsMembers members ++ rest) =
      (Text.firstAmong ('i' :: lead) within (textsMembers members)).or
        (Text.firstBehind ('i' :: lead) wanted rest) := by
  match members with
  | [] => rfl
  | [(key, x)] =>
    have hchars : charsMembers [(key, x)] ++ rest = quote key ++ ':' :: (x.chars ++ rest) := by
      simp [charsMembers]
    rw [hchars, firstBehind_key h, firstBehind_chars h hrest x, textsMembers,
      textsMembers, List.append_nil, Text.firstAmong_append, Option.or_assoc]
  | (key, x) :: m :: members =>
    have hchars : charsMembers ((key, x) :: m :: members) ++ rest =
        quote key ++ ':' :: (x.chars ++ ',' :: (charsMembers (m :: members) ++ rest)) := by
      simp [charsMembers]
    have htexts : textsMembers ((key, x) :: m :: members) =
        [key] ++ (x.texts ++ textsMembers (m :: members)) := rfl
    rw [hchars, htexts, firstBehind_key h,
      firstBehind_chars h (word?_of_not_isWord (by decide) _) x,
      Text.firstBehind_cons_of_ne lead wanted (by decide),
      firstBehind_charsMembers h hrest (m :: members), Text.firstAmong_append,
      Text.firstAmong_append, Option.or_assoc, Option.or_assoc]

end

end

end Json
end FlowCheck
