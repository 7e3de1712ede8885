import FlowCheck.Proofs.Json.Texts
import FlowCheck.Proofs.Schema.Declared
import FlowCheck.Proofs.Schema.OwnHint

/-!
# The type that a message names

The statement that a value is of a wrong type starts with the text of the value, and the expected
type is read behind the first words that announce one.  A string or key of the value that holds
these words, with a word behind them, is therefore taken at its word (`Json.announced?`); without
such a text the message names the type that the schema declares at the place, and the type of the
value in every case (`DocumentKind.names_type_iff`).
-/

namespace FlowCheck

namespace Violation

/-- What stands behind the end of the words that announce a type, in plural or singular. -/
def announced? (cs : List Char) : Option (List Char) :=
  (Text.after? ['s', ' '] cs).or (Text.after? [' '] cs)

/-- The word behind the words that announce a type, inside a string: there is no quote in front of
it, as a quote in a string is written with a backslash. -/
def announcedWord? (cs : List Char) : Option (List Char) := (announced? cs).bind Text.word?

end Violation

/-- The word that the strings and keys of a value announce as a type. -/
def Json.announced? (j : Json) : Option String :=
  (Text.firstAmong "is not of type".toList Violation.announcedWord? j.texts).map String.ofList

namespace Violation

/-! ## Reading a statement -/

theorem typeWord?_of_head_ne_quote {cs : List Char} (h : cs.head? ≠ some '"') :
    typeWord? cs = Text.word? cs := by
  unfold typeWord?
  split
  · exact absurd rfl h
  · rfl

theorem typeWord?_quotedBefore {rest : List Char} (hrest : Text.word? rest = none)
    (cs : List Char) : typeWord? (Json.quotedBefore rest cs) = Text.word? cs := by
  cases cs with
  | nil => exact hrest
  | cons c cs =>
    have hhead : (Json.quotedBefore rest (c :: cs)).head? ≠ some '"' := by
      by_cases hc : Json.IsPlainChar c
      · rw [Json.quotedBefore_plain hc]
        exact fun h => hc.1 (Option.some.inj h)
      · obtain ⟨marks, hmarks⟩ :=
          List.head?_eq_some_iff.1 (Json.isEscaped_of_not_isPlainChar hc).backslash
        rw [Json.quotedBefore_cons, hmarks]
        exact fun h => absurd (Option.some.inj h) (by decide)
    rw [typeWord?_of_head_ne_quote hhead, Json.word?_quotedBefore]

theorem announcedType?_eq (cs : List Char) :
    announcedType? cs = (announced? cs).bind typeWord? := by
  unfold announcedType?
  split
  · rfl
  · rfl
  · next hplural hsingular =>
    have hnone : announced? cs = none := by
      rw [announced?, Option.or_eq_none_iff, Option.eq_none_iff_forall_ne_some,
        Option.eq_none_iff_forall_ne_some]
      exact ⟨fun rest h => hplural rest (Text.eq_append_of_after? h),
        fun rest h => hsingular rest (Text.eq_append_of_after? h)⟩
    rw [hnone, Option.bind_none]

theorem isSought_announcedType :
    Json.IsSought "s not of type".toList announcedType? announcedWord? where
  plain := by simp [Json.IsPlainChar]
  behind := by
    intro rest cs hrest
    have hplain : ∀ c ∈ ['s', ' '], Json.IsPlainChar c := by simp [Json.IsPlainChar]
    rw [announcedType?_eq, announcedWord?, announced?, announced?,
      Json.after?_quotedBefore hplain,
      Json.after?_quotedBefore fun c hc => hplain c (List.mem_cons_of_mem _ hc), ← Option.map_or,
      Option.bind_map]
    exact Option.bind_congr fun behind _ => typeWord?_quotedBefore hrest behind

theorem announcedType?_typeName (expected : Json.Kind) :
    Text.firstBehind "is not of type".toList announcedType?
      (" is not of type \"" ++ expected.name ++ "\"").toList = some expected.name.toList := by
  cases expected <;> decide

/-- The type that a statement names is the one that a text of the value announces, and the expected
type where there is no such text. -/
theorem namedType_typeStatement (value : Json) (expected : Json.Kind) :
    namedType (typeStatement value expected) = value.announced?.getD expected.name := by
  have hchars : (typeStatement value expected).toList =
      value.chars ++ (" is not of type \"" ++ expected.name ++ "\"").toList := by
    simp [typeStatement, Json.text]
  have hrest : Text.word? (" is not of type \"" ++ expected.name ++ "\"").toList = none := by
    cases expected <;> decide
  have hfound : Text.firstBehind "is not of type".toList announcedType?
      (value.chars ++ (" is not of type \"" ++ expected.name ++ "\"").toList) =
      (Text.firstAmong "is not of type".toList announcedWord? value.texts).or
        (some expected.name.toList) := by
    rw [← announcedType?_typeName expected]
    exact Json.firstBehind_chars isSought_announcedType hrest value
  rw [namedType, hchars, hfound, Json.announced?]
  cases Text.firstAmong "is not of type".toList announcedWord? value.texts with
  | none => simp
  | some word => simp

end Violation

/-! ## Messages -/

theorem Json.comma_not_mem_of_announced? {j : Json} {word : String}
    (h : j.announced? = some word) : ',' ∉ word.toList := by
  obtain ⟨cs, hfound, rfl⟩ := Option.map_eq_some_iff.1 h
  obtain ⟨text, -, htext⟩ := List.exists_of_findSome?_eq_some hfound
  obtain ⟨rest, -, hannounced⟩ := Text.exists_wanted_of_firstBehind htext
  obtain ⟨behind, -, hword⟩ := Option.bind_eq_some_iff.1 hannounced
  rw [String.toList_ofList]
  exact fun hmem => absurd (Text.isWord_of_word? hword _ hmem) (by decide)

/-- The message begins with the statement that a value of type `given` stands where the type
`expected` is expected. -/
def Diagnostic.NamesTypes (d : Diagnostic) (expected given : String) : Prop :=
  ∃ added, d.message = "Invalid type. Expected: " ++ expected ++ ", given: " ++ given ++ added

/-- A message names one expected type, as far as there is no comma in it. -/
theorem Diagnostic.NamesTypes.expected_eq {d : Diagnostic} {expected other given : String}
    (h : d.NamesTypes expected given) (hother : d.NamesTypes other given)
    (hcomma : ',' ∉ expected.toList) (hcommaOther : ',' ∉ other.toList) : expected = other := by
  obtain ⟨added, hadded⟩ := h
  obtain ⟨addedOther, haddedOther⟩ := hother
  have hchars := congrArg String.toList (hadded.symm.trans haddedOther)
  simp only [String.toList_append, List.append_assoc, List.append_cancel_left_eq] at hchars
  have hfront {front : String} (h : ',' ∉ front.toList) (back : List Char) :
      (front.toList ++ (", given: ".toList ++ back)).takeWhile (· != ',') = front.toList := by
    rw [List.takeWhile_append_of_pos fun c hc => bne_iff_ne.2 (ne_of_mem_of_not_mem hc h)]
    exact List.append_nil _
  rw [← String.toList_inj, ← hfront hcomma, hchars, hfront hcommaOther]

theorem Json.Kind.comma_not_mem_name (kind : Json.Kind) : ',' ∉ kind.name.toList := by
  cases kind <;> decide

theorem Finding.namesTypes_of_wrongKind {f : Finding} {expected : Json.Kind}
    (hcause : f.violation.cause = .wrongKind expected) :
    f.diagnostic.NamesTypes (f.violation.value.announced?.getD expected.name)
      f.violation.value.kind.name := by
  obtain ⟨added, hadded⟩ := f.exists_added
  refine ⟨added, hadded.trans ?_⟩
  simp only [Finding.sentence, Violation.sentence, hcause, Violation.namedType_typeStatement]

theorem Violation.Cause.exists_wrongKind_of_checkKind {cause : Violation.Cause}
    (h : cause.checkKind = .type) : ∃ expected, cause = .wrongKind expected := by
  cases cause with
  | wrongKind expected => exact ⟨expected, rfl⟩
  | _ => contradiction

/-- A message about a type names the type of the value.  As the expected type it names the word that
a text inside the value announces, and the type that the schema declares at the place if there is no
such text; so it names that type exactly when no text announces another word. -/
theorem DocumentKind.names_type_iff (kind : DocumentKind) (doc : Json) :
    kind.diagnoseAll doc = (kind.findings doc).map Finding.diagnostic ∧
      ∀ f ∈ kind.findings doc, f.diagnostic.kind = .type →
        ∃ s expected value, f.kind.schema.at? f.location = some s ∧ s.kind? = some expected ∧
          f.diagnostic.value = some value ∧
          f.diagnostic.NamesTypes (value.announced?.getD expected.name) value.kind.name ∧
          (f.diagnostic.NamesTypes expected.name value.kind.name ↔
            ∀ word, value.announced? = some word → word = expected.name) := by
  refine ⟨diagnoseAll_eq_map kind doc, fun f hf hkind => ?_⟩
  obtain ⟨expected, hcause⟩ := Violation.Cause.exists_wrongKind_of_checkKind hkind
  obtain ⟨s, hs, hexpected⟩ := kind?_of_wrongKind hf hcause
  have hvalue : f.diagnostic.value = some f.violation.value := by
    simp only [Finding.diagnostic, Violation.diagnostic, hcause]
  have hnames := Finding.namesTypes_of_wrongKind hcause
  refine ⟨s, expected, f.violation.value, hs, hexpected, hvalue, hnames, ?_, ?_⟩
  · intro hdeclared word hword
    rw [hword, Option.getD_some] at hnames
    exact hnames.expected_eq hdeclared (Json.comma_not_mem_of_announced? hword)
      expected.comma_not_mem_name
  · intro hsame
    cases hannounced : f.violation.value.announced? with
    | none => rwa [hannounced] at hnames
    | some word =>
      rw [hannounced, Option.getD_some, hsame word hannounced] at hnames
      exact hnames

/-- A resource with a text for a list, and the text announces a type. -/
def announcingRequires : Json :=
  .obj [("metadata", .obj [("actionId", .str "a"),
      ("requires", .str "is not of type string")]), ("run", .obj [])]

theorem DocumentKind.type_named_by_value :
    (resource.diagnoseAll announcingRequires).map (fun d => (d.field, d.kind, d.message)) =
        [("metadata.requires", .type, "Invalid type. Expected: string, given: string" ++
          ". Expected type: string. Example: \"example\"")] ∧
      (Schema.resource.at? [.key "metadata", .key "requires"]).bind Schema.kind? = some .array := by
  exact ⟨by decide +kernel, rfl⟩

end FlowCheck
