import FlowCheck.Proofs.Hints.Example
import FlowCheck.Proofs.Hints.Hint
import FlowCheck.Proofs.Number.Numeral

/-!
# The example in a message

A hint can end in a clause that shows an example.  Which one it shows depends on the field, the
category and the words of the sentence (`Hint.example?`), and reading the clause off the message
gives this example back (`Hint.exampleIn?_of_enhance`).
-/

namespace FlowCheck
namespace Hint

/-- What stands behind the words of the clause. -/
def exampleIn? (added : String) : Option String :=
  (Text.firstBehind "Example: ".toList some added.toList).map String.ofList

/-- The sentence, or its category, tells a type. -/
def TellsType (category description : String) : Prop :=
  category = "type" ∨ Text.contains description "Invalid type" = true ∨
    Text.contains description "Expected:" = true

instance (category description : String) : Decidable (TellsType category description) := by
  unfold TellsType
  infer_instance

/-- The sentence is about a format. -/
def TellsFormat (description : String) : Prop :=
  Text.contains description "pattern" = true ∨ Text.contains description "does not match" = true

instance (description : String) : Decidable (TellsFormat description) := by
  unfold TellsFormat
  infer_instance

/-- The example that the hint for a field without options shows. -/
def example? (field category description : String) : Option String :=
  if TellsType category description then
    if Text.contains description "given" then
      (expectedType? description).bind fun expected =>
        Example.ofField? field <|> Example.ofType? expected
    else none
  else if Text.contains description "required" then Example.ofField? field
  else if TellsFormat description ∧
      routeFields.any (FieldPath.endsIn (FieldPath.normalize field)) = true then
    some "'/api/users'"
  else none

/-- What an example is shown for. -/
theorem example?_cases {field category description ex : String}
    (h : example? field category description = some ex) :
    (TellsType category description ∧ ∃ type, expectedType? description = some type ∧
        (Example.ofField? field = some ex ∨
          Example.ofField? field = none ∧ Example.ofType? type = some ex)) ∨
      (¬ TellsType category description ∧ Text.contains description "required" = true ∧
        Example.ofField? field = some ex) ∨
      (¬ TellsType category description ∧ TellsFormat description ∧
        endInRoute (FieldPath.names field) = true ∧ ex = "'/api/users'") := by
  unfold example? at h
  by_cases htype : TellsType category description
  · rw [if_pos htype] at h
    split at h
    · obtain ⟨type, htold, hex⟩ := Option.bind_eq_some_iff.1 h
      exact .inl ⟨htype, type, htold, (Option.orElse_eq_some _ _ _).1 hex⟩
    · contradiction
  · rw [if_neg htype] at h
    refine .inr ?_
    split at h
    · next hrequired => exact .inl ⟨htype, hrequired, h⟩
    · split at h
      · next hformat =>
        rw [any_endsIn_routeFields] at hformat
        exact .inr ⟨htype, hformat.1, hformat.2, (Option.some.inj h).symm⟩
      · contradiction

/-! ## Reading the clause -/

theorem exampleIn?_eq_none_iff {added : String} :
    exampleIn? added = none ↔ Text.contains added "Example: " = false := by
  rw [exampleIn?, Option.map_eq_none_iff, Text.contains, Text.occursIn, Option.isSome_eq_false_iff,
    Option.isNone_iff_eq_none]

theorem exampleIn?_append_clause {front : String}
    (hfront : Text.apart "Example: ".toList front.toList = true) (ex : String) :
    exampleIn? (front ++ "Example: " ++ ex) = some ex := by
  rw [exampleIn?, String.toList_append, String.toList_append, List.append_assoc,
    Text.firstBehind_append_of_apart some hfront, Text.firstBehind_some_append]
  simp

/-! ## The hints one by one -/

/-- What a hint adds to a sentence. -/
def addition (hint : String) : String := if hint = "" then "" else ". " ++ hint

theorem addition_of_append {description hint added : String}
    (h : append description hint = description ++ added) : added = addition hint := by
  unfold addition
  split
  · next hempty =>
    rw [append, if_pos (by simpa using hempty)] at h
    exact (String.append_right_inj _).1 (h.symm.trans String.append_empty.symm)
  · next hne =>
    rw [append_of_ne_empty hne] at h
    exact ((String.append_right_inj _).1 h).symm

theorem isWord_of_expectedType? {description expected : String}
    (h : expectedType? description = some expected) :
    ∀ c ∈ expected.toList, Unicode.isWord c = true := by
  unfold expectedType? at h
  rw [Option.orElse_eq_some] at h
  rcases h with h | ⟨-, h⟩
  · have hbuiltin : ∀ type ∈ builtinTypes, type.toList.all Unicode.isWord = true := by decide
    exact List.all_eq_true.1 (hbuiltin expected (List.mem_of_find?_eq_some h))
  · obtain ⟨word, hword, rfl⟩ := Option.map_eq_some_iff.1 h
    obtain ⟨rest, -, hfound⟩ := Text.exists_wanted_of_firstBehind hword
    rw [String.toList_ofList]
    exact Text.isWord_of_word? hfound

/-- The clause does not occur in a word. -/
theorem clause_not_in_word {word : String} (h : ∀ c ∈ word.toList, Unicode.isWord c = true) :
    ¬ "Example: ".toList <:+: word.toList := by
  intro hoccurs
  have hblank : ' ' ∈ "Example: ".toList := by decide
  exact absurd (h ' ' (hoccurs.subset hblank)) (by decide)

theorem exampleIn?_addition_type {expected : String}
    (hword : ∀ c ∈ expected.toList, Unicode.isWord c = true) (ex : Option String) :
    exampleIn? (addition ("Expected type: " ++ expected ++ ex.elim "" (". Example: " ++ ·))) =
      ex := by
  have hfront : Text.apart "Example: ".toList ". Expected type: ".toList = true := by decide
  rw [addition, if_neg (by simp)]
  cases ex with
  | none =>
    rw [exampleIn?_eq_none_iff, Bool.eq_false_iff, ne_eq, Text.contains_iff]
    intro hoccurs
    have hchars : (". " ++ ("Expected type: " ++ expected ++ "")).toList =
        ". Expected type: ".toList ++ expected.toList := by
      simp
    exact clause_not_in_word hword (Text.infix_of_apart hfront (hchars ▸ hoccurs))
  | some ex =>
    have hchars : (". " ++ ("Expected type: " ++ expected ++ (". Example: " ++ ex))).toList =
        ". Expected type: ".toList ++ (expected.toList ++ '.' :: ([' '] ++
          ("Example: ".toList ++ ex.toList))) := by
      simp
    rw [exampleIn?, Option.elim_some, hchars, Text.firstBehind_append_of_apart some hfront,
      Text.firstBehind_append_cons some (by decide) (by decide) (clause_not_in_word hword),
      Text.firstBehind_append_of_apart some (by decide), Text.firstBehind_some_append]
    simp

theorem exampleIn?_addition_forType (field description : String) :
    exampleIn? (addition (forType field description)) =
      if Text.contains description "given" then
        (expectedType? description).bind fun expected =>
          Example.ofField? field <|> Example.ofType? expected
      else none := by
  cases hexpected : expectedType? description with
  | none =>
    have hempty : forType field description = "" := by rw [forType, hexpected]
    rw [hempty, Option.bind_none, ite_self]
    rfl
  | some expected =>
    have hword := isWord_of_expectedType? hexpected
    by_cases hgiven : Text.contains description "given" = true
    · rw [forType_eq hexpected hgiven, exampleIn?_addition_type hword, if_pos hgiven,
        Option.bind_some]
    · have hhint : forType field description =
          "Expected type: " ++ expected ++ (none : Option String).elim "" (". Example: " ++ ·) := by
        rw [forType, hexpected]
        simp [hgiven]
      rw [hhint, exampleIn?_addition_type hword, if_neg hgiven]

theorem exampleIn?_addition_forRequired (field : String) :
    exampleIn? (addition (forRequired field)) = Example.ofField? field := by
  rw [forRequired_eq_example, addition, if_neg (by simp)]
  cases Example.ofField? field with
  | none => decide
  | some ex =>
    have hclause : (". " ++ ("This field is required" ++
        (some ex).elim "" (". Example: " ++ ·)) : String) =
        ". This field is required. " ++ "Example: " ++ ex := by
      rw [← String.toList_inj]
      simp
    rw [hclause, exampleIn?_append_clause (by decide)]

theorem exampleIn?_addition_forPattern (field : String) :
    exampleIn? (addition (forPattern field)) =
      if routeFields.any (FieldPath.endsIn (FieldPath.normalize field)) = true then
        some "'/api/users'"
      else none := by
  unfold forPattern
  split
  · have hfront : Text.apart "Example: ".toList ". Must start with '/'. ".toList = true := by decide
    exact exampleIn?_append_clause hfront "'/api/users'"
  · decide

theorem x_not_mem_toString (n : Int) : 'x' ∉ (toString n).toList := fun h =>
  absurd ((Numeral.shaped_of_integer? (Numeral.integer?_toString n)).chars 'x' h) (by decide)

theorem x_not_mem_append {front : String} (hfront : 'x' ∉ front.toList) (n : Int) :
    'x' ∉ (front ++ toString n).toList := by
  rw [String.toList_append, List.mem_append, not_or]
  exact ⟨hfront, x_not_mem_toString n⟩

theorem x_not_mem_between (low high : Int) : 'x' ∉ (between low high).toList := by
  refine x_not_mem_append ?_ high
  rw [String.toList_append, List.mem_append, not_or]
  exact ⟨x_not_mem_append (by decide) low, by decide⟩

theorem x_not_mem_forRange (field description : String) :
    'x' ∉ (forRange field description).toList := by
  unfold forRange
  split
  · exact x_not_mem_between _ _
  · split
    · exact x_not_mem_between _ _
    · exact x_not_mem_append (by decide) _
    · exact x_not_mem_append (by decide) _
    · decide

/-- No example is shown with a range. -/
theorem exampleIn?_addition_forRange (field description : String) :
    exampleIn? (addition (forRange field description)) = none := by
  have hclause : 'x' ∈ "Example: ".toList := by decide
  have hrange : 'x' ∉ (addition (forRange field description)).toList := by
    unfold addition
    split
    · decide
    · rw [String.toList_append, List.mem_append, not_or]
      exact ⟨by decide, x_not_mem_forRange field description⟩
  rw [exampleIn?_eq_none_iff, Bool.eq_false_iff, ne_eq, Text.contains_iff]
  exact fun hoccurs => hrange (hoccurs.subset hclause)

/-! ## Options -/

/-- The options of all fields. -/
def knownOptions : List Options :=
  Options.workflowKinds :: Options.resourceKinds :: Options.fields.map Prod.snd ++
    Options.contextWords.map Options.ContextWord.options

theorem mem_knownOptions_of_ofField? {field : String} {kind : DocumentKind} {options : Options}
    (h : Options.ofField? field kind = some options) : options ∈ knownOptions := by
  have hresource : Options.resourceKinds ∈ knownOptions :=
    List.mem_cons_of_mem _ List.mem_cons_self
  have hfields {f : String × Options} (hf : f ∈ Options.fields) : f.2 ∈ knownOptions :=
    List.mem_append_left _ (List.mem_cons_of_mem _
      (List.mem_cons_of_mem _ (List.mem_map_of_mem hf)))
  rw [Options.ofField?_eq_ofNames?] at h
  unfold Options.ofNames? at h
  split at h
  · contradiction
  · split at h
    · cases kind with
      | workflow => exact Option.some.inj h ▸ List.mem_cons_self
      | resource => exact Option.some.inj h ▸ hresource
    · split at h
      · exact Option.some.inj h ▸ hresource
      · split at h
        · next f hf => exact Option.some.inj h ▸ hfields (List.mem_of_find?_eq_some hf)
        · obtain ⟨w, hw, hcontext⟩ := Option.bind_eq_some_iff.1 h
          have hmem : w.options ∈ knownOptions :=
            List.mem_append_right _ (List.mem_map_of_mem (List.mem_of_find?_eq_some hw))
          have hsome : some w.options = some options := by
            split at hcontext
            · split at hcontext
              · exact hcontext
              · contradiction
            · split at hcontext
              · exact hcontext
              · contradiction
          exact Option.some.inj hsome ▸ hmem

theorem colon_not_mem_render : ∀ options ∈ knownOptions, ':' ∉ options.render.toList := by
  decide +kernel

/-- No example is shown with options. -/
theorem exampleIn?_optionList {options : Options} (h : options ∈ knownOptions) :
    exampleIn? (optionList options) = none := by
  have hfront : Text.apart "Example: ".toList ". Available options: ".toList = true := by decide
  have hcolon : ':' ∈ "Example: ".toList := by decide
  have hchars : (optionList options).toList =
      ". Available options: ".toList ++ options.render.toList := String.toList_append
  rw [exampleIn?_eq_none_iff, Bool.eq_false_iff, ne_eq, Text.contains_iff, hchars]
  intro hoccurs
  exact colon_not_mem_render options h ((Text.infix_of_apart hfront hoccurs).subset hcolon)

/-! ## The whole message -/

/-- The clause of a message shows the example that the tables give for the hint. -/
theorem exampleIn?_of_enhance {field category description added : String} {kind : DocumentKind}
    (h : enhance field category description kind = description ++ added) :
    exampleIn? added =
      if (Options.ofField? field kind).isSome then none
      else example? field category description := by
  cases hoptions : Options.ofField? field kind with
  | some options =>
    rw [enhance_of_options hoptions] at h
    obtain rfl : optionList options = added := (String.append_right_inj _).1 h
    rw [exampleIn?_optionList (mem_knownOptions_of_ofField? hoptions)]
    rfl
  | none =>
    unfold enhance at h
    rw [hoptions] at h
    simp only [Option.isSome_none, Bool.false_eq_true, if_false] at h ⊢
    unfold example?
    by_cases htype : TellsType category description
    · rw [if_pos (isType_iff.2 htype)] at h
      rw [if_pos htype, addition_of_append h, exampleIn?_addition_forType]
    rw [if_neg (isType_iff.not.2 htype)] at h
    rw [if_neg htype]
    by_cases hrequired : Text.contains description "required" = true
    · rw [if_pos hrequired] at h ⊢
      rw [addition_of_append h, exampleIn?_addition_forRequired]
    rw [if_neg hrequired] at h ⊢
    by_cases hformat : TellsFormat description
    · rw [if_pos (Bool.or_eq_true_iff.2 hformat)] at h
      rw [addition_of_append h, exampleIn?_addition_forPattern]
      simp only [hformat, true_and]
    rw [if_neg (Bool.or_eq_true_iff.not.2 hformat)] at h
    rw [if_neg fun hboth => hformat hboth.1]
    split at h
    · rw [addition_of_append h, exampleIn?_addition_forRange]
    · rw [(String.append_right_inj _).1 (h.symm.trans String.append_empty.symm)]
      rfl

end Hint
end FlowCheck
