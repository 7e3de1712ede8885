import FlowCheck.Hints.Hint
import FlowCheck.Proofs.Text.Search

/-!
# What is appended to a sentence

The text appended to a sentence is a list of options, if the field has any; otherwise it is a hint
on one topic, which the category of the finding or words of the sentence tell
(`Hint.enhance_of_no_options`).  The opening words of a hint say which of these it is.
-/

namespace FlowCheck
namespace Hint

/-- What a hint is about, if it is no list of options. -/
inductive Topic where
  | type | required | format | range
deriving DecidableEq

namespace Topic

/-- The words of a sentence that tell the topic. -/
def marks : Topic → List String
  | type => ["Invalid type", "Expected:"]
  | required => ["required"]
  | format => ["pattern", "does not match"]
  | range => rangePhrases

/-- The words that a hint on the topic opens with. -/
def openings : Topic → List String
  | type => ["Expected type: "]
  | required => ["This field is required"]
  | format => [routeHint, "Check the format requirements for this field"]
  | range => ["Value must be "]

/-- What is appended is a hint on the topic. -/
def IsOf (topic : Topic) (added : String) : Prop :=
  ∃ opening ∈ topic.openings, ∃ rest, added = ". " ++ opening ++ rest

/-- The category is that of the topic, or some word tells it. -/
def IsTold (topic : Topic) (category description : String) : Prop :=
  if category = "type" then topic = type
  else ∃ mark ∈ topic.marks, Text.contains description mark = true

theorem isTold_of_category {category : String} (h : category = "type") (description : String) :
    type.IsTold category description := by
  rw [IsTold, if_pos h]

theorem isTold_of_mark {topic : Topic} {category description mark : String}
    (h : category ≠ "type") (hmark : mark ∈ topic.marks)
    (hcontains : Text.contains description mark = true) : topic.IsTold category description := by
  rw [IsTold, if_neg h]
  exact ⟨mark, hmark, hcontains⟩

end Topic

/-- What is appended for a field with options. -/
def optionList (options : Options) : String := ". Available options: " ++ options.render

theorem append_of_ne_empty {description hint : String} (h : hint ≠ "") :
    append description hint = description ++ (". " ++ hint) := by
  rw [append, if_neg (by simpa using h), String.append_assoc]

theorem enhance_of_options {field : String} {kind : DocumentKind} {options : Options}
    (h : Options.ofField? field kind = some options) (category description : String) :
    enhance field category description kind = description ++ optionList options := by
  have hne : "Available options: " ++ options.render ≠ "" := by simp
  have hopening : (". " ++ "Available options: " : String) = ". Available options: " := rfl
  unfold enhance optionList
  rw [h]
  simp only
  rw [append_of_ne_empty hne, ← hopening, String.append_assoc]

/-! ## Hints without options -/

theorem forType_cases (field description : String) : forType field description = "" ∨
    ∃ rest, forType field description = "Expected type: " ++ rest := by
  unfold forType
  split
  · exact .inl rfl
  · right
    simp only
    split
    · split
      · exact ⟨_, by rw [String.append_assoc, String.append_assoc]⟩
      · exact ⟨_, rfl⟩
    · exact ⟨_, rfl⟩

theorem forRequired_eq (field : String) :
    ∃ rest, forRequired field = "This field is required" ++ rest := by
  unfold forRequired
  split
  · next ex _ =>
    refine ⟨". Example: " ++ ex, ?_⟩
    rw [← String.append_assoc]
    rfl
  · exact ⟨"", rfl⟩

theorem forPattern_mem (field : String) : forPattern field ∈ Topic.format.openings := by
  unfold forPattern
  split
  · exact List.mem_cons_self
  · exact List.mem_cons_of_mem _ List.mem_cons_self

theorem between_eq (low high : Int) : ∃ rest, between low high = "Value must be " ++ rest := by
  have hopening : ("Value must be between " : String) = "Value must be " ++ "between " := rfl
  refine ⟨"between " ++ toString low ++ " and " ++ toString high, ?_⟩
  unfold between
  rw [hopening]
  simp only [String.append_assoc]

theorem forRange_cases (field description : String) : forRange field description = "" ∨
    ∃ rest, forRange field description = "Value must be " ++ rest := by
  unfold forRange
  split
  · exact .inr (between_eq _ _)
  · split
    · exact .inr (between_eq _ _)
    · next low _ =>
      refine .inr ⟨"at least " ++ toString low, ?_⟩
      rw [← String.append_assoc]
      rfl
    · next high _ =>
      refine .inr ⟨"at most " ++ toString high, ?_⟩
      rw [← String.append_assoc]
      rfl
    · exact .inl rfl

/-- What is appended says nothing, or is a hint on a topic that is told. -/
def IsToldHint (category description added : String) : Prop :=
  added = "" ∨ ∃ topic : Topic, topic.IsTold category description ∧ topic.IsOf added

/-- A hint that opens like one on a topic that is told is appended as such, unless it is empty. -/
theorem append_isToldHint {topic : Topic} {category description hint opening : String}
    (htold : topic.IsTold category description) (hopening : opening ∈ topic.openings)
    (h : hint = "" ∨ ∃ rest, hint = opening ++ rest) :
    ∃ added, append description hint = description ++ added ∧
      IsToldHint category description added := by
  by_cases hempty : hint = ""
  · exact ⟨"", by simp [append, hempty], .inl rfl⟩
  · obtain ⟨rest, rfl⟩ := h.resolve_left hempty
    exact ⟨_, append_of_ne_empty hempty, .inr ⟨topic, htold, opening, hopening, rest, by
      rw [String.append_assoc]⟩⟩

/-- What is appended for a field without options is a hint on the topic that is told, if
anything. -/
theorem enhance_of_no_options {field : String} {kind : DocumentKind}
    (h : Options.ofField? field kind = none) (category description : String) :
    ∃ added, enhance field category description kind = description ++ added ∧
      IsToldHint category description added := by
  unfold enhance
  rw [h]
  simp only [Bool.or_eq_true, decide_eq_true_eq, List.any_eq_true]
  by_cases htype : category = "type"
  · rw [if_pos (.inl (.inl htype))]
    exact append_isToldHint (Topic.isTold_of_category htype description) List.mem_cons_self
      (forType_cases field description)
  split
  · next hwords =>
    have hmark : ∃ mark ∈ Topic.type.marks, Text.contains description mark = true := by
      simpa [Topic.marks, htype] using hwords
    obtain ⟨mark, hmem, hcontains⟩ := hmark
    exact append_isToldHint (Topic.isTold_of_mark htype hmem hcontains) List.mem_cons_self
      (forType_cases field description)
  · split
    · next hrequired =>
      have hmem : "required" ∈ Topic.required.marks := List.mem_cons_self
      exact append_isToldHint (Topic.isTold_of_mark htype hmem hrequired) List.mem_cons_self
        (.inr (forRequired_eq field))
    · split
      · next hwords =>
        have hmark : ∃ mark ∈ Topic.format.marks, Text.contains description mark = true := by
          simpa [Topic.marks] using hwords
        obtain ⟨mark, hmem, hcontains⟩ := hmark
        exact append_isToldHint (Topic.isTold_of_mark htype hmem hcontains) (forPattern_mem field)
          (.inr ⟨"", String.append_empty.symm⟩)
      · split
        · next hwords =>
          obtain ⟨mark, hphrase, hcontains⟩ := hwords
          have hmem : mark ∈ Topic.range.marks := hphrase
          exact append_isToldHint (Topic.isTold_of_mark htype hmem hcontains) List.mem_cons_self
            (forRange_cases field description)
        · exact ⟨"", String.append_empty.symm, .inl rfl⟩

/-! ## Telling hints apart -/

theorem clash_of_mem_openings (topic : Topic) : ∀ opening ∈ topic.openings,
    Text.clash ". Available options: ".toList (". " ++ opening).toList = true := by
  cases topic <;> decide

/-- No hint on a topic is a list of options. -/
theorem Topic.IsOf.ne_options {topic : Topic} {added : String} (h : topic.IsOf added)
    (list : String) : added ≠ ". Available options: " ++ list := by
  obtain ⟨opening, hopening, rest, rfl⟩ := h
  intro heq
  refine Text.not_prefix_of_clash (clash_of_mem_openings topic opening hopening) rest.toList
    ⟨list.toList, ?_⟩
  rw [← String.toList_append, ← String.toList_append, heq]

theorem IsToldHint.ne_options {category description added : String}
    (h : IsToldHint category description added) (list : String) :
    added ≠ ". Available options: " ++ list := by
  rcases h with rfl | ⟨topic, -, hof⟩
  · exact fun hempty => absurd (String.append_eq_empty_iff.1 hempty.symm).1 (by decide)
  · exact hof.ne_options list

/-- A field has options as soon as a list of options is appended. -/
theorem ofField?_of_enhance {field category description list : String} {kind : DocumentKind}
    (h : enhance field category description kind =
      description ++ ". Available options: " ++ list) :
    ∃ options, Options.ofField? field kind = some options ∧ list = options.render := by
  rw [String.append_assoc] at h
  cases hoptions : Options.ofField? field kind with
  | some options =>
    refine ⟨options, rfl, ?_⟩
    rw [enhance_of_options hoptions] at h
    exact ((String.append_right_inj _).1 ((String.append_right_inj _).1 h)).symm
  | none =>
    obtain ⟨added, hadded, htold⟩ := enhance_of_no_options hoptions category description
    rw [hadded] at h
    exact absurd ((String.append_right_inj _).1 h) (htold.ne_options list)

end Hint
end FlowCheck
