import FlowCheck.Proofs.Number.Numeral
import FlowCheck.Proofs.Schema.OptionHint

/-!
# Hints and the kinds of check

The hint of a diagnostic is chosen by the words of its sentence, not by the check that found the
violation.  The sentences of the schema tell the topic of their own check, with two exceptions: the
length of a text is told in the words of a range, and the names of unexpected members, which the
document gives, can be or contain any of the words (`DocumentKind.isOwn_hint_iff`).
-/

namespace FlowCheck

open Hint (Topic)
open Step (Follows)

/-- The topic of the hints of a check. -/
def CheckKind.topic? : CheckKind → Option Topic
  | type => some .type
  | required => some .required
  | pattern => some .format
  | minimum => some .range
  | maximum => some .range
  | _ => none

/-- What is appended to the sentence of a check is nothing or a hint of its own: a list of options,
but not about unexpected members or a length, or a hint on the topic of the check. -/
def Hint.IsOwn (kind : CheckKind) (added : String) : Prop :=
  added = "" ∨
    (kind ≠ .schema ∧ kind ≠ .minLength ∧
      ∃ options : Options, added = ". Available options: " ++ options.render) ∨
    ∃ topic, kind.topic? = some topic ∧ topic.IsOf added

/-- Checks of lengths and of unexpected members have no hints of their own. -/
theorem Hint.isOwn_iff_empty {kind : CheckKind} (h : kind = .schema ∨ kind = .minLength)
    {added : String} : IsOwn kind added ↔ added = "" := by
  constructor
  · rintro (hempty | ⟨hschema, hlength, -⟩ | ⟨topic, htopic, -⟩)
    · exact hempty
    · exact absurd h (not_or.2 ⟨hschema, hlength⟩)
    · rcases h with rfl | rfl <;> contradiction
  · exact .inl

/-! ## Sentences that tell one topic -/

/-- No words of a sentence tell another topic than that of the check. -/
def CheckKind.IsToldAlone (kind : CheckKind) (sentence : String) : Prop :=
  ∀ topic : Topic, ∀ mark ∈ topic.marks, Text.contains sentence mark = true →
    kind.topic? = some topic

namespace CheckKind

theorem forall_topic_iff {p : Topic → Prop} :
    (∀ topic, p topic) ↔ p .type ∧ p .required ∧ p .format ∧ p .range := by
  refine ⟨fun h => ⟨h _, h _, h _, h _⟩, ?_⟩
  rintro ⟨htype, hrequired, hformat, hrange⟩ (_ | _ | _ | _)
  · exact htype
  · exact hrequired
  · exact hformat
  · exact hrange

instance (kind : CheckKind) (sentence : String) : Decidable (kind.IsToldAlone sentence) :=
  decidable_of_iff _ forall_topic_iff.symm

/-- A hint that is told by such a sentence is the check's own. -/
theorem isOwn_of_isToldAlone {kind : CheckKind} {category sentence added : String}
    (h : kind.IsToldAlone sentence) (hcategory : category ≠ "type")
    (htold : Hint.IsToldHint category sentence added) : Hint.IsOwn kind added := by
  rcases htold with hempty | ⟨topic, htold, hof⟩
  · exact .inl hempty
  · rw [Topic.IsTold, if_neg hcategory] at htold
    obtain ⟨mark, hmark, hcontains⟩ := htold
    exact .inr (.inr ⟨topic, h topic mark hmark hcontains, hof⟩)

theorem not_all_numeralChar (topic : Topic) :
    ∀ mark ∈ topic.marks, mark.toList.all Numeral.isNumeralChar = false := by
  cases topic <;> decide

/-- A number behind some words tells nothing that the words do not tell. -/
theorem isToldAlone_of_number {kind : CheckKind} {words : String}
    (hwords : ∀ topic : Topic, ∀ mark ∈ topic.marks, kind.topic? = some topic ∨
      Text.apart mark.toList words.toList = true) (n : Int) :
    kind.IsToldAlone (words ++ toString n) := by
  intro topic mark hmark hcontains
  refine (hwords topic mark hmark).resolve_right fun hapart => ?_
  rw [Text.contains_iff, String.toList_append] at hcontains
  have hnumber : mark.toList <:+: (toString n).toList := Text.infix_of_apart hapart hcontains
  have hchars : mark.toList.all Numeral.isNumeralChar = true := List.all_eq_true.2 fun c hc =>
    (Numeral.shaped_of_integer? (Numeral.integer?_toString n)).chars c (hnumber.subset hc)
  rw [not_all_numeralChar topic mark hmark] at hchars
  contradiction

theorem isToldAlone_minimum (low : Int) :
    minimum.IsToldAlone ("Must be greater than or equal to " ++ toString low) := by
  refine isToldAlone_of_number (fun topic => ?_) low
  cases topic <;> decide

theorem isToldAlone_maximum (high : Int) :
    maximum.IsToldAlone ("Must be less than or equal to " ++ toString high) := by
  refine isToldAlone_of_number (fun topic => ?_) high
  cases topic <;> decide

theorem isToldAlone_pattern : pattern.IsToldAlone "Does not match pattern '^/'" := by
  decide

end CheckKind

/-! ## Sentences of the schema -/

theorem isToldAlone_required (kind : DocumentKind) : ∀ part ∈ kind.schema.parts,
    ∀ name ∈ part.2.required, CheckKind.required.IsToldAlone (name ++ " is required") := by
  cases kind with
  | workflow => decide +kernel
  | resource => decide +kernel

/-- The values that a schema by itself enumerates. -/
def Schema.enumerated : Schema → List Json
  | text rule => rule.options.map .str
  | integer _ values => values.map .int
  | _ => []

/-- The table of options knows the place of an enumerated part, or its sentence tells no topic. -/
def EnumToldAlone (kind : DocumentKind) (lead : List String) (part : List Step × Schema) : Bool :=
  part.2.enumerated.isEmpty ||
    ((Step.names? part.1).any fun names => (Options.ofNames? (lead ++ names) kind).isSome) ||
    match part.1.reverse with
    | .member name :: _ => CheckKind.enum.IsToldAlone
      (name ++ " must be one of the following: " ++
        Text.join ", " (part.2.enumerated.map Json.text))
    | _ => false

theorem enumToldAlone (kind : DocumentKind) :
    ∀ part ∈ kind.schema.parts, EnumToldAlone kind [] part = true := by
  cases kind with
  | workflow => decide +kernel
  | resource => decide +kernel

theorem enumToldAlone_inline :
    ∀ part ∈ Schema.resource.parts, EnumToldAlone .resource ["resources"] part = true := by
  decide +kernel

/-- The sentence about options starts with the name of the last member on the path. -/
theorem Violation.leaf_place {v : Violation} {name : String} {front : List Segment}
    (hpath : v.path = front ++ [.key name]) (hname : FieldPath.names name = [name])
    (base : String) : leaf (v.place base) = name := by
  have hpoint : '.' ∉ name.toList :=
    FieldPath.point_not_mem_of_mem_names (hname ▸ List.mem_singleton_self name)
  have hne : name ≠ "" := by
    rintro rfl
    simp at hname
  have hfilter : ((v.path.map Segment.text).filter fun s => !s.isEmpty) =
      ((front.map Segment.text).filter fun s => !s.isEmpty) ++ [name] := by
    simp [hpath, Segment.text, hne]
  have hlast : FieldPath.last (Pointer.toFieldPath (Pointer.render (v.path.map Segment.text))) =
      name := by
    rw [Pointer.toFieldPath_render, hfilter, FieldPath.last_join_points,
      FieldPath.last_of_point_not_mem hpoint]
  have hchild : Pointer.toFieldPath (Pointer.render (v.path.map Segment.text)) ≠ "" := by
    intro hempty
    rw [hempty] at hlast
    exact hne hlast.symm
  rw [leaf, place, FieldPath.last_join base hchild, hlast]
  simp [hne]

/-! ## The two exceptions -/

/-- The least length that a schema by itself asks for. -/
def Schema.minLength : Schema → Nat
  | text rule => rule.minLength
  | _ => 0

theorem minLength_le_one (kind : DocumentKind) :
    ∀ part ∈ kind.schema.parts, part.2.minLength ≤ 1 := by
  cases kind with
  | workflow => decide +kernel
  | resource => decide +kernel

/-- The sentence about a text that is too short. -/
def lengthSentence : String := "String length must be greater than or equal to 1"

theorem Hint.contains_lengthSentence : ∀ mark ∈
    ["Invalid type", "Expected:", "required", "pattern", "does not match"],
      Text.contains lengthSentence mark = false := by
  decide

theorem Hint.forRange_lengthSentence (field : String) : forRange field lengthSentence ≠ "" := by
  have hbounds : bounds lengthSentence = (some 1, none) := by decide
  unfold forRange
  rw [hbounds]
  split
  · unfold between
    simp
  · simp

/-- A sentence about a length always gets a hint: it is taken for one about a range. -/
theorem Hint.enhance_lengthSentence (field : String) (kind : DocumentKind) :
    enhance field "string_gte" lengthSentence kind ≠ lengthSentence := by
  cases hoptions : Options.ofField? field kind with
  | some options =>
    rw [enhance_of_options hoptions]
    unfold optionList
    simp
  | none =>
    have hrange : rangePhrases.any (Text.contains lengthSentence) = true := by decide
    have hwords := contains_lengthSentence
    simp only [List.forall_mem_cons] at hwords
    obtain ⟨htype, hexpected, hrequired, hpattern, hmatch, -⟩ := hwords
    unfold enhance
    rw [hoptions]
    simp only [htype, hexpected, hrequired, hpattern, hmatch, hrange, Bool.or_false,
      decide_eq_true_eq, String.reduceEq, if_false, if_true, Bool.false_eq_true]
    rw [append_of_ne_empty (forRange_lengthSentence field)]
    simp

/-- The words of the topics are no part of the words around the names. -/
theorem Hint.Topic.marks_apart (topic : Topic) : ∀ mark ∈ topic.marks,
    mark ≠ "" ∧ ',' ∉ mark.toList ∧ Text.apart mark.toList [' '] = true ∧
      Text.apart mark.toList "Additional property ".toList = true ∧
      Text.apart mark.toList.reverse " is not allowed".toList.reverse = true := by
  cases topic <;> decide

theorem exists_infix_of_infix_join {mark : List Char} (hne : mark ≠ []) (hcomma : ',' ∉ mark)
    (hblank : Text.apart mark [' '] = true) {names : List String}
    (h : mark <:+: (Text.join ", " names).toList) : ∃ name ∈ names, mark <:+: name.toList := by
  induction names with
  | nil =>
    exact absurd (List.infix_nil.1 (by simpa [Text.join] using h)) hne
  | cons name names ih =>
    cases names with
    | nil => exact ⟨name, List.mem_cons_self, by simpa [Text.join] using h⟩
    | cons next rest =>
      have hchars : (Text.join ", " (name :: next :: rest)).toList =
          name.toList ++ ',' :: ([' '] ++ (Text.join ", " (next :: rest)).toList) := by
        simp [Text.join]
      rw [hchars] at h
      rcases Text.infix_or_infix_of_infix_append_cons hcomma h with h | h
      · exact ⟨name, List.mem_cons_self, h⟩
      · obtain ⟨found, hfound, hinfix⟩ := ih (Text.infix_of_apart hblank h)
        exact ⟨found, List.mem_cons_of_mem _ hfound, hinfix⟩

/-- The sentence about unexpected members tells a topic only by one of their names. -/
theorem exists_name_of_contains {topic : Topic} {mark : String} (hmark : mark ∈ topic.marks)
    {names : List String}
    (h : Text.contains ("Additional property " ++ Text.join ", " names ++ " is not allowed") mark =
      true) : ∃ name ∈ names, Text.contains name mark = true := by
  obtain ⟨hne, hcomma, hblank, hfront, hback⟩ := topic.marks_apart mark hmark
  rw [Text.contains_iff, String.toList_append, String.toList_append] at h
  have hnames : mark.toList <:+: (Text.join ", " names).toList :=
    Text.infix_of_apart hfront (Text.infix_of_apart_reverse hback h)
  obtain ⟨name, hname, hinfix⟩ :=
    exists_infix_of_infix_join (by simpa using hne) hcomma hblank hnames
  exact ⟨name, hname, Text.contains_iff.2 hinfix⟩

/-! ## Diagnostics -/

theorem Schema.enumerated_of_canGive {s : Schema} {options : List Json}
    (h : s.CanGive (.notAmong options)) : options = s.enumerated ∧ s.enumerated ≠ [] := by
  cases s with
  | text rule => exact ⟨h.1, by simpa [enumerated] using h.2⟩
  | integer range values => exact ⟨h.1, by simpa [enumerated] using h.2⟩
  | _ => exact h.elim

/-- The sentence about options tells no topic, at a place that the table does not know. -/
theorem isToldAlone_enum {f : Finding} {steps : List Step} {s : Schema} {options : List Json}
    (hcheck : EnumToldAlone f.kind f.leadNames (steps, s) = true)
    (hplain : ∀ step ∈ steps, step.IsPlain) (hfollows : Follows steps f.violation.path)
    (hcause : f.violation.cause = .notAmong options) (hgive : s.CanGive (.notAmong options))
    (hunknown : Options.ofField? f.field f.kind = none) :
    CheckKind.enum.IsToldAlone f.sentence := by
  obtain ⟨rfl, hne⟩ := Schema.enumerated_of_canGive hgive
  have hnames : Options.ofNames? (f.leadNames ++ Segment.names f.violation.path) f.kind = none := by
    rw [← hunknown, Options.ofField?_eq_ofNames?, f.names_field]
    simp only [Finding.location, hcause]
    rfl
  unfold EnumToldAlone at hcheck
  rw [Bool.or_eq_true, Bool.or_eq_true] at hcheck
  rcases hcheck with (hempty | hknown) | hsentence
  · exact absurd (by simpa using hempty) hne
  · cases hsteps : Step.names? steps with
    | none => simp [hsteps] at hknown
    | some names =>
      rw [Step.names_of_follows hfollows hplain hsteps] at hnames
      simp [hsteps, hnames] at hknown
  · split at hsentence
    · next name front hreverse =>
      obtain rfl : steps = front.reverse ++ [.member name] := List.reverse_eq_cons_iff.1 hreverse
      obtain ⟨before, segment, hpath, -, htakes⟩ := hfollows.of_append
      cases segment with
      | key key =>
        obtain rfl : key = name := htakes
        have hleaf : Violation.leaf (f.violation.place f.base) = key :=
          Violation.leaf_place hpath (hplain (.member key) (by simp)) f.base
        have hwords : f.sentence = key ++ " must be one of the following: " ++
            Text.join ", " (s.enumerated.map Json.text) := by
          simp only [Finding.sentence, Violation.sentence, Violation.field, hcause, hleaf]
        rw [hwords]
        exact of_decide_eq_true hsentence
      | index i => exact htakes.elim
    · contradiction

theorem isOwn_of_category {added : String} {sentence : String}
    (h : Hint.IsToldHint "type" sentence added) : Hint.IsOwn .type added := by
  rcases h with hempty | ⟨topic, htold, hof⟩
  · exact .inl hempty
  · obtain rfl : topic = .type := by simpa [Topic.IsTold] using htold
    exact .inr (.inr ⟨.type, rfl, hof⟩)

theorem Violation.Cause.category_ne_type {cause : Violation.Cause}
    (h : ∀ expected, cause ≠ .wrongKind expected) : cause.category ≠ "type" := by
  cases cause with
  | wrongKind expected => exact absurd rfl (h expected)
  | _ => simp [category]

/-- A sentence that is not about a type, a length or unexpected members tells its own topic, at a
place that the table of options does not know. -/
theorem isToldAlone_of_mem_findings {kind : DocumentKind} {doc : Json} {f : Finding}
    (hf : f ∈ kind.findings doc) (hunknown : Options.ofField? f.field f.kind = none)
    (hkind : ∀ expected, f.violation.cause ≠ .wrongKind expected)
    (hlength : ∀ length, f.violation.cause ≠ .tooShort length)
    (hnames : ∀ names, f.violation.cause ≠ .unexpected names) :
    f.violation.cause.checkKind.IsToldAlone f.sentence := by
  obtain ⟨steps, s, hmem, path, hpath, hfollows, hown⟩ := DocumentKind.foundAt_of_mem_findings hf
  obtain rfl : f.violation.path = path := hpath
  have hgive := Schema.canGive_of_mem_ownCauses hown
  cases hcause : f.violation.cause with
  | wrongKind expected => exact absurd hcause (hkind expected)
  | missing name =>
    simp only [Finding.sentence, Violation.sentence, hcause]
    exact isToldAlone_required _ _ hmem _ (Schema.mem_required_of_canGive (hcause ▸ hgive))
  | notAmong options =>
    have hcheck := Finding.check_of_mem_findings enumToldAlone enumToldAlone_inline hf _ hmem
    exact isToldAlone_enum hcheck (isPlain_of_mem_parts _ _ hmem) hfollows hcause
      (hcause ▸ hgive) hunknown
  | unexpected names => exact absurd hcause (hnames names)
  | below low =>
    simp only [Finding.sentence, Violation.sentence, hcause]
    exact CheckKind.isToldAlone_minimum low
  | above high =>
    simp only [Finding.sentence, Violation.sentence, hcause]
    exact CheckKind.isToldAlone_maximum high
  | tooShort length => exact absurd hcause (hlength length)
  | notRooted =>
    simp only [Finding.sentence, Violation.sentence, hcause]
    exact CheckKind.isToldAlone_pattern

/-- A message is the sentence with something appended. -/
theorem Finding.exists_added (f : Finding) :
    ∃ added, f.diagnostic.message = f.sentence ++ added := by
  cases hoptions : Options.ofField? f.field f.kind with
  | some options => exact ⟨_, Hint.enhance_of_options hoptions _ _⟩
  | none =>
    obtain ⟨added, hadded, -⟩ :=
      Hint.enhance_of_no_options hoptions f.violation.cause.category f.sentence
    exact ⟨added, hadded⟩

/-- What is appended to the sentence of a finding is its own hint, except about a length or about
unexpected members. -/
theorem isOwn_of_mem_findings {kind : DocumentKind} {doc : Json} {f : Finding}
    (hf : f ∈ kind.findings doc) (hlength : ∀ length, f.violation.cause ≠ .tooShort length)
    (hnames : ∀ names, f.violation.cause ≠ .unexpected names) :
    ∃ added, f.diagnostic.message = f.sentence ++ added ∧ Hint.IsOwn f.diagnostic.kind added := by
  cases hoptions : Options.ofField? f.field f.kind with
  | some options =>
    have hkinds : f.violation.cause.checkKind ≠ .schema ∧
        f.violation.cause.checkKind ≠ .minLength := by
      cases hcause : f.violation.cause <;> simp_all [Violation.Cause.checkKind]
    exact ⟨_, Hint.enhance_of_options hoptions _ _,
      .inr (.inl ⟨hkinds.1, hkinds.2, options, rfl⟩)⟩
  | none =>
    obtain ⟨added, hadded, htold⟩ :=
      Hint.enhance_of_no_options hoptions f.violation.cause.category f.sentence
    refine ⟨added, hadded, ?_⟩
    by_cases hkind : ∃ expected, f.violation.cause = .wrongKind expected
    · obtain ⟨expected, hcause⟩ := hkind
      have hown : f.diagnostic.kind = .type := congrArg Violation.Cause.checkKind hcause
      rw [hcause] at htold
      exact hown ▸ isOwn_of_category htold
    · have hother : ∀ expected, f.violation.cause ≠ .wrongKind expected :=
        fun expected h => hkind ⟨expected, h⟩
      exact CheckKind.isOwn_of_isToldAlone
        (isToldAlone_of_mem_findings hf hoptions hother hlength hnames)
        (Violation.Cause.category_ne_type hother) htold

/-- There is one sentence about a length. -/
theorem sentence_of_tooShort {kind : DocumentKind} {doc : Json} {f : Finding}
    (hf : f ∈ kind.findings doc) {length : Nat} (hcause : f.violation.cause = .tooShort length) :
    f.sentence = lengthSentence := by
  obtain ⟨steps, s, hmem, path, -, -, hown⟩ := DocumentKind.foundAt_of_mem_findings hf
  have hgive : s.CanGive (.tooShort length) := hcause ▸ Schema.canGive_of_mem_ownCauses hown
  have hone : length = 1 := by
    have hle := minLength_le_one f.kind _ hmem
    cases s with
    | text rule =>
      obtain ⟨hlength, hpos⟩ := hgive
      exact Nat.le_antisymm (hlength ▸ hle) hpos
    | _ => exact hgive.elim
  subst hone
  simp only [Finding.sentence, Violation.sentence, hcause]
  rfl

/-- The sentence about a length gets a hint that is not its own. -/
theorem not_isOwn_of_tooShort {kind : DocumentKind} {doc : Json} {f : Finding}
    (hf : f ∈ kind.findings doc) {length : Nat} (hcause : f.violation.cause = .tooShort length)
    {added : String} (hadded : f.diagnostic.message = f.sentence ++ added) :
    ¬ Hint.IsOwn f.diagnostic.kind added := by
  have hsentence := sentence_of_tooShort hf hcause
  have hkind : f.diagnostic.kind = .minLength := congrArg Violation.Cause.checkKind hcause
  have hmessage : f.diagnostic.message =
      Hint.enhance f.field "string_gte" lengthSentence f.kind := by
    rw [← hsentence]
    exact congrArg (Hint.enhance f.field · f.sentence f.kind)
      (congrArg Violation.Cause.category hcause)
  rw [hkind, Hint.isOwn_iff_empty (.inr rfl)]
  rintro rfl
  rw [hmessage, hsentence, String.append_empty] at hadded
  exact Hint.enhance_lengthSentence _ _ hadded

/-- What is appended about unexpected members comes from a key of a table, or from one of their
names. -/
theorem marked_of_unexpected {kind : DocumentKind} {doc : Json} {f : Finding}
    (hf : f ∈ kind.findings doc) {names : List String}
    (hcause : f.violation.cause = .unexpected names) {added : String}
    (hadded : f.diagnostic.message = f.sentence ++ added) (hne : added ≠ "") :
    EndsInKnownKey f.violation.path ∨
      ∃ name ∈ names, ∃ topic : Topic, ∃ mark ∈ topic.marks, Text.contains name mark = true := by
  obtain ⟨steps, s, hmem, path, hpath, hfollows, hown⟩ := DocumentKind.foundAt_of_mem_findings hf
  obtain rfl : f.violation.path = path := hpath
  have hgive : s.CanGive (.unexpected names) := hcause ▸ Schema.canGive_of_mem_ownCauses hown
  cases hoptions : Options.ofField? f.field f.kind with
  | some options =>
    have hlocation : f.location = f.violation.path := by
      simp only [Finding.location, hcause]
    rw [Options.ofField?_eq_ofNames?, f.names_field, hlocation] at hoptions
    have hagree := Finding.check_of_mem_findings optionsAgree optionsAgree_inline hf _ hmem
    rcases options_of_optionsAgree hagree (isPlain_of_mem_parts _ _ hmem) hfollows hoptions with
      hpart | ⟨-, -, hkey⟩
    · cases s with
      | record closed required properties => contradiction
      | _ => exact hgive.elim
    · exact .inl hkey
  | none =>
    obtain ⟨told, htold, hhint⟩ :=
      Hint.enhance_of_no_options hoptions f.violation.cause.category f.sentence
    obtain rfl : added = told := (String.append_right_inj _).1 (hadded.symm.trans htold)
    obtain ⟨topic, hmark, -⟩ := hhint.resolve_left hne
    have hother : f.violation.cause.category ≠ "type" :=
      Violation.Cause.category_ne_type fun expected h => by simp [hcause] at h
    rw [Topic.IsTold, if_neg hother] at hmark
    obtain ⟨mark, hmem, hcontains⟩ := hmark
    simp only [Finding.sentence, Violation.sentence, hcause] at hcontains
    obtain ⟨name, hname, hfound⟩ := exists_name_of_contains hmem hcontains
    exact .inr ⟨name, hname, topic, mark, hmem, hfound⟩

/-- Every diagnostic is the sentence of a violation with something appended, which is nothing or a
hint of its own kind of check, unless the violation is about a length or about unexpected members.
About a length it never is; about unexpected members it is only when nothing is appended, which is
so whenever no key of a table ends in a known name and no name of a member contains one of the
words that tell a topic. -/
theorem DocumentKind.isOwn_hint_iff (kind : DocumentKind) (doc : Json) :
    kind.diagnoseAll doc = (kind.findings doc).map Finding.diagnostic ∧
      ∀ f ∈ kind.findings doc, ∃ added, f.diagnostic.message = f.sentence ++ added ∧
        (Hint.IsOwn f.diagnostic.kind added ↔
          (∀ length, f.violation.cause ≠ .tooShort length) ∧
            ∀ names, f.violation.cause = .unexpected names → added = "") ∧
        ∀ names, f.violation.cause = .unexpected names → added ≠ "" →
          EndsInKnownKey f.violation.path ∨
            ∃ name ∈ names, ∃ topic : Topic, ∃ mark ∈ topic.marks,
              Text.contains name mark = true := by
  refine ⟨diagnoseAll_eq_map kind doc, fun f hf => ?_⟩
  obtain ⟨added, hadded⟩ := f.exists_added
  refine ⟨added, hadded, ⟨fun hown => ⟨fun length hcause => ?_, fun names hcause => ?_⟩, ?_⟩,
    fun names hcause => marked_of_unexpected hf hcause hadded⟩
  · exact not_isOwn_of_tooShort hf hcause hadded hown
  · have hkind : f.diagnostic.kind = .schema := congrArg Violation.Cause.checkKind hcause
    exact (Hint.isOwn_iff_empty (.inl rfl)).1 (hkind ▸ hown)
  · rintro ⟨hlength, hnames⟩
    by_cases hcause : ∃ names, f.violation.cause = .unexpected names
    · obtain ⟨names, hcause⟩ := hcause
      exact .inl (hnames names hcause)
    · obtain ⟨own, hown, hisOwn⟩ := isOwn_of_mem_findings hf hlength fun names h =>
        hcause ⟨names, h⟩
      obtain rfl : added = own := (String.append_right_inj _).1 (hadded.symm.trans hown)
      exact hisOwn

/-- A resource without an action id, with a member named like the word of a hint. -/
def namedLikeHint : Json :=
  .obj [("metadata", .obj [("actionId", .str "")]), ("required", .int 1), ("run", .obj [])]

theorem DocumentKind.hint_of_another_check :
    (resource.diagnoseAll namedLikeHint).map (fun d => (d.kind, d.message)) =
      [(.minLength, "String length must be greater than or equal to 1" ++
          ". Value must be at least 1"),
        (.schema, "Additional property required is not allowed" ++ ". This field is required")] ∧
      ¬ Hint.IsOwn .minLength ". Value must be at least 1" ∧
      ¬ Hint.IsOwn .schema ". This field is required" := by
  refine ⟨rfl, ?_, ?_⟩
  · rw [Hint.isOwn_iff_empty (.inr rfl)]
    decide
  · rw [Hint.isOwn_iff_empty (.inl rfl)]
    decide

end FlowCheck
