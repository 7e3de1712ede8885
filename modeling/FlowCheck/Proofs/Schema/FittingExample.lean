import FlowCheck.Proofs.Hints.Clause
import FlowCheck.Proofs.Schema.InlineHint
import FlowCheck.Proofs.Schema.TypeSentence

/-!
# Examples and declared types

The example that a message shows is, as a rule, one of the type that the schema declares at the
place.  There are three exceptions (`Finding.IsMisled`), and an example is of another type in these
and in no other case (`DocumentKind.shows_declared_type_iff`).  The look-up goes by the start of a
path, so a value above a known field gets the example of that field; behind a key of a table it goes
by the words of the key, and can find a path for values of another kind (`Example.kindOf`, which is
the kind that the schemas ask for at the path, by `DocumentKind.kindOf_eq_of_at?`); and where it
finds nothing, the example is that of the type which the sentence tells, and this can come from the
document.
-/

namespace FlowCheck

open Step (Follows)

/-! ## Paths through tables -/

/-- The path passes a key of a table. -/
def Schema.passesKey : List Segment → Schema → Bool
  | [], _ => false
  | .key _ :: _, table _ => true
  | segment :: path, s => (s.behind? segment).any (passesKey path)

namespace Step

theorem names?_isNone_cons {step : Step} {steps : List Step} :
    (names? (step :: steps)).isNone = (step == .entry || (names? steps).isNone) := by
  cases step with
  | member name => simp [names?]
  | item => rfl
  | entry => rfl

/-- The names on a path that follows the steps, up to the first key of a table. -/
def namesBeforeKey : List Step → List String
  | [] => []
  | member name :: steps => name :: namesBeforeKey steps
  | item :: steps => namesBeforeKey steps
  | entry :: _ => []

theorem namesBeforeKey_prefix_of_follows {steps : List Step} {path : List Segment}
    (h : Follows steps path) (hplain : ∀ step ∈ steps, step.IsPlain) :
    namesBeforeKey steps <+: Segment.names path := by
  induction h with
  | nil => exact List.nil_prefix
  | @cons step segment steps path htakes hfollows ih =>
    have hrest := ih fun s hs => hplain s (List.mem_cons_of_mem _ hs)
    rw [Segment.names, List.flatMap_cons, ← Segment.names]
    cases step with
    | member name =>
      cases segment with
      | key key =>
        obtain rfl : key = name := htakes
        have hname : FieldPath.names key = [key] := hplain (.member key) List.mem_cons_self
        rw [namesBeforeKey, Segment.text, hname, List.singleton_append]
        exact List.cons_prefix_cons.2 ⟨rfl, hrest⟩
      | index i => exact htakes.elim
    | item =>
      cases segment with
      | key key => exact htakes.elim
      | index i =>
        rw [namesBeforeKey, Segment.text, FieldPath.names_toString, List.nil_append]
        exact hrest
    | entry => exact List.nil_prefix

end Step

namespace Schema

theorem passesKey_cons {s t u : Schema} {step : Step} {steps : List Step} {segment : Segment}
    {path : List Segment} (htakes : step.Takes segment) (hmem : (step :: steps, t) ∈ s.parts)
    (hu : s.behind? segment = some u) :
    s.passesKey (segment :: path) = (step == .entry || u.passesKey path) := by
  cases s with
  | table values =>
    rcases mem_parts_table_iff.1 hmem with ⟨hnil, -⟩ | ⟨rest, hrest, -⟩
    · contradiction
    · obtain ⟨rfl, -⟩ := List.cons.inj hrest
      cases segment with
      | key key => rfl
      | index i => exact htakes.elim
  | list items =>
    rcases mem_parts_list_iff.1 hmem with ⟨hnil, -⟩ | ⟨rest, hrest, -⟩
    · contradiction
    · obtain ⟨rfl, -⟩ := List.cons.inj hrest
      simp [passesKey, hu]
  | record closed required properties =>
    rcases mem_parts_record_iff.1 hmem with ⟨hnil, -⟩ | ⟨p, -, rest, hrest, -⟩
    · contradiction
    · obtain ⟨rfl, -⟩ := List.cons.inj hrest
      simp [passesKey, hu]
  | _ => simp [parts] at hmem

/-- A path that follows steps passes a key of a table exactly when one of the steps takes one. -/
theorem passesKey_of_mem_parts {s t : Schema} {steps : List Step} {path : List Segment}
    (honce : s.NamesOnce) (hmem : (steps, t) ∈ s.parts) (hfollows : Follows steps path) :
    s.passesKey path = (Step.names? steps).isNone := by
  induction hfollows generalizing s with
  | nil => rfl
  | @cons step segment steps path htakes _ ih =>
    obtain ⟨u, hu, hparts, ht⟩ := exists_behind?_of_mem_parts honce htakes hmem
    have honceBehind : u.NamesOnce := fun part hpart =>
      honce (step :: part.1, part.2) (hparts _ _ hpart)
    rw [passesKey_cons htakes hmem hu, Step.names?_isNone_cons, ih honceBehind ht]

end Schema

/-! ## What is checked for the parts -/

/-- The example for the places that belong to a part is of its kind or the places are above a known
field, not both.  Behind a key of a table they are not above one. -/
def ExampleFits (lead : List String) (part : List Step × Schema) : Bool :=
  part.2.kind?.all fun expected =>
    match Step.names? part.1 with
    | some names => Example.isRegular names && (Example.behind? lead names).all fun ex =>
      (Example.kinds ex).contains expected != Example.isAbove (lead ++ names)
    | none => !(Step.namesBeforeKey part.1).isEmpty &&
      !Example.leads (lead ++ Step.namesBeforeKey part.1)

/-- Texts with a format are not above a known field, and closed records are no routes. -/
def FormatFits (lead : List String) (part : List Step × Schema) : Bool :=
  match part.2 with
  | .text rule => !rule.rooted ||
    (Step.names? part.1).any fun names => !Example.isAbove (lead ++ names)
  | .record true _ _ =>
    (Step.names? part.1).any fun names => !Hint.endInRoute (lead ++ names)
  | _ => true

/-- Both checks at once, which share the evaluation of the tables. -/
def Fits (lead : List String) (part : List Step × Schema) : Bool :=
  ExampleFits lead part && FormatFits lead part

theorem fits_workflow : ∀ part ∈ Schema.workflow.parts, Fits [] part = true := by
  decide +kernel

theorem fits_resource :
    ∀ part ∈ Schema.resource.parts, ∀ lead ∈ [[], ["resources"]], Fits lead part = true := by
  decide +kernel

theorem Finding.fits {kind : DocumentKind} {doc : Json} {f : Finding}
    (hf : f ∈ kind.findings doc) {part : List Step × Schema} (hmem : part ∈ f.kind.schema.parts) :
    ExampleFits f.leadNames part = true ∧ FormatFits f.leadNames part = true := by
  have hwhole (kind : DocumentKind) : ∀ part ∈ kind.schema.parts, Fits [] part = true := by
    cases kind with
    | workflow => exact fits_workflow
    | resource => exact fun part hpart => fits_resource part hpart [] (by decide)
  have hinline : ∀ part ∈ Schema.resource.parts, Fits ["resources"] part = true :=
    fun part hpart => fits_resource part hpart ["resources"] (by decide)
  exact Bool.and_eq_true_iff.1
    (@check_of_mem_findings (fun _ => Fits) hwhole hinline _ _ _ hf _ hmem)

/-! ## The example for a place -/

/-- Where a schema asks for a kind of value at a known path, the path is for values of this kind. -/
theorem DocumentKind.kindOf_eq_of_at? (kind : DocumentKind) : ∀ row ∈ Example.fields,
    ∀ s ∈ kind.schema.at? ((FieldPath.names row.1).map Segment.key), ∀ expected ∈ s.kind?,
      Example.kindOf row.1 = expected := by
  cases kind with
  | workflow => decide +kernel
  | resource => decide +kernel

section
variable {kind : DocumentKind} {doc : Json} {f : Finding}

/-- The example for the field of a finding goes by the names on its path. -/
theorem Finding.ofField?_eq_behind? (hf : f ∈ kind.findings doc)
    (hregular : Example.isRegular (Segment.names f.location) = true) :
    Example.ofField? f.field = Example.behind? f.leadNames (Segment.names f.location) := by
  obtain ⟨⟨value, hv⟩, hinside⟩ := DocumentKind.violation_of_mem_findings hf
  have hnames : FieldPath.names f.field = f.leadNames ++ Segment.names f.location := f.names_field
  unfold Example.behind?
  split
  · next hempty =>
    rw [List.isEmpty_iff.1 hempty, List.append_nil] at hnames
    unfold Finding.leadNames at hnames
    split at hnames
    · have hresources : Example.isRegular (FieldPath.names f.field) = true := by
        rw [hnames]
        decide
      rw [Example.ofField?_eq_closest? hresources (by simp [hnames]), hnames]
      decide
    · have hnormal : FieldPath.normalize f.field = "" := (FieldPath.normalize_eq_iff rfl).2 hnames
      rw [Example.ofField?, hnormal]
      rfl
  · next hne =>
    cases hposition : f.position with
    | none =>
      have hlead : f.leadNames = [] := by simp [Finding.leadNames, hposition]
      rw [hlead, List.nil_append] at hnames
      rw [hlead, List.isEmpty_nil, if_pos rfl, ← hnames]
      exact Example.ofField?_eq_closest? (hnames ▸ hregular) (by simpa [hnames] using hne)
    | some i =>
      have hresource : f.kind = .resource := by simpa [hposition] using hinside
      rw [hresource] at hv
      have hinline : FieldPath.Inline f.field (f.violation.field "") := by
        have hbase : f.base = "resources." ++ toString i := by rw [Finding.base, hposition]
        rw [Finding.field, hbase]
        exact inline_of_mem_violations hv i
      have halone : FieldPath.names (f.violation.field "") = Segment.names f.location :=
        (f.violation.names_field i).1
      have hlead : f.leadNames.isEmpty = false := by simp [Finding.leadNames, hposition]
      rw [hlead, if_neg Bool.false_ne_true, Example.ofField?_inline hinline, ← halone]
      exact Example.within?_eq_atStart? (halone ▸ hregular)

/-- The ways in which the example in a message is found for another type than that expected. -/
inductive Finding.IsMisled (f : Finding) (expected : Json.Kind) : Prop
  /-- The value is above a known field, and the example is that of the field. -/
  | above (h : Example.isAbove (FieldPath.names f.field) = true)
  /-- The path has a key of a table on it, and the known path that is found for it is for values of
  another type. -/
  | key {row : String × String} (hkey : f.kind.schema.passesKey f.location = true)
      (hrow : Example.row? f.field = some row)
      (hother : expected ∉ (Example.kindOf row.1).wider)
  /-- No known path is found, and the sentence, with words from the document in it, tells another
  type. -/
  | told {type : Json.Kind} (hunknown : Example.row? f.field = none)
      (hfree : (∃ names, f.violation.cause = .unexpected names) ∨
        f.violation.value.announced?.isSome = true)
      (htold : Hint.expectedType? f.sentence = some type.name) (hother : expected ∉ type.wider)

theorem Finding.isMisled_iff_of_row {expected : Json.Kind} {row : String × String}
    (hrow : Example.row? f.field = some row) :
    f.IsMisled expected ↔ Example.isAbove (FieldPath.names f.field) = true ∨
      f.kind.schema.passesKey f.location = true ∧
        expected ∉ (Example.kindOf row.1).wider := by
  constructor
  · rintro (habove | ⟨hkey, hfound, hother⟩ | ⟨hunknown, -, -, -⟩)
    · exact .inl habove
    · obtain rfl := Option.some.inj (hrow.symm.trans hfound)
      exact .inr ⟨hkey, hother⟩
    · rw [hunknown] at hrow
      contradiction
  · rintro (habove | ⟨hkey, hother⟩)
    · exact .above habove
    · exact .key hkey hrow hother

section
variable (hf : f ∈ kind.findings doc) {steps : List Step} {s : Schema}
  (hmem : (steps, s) ∈ f.kind.schema.parts) (hfollows : Follows steps f.location)
  {expected : Json.Kind} (hexpected : s.kind? = some expected)
include hf hmem hfollows hexpected

/-- Where no key of a table is on the path, the names on it are those of the part, and a known
example is of another type only above a known field. -/
theorem shows_iff_isAbove {names : List String} (hnames : Step.names? steps = some names)
    {row : String × String} (hrow : Example.row? f.field = some row) :
    Example.Shows row.2 expected ↔ Example.isAbove (FieldPath.names f.field) = false := by
  have hex : Example.ofField? f.field = some row.2 := by
    rw [Example.ofField?_eq_map_row?, hrow, Option.map_some]
  have hcheck := (Finding.fits hf hmem).1
  have hlocation := Step.names_of_follows hfollows (isPlain_of_mem_parts f.kind _ hmem) hnames
  have hfield : FieldPath.names f.field = f.leadNames ++ Segment.names f.location := f.names_field
  rw [ExampleFits, hexpected, Option.all_some, hnames, ← hlocation] at hcheck
  obtain ⟨hregular, hfits⟩ := Bool.and_eq_true_iff.1 hcheck
  rw [← Finding.ofField?_eq_behind? hf hregular, hex, Option.all_some, ← hfield] at hfits
  have htexts := Example.mem_texts_of_mem_fields (Example.row?_mem_fields hrow)
  rw [Example.shows_iff_mem_kinds htexts, ← List.contains_iff_mem]
  cases habove : Example.isAbove (FieldPath.names f.field) <;> simpa [habove] using hfits

/-- Behind a key of a table nothing is above a known field: no known path goes on behind the names
in front of the key. -/
theorem isAbove_eq_false_of_key (hnames : Step.names? steps = none) :
    Example.isAbove (FieldPath.names f.field) = false := by
  have hcheck := (Finding.fits hf hmem).1
  have hfield : FieldPath.names f.field = f.leadNames ++ Segment.names f.location := f.names_field
  rw [ExampleFits, hexpected, Option.all_some, hnames] at hcheck
  obtain ⟨hne, hleads⟩ := Bool.and_eq_true_iff.1 hcheck
  rw [Bool.eq_false_iff]
  intro habove
  obtain ⟨more, hmore⟩ :=
    Step.namesBeforeKey_prefix_of_follows hfollows (isPlain_of_mem_parts f.kind _ hmem)
  have hled := (Example.leads_of_isAbove habove).2
  rw [hfield, ← hmore, ← List.append_assoc] at hled
  rw [Example.leads_of_append (by simpa using fun _ => hne) hled] at hleads
  contradiction

/-- The example that is known for a place is of another type only above a known field and behind a
key of a table. -/
theorem shows_iff_of_known {ex : String} (hex : Example.ofField? f.field = some ex) :
    Example.Shows ex expected ↔ ¬ f.IsMisled expected := by
  rw [Example.ofField?_eq_map_row?] at hex
  obtain ⟨row, hrow, rfl⟩ := Option.map_eq_some_iff.1 hex
  have hkey := Schema.passesKey_of_mem_parts f.kind.namesOnce hmem hfollows
  rw [Finding.isMisled_iff_of_row hrow, hkey]
  cases hnames : Step.names? steps with
  | some names => simp [shows_iff_isAbove hf hmem hfollows hexpected hnames hrow]
  | none =>
    simp [isAbove_eq_false_of_key hf hmem hfollows hexpected hnames,
      Example.shows_iff_of_mem_fields (Example.row?_mem_fields hrow)]

end

end

/-! ## The examples in messages -/

/-- Where the example in the message of a finding is from: the table of fields, the table of types,
or the hint about routes. -/
inductive Finding.IsShown (f : Finding) (ex : String) : Prop
  | known (h : Example.ofField? f.field = some ex)
  | told {type : String} (hunknown : Example.ofField? f.field = none)
      (htold : Hint.expectedType? f.sentence = some type) (hex : Example.ofType? type = some ex)
      (hcause : (∃ expected, f.violation.cause = .wrongKind expected) ∨
        ∃ names, f.violation.cause = .unexpected names)
  | route (hcause : f.violation.cause = .notRooted) (hex : ex = "'/api/users'")

section
variable {kind : DocumentKind} {doc : Json} {f : Finding}

/-- A topic that words of the sentence tell is that of the check, unless the words come from the
document. -/
theorem topic?_of_contains (hf : f ∈ kind.findings doc)
    (hoptions : Options.ofField? f.field f.kind = none)
    (hkind : ∀ expected, f.violation.cause ≠ .wrongKind expected)
    (hnames : ∀ names, f.violation.cause ≠ .unexpected names) {topic : Hint.Topic} {mark : String}
    (htopic : topic ≠ .range) (hmark : mark ∈ topic.marks)
    (hcontains : Text.contains f.sentence mark = true) :
    f.violation.cause.checkKind.topic? = some topic := by
  by_cases hlength : ∃ length, f.violation.cause = .tooShort length
  · obtain ⟨length, hcause⟩ := hlength
    have hmem : mark ∈ ["Invalid type", "Expected:", "required", "pattern", "does not match"] := by
      cases topic with
      | range => contradiction
      | _ => grind [Hint.Topic.marks]
    have hnone := Hint.contains_lengthSentence mark hmem
    rw [sentence_of_tooShort hf hcause, hnone] at hcontains
    contradiction
  · exact isToldAlone_of_mem_findings hf hoptions hkind (not_exists.1 hlength) hnames topic mark
      hmark hcontains

theorem Violation.Cause.of_topic?_eq_type {cause : Violation.Cause}
    (h : cause.checkKind.topic? = some .type) : ∃ expected, cause = .wrongKind expected := by
  cases cause with
  | wrongKind expected => exact ⟨expected, rfl⟩
  | _ => simp [checkKind, CheckKind.topic?] at h

theorem Violation.Cause.of_topic?_eq_format {cause : Violation.Cause}
    (h : cause.checkKind.topic? = some .format) : cause = .notRooted := by
  cases cause with
  | notRooted => rfl
  | _ => simp [checkKind, CheckKind.topic?] at h

/-- Only the sentences about a type and about unexpected members tell a type. -/
theorem cause_of_tellsType (hf : f ∈ kind.findings doc)
    (hoptions : Options.ofField? f.field f.kind = none)
    (h : Hint.TellsType f.violation.cause.category f.sentence) :
    (∃ expected, f.violation.cause = .wrongKind expected) ∨
      ∃ names, f.violation.cause = .unexpected names := by
  by_contra hnone
  rw [not_or, not_exists, not_exists] at hnone
  have hcategory := Violation.Cause.category_ne_type hnone.1
  obtain ⟨mark, hmark, hcontains⟩ : ∃ mark ∈ Hint.Topic.type.marks,
      Text.contains f.sentence mark = true := by
    simpa [Hint.TellsType, hcategory, Hint.Topic.marks] using h
  obtain ⟨expected, hcause⟩ := Violation.Cause.of_topic?_eq_type
    (topic?_of_contains hf hoptions hnone.1 hnone.2 (by decide) hmark hcontains)
  exact hnone.1 expected hcause

/-- No record that allows no other members is a route. -/
theorem not_endInRoute_of_unexpected (hf : f ∈ kind.findings doc) {names : List String}
    (hcause : f.violation.cause = .unexpected names) :
    Hint.endInRoute (FieldPath.names f.field) = false := by
  obtain ⟨steps, s, hmem, hfollows, hgive⟩ :=
    DocumentKind.exists_canGive_of_mem_findings hf (by simp [hcause])
  rw [hcause] at hgive
  have hcheck := (Finding.fits hf hmem).2
  cases s with
  | record closed required properties =>
    obtain rfl : closed = true := hgive
    obtain ⟨names, hnames, hroute⟩ := (Option.any_eq_true _ _).1 hcheck
    have hfield : FieldPath.names f.field = f.leadNames ++ Segment.names f.location :=
      f.names_field
    rw [hfield, Step.names_of_follows hfollows (isPlain_of_mem_parts f.kind _ hmem) hnames]
    simpa using hroute
  | _ => exact hgive.elim

/-- The example in a message is one that the tables give for its finding. -/
theorem isShown_of_exampleIn? (hf : f ∈ kind.findings doc) {added ex : String}
    (hadded : f.diagnostic.message = f.sentence ++ added)
    (hex : Hint.exampleIn? added = some ex) : f.IsShown ex := by
  have henhance : Hint.enhance f.field f.violation.cause.category f.sentence f.kind =
      f.sentence ++ added := hadded
  have hclause := Hint.exampleIn?_of_enhance henhance
  rw [hex] at hclause
  split at hclause
  · contradiction
  · next hsome =>
    have hoptions : Options.ofField? f.field f.kind = none := by simpa using hsome
    rcases Hint.example?_cases hclause.symm with ⟨htells, type, htold, hknown | ⟨hunknown, htype⟩⟩ |
      ⟨-, -, hknown⟩ | ⟨hnot, hformat, hroute, hroutes⟩
    · exact .known hknown
    · exact .told hunknown htold htype (cause_of_tellsType hf hoptions htells)
    · exact .known hknown
    · refine .route ?_ hroutes
      have hkind : ∀ expected, f.violation.cause ≠ .wrongKind expected := fun expected hcause =>
        hnot (.inl (congrArg Violation.Cause.category hcause))
      have hnames : ∀ names, f.violation.cause ≠ .unexpected names := fun names hcause => by
        rw [not_endInRoute_of_unexpected hf hcause] at hroute
        contradiction
      obtain ⟨mark, hmark, hcontains⟩ : ∃ mark ∈ Hint.Topic.format.marks,
          Text.contains f.sentence mark = true := by
        simpa [Hint.TellsFormat, Hint.Topic.marks] using hformat
      exact Violation.Cause.of_topic?_eq_format
        (topic?_of_contains hf hoptions hkind hnames (by decide) hmark hcontains)

end

/-! ## The type that a sentence tells -/

theorem Json.Kind.name_injective : Function.Injective Json.Kind.name := by
  intro kind other h
  cases kind <;> cases other <;> first | rfl | exact absurd h (by decide)

theorem Json.Kind.blank_not_mem_name (kind : Json.Kind) : ' ' ∉ kind.name.toList := by
  cases kind <;> decide

namespace Hint

/-- The words of a sentence about a wrong type, in front of the type that was given. -/
def upToGiven (expected : Json.Kind) : List Char :=
  "Invalid type. Expected: ".toList ++ expected.name.toList ++ ", given: ".toList

/-- The words that announce another type cannot start there. -/
theorem apart_upToGiven (expected : Json.Kind) : ∀ t ∈ builtinTypes, t ≠ expected.name →
    ∀ phrase ∈ ["Expected: ", "expected ", "Expected "],
      Text.apart (phrase.toList ++ t.toList) (upToGiven expected) = true := by
  cases expected <;> decide +kernel

theorem word?_upToGiven (expected : Json.Kind) (rest : List Char) :
    Text.firstBehind "Expected:".toList (fun cs => Text.word? (Text.trimStart cs))
      (upToGiven expected ++ rest) = some expected.name.toList := by
  cases expected <;> rfl

/-- The expected type is read off the sentence about a wrong one. -/
theorem expectedType?_of_kinds (expected given : Json.Kind) :
    expectedType? ("Invalid type. Expected: " ++ expected.name ++ ", given: " ++ given.name) =
      some expected.name := by
  have hchars : ("Invalid type. Expected: " ++ expected.name ++ ", given: " ++ given.name).toList =
      upToGiven expected ++ given.name.toList := by
    unfold upToGiven
    simp only [String.toList_append]
  rw [expectedType?, hchars, word?_upToGiven, Option.map_some, String.ofList_toList]
  cases hfound : builtinTypes.find? _ with
  | none => rfl
  | some t =>
    by_contra hother
    have hne : t ≠ expected.name := fun heq => hother (congrArg some heq)
    have hnone : ∀ phrase ∈ ["Expected: ", "expected ", "Expected "],
        Text.contains ("Invalid type. Expected: " ++ expected.name ++ ", given: " ++ given.name)
          (phrase ++ t) = false := by
      intro phrase hphrase
      have hblank : ∀ phrase ∈ ["Expected: ", "expected ", "Expected "], ' ' ∈ phrase.toList := by
        decide
      have hapart :=
        apart_upToGiven expected t (List.mem_of_find?_eq_some hfound) hne phrase hphrase
      rw [Bool.eq_false_iff, ne_eq, Text.contains_iff, hchars, String.toList_append]
      intro hoccurs
      exact given.blank_not_mem_name ((Text.infix_of_apart hapart hoccurs).subset
        (List.mem_append_left _ (hblank phrase hphrase)))
    simp only [List.forall_mem_cons] at hnone
    obtain ⟨hfirst, hsecond, hthird, -⟩ := hnone
    have hphrase := List.find?_some hfound
    simp [hfirst, hsecond, hthird] at hphrase

end Hint

/-! ## Examples of other types -/

section
variable {kind : DocumentKind} {doc : Json} {f : Finding} (hf : f ∈ kind.findings doc)
  {s : Schema} (hs : f.kind.schema.at? f.location = some s) {expected : Json.Kind}
  (hexpected : s.kind? = some expected)
include hf hs hexpected

/-- The example for the type that a sentence tells is of another type only if words from the
document are in the sentence. -/
theorem shows_iff_of_told {type ex : String} (hunknown : Example.ofField? f.field = none)
    (htold : Hint.expectedType? f.sentence = some type) (hex : Example.ofType? type = some ex)
    (hcause : (∃ expected, f.violation.cause = .wrongKind expected) ∨
      ∃ names, f.violation.cause = .unexpected names) :
    Example.Shows ex expected ↔ ¬ f.IsMisled expected := by
  obtain ⟨type, rfl⟩ := Example.exists_kind_of_ofType? hex
  have hnone : Example.row? f.field = none := by
    rwa [Example.ofField?_eq_map_row?, Option.map_eq_none_iff] at hunknown
  rw [Example.shows_iff_of_ofType? hex]
  constructor
  · rintro hwider (habove | ⟨-, hrow, -⟩ | ⟨-, -, htoldOther, hother⟩)
    · have hsome := Example.ofField?_isSome_of_isAbove habove
      rw [hunknown] at hsome
      contradiction
    · rw [hnone] at hrow
      contradiction
    · have hname := Option.some.inj (htold.symm.trans htoldOther)
      exact hother (Json.Kind.name_injective hname ▸ hwider)
  · intro hright
    by_contra hother
    refine hright (.told hnone ?_ htold hother)
    rcases hcause with ⟨declared, hcause⟩ | hnames
    · right
      by_contra hfree
      obtain ⟨t, ht, hdeclared⟩ := DocumentKind.kind?_of_wrongKind hf hcause
      obtain rfl := Option.some.inj (hs.symm.trans ht)
      obtain rfl := Option.some.inj (hexpected.symm.trans hdeclared)
      have hsentence : f.sentence = "Invalid type. Expected: " ++ expected.name ++ ", given: " ++
          f.violation.value.kind.name := by
        simp only [Finding.sentence, Violation.sentence, hcause, Violation.namedType_typeStatement,
          Option.not_isSome_iff_eq_none.1 hfree, Option.getD_none]
      rw [hsentence, Hint.expectedType?_of_kinds] at htold
      obtain rfl := Json.Kind.name_injective (Option.some.inj htold)
      exact hother (Json.Kind.self_mem_wider _)
    · exact .inl hnames

/-- A text about a route gets an example that is a text. -/
theorem shows_iff_of_route (hcause : f.violation.cause = .notRooted) :
    Example.Shows "'/api/users'" expected ↔ ¬ f.IsMisled expected := by
  obtain ⟨steps, t, hmem, hfollows, hgive⟩ :=
    DocumentKind.exists_canGive_of_mem_findings hf (by simp [hcause])
  rw [hcause] at hgive
  have ht := DocumentKind.at?_of_mem_parts hmem hfollows
  obtain rfl : t = s := Option.some.inj (ht.symm.trans hs)
  have hcheck := (Finding.fits hf hmem).2
  cases t with
  | text rule =>
    obtain rfl : Json.Kind.string = expected := Option.some.inj hexpected
    have hrooted : rule.rooted = true := hgive
    simp only [FormatFits, hrooted, Bool.not_true, Bool.false_or] at hcheck
    obtain ⟨names, hnames, habove⟩ := (Option.any_eq_true _ _).1 hcheck
    have hplace := Step.names_of_follows hfollows (isPlain_of_mem_parts f.kind _ hmem) hnames
    have hfield : FieldPath.names f.field = f.leadNames ++ Segment.names f.location := f.names_field
    have hliteral : Example.IsLiteral .string "'/api/users'" := .inr ⟨rfl, "/api/users", rfl⟩
    refine iff_of_true ⟨"'/api/users'", [], rfl, by simpa using hliteral⟩ ?_
    rintro (hknown | ⟨hpasses, -, -⟩ | ⟨-, -, htold, -⟩)
    · rw [hfield, hplace] at hknown
      simp [hknown] at habove
    · rw [Schema.passesKey_of_mem_parts f.kind.namesOnce hmem hfollows, hnames] at hpasses
      contradiction
    · have hnone : Hint.expectedType? "Does not match pattern '^/'" = none := by decide
      have hsentence : f.sentence = "Does not match pattern '^/'" := by
        simp only [Finding.sentence, Violation.sentence, hcause]
      rw [hsentence, hnone] at htold
      contradiction
  | _ => exact hgive.elim

end

/-- An example in a message is of the type that the schema declares at the place, unless the
look-up is misled, and is not of that type if it is. -/
theorem DocumentKind.shows_declared_type_iff (kind : DocumentKind) (doc : Json) :
    kind.diagnoseAll doc = (kind.findings doc).map Finding.diagnostic ∧
      ∀ f ∈ kind.findings doc, ∀ added ex, f.diagnostic.message = f.sentence ++ added →
        Hint.exampleIn? added = some ex →
          ∃ s expected, f.kind.schema.at? f.location = some s ∧ s.kind? = some expected ∧
            (Example.Shows ex expected ↔ ¬ f.IsMisled expected) := by
  refine ⟨diagnoseAll_eq_map kind doc, fun f hf added ex hadded hex => ?_⟩
  obtain ⟨steps, s, expected, hmem, hfollows, hexpected⟩ := exists_kind_of_mem_findings hf
  have hs := at?_of_mem_parts hmem hfollows
  refine ⟨s, expected, hs, hexpected, ?_⟩
  cases isShown_of_exampleIn? hf hadded hex with
  | known hknown => exact shows_iff_of_known hf hmem hfollows hexpected hknown
  | told hunknown htold htype hcause =>
    exact shows_iff_of_told hf hs hexpected hunknown htold htype hcause
  | route hcause hroute =>
    rw [hroute]
    exact shows_iff_of_route hf hs hexpected hcause

/-- A resource with a number for its metadata. -/
def metadataNumber : Json :=
  .obj [("metadata", .num (.int 5)), ("run", .obj [])]

theorem DocumentKind.example_of_field_inside :
    (resource.diagnoseAll metadataNumber).map (fun d => (d.field, d.kind, d.message)) =
        [("metadata", .type, "Invalid type. Expected: object, given: integer" ++
          ". Expected type: object. Example: \"my-action\"")] ∧
      (Schema.resource.at? [.key "metadata"]).bind Schema.kind? = some .object ∧
      ¬ Example.Shows "\"my-action\"" .object := by
  have hmem : "\"my-action\"" ∈ Example.texts := by decide +kernel
  refine ⟨by decide +kernel, rfl, ?_⟩
  rw [Example.shows_iff_mem_kinds hmem]
  decide

end FlowCheck
