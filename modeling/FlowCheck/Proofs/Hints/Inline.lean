import FlowCheck.Proofs.Hints.Hint
import FlowCheck.Proofs.Hints.Options
import FlowCheck.Proofs.Json.Members

/-!
# Hints for the fields of inline resources

A field of a resource inside a workflow document is looked up by a path that starts with
`resources` (`FieldPath.Inline`).  The tables of options, routes and ranges answer as they do for
the path in the resource alone.  The table of examples does so for any path that no known path
contains; a few paths are contained in known ones, and these get other examples inside a workflow,
or none (`Example.changedInline`).

A hint shows what the tables answer, so the hints for both paths are the same unless an example is
shown (`Hint.enhance_inline`).
-/

namespace FlowCheck

/-- The members of a resource document. -/
def Resource.memberNames : List String := ["apiVersion", "items", "kind", "metadata", "run"]

/-- `inline` is the path, in a workflow document, to what `field` is the path to in one of its
resources. -/
structure FieldPath.Inline (inline field : String) : Prop where
  names_eq : names inline = "resources" :: names field
  head_mem : ∀ name rest, names field = name :: rest → name ∈ Resource.memberNames

/-! ## Options -/

theorem isSuffixOf_resources_cons {key : List String} (hne : key ≠ [])
    (hhead : key.head? ≠ some "resources") (names : List String) :
    key.isSuffixOf ("resources" :: names) = key.isSuffixOf names := by
  rw [Bool.eq_iff_iff, List.isSuffixOf_iff_suffix, List.isSuffixOf_iff_suffix,
    List.suffix_cons_iff]
  constructor
  · rintro (rfl | h)
    · exact absurd rfl hhead
    · exact h
  · exact .inr

namespace Options

theorem head_names_of_mem_fields :
    ∀ f ∈ fields, (FieldPath.names f.1).head? ≠ some "resources" := by
  decide

theorem not_contextWord_of_mem_memberNames :
    ∀ name ∈ Resource.memberNames, ∀ w ∈ contextWords, w.word ≠ name := by
  decide

theorem resources_not_mem_context : ∀ w ∈ contextWords, w.context.contains "resources" = false := by
  decide

/-- A context is found behind `resources` as it is without. -/
theorem inContextNames?_resources {name : String} {rest : List String}
    (hname : name ∈ Resource.memberNames) (kind : DocumentKind) :
    inContextNames? ("resources" :: name :: rest) kind = inContextNames? (name :: rest) kind := by
  unfold inContextNames?
  rw [List.getLast?_cons_cons]
  refine Option.bind_congr fun w hw => ?_
  have hmem : w ∈ contextWords := List.mem_of_find?_eq_some hw
  have hlast : (name :: rest).getLast? = some w.word := by simpa using List.find?_some hw
  -- one name alone would be a word of a context, and these are no members of a resource
  have hlength : 1 < (name :: rest).length := by
    cases rest with
    | nil =>
      exact absurd (Option.some.inj hlast).symm
        (not_contextWord_of_mem_memberNames name hname w hmem)
    | cons next rest => simp
  rw [if_pos (by simp), if_pos hlength, List.any_cons, resources_not_mem_context w hmem,
    Bool.false_or]

theorem ofNames?_resources {names : List String}
    (hhead : ∀ name rest, names = name :: rest → name ∈ Resource.memberNames) :
    ofNames? ("resources" :: names) .resource = ofNames? names .resource := by
  have hne : ∀ name ∈ Resource.memberNames, name ≠ "resources" := by decide
  cases names with
  | nil => decide
  | cons name rest =>
    have hname : name ∈ Resource.memberNames := hhead name rest rfl
    have hfind : (fields.find? fun f => (FieldPath.names f.1).isSuffixOf
        ("resources" :: name :: rest)) =
        fields.find? fun f => (FieldPath.names f.1).isSuffixOf (name :: rest) :=
      List.find?_congr fun f hf => isSuffixOf_resources_cons (normalize_of_mem_fields f hf).2
        (head_names_of_mem_fields f hf) _
    unfold ofNames?
    rw [hfind, inContextNames?_resources hname]
    by_cases hkind : name :: rest = ["kind"]
    · simp [hkind]
    · have hinline : name :: rest ≠ ["resources", "kind"] := by
        rintro ⟨⟩
        exact hne _ hname rfl
      simp [hkind, hinline]

theorem ofField?_inline {inline field : String} (h : FieldPath.Inline inline field) :
    ofField? inline .resource = ofField? field .resource := by
  rw [ofField?_eq_ofNames?, ofField?_eq_ofNames?, h.names_eq, ofNames?_resources h.head_mem]

end Options

/-! ## Routes and ranges -/

namespace Hint

theorem names_of_mem_routeFields : ∀ key ∈ routeFields, FieldPath.normalize key = key ∧
    FieldPath.names key ≠ [] ∧ (FieldPath.names key).head? ≠ some "resources" := by
  decide

/-- The names end in those of a route. -/
def endInRoute (names : List String) : Bool :=
  routeFields.any fun key => (FieldPath.names key).isSuffixOf names

/-- The table of routes goes by the names on a path. -/
theorem any_endsIn_routeFields (field : String) :
    routeFields.any (FieldPath.endsIn (FieldPath.normalize field)) =
      endInRoute (FieldPath.names field) := by
  rw [endInRoute, Bool.eq_iff_iff, List.any_eq_true, List.any_eq_true]
  refine exists_congr fun key => and_congr_right fun hkey => ?_
  obtain ⟨hnormal, hne, -⟩ := names_of_mem_routeFields key hkey
  rw [FieldPath.endsIn_normalize_iff hnormal hne, List.isSuffixOf_iff_suffix]

theorem endInRoute_resources_cons (names : List String) :
    endInRoute ("resources" :: names) = endInRoute names := by
  rw [endInRoute, endInRoute, Bool.eq_iff_iff, List.any_eq_true, List.any_eq_true]
  refine exists_congr fun key => and_congr_right fun hkey => ?_
  obtain ⟨-, hne, hhead⟩ := names_of_mem_routeFields key hkey
  rw [isSuffixOf_resources_cons hne hhead]

theorem forPattern_inline {inline field : String} (h : FieldPath.Inline inline field) :
    forPattern inline = forPattern field := by
  unfold forPattern
  rw [any_endsIn_routeFields, any_endsIn_routeFields, h.names_eq, endInRoute_resources_cons]

theorem names_of_mem_rangedFields : ∀ entry ∈ rangedFields,
    FieldPath.normalize entry.1 = entry.1 ∧
      ∀ name ∈ "resources" :: Resource.memberNames,
        (FieldPath.names entry.1).head? ≠ some name := by
  decide

/-- No field of a resource has a known range. -/
theorem lookup_rangedFields_eq_none {field name : String} {rest : List String}
    (hnames : FieldPath.names field = name :: rest)
    (hname : name ∈ "resources" :: Resource.memberNames) :
    rangedFields.lookup (FieldPath.normalize field) = none := by
  rw [List.lookup_eq_none_iff]
  intro entry hentry
  obtain ⟨hnormal, hhead⟩ := names_of_mem_rangedFields entry hentry
  rw [bne_iff_ne]
  intro hfield
  have hkey := (FieldPath.normalize_eq_iff hnormal).1 hfield
  exact hhead name hname (by rw [← hkey, hnames]; rfl)

theorem forRange_inline {inline field : String} (h : FieldPath.Inline inline field)
    (description : String) : forRange inline description = forRange field description := by
  have hfield : rangedFields.lookup (FieldPath.normalize field) = none := by
    cases hnames : FieldPath.names field with
    | nil =>
      rw [FieldPath.normalize_eq, hnames]
      decide
    | cons name rest =>
      exact lookup_rangedFields_eq_none hnames
        (List.mem_cons_of_mem _ (h.head_mem name rest hnames))
  unfold forRange
  rw [lookup_rangedFields_eq_none h.names_eq List.mem_cons_self, hfield]

end Hint

/-! ## Examples -/

namespace Example

/-- The example of the first known path within a text. -/
def within? (text : String) : Option String :=
  (fields.find? fun f => Text.contains text f.1).map (·.2)

theorem known_of_mem_fields : ∀ f ∈ fields, f.1 ≠ "" ∧
    Text.contains f.1 "resources" = false ∧ Text.contains "resources" f.1 = false ∧
      Text.apart f.1.toList "resources.".toList = true := by
  decide

/-- A path with `resources` in front of some names has the known paths within it that the names
have. -/
theorem contains_inline {inline field : String} (h : FieldPath.Inline inline field)
    {f : String × String} (hf : f ∈ fields) :
    Text.contains (FieldPath.normalize inline) f.1 =
      Text.contains (FieldPath.normalize field) f.1 := by
  obtain ⟨hne, -, hresources, hapart⟩ := known_of_mem_fields f hf
  rw [FieldPath.normalize_eq, FieldPath.normalize_eq, h.names_eq]
  by_cases hnames : FieldPath.names field = []
  · rw [hnames]
    have hempty : Text.contains "" f.1 = false := by
      rw [Bool.eq_false_iff, ne_eq, Text.contains_iff]
      simpa using hne
    exact hresources.trans hempty.symm
  · have hjoin : Text.join "." ("resources" :: FieldPath.names field) =
        "resources." ++ Text.join "." (FieldPath.names field) := by
      rw [Text.join, ← List.singleton_append,
        String.intercalate_append_of_ne_nil (by simp) hnames, String.intercalate_singleton]
      rfl
    rw [Bool.eq_iff_iff, Text.contains_iff, Text.contains_iff, hjoin, String.toList_append]
    exact ⟨Text.infix_of_apart hapart, List.infix_append_of_infix_right⟩

/-- No known path contains the path of an inline resource's field. -/
theorem not_contains_of_inline {inline field : String} (h : FieldPath.Inline inline field)
    {f : String × String} (hf : f ∈ fields) :
    Text.contains f.1 (FieldPath.normalize inline) = false := by
  obtain ⟨-, hresources, -⟩ := known_of_mem_fields f hf
  rw [Bool.eq_false_iff, ne_eq, Text.contains_iff] at hresources ⊢
  intro hinfix
  have hstarts : "resources".toList <:+: (FieldPath.normalize inline).toList := by
    rw [FieldPath.normalize_eq, h.names_eq]
    cases FieldPath.names field with
    | nil => simp [Text.join]
    | cons name rest =>
      refine List.IsPrefix.isInfix ⟨('.' :: (Text.join "." (name :: rest)).toList), ?_⟩
      simp [Text.join]
  exact hresources (hstarts.trans hinfix)

/-- A path that no known path contains has the example of the first known path within it. -/
theorem ofField?_eq_within? {field : String}
    (h : ∀ f ∈ fields, Text.contains f.1 (FieldPath.normalize field) = false) :
    ofField? field = within? (FieldPath.normalize field) := by
  have hself : ∀ f ∈ fields, FieldPath.normalize field ≠ f.1 := by
    intro f hf heq
    have hcontains := h f hf
    rw [Bool.eq_false_iff, ne_eq, Text.contains_iff, heq] at hcontains
    exact hcontains List.infix_rfl
  have hne : FieldPath.normalize field ≠ "" := by
    intro hempty
    have hcontains := h ("apiVersion", "\"kdeps.io/v1\"") List.mem_cons_self
    rw [hempty] at hcontains
    exact absurd hcontains (by decide)
  have hlookup : fields.lookup (FieldPath.normalize field) = none := by
    rw [List.lookup_eq_none_iff]
    exact fun f hf => bne_iff_ne.2 (hself f hf)
  have hfind : (fields.find? fun f => Text.contains (FieldPath.normalize field) f.1 ||
      Text.contains f.1 (FieldPath.normalize field)) =
      fields.find? fun f => Text.contains (FieldPath.normalize field) f.1 :=
    List.find?_congr fun f hf => by rw [h f hf, Bool.or_false]
  unfold ofField? within?
  simp only [hne, if_false, hlookup, hfind]
  rfl

/-- Inside a workflow document, only the known paths within a path count. -/
theorem ofField?_inline {inline field : String} (h : FieldPath.Inline inline field) :
    ofField? inline = within? (FieldPath.normalize field) := by
  rw [ofField?_eq_within? fun f hf => not_contains_of_inline h hf, within?, within?]
  exact congrArg _ (List.find?_congr fun f hf => contains_inline h hf)

/-- The fields of a resource document that get another example inside a workflow document, or none
at all: those above known fields, and one whose path goes on from the path of another. -/
def changedInline : List String :=
  ["metadata", "run", "run.apiResponse", "run.chat", "run.httpClient", "run.python",
    "run.python.scriptFile", "run.sql"]

/-- The examples of the types. -/
def ofTypes : List String :=
  ["\"example\"", "123", "true", "\x7b\"key\": \"value\"\x7d", "[\"item1\", \"item2\"]"]

theorem ofType?_mem_ofTypes {type ex : String} (h : ofType? type = some ex) : ex ∈ ofTypes :=
  List.mem_map_of_mem (f := Prod.snd) (Members.mem_of_lookup_eq_some h)

theorem ofField?_of_mem_changedInline : ∀ path ∈ changedInline, FieldPath.normalize path = path ∧
    Options.ofNames? (FieldPath.names path) .resource = none ∧
    (ofField? path).any fun ex => within? path != some ex && !ofTypes.contains ex := by
  decide +kernel

/-- The example of such a field is neither what it gets inside a workflow document nor that of a
type. -/
theorem exists_of_mem_changedInline {field : String}
    (h : FieldPath.normalize field ∈ changedInline) :
    ∃ ex, ofField? field = some ex ∧ within? (FieldPath.normalize field) ≠ some ex ∧
      ∀ type, ofType? type ≠ some ex := by
  obtain ⟨hnormal, -, hex⟩ := ofField?_of_mem_changedInline _ h
  obtain ⟨ex, hfield, hchanged⟩ := (Option.any_eq_true _ _).1 hex
  obtain ⟨hwithin, htypes⟩ := Bool.and_eq_true_iff.1 hchanged
  refine ⟨ex, ?_, bne_iff_ne.1 hwithin, fun type htype => ?_⟩
  · rw [← hfield, ofField?, ofField?, hnormal]
  · simp [ofType?_mem_ofTypes htype] at htypes

/-! ### Fields of a resource and known paths -/

/-- The characters of a path with some names. -/
def chars (names : List String) : List Char := ['.'].intercalate (names.map String.toList)

theorem toList_join (names : List String) : (Text.join "." names).toList = chars names := by
  rw [Text.join, String.toList_intercalate]
  rfl

theorem toList_normalize (field : String) :
    (FieldPath.normalize field).toList = chars (FieldPath.names field) := by
  rw [FieldPath.normalize_eq, toList_join]

theorem chars_prefix_append {front : List String} (hne : front ≠ []) (back : List String) :
    chars front <+: chars (front ++ back) := by
  rw [← toList_join, ← toList_join]
  by_cases hback : back = []
  · rw [hback, List.append_nil]
  · rw [Text.join, Text.join, String.intercalate_append_of_ne_nil hne hback,
      String.toList_append, String.toList_append, List.append_assoc]
    exact List.prefix_append _ _

/-- A known path starts with the names. -/
def leads (names : List String) : Bool :=
  fields.any fun f => (chars names).isPrefixOf f.1.toList

theorem leads_of_append {front back : List String} (hne : front ≠ [])
    (h : leads (front ++ back) = true) : leads front = true := by
  obtain ⟨f, hf, hstarts⟩ := List.any_eq_true.1 h
  rw [List.isPrefixOf_iff_prefix] at hstarts
  refine List.any_eq_true.2 ⟨f, hf, ?_⟩
  rw [List.isPrefixOf_iff_prefix]
  exact (chars_prefix_append hne back).trans hstarts

theorem member_not_behind : ∀ f ∈ fields, ∀ name ∈ Resource.memberNames,
    Text.occursIn name.toList f.1.toList.tail = false := by
  decide +kernel

/-- The path of a field of a resource stands in a known path only at its start. -/
theorem leads_of_contains {field name : String} {rest : List String}
    (hnames : FieldPath.names field = name :: rest) (hname : name ∈ Resource.memberNames)
    {f : String × String} (hf : f ∈ fields)
    (h : Text.contains f.1 (FieldPath.normalize field) = true) :
    leads (FieldPath.names field) = true := by
  have hstart : name.toList <+: chars (FieldPath.names field) := by
    have hfront := chars_prefix_append (List.cons_ne_nil name []) rest
    rw [hnames]
    simpa [chars] using hfront
  rw [Text.contains_iff, toList_normalize] at h
  refine List.any_eq_true.2 ⟨f, hf, ?_⟩
  rw [List.isPrefixOf_iff_prefix]
  cases hpath : f.1.toList with
  | nil =>
    rw [hpath, List.infix_nil] at h
    rw [h]
  | cons c cs =>
    rw [hpath, List.infix_cons_iff] at h
    refine h.resolve_right fun hbehind => ?_
    have hoccurs : Text.occursIn name.toList f.1.toList.tail = true := by
      rw [hpath, Text.occursIn_iff]
      exact hstart.isInfix.trans hbehind
    rw [member_not_behind f hf name hname] at hoccurs
    contradiction

/-- A field whose names no known path starts with has no other example than that of the first known
path within its own. -/
theorem ofField?_of_not_leads {inline field : String} (h : FieldPath.Inline inline field)
    (hleads : leads (FieldPath.names field) = false) :
    ofField? field = within? (FieldPath.normalize field) := by
  refine ofField?_eq_within? fun f hf => Bool.eq_false_iff.2 fun hcontains => ?_
  cases hnames : FieldPath.names field with
  | nil => simp [hnames, leads, chars, fields] at hleads
  | cons name rest =>
    have hlead := leads_of_contains hnames (h.head_mem name rest hnames) hf hcontains
    simp [hlead] at hleads

theorem known_of_not_mem_changedInline : ∀ f ∈ fields, f.1 ∉ changedInline →
    fields.lookup f.1 = some f.2 ∧ within? f.1 = some f.2 := by
  decide +kernel

/-- A known path has its own example, and is the first known path within itself. -/
theorem ofField?_of_known {field : String}
    (hknown : FieldPath.normalize field ∈ fields.map Prod.fst)
    (hmem : FieldPath.normalize field ∉ changedInline) :
    ofField? field = within? (FieldPath.normalize field) := by
  obtain ⟨f, hf, hfield⟩ := List.mem_map.1 hknown
  obtain ⟨hlookup, hwithin⟩ := known_of_not_mem_changedInline f hf (hfield ▸ hmem)
  have hne : FieldPath.normalize field ≠ "" := hfield ▸ (known_of_mem_fields f hf).1
  rw [hfield] at hlookup hwithin
  simp [ofField?, hne, hlookup, hwithin]

/-- No known path starts with the names, or their path is itself a known one, or one of those whose
example changes. -/
def isSettled (names : List String) : Bool :=
  names.isEmpty || !leads names ||
    (fields.map Prod.fst ++ changedInline).any fun path => path.toList == chars names

/-- A field of a resource has the same example inside a workflow document, except those listed. -/
theorem ofField?_inline_eq_iff {inline field : String} (h : FieldPath.Inline inline field)
    (hsettled : isSettled (FieldPath.names field) = true) :
    ofField? inline = ofField? field ↔ FieldPath.normalize field ∉ changedInline := by
  rw [ofField?_inline h, eq_comm]
  constructor
  · intro heq hmem
    obtain ⟨ex, hex, hne, -⟩ := exists_of_mem_changedInline hmem
    exact hne (heq.symm.trans hex)
  · intro hmem
    rw [isSettled, Bool.or_eq_true, Bool.or_eq_true] at hsettled
    rcases hsettled with (hempty | hleads) | hlisted
    · have hnil : FieldPath.normalize field = "" := by
        rw [FieldPath.normalize_eq, List.isEmpty_iff.1 hempty]
        rfl
      rw [ofField?, hnil]
      decide
    · exact ofField?_of_not_leads h (by simpa using hleads)
    · obtain ⟨path, hpath, hchars⟩ := List.any_eq_true.1 hlisted
      obtain rfl : path = FieldPath.normalize field := by
        rw [← String.toList_inj, toList_normalize]
        exact beq_iff_eq.1 hchars
      rcases List.mem_append.1 hpath with hknown | hchanged
      · exact ofField?_of_known hknown hmem
      · exact absurd hchanged hmem

end Example

/-! ## Hints -/

namespace Hint

/-- The hint for such a sentence shows an example, for a field that has one and no options. -/
def ShowsExample (category description : String) : Prop :=
  if category = "type" ∨ Text.contains description "Invalid type" = true ∨
      Text.contains description "Expected:" = true then
    (expectedType? description).isSome ∧ Text.contains description "given" = true
  else Text.contains description "required" = true

/-- The words of a sentence, or its category, tell a type. -/
theorem isType_iff {category description : String} :
    (category = "type" || Text.contains description "Invalid type" ||
      Text.contains description "Expected:") = true ↔
      category = "type" ∨ Text.contains description "Invalid type" = true ∨
        Text.contains description "Expected:" = true := by
  simp [or_assoc]

theorem forType_congr {inline field description : String}
    (h : (expectedType? description).isSome ∧ Text.contains description "given" = true →
      Example.ofField? inline = Example.ofField? field) :
    forType inline description = forType field description := by
  unfold forType
  cases hexpected : expectedType? description with
  | none => rfl
  | some expected =>
    by_cases hgiven : Text.contains description "given" = true
    · rw [h ⟨by rw [hexpected]; rfl, hgiven⟩]
    · simp only [hgiven, if_false, Bool.false_eq_true]

/-- The hints for a field of an inline resource and for the field of the resource alone are the
same, unless an example is shown and the examples differ. -/
theorem enhance_inline {inline field category description : String}
    (h : FieldPath.Inline inline field)
    (hexample : ShowsExample category description →
      Example.ofField? inline = Example.ofField? field) :
    enhance inline category description .resource =
      enhance field category description .resource := by
  unfold enhance
  rw [Options.ofField?_inline h, forPattern_inline h, forRange_inline h]
  cases Options.ofField? field .resource with
  | some options => rfl
  | none =>
    simp only [isType_iff]
    by_cases htype : category = "type" ∨ Text.contains description "Invalid type" = true ∨
        Text.contains description "Expected:" = true
    · rw [ShowsExample, if_pos htype] at hexample
      rw [if_pos htype, if_pos htype, forType_congr hexample]
    · rw [ShowsExample, if_neg htype] at hexample
      rw [if_neg htype, if_neg htype]
      by_cases hrequired : Text.contains description "required" = true
      · rw [if_pos hrequired, if_pos hrequired, forRequired, forRequired, hexample hrequired]
      · rw [if_neg hrequired, if_neg hrequired]

theorem append_inj {description hint other : String} (hne : hint ≠ "") (hother : other ≠ "") :
    append description hint = append description other ↔ hint = other := by
  rw [append_of_ne_empty hne, append_of_ne_empty hother, String.append_right_inj,
    String.append_right_inj]

/-- What a hint shows where the sentence tells a type: the example of the field, else that of the
type. -/
theorem forType_eq {field description expected : String}
    (hexpected : expectedType? description = some expected)
    (hgiven : Text.contains description "given" = true) :
    forType field description = "Expected type: " ++ expected ++
      ((Example.ofField? field <|> Example.ofType? expected).elim "" (". Example: " ++ ·)) := by
  unfold forType
  simp only [hexpected, hgiven, if_true]
  cases (Example.ofField? field <|> Example.ofType? expected) with
  | none => simp
  | some ex => simp [String.append_assoc]

theorem forRequired_eq_example (field : String) :
    forRequired field = "This field is required" ++
      (Example.ofField? field).elim "" (". Example: " ++ ·) := by
  unfold forRequired
  cases Example.ofField? field with
  | none => rfl
  | some ex =>
    simp only [Option.elim_some]
    rw [← String.append_assoc]
    rfl

/-- Shown examples can be told apart. -/
theorem elim_example_inj {a b : Option String}
    (h : a.elim "" (". Example: " ++ ·) = b.elim "" (". Example: " ++ ·)) : a = b := by
  cases a with
  | none =>
    cases b with
    | none => rfl
    | some ex => simp at h
  | some ex =>
    cases b with
    | none => simp at h
    | some other =>
      simp only [Option.elim_some, String.append_right_inj] at h
      rw [h]

/-- Where an example is shown, fields with different examples get different hints. -/
theorem enhance_ne_of_example {inline field category description ex : String}
    (hinline : Options.ofField? inline .resource = none)
    (hfield : Options.ofField? field .resource = none)
    (hshows : ShowsExample category description) (hex : Example.ofField? field = some ex)
    (hne : Example.ofField? inline ≠ some ex) (htypes : ∀ type, Example.ofType? type ≠ some ex) :
    enhance inline category description .resource ≠
      enhance field category description .resource := by
  unfold enhance
  rw [hinline, hfield]
  simp only [isType_iff]
  by_cases htype : category = "type" ∨ Text.contains description "Invalid type" = true ∨
      Text.contains description "Expected:" = true
  · rw [ShowsExample, if_pos htype] at hshows
    obtain ⟨hexpected, hgiven⟩ := hshows
    obtain ⟨expected, hexpected⟩ := Option.isSome_iff_exists.1 hexpected
    rw [if_pos htype, if_pos htype, forType_eq hexpected hgiven, forType_eq hexpected hgiven,
      ne_eq, append_inj (by simp) (by simp), String.append_right_inj, hex]
    intro heq
    have hshown := elim_example_inj heq
    cases hinlineExample : Example.ofField? inline with
    | none =>
      rw [hinlineExample] at hshown
      exact htypes expected hshown
    | some other =>
      rw [hinlineExample] at hshown
      exact hne (hinlineExample.trans hshown)
  · rw [ShowsExample, if_neg htype] at hshows
    rw [if_neg htype, if_neg htype, if_pos hshows, if_pos hshows, forRequired_eq_example,
      forRequired_eq_example, ne_eq, append_inj (by simp) (by simp), String.append_right_inj, hex]
    exact fun heq => hne (elim_example_inj heq)

/-- The messages about a field of an inline resource and about the field of the resource alone
differ exactly where an example is shown that changes. -/
theorem enhance_inline_eq_iff {inline field : String} (h : FieldPath.Inline inline field)
    (hsettled : Example.isSettled (FieldPath.names field) = true) (category description : String) :
    enhance inline category description .resource = enhance field category description .resource ↔
      ¬ (ShowsExample category description ∧
        FieldPath.normalize field ∈ Example.changedInline) := by
  constructor
  · rintro heq ⟨hshows, hchanged⟩
    obtain ⟨ex, hex, hne, htypes⟩ := Example.exists_of_mem_changedInline hchanged
    have hfield : Options.ofField? field .resource = none := by
      obtain ⟨-, hnone, -⟩ := Example.ofField?_of_mem_changedInline _ hchanged
      rw [Options.ofField?_eq_ofNames?, ← FieldPath.names_normalize, hnone]
    have hinline : Options.ofField? inline .resource = none := by
      rw [Options.ofField?_inline h, hfield]
    rw [← Example.ofField?_inline h] at hne
    exact enhance_ne_of_example hinline hfield hshows hex hne htypes heq
  · intro hnot
    refine enhance_inline h fun hshows => ?_
    exact (Example.ofField?_inline_eq_iff h hsettled).2 fun hchanged => hnot ⟨hshows, hchanged⟩

end Hint
end FlowCheck
