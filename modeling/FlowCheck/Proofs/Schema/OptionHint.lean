import FlowCheck.Proofs.Hints.Hint
import FlowCheck.Proofs.Hints.Options
import FlowCheck.Proofs.Schema.Finding

/-!
# Lists of options and the schema

The options in a diagnostic come from a table of paths, and the restriction from the schema.  They
agree at every place whose last step is no key of a table: a list of options is that of the part
of the schema that the place belongs to, or that of the items where the part is a list
(`DocumentKind.optionList_of_part`).  The table drops positions, and so gives a list and its items
the same options, although the list is not enumerated itself.  No value of a table is enumerated,
but a key whose last name is one of the words that end the known paths gets their options all the
same (`DocumentKind.options_of_header`).
-/

namespace FlowCheck

open Step (Follows)

/-- The values that a schema enumerates, if it does. -/
def Schema.enum? : Schema → Option Options
  | text rule => if rule.options = [] then none else some (.ofTexts rule.options)
  | integer _ values => if values = [] then none else some (values.map .number)
  | _ => none

/-- The values that a schema enumerates; those of the items for a list, which has none itself. -/
def Schema.options? : Schema → Option Options
  | list items => items.enum?
  | s => s.enum?

theorem Schema.options?_eq_some_iff {s : Schema} {options : Options} :
    s.options? = some options ↔
      s.enum? = some options ∨ ∃ items, s = .list items ∧ items.enum? = some options := by
  cases s <;> simp [options?, enum?]

namespace Step

/-- The names on every path that follows the steps, if no step takes a key of a table. -/
def names? : List Step → Option (List String)
  | [] => some []
  | member name :: steps => (names? steps).map (name :: ·)
  | item :: steps => names? steps
  | entry :: _ => none

/-- A member has a name that stands for itself on a field path. -/
def IsPlain : Step → Prop
  | member name => FieldPath.names name = [name]
  | _ => True

instance : DecidablePred IsPlain
  | member name => inferInstanceAs (Decidable (FieldPath.names name = [name]))
  | item => .isTrue trivial
  | entry => .isTrue trivial

end Step

/-- The names of the segments of a path. -/
def Segment.names (path : List Segment) : List String :=
  path.flatMap fun segment => FieldPath.names segment.text

namespace Step

theorem names_of_follows {steps : List Step} {path : List Segment} (h : Follows steps path)
    (hplain : ∀ step ∈ steps, step.IsPlain) {names : List String}
    (hnames : names? steps = some names) : Segment.names path = names := by
  induction h generalizing names with
  | nil => exact Option.some.inj hnames
  | @cons step segment steps path htakes hfollows ih =>
    have hrest := fun s hs => hplain s (List.mem_cons_of_mem _ hs)
    rw [Segment.names, List.flatMap_cons, ← Segment.names]
    cases step with
    | member name =>
      obtain ⟨rest, hsteps, rfl⟩ := Option.map_eq_some_iff.1 hnames
      cases segment with
      | key key =>
        obtain rfl : key = name := htakes
        have hname : FieldPath.names key = [key] := hplain _ List.mem_cons_self
        rw [ih hrest hsteps, Segment.text, hname, List.singleton_append]
      | index i => exact htakes.elim
    | item =>
      cases segment with
      | key key => exact htakes.elim
      | index i => rw [ih hrest hnames, Segment.text, FieldPath.names_toString, List.nil_append]
    | entry => contradiction

/-- The last segment is taken by the last step. -/
theorem Follows.of_append {steps : List Step} {last : Step} {path : List Segment}
    (h : Follows (steps ++ [last]) path) :
    ∃ front segment, path = front ++ [segment] ∧ Follows steps front ∧ last.Takes segment := by
  induction steps generalizing path with
  | nil =>
    cases h with
    | cons htakes hrest =>
      cases hrest
      exact ⟨[], _, rfl, .nil, htakes⟩
  | cons step steps ih =>
    cases h with
    | cons htakes hrest =>
      obtain ⟨front, segment, rfl, hfront, hlast⟩ := ih hrest
      exact ⟨_ :: front, segment, rfl, .cons htakes hfront, hlast⟩

end Step

/-! ## The table of options -/

/-- The last of some names is none of the words that end the known paths. -/
def EndsUnknown (names : List String) : Bool :=
  names.getLast?.all fun name => !Options.words.contains name

/-- The table of options agrees with a part of the schema of some kind of document, `lead` being
the names in front. -/
def OptionsAgree (kind : DocumentKind) (lead : List String) (part : List Step × Schema) : Bool :=
  match Step.names? part.1, part.1.reverse with
  | some names, _ =>
    (Options.ofNames? (lead ++ names) kind).all fun options => part.2.options? == some options
  | none, .member name :: _ => EndsUnknown [name]
  | none, .entry :: front => part.2.options? == none &&
    (Step.names? front.reverse).any fun names => EndsUnknown (lead ++ names)
  | none, _ => false

theorem optionsAgree (kind : DocumentKind) :
    ∀ part ∈ kind.schema.parts, OptionsAgree kind [] part = true := by
  cases kind with
  | workflow => decide +kernel
  | resource => decide +kernel

theorem optionsAgree_inline :
    ∀ part ∈ Schema.resource.parts, OptionsAgree .resource ["resources"] part = true := by
  decide +kernel

theorem isPlain_of_mem_parts (kind : DocumentKind) :
    ∀ part ∈ kind.schema.parts, ∀ step ∈ part.1, step.IsPlain := by
  cases kind with
  | workflow => decide +kernel
  | resource => decide +kernel

/-- The path ends in a key whose last name ends a known path. -/
def EndsInKnownKey (path : List Segment) : Prop :=
  ∃ key word, path.getLast? = some (.key key) ∧ word ∈ Options.words ∧
    (FieldPath.names key).getLast? = some word

theorem not_mem_words_of_endsUnknown {names : List String} {name : String}
    (h : EndsUnknown names = true) (hlast : names.getLast? = some name) : name ∉ Options.words := by
  simpa [EndsUnknown, hlast] using h

/-- At a place that belongs to a part, the table has the options of the part, or the place is a
known key of a table without options. -/
theorem options_of_optionsAgree {kind : DocumentKind} {lead : List String} {steps : List Step}
    {s : Schema} (h : OptionsAgree kind lead (steps, s) = true)
    (hplain : ∀ step ∈ steps, step.IsPlain) {path : List Segment} (hfollows : Follows steps path)
    {options : Options}
    (hoptions : Options.ofNames? (lead ++ Segment.names path) kind = some options) :
    s.options? = some options ∨
      (s.options? = none ∧ steps.getLast? = some .entry ∧ EndsInKnownKey path) := by
  obtain ⟨word, hword, hlast⟩ := Options.word_of_ofNames? hoptions
  unfold OptionsAgree at h
  split at h
  · next names hnames =>
    rw [Step.names_of_follows hfollows hplain hnames] at hoptions
    left
    simpa [hoptions] using h
  · next name front _ hreverse =>
    obtain rfl : steps = front.reverse ++ [.member name] := List.reverse_eq_cons_iff.1 hreverse
    obtain ⟨before, segment, rfl, -, htakes⟩ := hfollows.of_append
    cases segment with
    | key key =>
      obtain rfl : key = name := htakes
      have hname : FieldPath.names key = [key] := hplain (.member key) (by simp)
      have hkey : key = word := by
        simpa [Segment.names, Segment.text, hname, ← List.append_assoc] using hlast
      exact absurd (hkey ▸ hword) (not_mem_words_of_endsUnknown h rfl)
    | index i => exact htakes.elim
  · next front _ hreverse =>
    obtain rfl : steps = front.reverse ++ [.entry] := List.reverse_eq_cons_iff.1 hreverse
    obtain ⟨hnone, hfront⟩ := Bool.and_eq_true_iff.1 h
    obtain ⟨names, hnames, hunknown⟩ : ∃ names, Step.names? front.reverse = some names ∧
        EndsUnknown (lead ++ names) = true := by
      cases hnames : Step.names? front.reverse with
      | none => simp [hnames] at hfront
      | some names => exact ⟨names, rfl, by simpa [hnames] using hfront⟩
    obtain ⟨before, segment, rfl, hbefore, htakes⟩ := hfollows.of_append
    cases segment with
    | key key =>
      have hlead : Segment.names before = names :=
        Step.names_of_follows hbefore (fun s hs => hplain s (by simp at hs; simp [hs])) hnames
      refine .inr ⟨by simpa using hnone, by simp, key, word, by simp, hword, ?_⟩
      have hall : (lead ++ names ++ FieldPath.names key).getLast? = some word := by
        rw [← hlast, ← hlead]
        simp [Segment.names, Segment.text]
      rw [List.getLast?_append] at hall
      cases hkey : (FieldPath.names key).getLast? with
      | some last => simpa [hkey] using hall
      | none =>
        rw [hkey] at hall
        exact absurd hword (not_mem_words_of_endsUnknown hunknown hall)
    | index i => exact htakes.elim
  · contradiction

/-! ## Diagnostics -/

theorem ofNames?_of_optionList {f : Finding} {list : String}
    (h : f.diagnostic.message = f.sentence ++ ". Available options: " ++ list) :
    ∃ options, Options.ofNames? (f.leadNames ++ Segment.names f.location) f.kind = some options ∧
      list = options.render := by
  obtain ⟨options, hoptions, hlist⟩ := Hint.ofField?_of_enhance h
  refine ⟨options, ?_, hlist⟩
  rw [← hoptions, Options.ofField?_eq_ofNames?]
  exact congrArg (Options.ofNames? · f.kind) f.names_field.symm

/-- Every diagnostic is about a place that belongs to a part of the schema; and if a list of
options is appended to its sentence, then these are the values that the part enumerates, or it is
a list and they are the values that its items enumerate, or the place is a known key of a table
whose values have no options. -/
theorem DocumentKind.optionList_of_part (kind : DocumentKind) (doc : Json) :
    kind.diagnoseAll doc = (kind.findings doc).map Finding.diagnostic ∧
      ∀ f ∈ kind.findings doc,
        (∃ steps s, (steps, s) ∈ f.kind.schema.parts ∧ Follows steps f.location) ∧
        ∀ steps s, (steps, s) ∈ f.kind.schema.parts → Follows steps f.location →
          ∀ list, f.diagnostic.message = f.sentence ++ ". Available options: " ++ list →
            (∃ options, list = options.render ∧ (s.enum? = some options ∨
              ∃ items, s = .list items ∧ items.enum? = some options)) ∨
              (s.options? = none ∧ steps.getLast? = some .entry ∧ EndsInKnownKey f.location) := by
  refine ⟨diagnoseAll_eq_map kind doc, fun f hf => ⟨exists_part_of_mem_findings hf, ?_⟩⟩
  intro steps s hpart hfollows list hmessage
  obtain ⟨options, hoptions, hlist⟩ := ofNames?_of_optionList hmessage
  have hagree := Finding.check_of_mem_findings optionsAgree optionsAgree_inline hf _ hpart
  rcases options_of_optionsAgree hagree (isPlain_of_mem_parts _ _ hpart) hfollows hoptions with
    hpartOptions | hkey
  · exact .inl ⟨options, hlist, Schema.options?_eq_some_iff.1 hpartOptions⟩
  · exact .inr hkey

/-- A header named like the method of a client, with a number for its value. -/
def headerMethod : Json :=
  .obj [("metadata", .obj [("actionId", .str "a")]),
    ("run", .obj [("httpClient", .obj [("headers", .obj [("method", .int 5)])])])]

theorem DocumentKind.options_of_header :
    resource.diagnoseAll headerMethod =
        [{ field := "run.httpClient.headers.method", kind := .type, value := some (.int 5)
           message := "Invalid type. Expected: string, given: integer" ++
            ". Available options: [GET, POST, PUT, DELETE, PATCH]" }] ∧
      ([.member "run", .member "httpClient", .member "headers", .entry], Schema.plainText) ∈
        Schema.resource.parts ∧
      Schema.plainText.options? = none := by
  have hpart : Schema.resource.parts[73]? = some
      ([.member "run", .member "httpClient", .member "headers", .entry], Schema.plainText) := rfl
  exact ⟨rfl, List.mem_of_getElem? hpart, rfl⟩

end FlowCheck
