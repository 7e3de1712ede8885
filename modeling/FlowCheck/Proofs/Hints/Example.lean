import FlowCheck.Json.Reader
import FlowCheck.Proofs.Hints.Inline
import FlowCheck.Proofs.Wire.Reading
import FlowCheck.Schema.Basic
import Mathlib.Data.Option.Basic

/-!
# Examples and their types

An example shows one literal or several to choose from (`Example.Shows`).  The first character of a
literal tells the kinds of value it can be, so the tables of examples have just the kinds that the
first characters of their rows open (`Example.shows_iff_mem_kinds`).  These are the kinds that the
known path of the row, or the type, stands for (`Example.shows_iff_of_mem_fields`,
`Example.shows_iff_of_ofType?`).
-/

namespace FlowCheck

/-! ## Texts of values -/

namespace Json

/-- The kinds of value whose text opens with a character. -/
def openingKinds : Char → List Kind
  | 'n' => [.null]
  | 't' => [.boolean]
  | 'f' => [.boolean]
  | '"' => [.string]
  | '[' => [.array]
  | '\x7b' => [.object]
  | _ => [.integer, .number]

theorem exists_arr_of_readArray {item : ItemReader} {cs rest : List Char} {v : Json}
    (h : readArray item cs = .ok (v, rest)) : ∃ items, v = .arr items := by
  unfold readArray at h
  split at h
  · contradiction
  · cases h
    exact ⟨[], rfl⟩
  · obtain ⟨first, -, h⟩ := Wire.bind_eq_ok_iff.1 h
    obtain ⟨more, -, h⟩ := Wire.bind_eq_ok_iff.1 h
    cases h
    exact ⟨_, rfl⟩

theorem exists_obj_of_readObject {item : ItemReader} {cs rest : List Char} {v : Json}
    (h : readObject item cs = .ok (v, rest)) : ∃ members, v = .obj members := by
  unfold readObject at h
  split at h
  · contradiction
  · cases h
    exact ⟨[], rfl⟩
  · obtain ⟨first, -, h⟩ := Wire.bind_eq_ok_iff.1 h
    obtain ⟨more, -, h⟩ := Wire.bind_eq_ok_iff.1 h
    cases h
    exact ⟨_, rfl⟩
  · contradiction

theorem exists_eq_of_map_eq_ok {ε α β : Type} {x : Except ε α} {f : α → β} {b : β}
    (h : x.map f = .ok b) : ∃ a, f a = b := by
  cases x with
  | error e => contradiction
  | ok a => exact ⟨a, Except.ok.inj h⟩

/-- The first character that is no blank tells the kind of the value that is read. -/
theorem kind_mem_openingKinds {depth : Nat} {c : Char} {cs behind rest : List Char} {v : Json}
    (hopens : skipBlanks cs = c :: behind) (h : readValue depth cs = .ok (v, rest)) :
    v.kind ∈ openingKinds c := by
  have hnumber (n : Number) : (num n).kind ∈ [Kind.integer, Kind.number] := by
    cases n <;> simp [kind]
  rw [readValue.eq_def] at h
  simp only [hopens] at h
  split at h
  case h_1 => contradiction
  case h_7 heq =>
    cases heq
    cases depth with
    | zero => contradiction
    | succ depth =>
      obtain ⟨items, rfl⟩ := exists_arr_of_readArray h
      exact List.mem_singleton_self _
  case h_8 heq =>
    cases heq
    cases depth with
    | zero => contradiction
    | succ depth =>
      obtain ⟨members, rfl⟩ := exists_obj_of_readObject h
      exact List.mem_singleton_self _
  case h_9 heq =>
    cases heq
    split at h
    · obtain ⟨r, ⟨⟩⟩ := exists_eq_of_map_eq_ok h
      unfold openingKinds
      split <;> first | contradiction | exact hnumber r.1
    · contradiction
  all_goals
    next heq =>
    cases heq
    obtain ⟨r, ⟨⟩⟩ := exists_eq_of_map_eq_ok h
    first | exact List.mem_singleton_self _ | exact hnumber r.1

/-- The kinds that a value of the kind is of: an integer is a number as well. -/
def Kind.wider : Kind → List Kind
  | .integer => [.integer, .number]
  | kind => [kind]

theorem Kind.self_mem_wider (kind : Kind) : kind ∈ kind.wider := by
  cases kind <;> exact List.mem_cons_self

/-- The text is that of a value of the kind. -/
def readsAs (kind : Kind) (text : String) : Bool :=
  match read text with
  | .ok v => Schema.isOfKind kind v
  | .error _ => false

theorem readsAs_empty (kind : Kind) : readsAs kind "" = false := rfl

theorem integer_mem_openingKinds_iff {c : Char} :
    .integer ∈ openingKinds c ↔ .number ∈ openingKinds c := by
  unfold openingKinds
  split <;> simp

theorem mem_openingKinds_of_isOfKind {c : Char} {v : Json} {kind : Kind}
    (h : v.kind ∈ openingKinds c) (hkind : Schema.isOfKind kind v = true) :
    kind ∈ openingKinds c := by
  unfold Schema.isOfKind at hkind
  split at hkind
  · exact h
  · exact integer_mem_openingKinds_iff.2 h
  · next n =>
    cases n with
    | int n => exact integer_mem_openingKinds_iff.1 h
    | real x => exact h
  · exact beq_iff_eq.1 hkind ▸ h

theorem mem_openingKinds_of_readsAs {c : Char} {text : String} {kind : Kind}
    (hopens : text.toList.head? = some c) (hblank : isBlank c = false)
    (h : readsAs kind text = true) : kind ∈ openingKinds c := by
  unfold readsAs at h
  split at h
  · next v hread =>
    unfold read at hread
    split at hread
    · next x hx =>
      obtain ⟨⟨w, rest⟩, hvalue, hfinish⟩ := Wire.bind_eq_ok_iff.1 hx
      obtain rfl : w = v := by
        cases hread
        unfold finish at hfinish
        simp only at hfinish
        split at hfinish
        · exact Except.ok.inj hfinish
        · contradiction
      obtain ⟨behind, hchars⟩ := List.head?_eq_some_iff.1 hopens
      have hskip : skipBlanks text.toList = c :: behind := by
        rw [hchars, skipBlanks, List.dropWhile_cons_of_neg (by simp [hblank])]
      exact mem_openingKinds_of_isOfKind (kind_mem_openingKinds hskip hvalue) h
    · contradiction
  · contradiction

end Json

/-! ## Literals -/

namespace Example

/-- The text is a literal of the kind: JSON, or a string between single quotes. -/
def IsLiteral (kind : Json.Kind) (text : String) : Prop :=
  Json.readsAs kind text = true ∨ kind = .string ∧ ∃ s, text = "'" ++ s ++ "'"

/-- The end of a series of three or more: commas, and `or` in front of the last. -/
def series : List String → String
  | [] => ""
  | [last] => "or " ++ last
  | text :: rest => text ++ ", " ++ series rest

/-- Alternatives as they are written. -/
def listed : List String → String
  | [] => ""
  | [text] => text
  | [text, other] => text ++ " or " ++ other
  | texts => series texts

/-- An example shows literals of the kind. -/
def Shows (ex : String) (kind : Json.Kind) : Prop :=
  ∃ text rest, ex = listed (text :: rest) ∧ ∀ a ∈ text :: rest, IsLiteral kind a

theorem exists_append_eq_listed (text : String) (rest : List String) :
    ∃ more, listed (text :: rest) = text ++ more := by
  match rest with
  | [] => exact ⟨"", String.append_empty.symm⟩
  | [other] => exact ⟨" or " ++ other, String.append_assoc ..⟩
  | other :: third :: rest =>
    exact ⟨", " ++ series (other :: third :: rest), String.append_assoc ..⟩

/-- The kinds that the first character of an example opens. -/
def kinds (ex : String) : List Json.Kind :=
  match ex.toList with
  | [] => []
  | c :: _ => Json.openingKinds c

/-- The examples with several alternatives. -/
def choices : List (List String) :=
  [["\"Resource\"", "\"Workflow\""], ["\"user\"", "\"assistant\""],
    ["\"GET\"", "\"POST\"", "\"PUT\"", "\"DELETE\"", "\"PATCH\""],
    ["\"json\"", "\"csv\"", "\"table\""], ["true", "false"]]

/-- The alternatives of an example. -/
def alternatives (ex : String) : List String :=
  (choices.find? fun texts => listed texts == ex).getD [ex]

/-- The examples of the tables, of fields and of types. -/
def texts : List String := fields.map Prod.snd ++ ofTypes

/-- The first character of an example opens the kinds as which all of its alternatives read. -/
def IsUniform (ex : String) : Prop :=
  match ex.toList with
  | [] => False
  | c :: _ => (Json.isBlank c = false ∧ c ≠ '\'') ∧
    (alternatives ex ≠ [] ∧ listed (alternatives ex) = ex) ∧
    ∀ kind ∈ Json.openingKinds c, ∀ text ∈ alternatives ex, Json.readsAs kind text = true

instance : DecidablePred IsUniform := fun ex => by
  unfold IsUniform
  split <;> infer_instance

theorem isUniform_of_mem_texts : ∀ ex ∈ texts, IsUniform ex := by
  decide +kernel

theorem mem_openingKinds_of_shows {ex : String} {c : Char} {kind : Json.Kind}
    (hopens : ex.toList.head? = some c) (hblank : Json.isBlank c = false) (hquote : c ≠ '\'')
    (h : Shows ex kind) : kind ∈ Json.openingKinds c := by
  obtain ⟨text, rest, rfl, hliterals⟩ := h
  obtain ⟨more, hmore⟩ := exists_append_eq_listed text rest
  rw [hmore, String.toList_append] at hopens
  rcases hliterals text List.mem_cons_self with hreads | ⟨-, s, rfl⟩
  · have hne : text.toList ≠ [] := by
      intro hnil
      obtain rfl : text = "" := String.toList_eq_nil_iff.1 hnil
      rw [Json.readsAs_empty] at hreads
      contradiction
    rw [List.head?_append_of_ne_nil _ hne] at hopens
    exact Json.mem_openingKinds_of_readsAs hopens hblank hreads
  · exact absurd (Option.some.inj (by simpa using hopens)).symm hquote

/-- What an example of the tables shows is told by its first character. -/
theorem shows_iff_mem_kinds {ex : String} (hex : ex ∈ texts) {kind : Json.Kind} :
    Shows ex kind ↔ kind ∈ kinds ex := by
  have huniform := isUniform_of_mem_texts ex hex
  unfold IsUniform at huniform
  unfold kinds
  cases hchars : ex.toList with
  | nil => rw [hchars] at huniform; exact huniform.elim
  | cons c behind =>
    rw [hchars] at huniform
    obtain ⟨⟨hblank, hquote⟩, ⟨hne, hlisted⟩, hreads⟩ := huniform
    refine ⟨mem_openingKinds_of_shows (hchars ▸ rfl) hblank hquote, fun hkind => ?_⟩
    obtain ⟨text, rest, htexts⟩ := List.exists_cons_of_ne_nil hne
    rw [htexts] at hlisted hreads
    exact ⟨text, rest, hlisted.symm, fun a ha => .inl (hreads kind hkind a ha)⟩

/-! ## Kinds of the rows -/

/-- The row of the table that a path finds: that of the path itself, else the first one whose path
contains it or is contained in it. -/
def row? (field : String) : Option (String × String) :=
  let normalized := FieldPath.normalize field
  if normalized = "" then none
  else
    (fields.find? fun row => normalized == row.1) <|>
      fields.find? fun row => Text.contains normalized row.1 || Text.contains row.1 normalized

theorem ofField?_eq_map_row? (field : String) : ofField? field = (row? field).map Prod.snd := by
  unfold ofField? row?
  simp only [Members.lookup_eq_map_find?]
  split
  · rfl
  · cases fields.find? fun row => FieldPath.normalize field == row.1 <;> rfl

theorem row?_mem_fields {field : String} {row : String × String} (h : row? field = some row) :
    row ∈ fields := by
  unfold row? at h
  simp only at h
  split at h
  · contradiction
  · rcases (Option.orElse_eq_some _ _ _).1 h with h | ⟨-, h⟩
    · exact List.mem_of_find?_eq_some h
    · exact List.mem_of_find?_eq_some h

/-- The known paths that are not for strings, with the kind of value that each is for. -/
def otherKinds : List (String × Json.Kind) :=
  [("run.apiResponse.success", .boolean), ("run.apiResponse.response", .object),
    ("settings.apiServer.portNum", .integer)]

/-- The kind of value that a known path is for. -/
def kindOf (path : String) : Json.Kind := (otherKinds.lookup path).getD .string

theorem mem_texts_of_mem_fields {row : String × String} (h : row ∈ fields) : row.2 ∈ texts :=
  List.mem_append_left _ (List.mem_map_of_mem h)

theorem kinds_eq_of_mem_fields : ∀ row ∈ fields, kinds row.2 = (kindOf row.1).wider := by
  decide +kernel

/-- The example for a known path shows the kind that the path is for. -/
theorem shows_iff_of_mem_fields {row : String × String} (hrow : row ∈ fields) {kind : Json.Kind} :
    Shows row.2 kind ↔ kind ∈ (kindOf row.1).wider := by
  rw [shows_iff_mem_kinds (mem_texts_of_mem_fields hrow), kinds_eq_of_mem_fields row hrow]

theorem kinds_eq_of_ofType? (type : Json.Kind) :
    ∀ ex ∈ ofType? type.name, kinds ex = type.wider := by
  cases type <;> decide +kernel

/-- The example for a type shows the type. -/
theorem shows_iff_of_ofType? {type kind : Json.Kind} {ex : String}
    (h : ofType? type.name = some ex) : Shows ex kind ↔ kind ∈ type.wider := by
  rw [shows_iff_mem_kinds (List.mem_append_right _ (ofType?_mem_ofTypes h)),
    kinds_eq_of_ofType? type ex h]

/-- Only the names of kinds have examples. -/
theorem exists_kind_of_ofType? {type ex : String} (h : ofType? type = some ex) :
    ∃ kind : Json.Kind, kind.name = type := by
  have hrow := Members.mem_of_lookup_eq_some h
  simp only [List.mem_cons, Prod.mk.injEq, List.not_mem_nil, or_false] at hrow
  rcases hrow with ⟨rfl, -⟩ | ⟨rfl, -⟩ | ⟨rfl, -⟩ | ⟨rfl, -⟩ | ⟨rfl, -⟩
  exacts [⟨.string, rfl⟩, ⟨.integer, rfl⟩, ⟨.boolean, rfl⟩, ⟨.object, rfl⟩, ⟨.array, rfl⟩]

/-! ## Known paths at the start of a path -/

/-- The first names on the paths of a document. -/
def firstNames : List String :=
  ["apiVersion", "items", "kind", "metadata", "resources", "run", "settings"]

/-- The first names on known paths. -/
def knownNames : List String := ["apiVersion", "kind", "metadata", "run", "settings"]

/-- No known path can start in the name. -/
def isInner (name : String) : Bool :=
  knownNames.all fun known => !Text.occursIn known.toList name.toList

theorem exists_knownName : ∀ f ∈ fields,
    ∃ known ∈ knownNames, known.toList.isPrefixOf f.1.toList = true := by
  decide +kernel

theorem point_not_mem_knownName : ∀ known ∈ knownNames,
    known.toList ≠ [] ∧ '.' ∉ known.toList ∧ ∀ first ∈ firstNames,
      Text.occursIn known.toList first.toList.tail = false := by
  decide +kernel

theorem firstName_not_behind : ∀ f ∈ fields, ∀ first ∈ firstNames,
    Text.occursIn first.toList f.1.toList.tail = false := by
  decide +kernel

theorem chars_cons_cons (name next : String) (rest : List String) :
    chars (name :: next :: rest) = name.toList ++ '.' :: chars (next :: rest) := by
  simp [chars]

/-- A text without a point that occurs in a path occurs in one of the names. -/
theorem exists_name_of_infix_chars {cs : List Char} (hne : cs ≠ []) (hpoint : '.' ∉ cs)
    {names : List String} (h : cs <:+: chars names) : ∃ name ∈ names, cs <:+: name.toList := by
  induction names with
  | nil => exact absurd (List.infix_nil.1 h) hne
  | cons name names ih =>
    cases names with
    | nil => exact ⟨name, List.mem_cons_self, by simpa [chars] using h⟩
    | cons next rest =>
      rw [chars_cons_cons] at h
      rcases Text.infix_or_infix_of_infix_append_cons hpoint h with h | h
      · exact ⟨name, List.mem_cons_self, h⟩
      · obtain ⟨found, hfound, hoccurs⟩ := ih h
        exact ⟨found, List.mem_cons_of_mem _ hfound, hoccurs⟩

theorem firstName_ne_empty : ∀ first ∈ firstNames, first.toList ≠ [] := by
  decide

theorem firstName_prefix_chars (first : String) (rest : List String) :
    first.toList <+: chars (first :: rest) := by
  simpa [chars] using chars_prefix_append (List.cons_ne_nil first []) rest

section
variable {first : String} {rest : List String} (hfirst : first ∈ firstNames)
  {f : String × String} (hf : f ∈ fields)
include hfirst hf

/-- A known path occurs in a path only at its start, if it can start in none of the names behind
the first. -/
theorem known_occursIn_eq (hrest : rest.all isInner = true) :
    Text.occursIn f.1.toList (chars (first :: rest)) =
      f.1.toList.isPrefixOf (chars (first :: rest)) := by
  obtain ⟨known, hknown, hstarts⟩ := exists_knownName f hf
  obtain ⟨hne, hpoint, hbehind⟩ := point_not_mem_knownName known hknown
  have hfirstTail : ¬ known.toList <:+: first.toList.tail := by
    rw [← Text.occursIn_iff, hbehind first hfirst]
    exact Bool.false_ne_true
  have hinner : ¬ known.toList <:+: chars rest := by
    intro hoccurs
    obtain ⟨name, hname, hoccurs⟩ := exists_name_of_infix_chars hne hpoint hoccurs
    have hnot := List.all_eq_true.1 (List.all_eq_true.1 hrest name hname) known hknown
    rw [Text.occursIn_iff.2 hoccurs] at hnot
    contradiction
  have htail : ¬ known.toList <:+: (chars (first :: rest)).tail := by
    cases rest with
    | nil => simpa [chars] using hfirstTail
    | cons next rest =>
      rw [chars_cons_cons, List.tail_append_of_ne_nil (firstName_ne_empty first hfirst)]
      exact fun hoccurs =>
        (Text.infix_or_infix_of_infix_append_cons hpoint hoccurs).elim hfirstTail hinner
  rw [Bool.eq_iff_iff, Text.occursIn_iff, List.isPrefixOf_iff_prefix]
  refine ⟨fun hoccurs => ?_, List.IsPrefix.isInfix⟩
  have hcharsNe : chars (first :: rest) ≠ [] := fun hnil =>
    firstName_ne_empty first hfirst (List.prefix_nil.1 (hnil ▸ firstName_prefix_chars first rest))
  obtain ⟨c, cs, hchars⟩ := List.exists_cons_of_ne_nil hcharsNe
  rw [hchars] at hoccurs htail ⊢
  refine (List.infix_cons_iff.1 hoccurs).resolve_right fun hbehind => htail ?_
  exact (List.isPrefixOf_iff_prefix.1 hstarts).isInfix.trans hbehind

/-- A path occurs in a known path only at its start. -/
theorem occursIn_known_eq :
    Text.occursIn (chars (first :: rest)) f.1.toList =
      (chars (first :: rest)).isPrefixOf f.1.toList := by
  have hnot : ¬ first.toList <:+: f.1.toList.tail := by
    rw [← Text.occursIn_iff, firstName_not_behind f hf first hfirst]
    exact Bool.false_ne_true
  rw [Bool.eq_iff_iff, Text.occursIn_iff, List.isPrefixOf_iff_prefix]
  refine ⟨fun hoccurs => ?_, List.IsPrefix.isInfix⟩
  have hstart := firstName_prefix_chars first rest
  cases hchars : f.1.toList with
  | nil =>
    rw [hchars, List.infix_nil] at hoccurs
    rw [hoccurs]
  | cons c cs =>
    rw [hchars] at hoccurs hnot
    refine (List.infix_cons_iff.1 hoccurs).resolve_right fun hbehind => hnot ?_
    exact hstart.isInfix.trans hbehind

end

/-- The example of the first known path that is at the start of a path. -/
def atStart? (path : List Char) : Option String :=
  (fields.find? fun f => f.1.toList.isPrefixOf path).map Prod.snd

/-- The example for a path: for the path itself, else for the first known one with the same
start. -/
def closest? (path : List Char) : Option String :=
  ((fields.find? fun f => path == f.1.toList) <|>
    fields.find? fun f => f.1.toList.isPrefixOf path || path.isPrefixOf f.1.toList).map Prod.snd

/-- Known paths can start in none of the names but the first. -/
def isRegular : List String → Bool
  | [] => true
  | first :: rest => firstNames.contains first && rest.all isInner

section
variable {field : String} (h : isRegular (FieldPath.names field) = true)
include h

theorem within?_eq_atStart? : within? (FieldPath.normalize field) =
    atStart? (chars (FieldPath.names field)) := by
  rw [within?, atStart?]
  refine congrArg _ (List.find?_congr fun f hf => ?_)
  rw [Text.contains, toList_normalize]
  cases hnames : FieldPath.names field with
  | nil =>
    have hnil : chars [] = [] := rfl
    rw [hnil, Bool.eq_iff_iff, Text.occursIn_iff, List.isPrefixOf_iff_prefix, List.infix_nil,
      List.prefix_nil]
  | cons first rest =>
    rw [hnames, isRegular, Bool.and_eq_true, List.contains_iff_mem] at h
    exact known_occursIn_eq h.1 hf h.2

theorem ofField?_eq_closest? (hne : FieldPath.names field ≠ []) :
    ofField? field = closest? (chars (FieldPath.names field)) := by
  obtain ⟨first, rest, hnames⟩ := List.exists_cons_of_ne_nil hne
  rw [hnames, isRegular, Bool.and_eq_true, List.contains_iff_mem] at h
  have hnormal : FieldPath.normalize field ≠ "" := fun hempty =>
    hne ((FieldPath.normalize_eq_iff rfl).1 hempty)
  have hlookup : fields.lookup (FieldPath.normalize field) =
      (fields.find? fun f => chars (FieldPath.names field) == f.1.toList).map Prod.snd := by
    rw [Members.lookup_eq_map_find?]
    refine congrArg _ (List.find?_congr fun f _ => ?_)
    rw [Bool.eq_iff_iff, beq_iff_eq, beq_iff_eq, ← String.toList_inj, toList_normalize]
  have hfind : (fields.find? fun f => Text.contains (FieldPath.normalize field) f.1 ||
      Text.contains f.1 (FieldPath.normalize field)) =
      fields.find? fun f => f.1.toList.isPrefixOf (chars (FieldPath.names field)) ||
        (chars (FieldPath.names field)).isPrefixOf f.1.toList := by
    refine List.find?_congr fun f hf => ?_
    rw [Text.contains, Text.contains, toList_normalize, hnames,
      known_occursIn_eq h.1 hf h.2, occursIn_known_eq h.1 hf]
  unfold ofField? closest?
  simp only [hnormal, if_false, hlookup, hfind]
  cases fields.find? fun f => chars (FieldPath.names field) == f.1.toList <;> rfl

end

/-- The example for a path with some names, behind those of the document that it is in. -/
def behind? (lead names : List String) : Option String :=
  if names.isEmpty then none
  else if lead.isEmpty then closest? (chars names) else atStart? (chars names)

/-! ## Fields above known ones -/

/-- A known path goes on behind the names: their value has a known field inside it. -/
def isAbove (names : List String) : Bool :=
  !names.isEmpty && fields.any fun f => (chars names ++ ['.']).isPrefixOf f.1.toList

theorem leads_of_isAbove {names : List String} (h : isAbove names = true) :
    names ≠ [] ∧ leads names = true := by
  obtain ⟨hne, hknown⟩ := Bool.and_eq_true_iff.1 h
  obtain ⟨f, hf, hprefix⟩ := List.any_eq_true.1 hknown
  refine ⟨by simpa using hne, List.any_eq_true.2 ⟨f, hf, ?_⟩⟩
  rw [List.isPrefixOf_iff_prefix] at hprefix ⊢
  exact (List.prefix_append _ _).trans hprefix

/-- A field above a known one has an example. -/
theorem ofField?_isSome_of_isAbove {field : String} (h : isAbove (FieldPath.names field) = true) :
    (ofField? field).isSome = true := by
  obtain ⟨hne, hleads⟩ := leads_of_isAbove h
  obtain ⟨f, hf, hprefix⟩ := List.any_eq_true.1 hleads
  have hcontains : Text.contains f.1 (FieldPath.normalize field) = true := by
    rw [Text.contains_iff, toList_normalize]
    exact (List.isPrefixOf_iff_prefix.1 hprefix).isInfix
  have hnormal : FieldPath.normalize field ≠ "" := fun hempty =>
    hne ((FieldPath.normalize_eq_iff rfl).1 hempty)
  have hfound : (fields.find? fun f => Text.contains (FieldPath.normalize field) f.1 ||
      Text.contains f.1 (FieldPath.normalize field)).isSome = true :=
    List.find?_isSome.2 ⟨f, hf, by rw [hcontains, Bool.or_true]⟩
  unfold ofField?
  simp only [hnormal, if_false]
  cases fields.lookup (FieldPath.normalize field) with
  | none => simpa using hfound
  | some ex => rfl

end Example
end FlowCheck
