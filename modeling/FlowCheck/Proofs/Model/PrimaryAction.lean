import FlowCheck.Proofs.Model.Run
import FlowCheck.Proofs.Wire.Site

/-!
# One primary action

A run has one primary action at most, on both ways in: in a document its blocks stand side by side,
and a builder takes them one after the other.  In a document where each member that is there reads
for itself, only a second block that is not `null` can make the run fail
(`Run.read_obj_of_membersRead`); for a builder this is `Run.build_eq`.
-/

namespace FlowCheck

open Wire (Codec Gives Member Record Site)

/-! ## Members that read for themselves -/

/-- A value that can be read in its own place. -/
def Wire.Codec.Reads {α : Type} (c : Codec α) (j : Json) : Prop := ∃ a, c.read .inPlace j = .ok a

namespace Run

/-- The blocks of a run, by the values that can be read for each. -/
def blockMembers : List (String × (Json → Prop)) :=
  [("chat", Chat.codec.optional.Reads), ("httpClient", HttpClient.codec.optional.Reads),
    ("sql", Sql.codec.optional.Reads), ("python", Script.codec.optional.Reads),
    ("exec", Exec.codec.optional.Reads), ("tts", Speech.codec.optional.Reads),
    ("apiResponse", ApiResponse.codec.optional.Reads)]

/-- The options of a run, by the values that can be read for each. -/
def optionMembers : List (String × (Json → Prop)) :=
  [("restrictToHttpMethods", Codec.text.list.Reads), ("restrictToRoutes", Codec.text.list.Reads),
    ("allowedHeaders", Codec.text.list.Reads), ("allowedParams", Codec.text.list.Reads),
    ("skipCondition", Codec.text.list.Reads),
    ("preflightCheck", PreflightCheck.codec.optional.Reads),
    ("validation", ValidationRules.codec.optional.Reads), ("exprBefore", Codec.text.list.Reads),
    ("expr", Codec.text.list.Reads), ("exprAfter", Codec.text.list.Reads),
    ("onError", OnError.codec.optional.Reads)]

/-- Each member that is there has a value that can be read for it. -/
def MembersRead (kinds : List (String × (Json → Prop))) (members : Members) : Prop :=
  ∀ kind ∈ kinds, ∀ j, members.get? kind.1 = some j → kind.2 j

variable {members : Members}

theorem exists_parts_iff : (∃ parts, RunParts.record.readMembers .inPlace members = .value parts) ↔
    MembersRead blockMembers members := by
  simp only [RunParts.record, Record.optional, Record.exists_readMembers_member,
    Member.readFrom_eq_value_iff, Wire.exists_gives_iff, Record.readMembers_start, MembersRead,
    blockMembers, List.forall_mem_cons, Codec.Reads, exists_eq', true_and, and_assoc]
  simp

theorem exists_options_iff :
    (∃ options, RunOptions.record.readMembers .inPlace members = .value options) ↔
      MembersRead optionMembers members := by
  simp only [RunOptions.record, Record.optional, Record.briefList, Record.exists_readMembers_member,
    Member.readFrom_eq_value_iff, Wire.exists_gives_iff, Record.readMembers_start, MembersRead,
    optionMembers, List.forall_mem_cons, Codec.Reads, exists_eq', true_and, and_assoc]
  simp

end Run

/-! ## Options set aside -/

open Wire.Codec (portable_any portable_count portable_real portable_text portable_variant
  portable_word16 portable_word32)
open Wire.Record (portable_start)

theorem ErrorResponse.portable : codec.Portable :=
  Record.Portable.codec <| portable_start
    |>.member portable_word16.optional
    |>.member portable_text

theorem PreflightCheck.portable : codec.Portable :=
  Record.Portable.codec <| portable_start
    |>.member portable_text.list
    |>.member ErrorResponse.portable.optional

theorem FieldRule.portable : codec.Portable :=
  Record.Portable.codec <| portable_start
    |>.member portable_text
    |>.member portable_variant.optional
    |>.member portable_count.optional
    |>.member portable_count.optional
    |>.member portable_text.optional
    |>.member portable_real.optional
    |>.member portable_real.optional
    |>.member portable_count.optional
    |>.member portable_count.optional
    |>.member portable_any.list
    |>.member portable_text.optional

theorem CustomRule.portable : codec.Portable :=
  Record.Portable.codec <| portable_start
    |>.member portable_text
    |>.member portable_text

theorem ValidationRules.portable : codec.Portable :=
  Record.Portable.codec <| portable_start
    |>.member portable_text.list
    |>.member FieldRule.portable.list
    |>.member CustomRule.portable.list

theorem OnError.portable : codec.Portable :=
  Record.Portable.codec <| portable_start
    |>.member portable_text
    |>.member portable_word32.optional
    |>.member portable_text.optional
    |>.member portable_any.optional

theorem RunOptions.portable : record.Portable :=
  portable_start
    |>.member portable_text.list
    |>.member portable_text.list
    |>.member portable_text.list
    |>.member portable_text.list
    |>.member portable_text.list
    |>.member PreflightCheck.portable.optional
    |>.member ValidationRules.portable.optional
    |>.member portable_text.list
    |>.member portable_text.list
    |>.member portable_text.list
    |>.member OnError.portable.optional

/-! ## Both ways in -/

namespace Run

variable {members : Members}

/-- In a document whose blocks and options can be read, only a second block makes the run fail. -/
theorem exists_read_obj (hread : MembersRead (blockMembers ++ optionMembers) members) (site : Site) :
    ∃ parts options,
      List.Forall₂ (Action.StandsAt members) (namedPrimaries members) parts.actions ∧
        codec.read site (.obj members) = ofParts parts options := by
  obtain ⟨parts, hparts⟩ := exists_parts_iff.2 fun kind hkind =>
    hread kind (List.mem_append_left _ hkind)
  obtain ⟨options, hplace⟩ := exists_options_iff.2 fun kind hkind =>
    hread kind (List.mem_append_right _ hkind)
  have hoptions := RunOptions.portable.readMembers members options hplace
  refine ⟨parts, options, forall₂_actions hparts, ?_⟩
  change read (.obj members) = ofParts parts options
  rw [read, hparts, hoptions]
  rfl

/-- A document names one primary action at most, and the run does what its block says. -/
theorem read_obj_of_membersRead (hread : MembersRead (blockMembers ++ optionMembers) members)
    (site : Site) :
    ((∃ run, codec.read site (.obj members) = .ok run) ↔ (namedPrimaries members).length ≤ 1) ∧
      (∀ run, codec.read site (.obj members) = .ok run →
        (namedPrimaries members = [] ∧ run.primary = none) ∨
          ∃ name action, namedPrimaries members = [name] ∧ action.StandsAt members name ∧
            run.primary = some action) ∧
      (1 < (namedPrimaries members).length →
        (codec.read site (.obj members)).mapError Wire.Problem.message =
          .error Wire.Problem.severalPrimariesText) := by
  obtain ⟨parts, options, hblocks, hcode⟩ := exists_read_obj hread site
  have hlength : (namedPrimaries members).length = parts.actions.length := hblocks.length_eq
  rw [hcode, hlength]
  refine ⟨?_, fun run hrun => ?_, fun hseveral => ?_⟩
  · rw [ofParts_eq]
    split <;> simp_all
  · obtain ⟨primary, hactions, rfl⟩ := ofParts_eq_ok_iff.1 hrun
    rw [hactions] at hblocks
    cases primary with
    | none => exact .inl ⟨List.forall₂_nil_right_iff.1 hblocks, rfl⟩
    | some action =>
      obtain ⟨name, rest, hstands, hrest, hnamed⟩ := List.forall₂_cons_right_iff.1 hblocks
      rw [List.forall₂_nil_right_iff.1 hrest] at hnamed
      exact .inr ⟨name, action, hnamed, hstands, rfl⟩
  · rw [ofParts_eq, if_neg (Nat.not_le.2 hseveral)]
    rfl

/-- A run has one primary action at most, whichever way it is given: in a document it is the only
block that is not `null`, and for a builder it is the only one given; a second one is refused, in a
builder at once. -/
theorem one_primary_action :
    (∀ (site : Site) (members : Members), MembersRead (blockMembers ++ optionMembers) members →
      ((∃ run, codec.read site (.obj members) = .ok run) ↔ (namedPrimaries members).length ≤ 1) ∧
        (∀ run, codec.read site (.obj members) = .ok run →
          (namedPrimaries members = [] ∧ run.primary = none) ∨
            ∃ name action, namedPrimaries members = [name] ∧ action.StandsAt members name ∧
              run.primary = some action) ∧
        (1 < (namedPrimaries members).length →
          (codec.read site (.obj members)).mapError Wire.Problem.message =
            .error Wire.Problem.severalPrimariesText)) ∧
      (∀ steps, assemble steps =
        if (primaries steps).length ≤ 1 then
          .ok ⟨(primaries steps).head?, (responses steps).getLast?,
            (optionBlocks steps).getLast?.getD {}⟩
        else .error (.invalidResource Wire.Problem.severalPrimariesText)) ∧
      (∀ before s, ((∃ run, assemble before = .ok run) ∧
          ∃ fault, assemble (before ++ [s]) = .error fault) ↔
        (primaries before).length = 1 ∧ ∃ action, s = .primary action) :=
  ⟨fun site _ hread => read_obj_of_membersRead hread site, assemble_eq,
    fun _ _ => assemble_stops_iff⟩

/-- A document with an empty block beside the one that runs. -/
theorem one_primary_action_exec :
    let members : Members := [("chat", .null), ("exec", .obj [("command", .str "true")])]
    MembersRead (blockMembers ++ optionMembers) members ∧
      ∃ run, codec.read .inPlace (.obj members) = .ok run ∧
        run.primary = some (.exec { command := "true" }) := by
  intro members
  have hparts : RunParts.record.readMembers .inPlace members =
      .value { exec := some { command := "true" } } := rfl
  have hoptions : RunOptions.record.readMembers .inPlace members = .value {} := rfl
  have hread : MembersRead (blockMembers ++ optionMembers) members := by
    intro kind hkind
    rcases List.mem_append.1 hkind with hblock | hoption
    · exact exists_parts_iff.1 ⟨_, hparts⟩ kind hblock
    · exact exists_options_iff.1 ⟨_, hoptions⟩ kind hoption
  have hnamed : namedPrimaries members = ["exec"] := by decide
  obtain ⟨hok, hprimary, -⟩ := one_primary_action.1 .inPlace members hread
  obtain ⟨run, hrun⟩ := hok.2 (by rw [hnamed]; exact Nat.le_refl 1)
  refine ⟨hread, run, hrun, ?_⟩
  obtain ⟨hnil, -⟩ | ⟨name, action, hname, ⟨haction, j, hj, hblock⟩, hrun⟩ := hprimary run hrun
  · rw [hnamed] at hnil
    contradiction
  · obtain rfl : "exec" = name := by simpa [hnamed] using hname
    obtain rfl : Json.obj [("command", .str "true")] = j := Option.some.inj hj
    cases action with
    | exec c =>
      obtain rfl := Except.ok.inj hblock
      exact hrun
    | _ => simp [Action.name] at haction

end Run
end FlowCheck
