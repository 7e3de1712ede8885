import FlowCheck.Model.Workflow
import FlowCheck.Proofs.Model.Run
import FlowCheck.Proofs.Model.ToolParameter
import FlowCheck.Proofs.Schema.Agreement

/-!
# Resource documents and resources

Each block of a resource agrees with its shape in the schema up to the demands of the block, and a
resource up to `Resource.demands`: its integers are written as such and fit their types, the
parameters of its tools are parameters, no rule bounds a field twice, and its run names one primary
action at most.
-/

namespace FlowCheck

open Schema (agrees_any agrees_count agrees_flag agrees_oneOf_variant agrees_optionalText
  agrees_optional_any agrees_real agrees_record agrees_text agrees_textList agrees_textTable
  agrees_word16 agrees_word32 membersAgree_start)
open Wire (Codec Gives Record)

/-! ## Actions -/

theorem ChatMessage.agrees : Schema.chatMessage.Agrees codec [] :=
  agrees_record <| membersAgree_start
    |>.plain agrees_text rfl
    |>.plain agrees_text rfl

theorem ChatTool.agrees : Schema.chatTool.Agrees codec
    [⟨[.member "parameters", .entry], Json.IsToolParameter⟩] :=
  have hparameter : Schema.any.Agrees ToolParameter.codec [⟨[], Json.IsToolParameter⟩] :=
    fun site j _ => by rw [Demand.met_here]; exact ToolParameter.exists_read_iff
  agrees_record <| membersAgree_start
    |>.needed agrees_text rfl (by simp)
    |>.plain agrees_text rfl
    |>.plain agrees_text rfl
    |>.member hparameter.table rfl

theorem Chat.agrees : Schema.chat.Agrees codec
    [⟨[.member "contextLength"], Json.IsWord 32⟩,
      ⟨[.member "tools", .item, .member "parameters", .entry], Json.IsToolParameter⟩,
      ⟨[.member "maxTokens"], Json.IsWord 32⟩] :=
  agrees_record <| membersAgree_start
    |>.plain agrees_text rfl
    |>.plain agrees_optionalText rfl
    |>.plain agrees_optionalText rfl
    |>.plain agrees_optionalText rfl
    |>.member (agrees_word32.optional nofun) rfl
    |>.plain agrees_optionalText rfl
    |>.plain agrees_text rfl
    |>.plain ChatMessage.agrees.list rfl
    |>.member ChatTool.agrees.list rfl
    |>.plain agrees_textList rfl
    |>.plain agrees_flag rfl
    |>.plain agrees_textList rfl
    |>.plain agrees_optionalText rfl
    |>.plain (agrees_real.optional nofun) rfl
    |>.member (agrees_word32.optional nofun) rfl

theorem Retry.agrees : Schema.retry.Agrees codec [⟨[.member "maxAttempts"], Json.IsWord 32⟩] :=
  agrees_record <| membersAgree_start
    |>.member (agrees_word32.optional nofun) rfl
    |>.plain agrees_optionalText rfl

theorem HttpCache.agrees : Schema.httpCache.Agrees codec [] :=
  agrees_record <| membersAgree_start
    |>.plain agrees_flag rfl
    |>.plain agrees_optionalText rfl

theorem HttpClient.agrees : Schema.httpClient.Agrees codec
    [⟨[.member "retry", .member "maxAttempts"], Json.IsWord 32⟩] :=
  agrees_record <| membersAgree_start
    |>.plain agrees_text rfl
    |>.plain agrees_text rfl
    |>.plain agrees_textTable rfl
    |>.plain agrees_optional_any rfl
    |>.plain agrees_optionalText rfl
    |>.member (Retry.agrees.optional nofun) rfl
    |>.plain (HttpCache.agrees.optional nofun) rfl
    |>.plain (agrees_flag.optional nofun) rfl
    |>.plain agrees_optionalText rfl

theorem SqlQuery.agrees : Schema.sqlQuery.Agrees codec [] :=
  agrees_record <| membersAgree_start
    |>.plain agrees_text rfl
    |>.plain agrees_text rfl
    |>.plain agrees_any.list rfl

theorem Sql.agrees : Schema.sql.Agrees codec [⟨[.member "maxRows"], Json.IsWord 32⟩] :=
  agrees_record <| membersAgree_start
    |>.plain agrees_text rfl
    |>.plain agrees_text rfl
    |>.plain agrees_text rfl
    |>.plain agrees_any.list rfl
    |>.plain agrees_flag rfl
    |>.plain SqlQuery.agrees.list rfl
    |>.plain agrees_optionalText rfl
    |>.plain agrees_optionalText rfl
    |>.member (agrees_word32.optional nofun) rfl

theorem Script.agrees : Schema.python.Agrees codec [] :=
  agrees_record <| membersAgree_start
    |>.plain agrees_text rfl
    |>.plain agrees_optionalText rfl
    |>.plain agrees_textList rfl
    |>.plain agrees_optionalText rfl
    |>.plain agrees_optionalText rfl

theorem Exec.agrees : Schema.exec.Agrees codec [] :=
  agrees_record <| membersAgree_start
    |>.plain agrees_text rfl
    |>.plain agrees_textList rfl
    |>.plain agrees_optionalText rfl
    |>.plain agrees_optionalText rfl
    |>.plain agrees_textTable rfl

theorem Speech.agrees : Schema.speech.Agrees codec [] :=
  agrees_record <| membersAgree_start
    |>.plain agrees_text rfl
    |>.plain agrees_optionalText rfl
    |>.plain agrees_optionalText rfl
    |>.plain agrees_optionalText rfl
    |>.plain agrees_optionalText rfl

theorem ResponseMeta.agrees : Schema.responseMeta.Agrees codec [] :=
  agrees_record <| membersAgree_start
    |>.plain agrees_textTable rfl
    |>.plain agrees_optionalText rfl
    |>.plain agrees_optionalText rfl

theorem ApiResponse.agrees : Schema.apiResponse.Agrees codec [] :=
  agrees_record <| membersAgree_start
    |>.plain agrees_flag rfl
    |>.plain agrees_optional_any rfl
    |>.plain (ResponseMeta.agrees.optional nofun) rfl

/-! ## Options -/

theorem FieldRule.agrees : Schema.fieldRule.Agrees codec
    [⟨[.member "minLength"], Json.IsWord 64⟩, ⟨[.member "maxLength"], Json.IsWord 64⟩,
      ⟨[], Json.HasNotBoth "min" "minimum"⟩, ⟨[], Json.HasNotBoth "max" "maximum"⟩,
      ⟨[.member "minItems"], Json.IsWord 64⟩, ⟨[.member "maxItems"], Json.IsWord 64⟩] :=
  have htype : (Schema.oneOf (FieldType.all.map FieldType.name)).Agrees FieldType.codec [] :=
    agrees_oneOf_variant (by decide) (by decide)
  agrees_record <| membersAgree_start
    |>.needed agrees_text rfl (by simp)
    |>.plain (htype.optional nofun) rfl
    |>.member (agrees_count.optional nofun) rfl
    |>.member (agrees_count.optional nofun) rfl
    |>.plain agrees_optionalText rfl
    |>.either (agrees_real.optional nofun) rfl (agrees_real.optional nofun) rfl
    |>.either (agrees_real.optional nofun) rfl (agrees_real.optional nofun) rfl
    |>.member (agrees_count.optional nofun) rfl
    |>.member (agrees_count.optional nofun) rfl
    |>.plain agrees_any.list rfl
    |>.plain agrees_optionalText rfl

theorem CustomRule.agrees : Schema.customRule.Agrees codec [] :=
  agrees_record <| membersAgree_start
    |>.needed agrees_text rfl (by simp)
    |>.plain agrees_text rfl

theorem ValidationRules.agrees : Schema.validation.Agrees codec
    [⟨[.member "rules", .item, .member "minLength"], Json.IsWord 64⟩,
      ⟨[.member "rules", .item, .member "maxLength"], Json.IsWord 64⟩,
      ⟨[.member "rules", .item], Json.HasNotBoth "min" "minimum"⟩,
      ⟨[.member "rules", .item], Json.HasNotBoth "max" "maximum"⟩,
      ⟨[.member "rules", .item, .member "minItems"], Json.IsWord 64⟩,
      ⟨[.member "rules", .item, .member "maxItems"], Json.IsWord 64⟩] :=
  agrees_record <| membersAgree_start
    |>.plain agrees_textList rfl
    |>.member FieldRule.agrees.list rfl
    |>.plain CustomRule.agrees.list rfl

theorem ErrorResponse.agrees : Schema.preflightError.Agrees codec
    [⟨[.member "code"], Json.IsWord 16⟩] :=
  agrees_record <| membersAgree_start
    |>.member (agrees_word16.optional nofun) rfl
    |>.plain agrees_text rfl

theorem PreflightCheck.agrees : Schema.preflightCheck.Agrees codec
    [⟨[.member "error", .member "code"], Json.IsWord 16⟩] :=
  agrees_record <| membersAgree_start
    |>.plain agrees_textList rfl
    |>.member (ErrorResponse.agrees.optional nofun) rfl

theorem OnError.agrees : Schema.onError.Agrees codec [⟨[.member "maxRetries"], Json.IsWord 32⟩] :=
  agrees_record <| membersAgree_start
    |>.plain agrees_text rfl
    |>.member (agrees_word32.optional nofun) rfl
    |>.plain agrees_optionalText rfl
    |>.plain agrees_optional_any rfl

/-! ## Runs -/

/-- An object has at most one of the members that name a primary action. -/
def Json.NamesOnePrimary (j : Json) : Prop :=
  Run.primaryNames.countP (fun name => (j.get? name).isSome) ≤ 1

namespace Run

/-- What the blocks of a run demand. -/
def partsDemands : List Demand :=
  [⟨[.member "chat", .member "contextLength"], Json.IsWord 32⟩,
    ⟨[.member "chat", .member "tools", .item, .member "parameters", .entry],
      Json.IsToolParameter⟩,
    ⟨[.member "chat", .member "maxTokens"], Json.IsWord 32⟩,
    ⟨[.member "httpClient", .member "retry", .member "maxAttempts"], Json.IsWord 32⟩,
    ⟨[.member "sql", .member "maxRows"], Json.IsWord 32⟩]

/-- What the options of a run demand. -/
def optionsDemands : List Demand :=
  [⟨[.member "preflightCheck", .member "error", .member "code"], Json.IsWord 16⟩,
    ⟨[.member "validation", .member "rules", .item, .member "minLength"], Json.IsWord 64⟩,
    ⟨[.member "validation", .member "rules", .item, .member "maxLength"], Json.IsWord 64⟩,
    ⟨[.member "validation", .member "rules", .item], Json.HasNotBoth "min" "minimum"⟩,
    ⟨[.member "validation", .member "rules", .item], Json.HasNotBoth "max" "maximum"⟩,
    ⟨[.member "validation", .member "rules", .item, .member "minItems"], Json.IsWord 64⟩,
    ⟨[.member "validation", .member "rules", .item, .member "maxItems"], Json.IsWord 64⟩,
    ⟨[.member "onError", .member "maxRetries"], Json.IsWord 32⟩]

end Run

theorem RunParts.membersAgree :
    Schema.MembersAgree record [] Schema.run.properties Run.partsDemands :=
  membersAgree_start
    |>.member (Chat.agrees.optional nofun) rfl
    |>.member (HttpClient.agrees.optional nofun) rfl
    |>.member (Sql.agrees.optional nofun) rfl
    |>.plain (Script.agrees.optional nofun) rfl
    |>.plain (Exec.agrees.optional nofun) rfl
    |>.plain (Speech.agrees.optional nofun) rfl
    |>.plain (ApiResponse.agrees.optional nofun) rfl

theorem RunOptions.membersAgree :
    Schema.MembersAgree record [] Schema.run.properties Run.optionsDemands :=
  membersAgree_start
    |>.plain agrees_textList rfl
    |>.plain agrees_textList rfl
    |>.plain agrees_textList rfl
    |>.plain agrees_textList rfl
    |>.plain agrees_textList rfl
    |>.member (PreflightCheck.agrees.optional nofun) rfl
    |>.member (ValidationRules.agrees.optional nofun) rfl
    |>.plain agrees_textList rfl
    |>.plain agrees_textList rfl
    |>.plain agrees_textList rfl
    |>.member (OnError.agrees.optional nofun) rfl

namespace Run

/-- A block that the schema allows is an object, so that it has a value when it is there. -/
theorem hasValue_eq_isSome {members : Members} {name : String}
    (hproperties : Schema.AllowsProperties members Schema.run.properties)
    (hname : name ∈ primaryNames) : members.hasValue name = (members.get? name).isSome := by
  have hobjects : ∀ name ∈ primaryNames,
      (Schema.run.properties.lookup name).bind Schema.kind? = some .object := by decide
  rw [Bool.eq_iff_iff, Members.hasValue_iff, Option.isSome_iff_exists]
  constructor
  · rintro ⟨j, hj, -⟩
    exact ⟨j, hj⟩
  · rintro ⟨j, hj⟩
    refine ⟨j, hj, ?_⟩
    rintro rfl
    obtain ⟨s, hlookup, hkind⟩ := Option.bind_eq_some_iff.1 (hobjects name hname)
    have hany := Schema.allows_null_iff.1 (Schema.allows_of_lookup hproperties hlookup hj)
    rw [hkind] at hany
    contradiction

/-- There are as many primary actions as the object names. -/
theorem length_actions {members : Members} {parts : RunParts}
    (hproperties : Schema.AllowsProperties members Schema.run.properties)
    (hparts : RunParts.record.readMembers .inPlace members = .value parts) :
    parts.actions.length = primaryNames.countP fun name => (members.get? name).isSome := by
  rw [← (forall₂_actions hparts).length_eq, namedPrimaries, ← List.countP_eq_length_filter]
  refine List.countP_congr fun name hname => ?_
  rw [hasValue_eq_isSome hproperties hname]

/-- A run agrees with its shape when it names one primary action at most, and up to the demands of
its blocks and options. -/
theorem agrees : Schema.run.Agrees codec
    (⟨[], Json.NamesOnePrimary⟩ :: (partsDemands ++ optionsDemands)) := by
  rintro site j ⟨members, rfl, hproperties, hrequired, -⟩
  have hparts := @RunParts.membersAgree .inPlace members hproperties hrequired
  have hoptions := @RunOptions.membersAgree .setAside members hproperties hrequired
  rw [← List.singleton_append, Demand.met_append, Demand.met_here, Demand.met_append, ← hparts,
    ← hoptions]
  constructor
  · rintro ⟨run, hrun⟩
    obtain ⟨parts, options, hp, ho, hrun⟩ := read_obj_eq_ok_iff.1 hrun
    obtain ⟨primary, hactions, -⟩ := ofParts_eq_ok_iff.1 hrun
    refine ⟨?_, ⟨parts, hp⟩, options, ho⟩
    have hle : parts.actions.length ≤ 1 := exists_toList_iff.1 ⟨primary, hactions⟩
    rwa [length_actions hproperties hp] at hle
  · rintro ⟨hone, ⟨parts, hp⟩, options, ho⟩
    have hle : parts.actions.length ≤ 1 := by
      rw [length_actions hproperties hp]
      exact hone
    obtain ⟨primary, hactions⟩ := exists_toList_iff.2 hle
    exact ⟨_, read_obj_eq_ok_iff.2 ⟨parts, options, hp, ho,
      ofParts_eq_ok_iff.2 ⟨primary, hactions, rfl⟩⟩⟩

end Run

/-! ## Resources -/

theorem ResourceMetadata.agrees : Schema.resourceMetadata.Agrees codec [] :=
  agrees_record <| membersAgree_start
    |>.plain agrees_text rfl
    |>.plain agrees_text rfl
    |>.plain agrees_text rfl
    |>.plain agrees_text rfl
    |>.plain agrees_textList rfl

namespace Resource

/-- What a resource demands. -/
def demands : List Demand :=
  Demand.behind (.member "run")
    (⟨[], Json.NamesOnePrimary⟩ :: (Run.partsDemands ++ Run.optionsDemands))

theorem agrees : Schema.resource.Agrees codec demands :=
  agrees_record <| membersAgree_start
    |>.plain agrees_text rfl
    |>.plain agrees_text rfl
    |>.plain ResourceMetadata.agrees rfl
    |>.plain agrees_textList rfl
    |>.member Run.agrees rfl

end Resource
end FlowCheck
