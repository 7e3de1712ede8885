import FlowCheck.Proofs.Schema.ResourceAgreement

/-!
# Workflow documents and workflows

Each block of the settings agrees with its shape in the schema, up to the integers in it; with the
resources this gives the demands of a whole workflow document.
-/

namespace FlowCheck

open Schema (agrees_flag agrees_optionalText agrees_real agrees_record agrees_text agrees_textList
  agrees_textTable agrees_word32 membersAgree_start)

/-! ## Servers -/

theorem Route.agrees : Schema.route.Agrees codec [] :=
  agrees_record <| membersAgree_start
    |>.plain agrees_text rfl
    |>.plain agrees_textList rfl

theorem Cors.agrees : Schema.cors.Agrees codec [] :=
  agrees_record <| membersAgree_start
    |>.plain agrees_flag rfl
    |>.plain agrees_textList rfl
    |>.plain agrees_textList rfl
    |>.plain agrees_textList rfl
    |>.plain agrees_flag rfl

theorem ApiServer.agrees : Schema.apiServer.Agrees codec
    [⟨[.member "portNum"], Json.IsWord 32⟩] :=
  agrees_record <| membersAgree_start
    |>.plain agrees_text rfl
    |>.member agrees_word32 rfl
    |>.plain agrees_textList rfl
    |>.plain Route.agrees.list rfl
    |>.plain (Cors.agrees.optional nofun) rfl

theorem WebRoute.agrees : Schema.webRoute.Agrees codec
    [⟨[.member "appPort"], Json.IsWord 32⟩] :=
  agrees_record <| membersAgree_start
    |>.plain agrees_text rfl
    |>.plain agrees_text rfl
    |>.plain agrees_optionalText rfl
    |>.member (agrees_word32.optional nofun) rfl
    |>.plain agrees_optionalText rfl

theorem WebServer.agrees : Schema.webServer.Agrees codec
    [⟨[.member "portNum"], Json.IsWord 32⟩,
      ⟨[.member "routes", .item, .member "appPort"], Json.IsWord 32⟩] :=
  agrees_record <| membersAgree_start
    |>.plain agrees_text rfl
    |>.member agrees_word32 rfl
    |>.member WebRoute.agrees.list rfl

/-! ## Input -/

theorem OnlineSpeech.agrees : Schema.onlineSpeech.Agrees codec [] :=
  agrees_record <| membersAgree_start
    |>.plain agrees_text rfl
    |>.plain agrees_optionalText rfl
    |>.plain agrees_optionalText rfl

theorem OfflineSpeech.agrees : Schema.offlineSpeech.Agrees codec [] :=
  agrees_record <| membersAgree_start
    |>.plain agrees_text rfl
    |>.plain agrees_optionalText rfl

theorem Telephony.agrees : Schema.telephony.Agrees codec [] :=
  agrees_record <| membersAgree_start
    |>.plain agrees_text rfl
    |>.plain agrees_optionalText rfl
    |>.plain agrees_optionalText rfl

theorem Transcriber.agrees : Schema.transcriber.Agrees codec [] :=
  agrees_record <| membersAgree_start
    |>.plain agrees_text rfl
    |>.plain agrees_optionalText rfl
    |>.plain agrees_optionalText rfl
    |>.plain (OnlineSpeech.agrees.optional nofun) rfl
    |>.plain (OfflineSpeech.agrees.optional nofun) rfl

theorem Activation.agrees : Schema.activation.Agrees codec
    [⟨[.member "chunkSeconds"], Json.IsWord 32⟩] :=
  agrees_record <| membersAgree_start
    |>.plain agrees_text rfl
    |>.plain agrees_text rfl
    |>.plain agrees_real rfl
    |>.member (agrees_word32.optional nofun) rfl
    |>.plain (OnlineSpeech.agrees.optional nofun) rfl
    |>.plain (OfflineSpeech.agrees.optional nofun) rfl

theorem InputSettings.agrees : Schema.input.Agrees codec
    [⟨[.member "activation", .member "chunkSeconds"], Json.IsWord 32⟩] :=
  agrees_record <| membersAgree_start
    |>.plain agrees_textList rfl
    |>.plain (Telephony.agrees.optional nofun) rfl
    |>.plain (Transcriber.agrees.optional nofun) rfl
    |>.member (Activation.agrees.optional nofun) rfl

/-! ## Storage and agent -/

theorem Pool.agrees : Schema.pool.Agrees codec
    [⟨[.member "maxConnections"], Json.IsWord 32⟩,
      ⟨[.member "minConnections"], Json.IsWord 32⟩] :=
  agrees_record <| membersAgree_start
    |>.member (agrees_word32.optional nofun) rfl
    |>.member (agrees_word32.optional nofun) rfl
    |>.plain agrees_optionalText rfl
    |>.plain agrees_optionalText rfl

theorem SqlConnection.agrees : Schema.sqlConnection.Agrees codec
    [⟨[.member "pool", .member "maxConnections"], Json.IsWord 32⟩,
      ⟨[.member "pool", .member "minConnections"], Json.IsWord 32⟩] :=
  agrees_record <| membersAgree_start
    |>.plain agrees_text rfl
    |>.member (Pool.agrees.optional nofun) rfl

theorem AgentSettings.agrees : Schema.agentSettings.Agrees codec [] :=
  agrees_record <| membersAgree_start
    |>.plain agrees_optionalText rfl
    |>.plain agrees_optionalText rfl
    |>.plain agrees_textList rfl
    |>.plain agrees_optionalText rfl
    |>.plain agrees_optionalText rfl
    |>.plain agrees_textList rfl
    |>.plain agrees_textTable rfl

/-! ## Workflows -/

theorem WorkflowMetadata.agrees : Schema.workflowMetadata.Agrees codec [] :=
  agrees_record <| membersAgree_start
    |>.plain agrees_text rfl
    |>.plain agrees_optionalText rfl
    |>.plain agrees_text rfl
    |>.plain agrees_text rfl
    |>.plain agrees_textList rfl

namespace Settings

/-- What the settings demand. -/
def demands : List Demand :=
  [⟨[.member "portNum"], Json.IsWord 32⟩,
    ⟨[.member "apiServer", .member "portNum"], Json.IsWord 32⟩,
    ⟨[.member "webServer", .member "portNum"], Json.IsWord 32⟩,
    ⟨[.member "webServer", .member "routes", .item, .member "appPort"], Json.IsWord 32⟩,
    ⟨[.member "input", .member "activation", .member "chunkSeconds"], Json.IsWord 32⟩,
    ⟨[.member "sqlConnections", .entry, .member "pool", .member "maxConnections"],
      Json.IsWord 32⟩,
    ⟨[.member "sqlConnections", .entry, .member "pool", .member "minConnections"],
      Json.IsWord 32⟩,
    ⟨[.member "rateLimitMax"], Json.IsWord 32⟩]

theorem agrees : Schema.settings.Agrees codec demands :=
  agrees_record <| membersAgree_start
    |>.plain agrees_flag rfl
    |>.plain agrees_flag rfl
    |>.plain agrees_optionalText rfl
    |>.member (agrees_word32.optional nofun) rfl
    |>.member (ApiServer.agrees.optional nofun) rfl
    |>.member (WebServer.agrees.optional nofun) rfl
    |>.member (InputSettings.agrees.optional nofun) rfl
    |>.member SqlConnection.agrees.table rfl
    |>.member (agrees_word32.optional nofun) rfl
    |>.plain agrees_optionalText rfl
    |>.plain (AgentSettings.agrees.optional nofun) rfl

end Settings

namespace Workflow

/-- What a workflow demands. -/
def demands : List Demand :=
  Demand.behind (.member "settings") Settings.demands ++
    Demand.behind (.member "resources") (Demand.behind .item Resource.demands)

theorem agrees : DocumentKind.workflow.wholeSchema.Agrees codec demands :=
  agrees_record <| membersAgree_start
    |>.plain agrees_text rfl
    |>.plain agrees_text rfl
    |>.plain WorkflowMetadata.agrees rfl
    |>.member Settings.agrees rfl
    |>.member Resource.agrees.list rfl

end Workflow

/-! ## Documents -/

namespace DocumentKind

/-- A document can be read as a workflow or a resource. -/
def HasTyped : DocumentKind → Json → Prop
  | workflow, doc => ∃ w, Workflow.codec.read .inPlace doc = .ok w
  | resource, doc => ∃ r, Resource.codec.read .inPlace doc = .ok r

/-- What a document demands, beyond its schema, to be read. -/
def demands : DocumentKind → List Demand
  | workflow => Workflow.demands
  | resource => Resource.demands

/-- An accepted document can be read exactly when it meets the demands: its integers are written
as such and fit their types, the parameters of its tools are parameters, no rule bounds a field
twice from one side, and every run names one primary action at most. -/
theorem hasTyped_iff_of_check {kind : DocumentKind} {doc : Json} (h : kind.check doc = .ok ()) :
    kind.HasTyped doc ↔ Demand.Met kind.demands doc := by
  have hallows : kind.wholeSchema.Allows doc := check_eq_ok_iff_allows.1 h
  cases kind with
  | workflow => exact Workflow.agrees hallows
  | resource => exact Resource.agrees hallows

/-- A workflow that listens on a port, with a chat for its only resource. -/
def onPort (port : Number) : Json :=
  .obj [("apiVersion", .str "kdeps.io/v1"), ("kind", .str "Workflow"),
    ("metadata", .obj [("name", .str "demo"), ("targetActionId", .str "ask")]),
    ("resources", .arr [.obj [
      ("metadata", .obj [("actionId", .str "ask"), ("name", .str "Ask")]),
      ("run", .obj [("chat", .obj [("model", .str "m"), ("prompt", .str "p")])])]]),
    ("settings", .obj [("portNum", .num port)])]

theorem onPort_integer : workflow.check (onPort (.int 80)) = .ok () ∧
    workflow.HasTyped (onPort (.int 80)) ∧ Demand.Met workflow.demands (onPort (.int 80)) := by
  have hcheck : workflow.check (onPort (.int 80)) = .ok () := rfl
  have htyped : workflow.HasTyped (onPort (.int 80)) := ⟨_, rfl⟩
  exact ⟨hcheck, htyped, (hasTyped_iff_of_check hcheck).1 htyped⟩

/-- The schema takes a whole double for an integer, and reading does not. -/
theorem onPort_double : workflow.check (onPort (.real (.ofInt 80))) = .ok () ∧
    ¬ workflow.HasTyped (onPort (.real (.ofInt 80))) ∧
    (onPort (.real (.ofInt 80))).AllAt Json.NamesOnePrimary
      [.member "resources", .item, .member "run"] := by
  have hnone : (workflow.diagnoseAll (onPort (.real (.ofInt 80)))).isEmpty = true := by
    decide +kernel
  have hcheck : workflow.check (onPort (.real (.ofInt 80))) = .ok () :=
    check_eq_ok_iff.2 (List.isEmpty_iff.1 hnone)
  refine ⟨hcheck, fun htyped => ?_, ?_⟩
  · have hmet := (Workflow.agrees (check_eq_ok_iff_allows.1 hcheck)).1 htyped
    have hdemand : ⟨[.member "settings", .member "portNum"], Json.IsWord 32⟩ ∈ Workflow.demands :=
      List.mem_append_left _ List.mem_cons_self
    obtain ⟨n, -, hport⟩ := hmet _ hdemand _ rfl _ rfl
    exact Number.noConfusion (Json.num.inj hport)
  · intro resources hresources items hitems item hitem run hrun
    obtain rfl := Option.some.inj hresources
    obtain rfl := Json.arr.inj hitems
    obtain rfl := List.mem_singleton.1 hitem
    obtain rfl := Option.some.inj hrun
    exact Nat.le_refl 1

end DocumentKind
end FlowCheck
