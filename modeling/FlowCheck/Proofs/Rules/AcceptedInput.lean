import FlowCheck.Proofs.Rules.Workflow

/-!
# Which input settings are accepted

The rules of input settings, written down as one list of conditions
(`InputSettings.WellFormed`), are what the check decides (`InputSettings.accepted_iff`).  A name
that is asked for is in its table, which says in one what the rules look at in two steps, since the
empty text is in no table.

Two kinds of settings are not looked at: the telephone where there is no telephone source, and the
engine of a mode that is not in use.  Without them the rules find the same
(`InputSettings.problem?_relevant`).
-/

namespace FlowCheck

open Rules (require needed)

/-- A name is there and known when it is in the table, which has no empty name. -/
theorem Rules.name_problem_eq_none_iff {π : Type} {texts : List String} (hempty : "" ∉ texts)
    {name : String} {missing unknown : π} :
    (require (!name.isEmpty) missing <|>
      require ((Options.ofTexts texts).allows name) unknown) = none ↔ name ∈ texts := by
  rw [Option.orElse_eq_none, require_eq_none, require_eq_none, Options.allows_ofTexts_iff]
  refine and_iff_right_of_imp fun hname => ?_
  have hne : name ≠ "" := fun heq => hempty (heq ▸ hname)
  simpa using hne

/-- A name that may be left out, or empty, is known when it is given. -/
theorem Rules.optional_name_problem_eq_none_iff {π : Type} {texts : List String}
    {name : Option String} {unknown : String → π} :
    (name.bind fun n =>
      require (n.isEmpty || (Options.ofTexts texts).allows n) (unknown n)) = none ↔
      ∀ n, name = some n → n ∈ "" :: texts := by
  simp only [Option.bind_eq_none_iff, require_eq_none, Bool.or_eq_true, String.isEmpty_iff,
    Options.allows_ofTexts_iff, List.mem_cons]

/-! ## Speech -/

/-- The mode is known, and the engine of this mode is given and known. -/
def HasEngine (mode : String) (online : Option OnlineSpeech) (offline : Option OfflineSpeech) :
    Prop :=
  (mode = "online" ∧ ∃ o, online = some o ∧
    o.provider ∈ ["openai-whisper", "google-stt", "aws-transcribe", "deepgram", "assemblyai"]) ∨
  (mode = "offline" ∧ ∃ o, offline = some o ∧
    o.engine ∈ ["whisper", "faster-whisper", "vosk", "whisper-cpp"])

variable {user : SpeechUser} {mode : String} {online : Option OnlineSpeech}
  {offline : Option OfflineSpeech}

theorem modeProblem?_eq_none_iff : modeProblem? user mode = none ↔ mode ∈ ["online", "offline"] :=
  Rules.name_problem_eq_none_iff (by decide)

theorem speechProblem?_online_eq_none_iff : speechProblem? user "online" online offline = none ↔
    ∃ o, online = some o ∧
      o.provider ∈ ["openai-whisper", "google-stt", "aws-transcribe", "deepgram", "assemblyai"] := by
  rw [speechProblem?, if_pos rfl, Rules.needed_eq_none]
  exact exists_congr fun o => and_congr_right fun _ => Rules.name_problem_eq_none_iff (by decide)

theorem speechProblem?_offline_eq_none_iff :
    speechProblem? user "offline" online offline = none ↔
      ∃ o, offline = some o ∧ o.engine ∈ ["whisper", "faster-whisper", "vosk", "whisper-cpp"] := by
  rw [speechProblem?, if_neg (by decide), if_pos rfl, Rules.needed_eq_none]
  exact exists_congr fun o => and_congr_right fun _ => Rules.name_problem_eq_none_iff (by decide)

theorem hasEngine_iff : HasEngine mode online offline ↔
    modeProblem? user mode = none ∧ speechProblem? user mode online offline = none := by
  rw [modeProblem?_eq_none_iff]
  constructor
  · rintro (⟨rfl, h⟩ | ⟨rfl, h⟩)
    · exact ⟨by decide, speechProblem?_online_eq_none_iff.2 h⟩
    · exact ⟨by decide, speechProblem?_offline_eq_none_iff.2 h⟩
  · rintro ⟨hmode, h⟩
    obtain rfl | rfl : mode = "online" ∨ mode = "offline" := by simpa using hmode
    · exact .inl ⟨rfl, speechProblem?_online_eq_none_iff.1 h⟩
    · exact .inr ⟨rfl, speechProblem?_offline_eq_none_iff.1 h⟩

/-- The settings of an engine count when the mode names it. -/
theorem speechProblem?_relevant :
    speechProblem? user mode (if mode = "online" then online else none)
      (if mode = "offline" then offline else none) = speechProblem? user mode online offline := by
  by_cases honline : mode = "online"
  · rw [speechProblem?, speechProblem?, if_pos honline, if_pos honline, if_pos honline]
  by_cases hoffline : mode = "offline"
  · rw [speechProblem?, speechProblem?, if_neg honline, if_neg honline, if_pos hoffline,
      if_pos hoffline, if_pos hoffline]
  · rw [speechProblem?, speechProblem?, if_neg honline, if_neg honline, if_neg hoffline,
      if_neg hoffline]

namespace Transcriber

structure WellFormed (t : Transcriber) : Prop where
  output : ∀ o, t.output = some o → o ∈ ["", "text", "media"]
  engine : HasEngine t.mode t.online t.offline

theorem problem?_eq_none_iff {t : Transcriber} : t.problem? = none ↔ t.WellFormed := by
  rw [problem?, Option.orElse_eq_none, Option.orElse_eq_none, Options.transcriberOutputs,
    Rules.optional_name_problem_eq_none_iff]
  constructor
  · rintro ⟨hmode, houtput, hspeech⟩
    exact ⟨houtput, hasEngine_iff.2 ⟨hmode, hspeech⟩⟩
  · rintro ⟨houtput, hengine⟩
    obtain ⟨hmode, hspeech⟩ := hasEngine_iff.1 hengine
    exact ⟨hmode, houtput, hspeech⟩

/-- Without the engine of another mode. -/
def relevant (t : Transcriber) : Transcriber :=
  { t with
    online := if t.mode = "online" then t.online else none
    offline := if t.mode = "offline" then t.offline else none }

theorem problem?_relevant (t : Transcriber) : t.relevant.problem? = t.problem? := by
  rw [problem?, problem?, relevant, speechProblem?_relevant]

end Transcriber

namespace Activation

/-- There is a phrase, the sensitivity is from zero to one, and there is an engine. -/
structure WellFormed (a : Activation) : Prop where
  phrase : a.phrase ≠ ""
  sensitivity : 0 ≤ a.sensitivity.units ∧ a.sensitivity.units ≤ Binary64.unitsPerOne
  engine : HasEngine a.mode a.online a.offline

theorem problem?_eq_none_iff {a : Activation} : a.problem? = none ↔ a.WellFormed := by
  rw [problem?, Option.orElse_eq_none, Option.orElse_eq_none, Option.orElse_eq_none,
    Rules.require_eq_none, Rules.require_eq_none, isInRange, Bool.and_eq_true, decide_eq_true_iff,
    decide_eq_true_iff]
  constructor
  · rintro ⟨hphrase, hmode, hsensitivity, hspeech⟩
    exact ⟨by simpa using hphrase, hsensitivity, hasEngine_iff.2 ⟨hmode, hspeech⟩⟩
  · rintro ⟨hphrase, hsensitivity, hengine⟩
    obtain ⟨hmode, hspeech⟩ := hasEngine_iff.1 hengine
    exact ⟨by simpa using hphrase, hmode, hsensitivity, hspeech⟩

/-- Without the engine of another mode. -/
def relevant (a : Activation) : Activation :=
  { a with
    online := if a.mode = "online" then a.online else none
    offline := if a.mode = "offline" then a.offline else none }

theorem problem?_relevant (a : Activation) : a.relevant.problem? = a.problem? := by
  rw [problem?, problem?, relevant, speechProblem?_relevant]

end Activation

theorem Telephony.problem?_eq_none_iff {t : Telephony} :
    t.problem? = none ↔ t.type = "local" ∨ t.type = "online" := by
  rw [problem?, Options.telephonyTypes, Rules.name_problem_eq_none_iff (by decide)]
  simp

/-! ## Whole settings -/

namespace InputSettings

/-- What the check asks of input settings. -/
structure WellFormed (i : InputSettings) : Prop where
  sources_ne_nil : i.sources ≠ []
  sources_nodup : i.sources.Nodup
  sources_known : ∀ s ∈ i.sources, s ∈ ["api", "audio", "video", "telephony"]
  telephony : "telephony" ∈ i.sources →
    ∃ t, i.telephony = some t ∧ (t.type = "local" ∨ t.type = "online")
  api_only : i.sources = ["api"] → i.transcriber = none ∧ i.activation = none
  transcriber : ∀ t, i.transcriber = some t → t.WellFormed
  activation : ∀ a, i.activation = some a → a.WellFormed

variable {i : InputSettings}

/-- Sources are looked at for repetitions as the ids of resources are. -/
theorem sourceProblem?_eq_none_iff {before sources : List String} :
    sourceProblem? before sources = none ↔ Workflow.firstRepeated? before sources = none ∧
      ∀ s ∈ sources, s ∈ ["api", "audio", "video", "telephony"] := by
  induction sources generalizing before with
  | nil => exact ⟨fun _ => ⟨rfl, nofun⟩, fun _ => rfl⟩
  | cons source rest ih =>
    rw [sourceProblem?, Option.orElse_eq_none, Option.orElse_eq_none, Rules.require_eq_none,
      Rules.require_eq_none, ih, Options.inputSources, Options.allows_ofTexts_iff,
      Workflow.firstRepeated?, List.forall_mem_cons]
    cases before.contains source with
    | true => simp
    | false => simp [and_left_comm]

theorem sourceProblem?_nil_eq_none_iff {sources : List String} :
    sourceProblem? [] sources = none ↔ sources.Nodup ∧
      ∀ s ∈ sources, s ∈ ["api", "audio", "video", "telephony"] := by
  rw [sourceProblem?_eq_none_iff, Workflow.firstRepeated?_eq_none_iff]
  simp

/-- Of different sources all are `api` only when this is the only one. -/
theorem isApiOnly_iff (h : i.sources.Nodup) : i.isApiOnly = true ↔ i.sources = ["api"] := by
  constructor
  · intro honly
    obtain ⟨hne, hall⟩ : i.sources ≠ [] ∧ ∀ s ∈ i.sources, s = "api" := by
      simpa [isApiOnly] using honly
    -- A row that repeats one text has at most one item when its items differ.
    have hreplicate : i.sources = List.replicate i.sources.length "api" :=
      List.eq_replicate_of_mem hall
    have hpos : 0 < i.sources.length := List.length_pos_iff.2 hne
    have hle : i.sources.length ≤ 1 := by
      rwa [hreplicate, List.nodup_replicate] at h
    rw [hreplicate, Nat.le_antisymm hle hpos]
    rfl
  · intro heq
    rw [isApiOnly, heq]
    rfl

theorem speechBlockProblem?_eq_none_iff {α : Type} {user : SpeechUser} {block : Option α}
    {rule : α → Option InputProblem} : i.speechBlockProblem? user block rule = none ↔
      ∀ a, block = some a → i.isApiOnly = false ∧ rule a = none := by
  simp only [speechBlockProblem?, Option.bind_eq_none_iff, Option.orElse_eq_none,
    Rules.require_eq_none, Bool.not_eq_true']

theorem telephony_no_problem_iff : (if i.hasSource "telephony" then
      needed i.telephony .telephonyMissing Telephony.problem? else none) = none ↔
    ("telephony" ∈ i.sources →
      ∃ t, i.telephony = some t ∧ (t.type = "local" ∨ t.type = "online")) := by
  have hsource : i.hasSource "telephony" = true ↔ "telephony" ∈ i.sources := by
    rw [hasSource, List.contains_iff_mem]
  by_cases h : "telephony" ∈ i.sources
  · rw [if_pos (hsource.2 h), Rules.needed_eq_none]
    simp only [Telephony.problem?_eq_none_iff, h, forall_const]
  · rw [if_neg (mt hsource.1 h)]
    simp only [h, false_imp_iff]

theorem problem?_eq_none_iff : i.problem? = none ↔ i.WellFormed := by
  rw [problem?, Option.orElse_eq_none, Option.orElse_eq_none, Option.orElse_eq_none,
    Option.orElse_eq_none, Rules.require_eq_none, sourceProblem?_nil_eq_none_iff,
    telephony_no_problem_iff, speechBlockProblem?_eq_none_iff, speechBlockProblem?_eq_none_iff]
  simp only [Transcriber.problem?_eq_none_iff, Activation.problem?_eq_none_iff]
  constructor
  · rintro ⟨hne, ⟨hnodup, hknown⟩, htelephony, htranscriber, hactivation⟩
    refine ⟨by simpa using hne, hnodup, hknown, htelephony, fun honly => ?_,
      fun t ht => (htranscriber t ht).2, fun a ha => (hactivation a ha).2⟩
    have hapi := (isApiOnly_iff hnodup).2 honly
    refine ⟨Option.eq_none_iff_forall_ne_some.2 fun t ht => ?_,
      Option.eq_none_iff_forall_ne_some.2 fun a ha => ?_⟩
    · rw [(htranscriber t ht).1] at hapi
      contradiction
    · rw [(hactivation a ha).1] at hapi
      contradiction
  · intro h
    have honly := isApiOnly_iff h.sources_nodup
    refine ⟨by simpa using h.sources_ne_nil, ⟨h.sources_nodup, h.sources_known⟩, h.telephony,
      fun t ht => ⟨Bool.eq_false_iff.2 fun hapi => ?_, h.transcriber t ht⟩,
      fun a ha => ⟨Bool.eq_false_iff.2 fun hapi => ?_, h.activation a ha⟩⟩
    · rw [(h.api_only (honly.1 hapi)).1] at ht
      contradiction
    · rw [(h.api_only (honly.1 hapi)).2] at ha
      contradiction

/-! ### What is not looked at -/

/-- Without a telephone that is no source, and without engines of modes that are not in use. -/
def relevant (i : InputSettings) : InputSettings :=
  { i with
    telephony := if i.hasSource "telephony" then i.telephony else none
    transcriber := i.transcriber.map Transcriber.relevant
    activation := i.activation.map Activation.relevant }

/-- A rule that does not look at what a change takes away finds the same in a changed block. -/
theorem speechBlockProblem?_map {α : Type} {user : SpeechUser} {block : Option α} {change : α → α}
    {rule : α → Option InputProblem} (h : ∀ a, rule (change a) = rule a) :
    i.relevant.speechBlockProblem? user (block.map change) rule =
      i.speechBlockProblem? user block rule := by
  cases block with
  | none => rfl
  | some a =>
    have hrule := h a
    simp only [speechBlockProblem?, Option.map_some, Option.bind_some, hrule]
    rfl

theorem telephony_relevant : (if i.relevant.hasSource "telephony" then
      needed i.relevant.telephony .telephonyMissing Telephony.problem? else none) =
    if i.hasSource "telephony" then
      needed i.telephony .telephonyMissing Telephony.problem? else none := by
  have hsource : i.relevant.hasSource "telephony" = i.hasSource "telephony" := rfl
  rw [hsource]
  by_cases h : i.hasSource "telephony" = true
  · rw [if_pos h, if_pos h, relevant, if_pos h]
  · rw [if_neg h, if_neg h]

theorem problem?_relevant (i : InputSettings) : i.relevant.problem? = i.problem? := by
  have htranscriber : i.relevant.speechBlockProblem? .transcriber i.relevant.transcriber
      Transcriber.problem? =
        i.speechBlockProblem? .transcriber i.transcriber Transcriber.problem? :=
    speechBlockProblem?_map Transcriber.problem?_relevant
  have hactivation : i.relevant.speechBlockProblem? .activation i.relevant.activation
      Activation.problem? =
        i.speechBlockProblem? .activation i.activation Activation.problem? :=
    speechBlockProblem?_map Activation.problem?_relevant
  rw [problem?, telephony_relevant, htranscriber, hactivation]
  rfl

/-- The check accepts input settings exactly when they are well-formed: sources are given, known and
different; a telephone source has a telephone of a known type; `api` alone has no block for speech;
a transcriber has a known output if any, an activation a phrase and a sensitivity from zero to one,
and each has a known mode and a known engine of this mode.  A telephone that is no source and an
engine of another mode change nothing in what the rules find. -/
theorem accepted_iff (i : InputSettings) :
    (refuse InputProblem.toFault i.problem? = .ok () ↔ i.WellFormed) ∧
      i.relevant.problem? = i.problem? := by
  refine ⟨?_, problem?_relevant i⟩
  rw [← problem?_eq_none_iff]
  cases i.problem? with
  | none => exact ⟨fun _ => rfl, fun _ => rfl⟩
  | some problem => exact ⟨nofun, nofun⟩

end InputSettings

end FlowCheck
