import FlowCheck.Wire.Record

/-!
# Input settings

Where a workflow takes its input from: the sources, the telephone, the transcription of speech
and the phrase that wakes it.  Names of modes, providers and engines are kept as they are given,
so that an unknown one can be reported with the list of known ones.
-/

namespace FlowCheck

structure OnlineSpeech where
  provider : String := ""
  apiKey : Option String := none
  region : Option String := none
deriving DecidableEq

namespace OnlineSpeech

def record : Wire.Record OnlineSpeech OnlineSpeech :=
  (Wire.Record.start OnlineSpeech.mk)
    |>.text "provider" OnlineSpeech.provider
    |>.optionalText "apiKey" OnlineSpeech.apiKey
    |>.optionalText "region" OnlineSpeech.region

def codec : Wire.Codec OnlineSpeech := record.codec "OnlineSpeechConfig"

end OnlineSpeech

structure OfflineSpeech where
  engine : String := ""
  model : Option String := none
deriving DecidableEq

namespace OfflineSpeech

def record : Wire.Record OfflineSpeech OfflineSpeech :=
  (Wire.Record.start OfflineSpeech.mk)
    |>.text "engine" OfflineSpeech.engine
    |>.optionalText "model" OfflineSpeech.model

def codec : Wire.Codec OfflineSpeech := record.codec "OfflineSpeechConfig"

end OfflineSpeech

structure Telephony where
  type : String := ""
  device : Option String := none
  provider : Option String := none
deriving DecidableEq

namespace Telephony

def record : Wire.Record Telephony Telephony :=
  (Wire.Record.start Telephony.mk)
    |>.text "type" Telephony.type
    |>.optionalText "device" Telephony.device
    |>.optionalText "provider" Telephony.provider

def codec : Wire.Codec Telephony := record.codec "TelephonyConfig"

end Telephony

/-- How speech is written down. -/
structure Transcriber where
  mode : String := ""
  output : Option String := none
  language : Option String := none
  online : Option OnlineSpeech := none
  offline : Option OfflineSpeech := none
deriving DecidableEq

namespace Transcriber

def record : Wire.Record Transcriber Transcriber :=
  (Wire.Record.start Transcriber.mk)
    |>.text "mode" Transcriber.mode
    |>.optionalText "output" Transcriber.output
    |>.optionalText "language" Transcriber.language
    |>.optional "online" Transcriber.online OnlineSpeech.codec
    |>.optional "offline" Transcriber.offline OfflineSpeech.codec

def codec : Wire.Codec Transcriber := record.codec "TranscriberConfig"

end Transcriber

/-- The phrase that wakes the workflow, and how it is listened for.  The sensitivity is finite: no
document gives one that is infinite or not a number. -/
structure Activation where
  phrase : String := ""
  mode : String := ""
  sensitivity : Binary64 := .zero false
  chunkSeconds : Option UInt32 := none
  online : Option OnlineSpeech := none
  offline : Option OfflineSpeech := none
deriving DecidableEq

namespace Activation

def record : Wire.Record Activation Activation :=
  (Wire.Record.start Activation.mk)
    |>.text "phrase" Activation.phrase
    |>.text "mode" Activation.mode
    |>.defaulted "sensitivity" Activation.sensitivity .real (.zero false)
    |>.optional "chunkSeconds" Activation.chunkSeconds .word32
    |>.optional "online" Activation.online OnlineSpeech.codec
    |>.optional "offline" Activation.offline OfflineSpeech.codec

def codec : Wire.Codec Activation := record.codec "ActivationConfig"

end Activation

/-- The `input` block of the settings. -/
structure InputSettings where
  sources : List String := []
  telephony : Option Telephony := none
  transcriber : Option Transcriber := none
  activation : Option Activation := none
deriving DecidableEq

namespace InputSettings

def record : Wire.Record InputSettings InputSettings :=
  (Wire.Record.start InputSettings.mk)
    |>.list "sources" InputSettings.sources .text
    |>.optional "telephony" InputSettings.telephony Telephony.codec
    |>.optional "transcriber" InputSettings.transcriber Transcriber.codec
    |>.optional "activation" InputSettings.activation Activation.codec

def codec : Wire.Codec InputSettings := record.codec "InputConfig"

def hasSource (input : InputSettings) (source : String) : Bool := input.sources.contains source

/-- There is a source, and every one is `api`. -/
def isApiOnly (input : InputSettings) : Bool :=
  !input.sources.isEmpty && input.sources.all (· == "api")

end InputSettings

end FlowCheck
