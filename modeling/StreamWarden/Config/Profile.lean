import StreamWarden.Net.Address

/-!
# Stream profiles

A device either sends its camera or shows a received stream. A profile says
which, with the addresses and formats it needs.

* `Profile.check` finds a port or payload type out of range.
-/

namespace StreamWarden

/-- The codec of a received stream. -/
inductive Codec where
  | h264
  | h265
  deriving DecidableEq, Repr, Inhabited

namespace Codec

/-- Every codec. -/
def all : List Codec := [.h264, .h265]

/-- The name of a codec on the command line. -/
def label : Codec → String
  | .h264 => "h264"
  | .h265 => "h265"

/-- The name of a codec in the description of a stream. -/
def encodingName : Codec → String
  | .h264 => "H264"
  | .h265 => "H265"

end Codec

/-- Why a configuration is not accepted. -/
inductive ConfigError where
  /-- A port that does not exist. -/
  | port (value : Nat)
  /-- A payload type that does not exist. -/
  | payloadType (value : Nat)
  /-- A span of time that must not be zero, by its name. -/
  | zeroDuration (name : String)
  deriving DecidableEq, Repr

namespace ConfigError

/-- The label of a refused configuration. -/
def label : ConfigError → String
  | .port _ => "config_port"
  | .payloadType _ => "config_payload_type"
  | .zeroDuration _ => "config_zero_duration"

/-- The message of a refused configuration. -/
def message : ConfigError → String
  | .port value => "port " ++ toString value ++ " is outside 1..=65535"
  | .payloadType value => "payload type " ++ toString value ++ " is outside 0..=127"
  | .zeroDuration name => name ++ " must be greater than zero"

end ConfigError

/-- What a device does with its stream. -/
inductive Profile where
  /-- Send the picture of a camera to an address. -/
  | sender (address : Net.Address) (port : Nat) (device : String)
  /-- Show the stream that arrives at a port. -/
  | receiver (port payloadType : Nat) (codec : Codec)
  deriving DecidableEq, Repr

namespace Profile

/-- The port of a stream where none is named. -/
def defaultPort : Nat := 5600

/-- The payload type of a received stream where none is named. -/
def defaultPayloadType : Nat := 96

/-- The name of the pipeline that a profile asks for. -/
def name : Profile → String
  | .sender .. => "camera-h264-streamer"
  | .receiver .. => "rtp-viewer-pipeline"

/-- The stream is received, so it can be duplicated and recorded. -/
def isReceiver : Profile → Bool
  | .sender .. => false
  | .receiver .. => true

/-- A port from 1 to 65535. -/
def checkPort (port : Nat) : Except ConfigError Unit :=
  if port = 0 ∨ port > 65535 then .error (.port port) else .ok ()

/-- A payload type from 0 to 127. -/
def checkPayloadType (payloadType : Nat) : Except ConfigError Unit :=
  if payloadType > 127 then .error (.payloadType payloadType) else .ok ()

/-- Finds the first number out of range, the port before the payload type. -/
def check : Profile → Except ConfigError Unit
  | .sender _ port _ => checkPort port
  | .receiver port payloadType _ =>
    match checkPort port with
    | .error e => .error e
    | .ok () => checkPayloadType payloadType

theorem check_sender_eq_ok_iff {address : Net.Address} {port : Nat} {device : String} :
    check (.sender address port device) = .ok () ↔ 1 ≤ port ∧ port ≤ 65535 := by
  simp only [check, checkPort]
  split <;> simp_all <;> omega

theorem check_receiver_eq_ok_iff {port payloadType : Nat} {codec : Codec} :
    check (.receiver port payloadType codec) = .ok () ↔
      (1 ≤ port ∧ port ≤ 65535) ∧ payloadType ≤ 127 := by
  simp only [check, checkPort, checkPayloadType]
  split
  all_goals split at * <;> try split
  all_goals simp_all
  all_goals omega

end Profile

end StreamWarden
