import IbcEvents.Codec

/-! The attributes of the channel handshake events (`channel_attributes.rs`): one key per
attribute, an encoder to one pair, and for all but the connection id a decoder back. -/

namespace IbcEvents.ChannelAttributes
open IbcEvents.Text IbcEvents.Abci IbcEvents.Host IbcEvents.Codec

def connectionIdAttributeKey : Str := .ofAscii "connection_id" (by decide)
def channelIdAttributeKey : Str := .ofAscii "channel_id" (by decide)
def portIdAttributeKey : Str := .ofAscii "port_id" (by decide)
def counterpartyChannelIdAttributeKey : Str := .ofAscii "counterparty_channel_id" (by decide)
def counterpartyPortIdAttributeKey : Str := .ofAscii "counterparty_port_id" (by decide)
def versionAttributeKey : Str := .ofAscii "version" (by decide)

variable (rules : Rules)

structure PortIdAttribute where
  portId : PortId rules
  deriving DecidableEq

def PortIdAttribute.toEventAttribute (attr : PortIdAttribute rules) : EventAttribute :=
  .ofPair portIdAttributeKey attr.portId.asStr

/-- Unlike its siblings, this decoder passes the parser's `IdentifierError` on with `?`
instead of reporting `InvalidAttributeValue`. -/
def PortIdAttribute.tryFrom (value : EventAttribute) : Except ChannelError (PortIdAttribute rules) :=
  match value.keyStr with
  | none => .error (.invalidAttributeKey .empty)
  | some keyStr =>
    if keyStr ≠ portIdAttributeKey then .error (.invalidAttributeKey keyStr)
    else
      match value.valueStr with
      | none => .error (.invalidAttributeValue .empty)
      | some text => (((Validated.fromStr rules.portId text).mapError .invalidIdentifier)).map .mk

structure ChannelIdAttribute where
  channelId : ChannelId rules
  deriving DecidableEq

def ChannelIdAttribute.toEventAttribute (attr : ChannelIdAttribute rules) : EventAttribute :=
  .ofPair channelIdAttributeKey attr.channelId.asStr

def ChannelIdAttribute.tryFrom (value : EventAttribute) : Except ChannelError (ChannelIdAttribute rules) :=
  (decodeScalar channelIdAttributeKey (Validated.fromStr rules.channelId) value).map .mk

structure CounterpartyPortIdAttribute where
  counterpartyPortId : PortId rules
  deriving DecidableEq

def CounterpartyPortIdAttribute.toEventAttribute (attr : CounterpartyPortIdAttribute rules) :
    EventAttribute :=
  .ofPair counterpartyPortIdAttributeKey attr.counterpartyPortId.asStr

def CounterpartyPortIdAttribute.tryFrom (value : EventAttribute) :
    Except ChannelError (CounterpartyPortIdAttribute rules) :=
  (decodeScalar counterpartyPortIdAttributeKey (Validated.fromStr rules.portId) value).map .mk

structure CounterpartyChannelIdAttribute where
  counterpartyChannelId : ChannelId rules
  deriving DecidableEq

def CounterpartyChannelIdAttribute.toEventAttribute (attr : CounterpartyChannelIdAttribute rules) :
    EventAttribute :=
  .ofPair counterpartyChannelIdAttributeKey attr.counterpartyChannelId.asStr

def CounterpartyChannelIdAttribute.tryFrom (value : EventAttribute) :
    Except ChannelError (CounterpartyChannelIdAttribute rules) :=
  (decodeScalar counterpartyChannelIdAttributeKey (Validated.fromStr rules.channelId) value).map .mk

/-- Encoded only: there is no decoder for it. -/
structure ConnectionIdAttribute where
  connectionId : ConnectionId rules
  deriving DecidableEq

def ConnectionIdAttribute.toEventAttribute (attr : ConnectionIdAttribute rules) : EventAttribute :=
  .ofPair connectionIdAttributeKey attr.connectionId.asStr

structure VersionAttribute where
  version : Version rules
  deriving DecidableEq

def VersionAttribute.toEventAttribute (attr : VersionAttribute rules) : EventAttribute :=
  .ofPair versionAttributeKey attr.version.asStr

def VersionAttribute.tryFrom (value : EventAttribute) : Except ChannelError (VersionAttribute rules) :=
  (decodeScalar versionAttributeKey (Validated.fromStr rules.version) value).map .mk

/-- The port-id decoder agrees with the shared body on every pair whose value, when it is
text, is a port id: the two part only where the parser rejects. -/
theorem portIdAttribute_tryFrom_eq_decodeScalar (value : EventAttribute)
    (accepted : ∀ text, value.valueStr = some text → rules.portId text = true) :
    PortIdAttribute.tryFrom rules value =
      (decodeScalar portIdAttributeKey (Validated.fromStr rules.portId) value).map .mk := by
  rw [PortIdAttribute.tryFrom,decodeScalar]
  rcases value.keyStr with _ | keyStr
  · rfl
  · by_cases other : keyStr ≠ portIdAttributeKey
    · simp [other,Except.map]
    · simp only [other,if_false]
      rcases valueStr : value.valueStr with _ | text
      · rfl
      · simp [Validated.fromStr,accepted text valueStr,Except.mapError,Except.map]

theorem portIdAttribute_tryFrom_eq_decodeScalar_transfer :
    let rules : Rules := ⟨fun _ => true,fun _ => true,fun _ => true,fun _ => true,fun _ => true⟩
    let value := EventAttribute.ofPair portIdAttributeKey (.ofAscii "transfer" (by decide))
    (∀ text, value.valueStr = some text → rules.portId text = true) ∧
      PortIdAttribute.tryFrom rules value =
        (decodeScalar portIdAttributeKey (Validated.fromStr rules.portId) value).map .mk :=
  ⟨fun _ _ => rfl,portIdAttribute_tryFrom_eq_decodeScalar _ _ fun _ _ => rfl⟩

theorem portIdAttribute_tryFrom_key_mismatch {value : EventAttribute}
    (mismatch : value.keyStr ≠ some portIdAttributeKey) :
    PortIdAttribute.tryFrom rules value = .error (.invalidAttributeKey (value.keyStr.getD .empty)) := by
  unfold PortIdAttribute.tryFrom
  rcases found : value.keyStr with _ | keyStr
  · rfl
  · have differs : keyStr ≠ portIdAttributeKey := fun same => mismatch (by rw [found,same])
    simp [differs]

theorem PortIdAttribute.tryFrom_congr {a b : EventAttribute} (same : EventAttribute.SameBytes a b) :
    PortIdAttribute.tryFrom rules a = PortIdAttribute.tryFrom rules b := by
  simp only [PortIdAttribute.tryFrom,EventAttribute.keyStr_eq_of_sameBytes same,
    EventAttribute.valueStr_eq_of_sameBytes same]

section RoundTrip

@[simp] theorem PortIdAttribute.tryFrom_toEventAttribute (attr : PortIdAttribute rules) :
    PortIdAttribute.tryFrom rules attr.toEventAttribute = .ok attr := by
  simp [PortIdAttribute.tryFrom,PortIdAttribute.toEventAttribute,portIdAttributeKey,Except.mapError,Except.map]

@[simp] theorem ChannelIdAttribute.tryFrom_toEventAttribute (attr : ChannelIdAttribute rules) :
    ChannelIdAttribute.tryFrom rules attr.toEventAttribute = .ok attr :=
  decodeScalar_ofPair_map _ _ _ (Validated.fromStr_asStr _)

@[simp] theorem CounterpartyPortIdAttribute.tryFrom_toEventAttribute
    (attr : CounterpartyPortIdAttribute rules) :
    CounterpartyPortIdAttribute.tryFrom rules attr.toEventAttribute = .ok attr :=
  decodeScalar_ofPair_map _ _ _ (Validated.fromStr_asStr _)

@[simp] theorem CounterpartyChannelIdAttribute.tryFrom_toEventAttribute
    (attr : CounterpartyChannelIdAttribute rules) :
    CounterpartyChannelIdAttribute.tryFrom rules attr.toEventAttribute = .ok attr :=
  decodeScalar_ofPair_map _ _ _ (Validated.fromStr_asStr _)

@[simp] theorem VersionAttribute.tryFrom_toEventAttribute (attr : VersionAttribute rules) :
    VersionAttribute.tryFrom rules attr.toEventAttribute = .ok attr :=
  decodeScalar_ofPair_map _ _ _ (Validated.fromStr_asStr _)

end RoundTrip

/-- On a port id its parser rejects, the port-id decoder answers `InvalidIdentifier`, where the
counterparty-port decoder, on the same text and the same parser, answers `InvalidAttributeValue`. -/
theorem portIdAttribute_tryFrom_rejected (text : Str) (rejected : rules.portId text = false) :
    PortIdAttribute.tryFrom rules (.ofPair portIdAttributeKey text) = .error (.invalidIdentifier ⟨text⟩) ∧
      CounterpartyPortIdAttribute.tryFrom rules (.ofPair counterpartyPortIdAttributeKey text) =
        .error (.invalidAttributeValue text) := by
  constructor <;>
    simp [PortIdAttribute.tryFrom,CounterpartyPortIdAttribute.tryFrom,decodeScalar,
      Validated.fromStr_of_rejected rejected,Except.mapError,Except.map]

theorem portIdAttribute_tryFrom_empty :
    let rules : Rules := ⟨fun s => !s.bytes.isEmpty,fun _ => true,fun _ => true,fun _ => true,fun _ => true⟩
    rules.portId .empty = false ∧
      (PortIdAttribute.tryFrom rules (.ofPair portIdAttributeKey .empty) =
          .error (.invalidIdentifier ⟨.empty⟩) ∧
        CounterpartyPortIdAttribute.tryFrom rules (.ofPair counterpartyPortIdAttributeKey .empty) =
          .error (.invalidAttributeValue .empty)) :=
  ⟨rfl,portIdAttribute_tryFrom_rejected _ _ rfl⟩

end IbcEvents.ChannelAttributes
