import IbcEvents.ChannelAttributes
import IbcEvents.PacketAttributes
import IbcEvents.PacketData

/-! The attribute kinds taken together, and what a reader of the event log relies on: a pair
names its kind by its key and decodes under that kind alone, to the value it was written
from. -/

namespace IbcEvents.Registry
open IbcEvents.Text IbcEvents.Abci IbcEvents.Host IbcEvents.Codec
open IbcEvents.ChannelAttributes IbcEvents.PacketAttributes IbcEvents.PacketData

/-- The scalar kinds, one per decoder. -/
inductive Kind where
  | portId
  | channelId
  | counterpartyPortId
  | counterpartyChannelId
  | version
  | sequence
  | srcPortId
  | srcChannelId
  | dstPortId
  | dstChannelId
  | channelOrdering
  | timeoutHeight
  | timeoutTimestamp
  deriving DecidableEq

def Kind.key : Kind → Str
  | .portId => portIdAttributeKey
  | .channelId => channelIdAttributeKey
  | .counterpartyPortId => counterpartyPortIdAttributeKey
  | .counterpartyChannelId => counterpartyChannelIdAttributeKey
  | .version => versionAttributeKey
  | .sequence => pktSeqAttributeKey
  | .srcPortId => pktSrcPortAttributeKey
  | .srcChannelId => pktSrcChannelAttributeKey
  | .dstPortId => pktDstPortAttributeKey
  | .dstChannelId => pktDstChannelAttributeKey
  | .channelOrdering => pktChannelOrderingAttributeKey
  | .timeoutHeight => pktTimeoutHeightAttributeKey
  | .timeoutTimestamp => pktTimeoutTimestampAttributeKey

theorem Kind.key_injective {first second : Kind} (same : first.key = second.key) : first = second := by
  have inverse : ∀ kind : Kind, [Kind.portId,.channelId,.counterpartyPortId,.counterpartyChannelId,.version,
      .sequence,.srcPortId,.srcChannelId,.dstPortId,.dstChannelId,.channelOrdering,.timeoutHeight,
      .timeoutTimestamp].find? (fun other => other.key == kind.key) = some kind := by
    intro kind; cases kind <;> decide
  exact Option.some.inj ((inverse first).symm.trans (same ▸ inverse second))

variable (rules : Rules)

/-- A scalar attribute of any kind: §3's tagged variant. -/
inductive Attribute where
  | portId (attr : PortIdAttribute rules)
  | channelId (attr : ChannelIdAttribute rules)
  | counterpartyPortId (attr : CounterpartyPortIdAttribute rules)
  | counterpartyChannelId (attr : CounterpartyChannelIdAttribute rules)
  | version (attr : VersionAttribute rules)
  | sequence (attr : SequenceAttribute)
  | srcPortId (attr : SrcPortIdAttribute rules)
  | srcChannelId (attr : SrcChannelIdAttribute rules)
  | dstPortId (attr : DstPortIdAttribute rules)
  | dstChannelId (attr : DstChannelIdAttribute rules)
  | channelOrdering (attr : ChannelOrderingAttribute)
  | timeoutHeight (attr : TimeoutHeightAttribute)
  | timeoutTimestamp (attr : TimeoutTimestampAttribute rules)

variable {rules}

def Attribute.kind : Attribute rules → Kind
  | .portId _ => .portId
  | .channelId _ => .channelId
  | .counterpartyPortId _ => .counterpartyPortId
  | .counterpartyChannelId _ => .counterpartyChannelId
  | .version _ => .version
  | .sequence _ => .sequence
  | .srcPortId _ => .srcPortId
  | .srcChannelId _ => .srcChannelId
  | .dstPortId _ => .dstPortId
  | .dstChannelId _ => .dstChannelId
  | .channelOrdering _ => .channelOrdering
  | .timeoutHeight _ => .timeoutHeight
  | .timeoutTimestamp _ => .timeoutTimestamp

def Attribute.toEventAttribute : Attribute rules → EventAttribute
  | .portId attr => attr.toEventAttribute
  | .channelId attr => attr.toEventAttribute
  | .counterpartyPortId attr => attr.toEventAttribute
  | .counterpartyChannelId attr => attr.toEventAttribute
  | .version attr => attr.toEventAttribute
  | .sequence attr => attr.toEventAttribute
  | .srcPortId attr => attr.toEventAttribute
  | .srcChannelId attr => attr.toEventAttribute
  | .dstPortId attr => attr.toEventAttribute
  | .dstChannelId attr => attr.toEventAttribute
  | .channelOrdering attr => attr.toEventAttribute
  | .timeoutHeight attr => attr.toEventAttribute
  | .timeoutTimestamp attr => attr.toEventAttribute

variable (rules)

/-- Each kind's own decoder. -/
def Kind.tryFrom : Kind → EventAttribute → Except ChannelError (Attribute rules)
  | .portId, value => (PortIdAttribute.tryFrom rules value).map .portId
  | .channelId, value => (ChannelIdAttribute.tryFrom rules value).map .channelId
  | .counterpartyPortId, value => (CounterpartyPortIdAttribute.tryFrom rules value).map .counterpartyPortId
  | .counterpartyChannelId, value =>
    (CounterpartyChannelIdAttribute.tryFrom rules value).map .counterpartyChannelId
  | .version, value => (VersionAttribute.tryFrom rules value).map .version
  | .sequence, value => (SequenceAttribute.tryFrom value).map .sequence
  | .srcPortId, value => (SrcPortIdAttribute.tryFrom rules value).map .srcPortId
  | .srcChannelId, value => (SrcChannelIdAttribute.tryFrom rules value).map .srcChannelId
  | .dstPortId, value => (DstPortIdAttribute.tryFrom rules value).map .dstPortId
  | .dstChannelId, value => (DstChannelIdAttribute.tryFrom rules value).map .dstChannelId
  | .channelOrdering, value => (ChannelOrderingAttribute.tryFrom value).map .channelOrdering
  | .timeoutHeight, value => (TimeoutHeightAttribute.tryFrom value).map .timeoutHeight
  | .timeoutTimestamp, value => (TimeoutTimestampAttribute.tryFrom rules value).map .timeoutTimestamp

private def anyRules : Rules := ⟨fun _ => true,fun _ => true,fun _ => true,fun _ => true,fun _ => true⟩

private def channelZero : ChannelIdAttribute anyRules := ⟨⟨.ofAscii "channel-0" (by decide),rfl⟩⟩

private def channelZeroBytes : EventAttribute :=
  .v034 channelIdAttributeKey.bytes channelZero.channelId.asStr.bytes true

/-- Scalar round trip: each of the twelve kinds with both an encoder and a decoder reads back
every value of its domain type from the pair it writes. -/
theorem scalarAttributes_roundTrip :
    (∀ attr : PortIdAttribute rules, PortIdAttribute.tryFrom rules attr.toEventAttribute = .ok attr) ∧
    (∀ attr : ChannelIdAttribute rules, ChannelIdAttribute.tryFrom rules attr.toEventAttribute = .ok attr) ∧
    (∀ attr : CounterpartyPortIdAttribute rules,
      CounterpartyPortIdAttribute.tryFrom rules attr.toEventAttribute = .ok attr) ∧
    (∀ attr : CounterpartyChannelIdAttribute rules,
      CounterpartyChannelIdAttribute.tryFrom rules attr.toEventAttribute = .ok attr) ∧
    (∀ attr : VersionAttribute rules, VersionAttribute.tryFrom rules attr.toEventAttribute = .ok attr) ∧
    (∀ attr : SequenceAttribute, SequenceAttribute.tryFrom attr.toEventAttribute = .ok attr) ∧
    (∀ attr : SrcPortIdAttribute rules, SrcPortIdAttribute.tryFrom rules attr.toEventAttribute = .ok attr) ∧
    (∀ attr : SrcChannelIdAttribute rules,
      SrcChannelIdAttribute.tryFrom rules attr.toEventAttribute = .ok attr) ∧
    (∀ attr : DstPortIdAttribute rules, DstPortIdAttribute.tryFrom rules attr.toEventAttribute = .ok attr) ∧
    (∀ attr : DstChannelIdAttribute rules,
      DstChannelIdAttribute.tryFrom rules attr.toEventAttribute = .ok attr) ∧
    (∀ attr : ChannelOrderingAttribute, ChannelOrderingAttribute.tryFrom attr.toEventAttribute = .ok attr) ∧
    (∀ attr : TimeoutTimestampAttribute rules,
      TimeoutTimestampAttribute.tryFrom rules attr.toEventAttribute = .ok attr) :=
  ⟨PortIdAttribute.tryFrom_toEventAttribute rules,ChannelIdAttribute.tryFrom_toEventAttribute rules,
    CounterpartyPortIdAttribute.tryFrom_toEventAttribute rules,
    CounterpartyChannelIdAttribute.tryFrom_toEventAttribute rules,VersionAttribute.tryFrom_toEventAttribute rules,
    SequenceAttribute.tryFrom_toEventAttribute,SrcPortIdAttribute.tryFrom_toEventAttribute rules,
    SrcChannelIdAttribute.tryFrom_toEventAttribute rules,DstPortIdAttribute.tryFrom_toEventAttribute rules,
    DstChannelIdAttribute.tryFrom_toEventAttribute rules,ChannelOrderingAttribute.tryFrom_toEventAttribute,
    TimeoutTimestampAttribute.tryFrom_toEventAttribute rules⟩

variable {rules}

private theorem map_eq_ok {ε α β : Type} {f : α → β} {result : Except ε α} {b : β}
    (mapped : result.map f = .ok b) : ∃ a, result = .ok a ∧ f a = b := by
  cases result with
  | error _ => cases mapped
  | ok a => exact ⟨a,rfl,by simpa [Except.map] using mapped⟩

private theorem map_eq_error {ε α β : Type} {f : α → β} {result : Except ε α} {error : ε}
    (mapped : result.map f = .error error) : result = .error error := by
  cases result with
  | error _ => simpa [Except.map] using mapped
  | ok _ => cases mapped

theorem Attribute.keyStr_toEventAttribute (attr : Attribute rules) :
    attr.toEventAttribute.keyStr = some attr.kind.key := by
  cases attr with
  | timeoutHeight attr => rcases attr with ⟨_ | _⟩ <;> rfl
  | _ => rfl

theorem Kind.tryFrom_key_mismatch (kind : Kind) {value : EventAttribute}
    (mismatch : value.keyStr ≠ some kind.key) :
    kind.tryFrom rules value = .error (.invalidAttributeKey (value.keyStr.getD .empty)) := by
  cases kind
  case portId => exact congrArg (Except.map _) (portIdAttribute_tryFrom_key_mismatch rules mismatch)
  all_goals exact congrArg (Except.map _) (congrArg (Except.map _) (decodeScalar_key_mismatch _ _ mismatch))

theorem Kind.tryFrom_ok {kind : Kind} {value : EventAttribute} {attr : Attribute rules}
    (decoded : kind.tryFrom rules value = .ok attr) : value.keyStr = some kind.key ∧ attr.kind = kind := by
  refine ⟨Classical.byContradiction fun mismatch => ?_,?_⟩
  · rw [Kind.tryFrom_key_mismatch kind mismatch] at decoded
    cases decoded
  · cases kind <;> obtain ⟨_,-,rfl⟩ := map_eq_ok decoded <;> rfl

/-- No pair decodes under two kinds. -/
theorem Kind.tryFrom_unique {first second : Kind} {value : EventAttribute} {attr attr' : Attribute rules}
    (decoded : first.tryFrom rules value = .ok attr) (decoded' : second.tryFrom rules value = .ok attr') :
    first = second :=
  Kind.key_injective (Option.some.inj ((Kind.tryFrom_ok decoded).1.symm.trans (Kind.tryFrom_ok decoded').1))

theorem kind_tryFrom_unique_channel :
    Kind.channelId.tryFrom anyRules channelZero.toEventAttribute = .ok (.channelId channelZero) ∧
      Kind.channelId = Kind.channelId :=
  have decoded : Kind.channelId.tryFrom anyRules channelZero.toEventAttribute = .ok (.channelId channelZero) :=
    rfl
  ⟨decoded,Kind.tryFrom_unique decoded decoded⟩

/-- Decoding a pair under any kind but the one that wrote it fails with that pair's key. -/
theorem Kind.tryFrom_other (attr : Attribute rules) {kind : Kind} (differs : kind ≠ attr.kind) :
    kind.tryFrom rules attr.toEventAttribute = .error (.invalidAttributeKey attr.kind.key) := by
  have keyed := attr.keyStr_toEventAttribute
  rw [Kind.tryFrom_key_mismatch kind (by rw [keyed]; exact fun same => differs (Kind.key_injective
    (Option.some.inj same)).symm),keyed]
  rfl

theorem kind_tryFrom_other_channel :
    Kind.portId ≠ (Attribute.channelId channelZero).kind ∧
      Kind.portId.tryFrom anyRules (Attribute.channelId channelZero).toEventAttribute =
        .error (.invalidAttributeKey channelIdAttributeKey) :=
  ⟨by decide,Kind.tryFrom_other (.channelId channelZero) (by decide)⟩

/-- Decoding a pair under the kind that wrote it gives back what was written, for every kind
and value but `At` of the zero height, whose text is the one reserved for `Never`. -/
theorem Attribute.tryFrom_kind_toEventAttribute (attr : Attribute rules)
    (reserved : attr ≠ .timeoutHeight ⟨.atHeight ⟨0,0⟩⟩) :
    attr.kind.tryFrom rules attr.toEventAttribute = .ok attr := by
  cases attr with
  | timeoutHeight attr =>
    have kept : attr.timeoutHeight ≠ .atHeight ⟨0,0⟩ := fun zero => reserved (by rw [← zero])
    simp [Kind.tryFrom,Attribute.kind,Attribute.toEventAttribute,
      TimeoutHeightAttribute.tryFrom_toEventAttribute attr kept,Except.map]
  | _ => simp [Kind.tryFrom,Attribute.kind,Attribute.toEventAttribute,Except.map]

theorem attribute_tryFrom_toEventAttribute_channel :
    Attribute.channelId channelZero ≠ .timeoutHeight ⟨.atHeight ⟨0,0⟩⟩ ∧
      Kind.channelId.tryFrom anyRules (Attribute.channelId channelZero).toEventAttribute =
        .ok (.channelId channelZero) :=
  ⟨nofun,Attribute.tryFrom_kind_toEventAttribute (.channelId channelZero) nofun⟩

/-- The error classification of every decoder but the port-id one: a key error or a value
error, nothing else. -/
theorem Kind.tryFrom_error {kind : Kind} (conforming : kind ≠ .portId) {value : EventAttribute}
    {error : ChannelError} (failed : kind.tryFrom rules value = .error error) :
    (∃ keyStr, error = .invalidAttributeKey keyStr) ∨ ∃ text, error = .invalidAttributeValue text := by
  cases kind
  case portId => exact absurd rfl conforming
  all_goals exact decodeScalar_error _ _ (map_eq_error (map_eq_error failed))

theorem kind_tryFrom_error_sequence :
    Kind.sequence ≠ .portId ∧
      Kind.sequence.tryFrom anyRules channelZero.toEventAttribute =
        .error (.invalidAttributeKey channelIdAttributeKey) ∧
      ((∃ keyStr, ChannelError.invalidAttributeKey channelIdAttributeKey = .invalidAttributeKey keyStr) ∨
        ∃ text, ChannelError.invalidAttributeKey channelIdAttributeKey = .invalidAttributeValue text) :=
  have failed : Kind.sequence.tryFrom anyRules channelZero.toEventAttribute =
      .error (.invalidAttributeKey channelIdAttributeKey) := rfl
  ⟨by decide,failed,Kind.tryFrom_error (by decide) failed⟩

theorem Kind.tryFrom_congr (kind : Kind) {a b : EventAttribute} (same : EventAttribute.SameBytes a b) :
    kind.tryFrom rules a = kind.tryFrom rules b := by
  cases kind
  case portId => exact congrArg (Except.map _) (PortIdAttribute.tryFrom_congr rules same)
  all_goals exact congrArg (Except.map _) (congrArg (Except.map _) (decodeScalar_congr _ _ same))

/-- Every decoder of the two files reads a pair only through its key and value bytes: a pair in
the 0.34 byte form and one in the 0.37 text form that carry the same bytes, indexed or not,
decode alike under every kind, and lists of such pairs decode alike as packet data. -/
theorem decoders_read_only_bytes {a b : EventAttribute} (same : EventAttribute.SameBytes a b)
    {attrs attrs' : List EventAttribute} (sameAll : List.Forall₂ EventAttribute.SameBytes attrs attrs') :
    (∀ kind : Kind, kind.tryFrom rules a = kind.tryFrom rules b) ∧
      PacketDataAttribute.tryFrom attrs = PacketDataAttribute.tryFrom attrs' :=
  ⟨fun kind => kind.tryFrom_congr same,PacketDataAttribute.tryFrom_congr sameAll⟩

theorem decoders_read_only_bytes_v034 :
    EventAttribute.SameBytes channelZeroBytes channelZero.toEventAttribute ∧
      List.Forall₂ EventAttribute.SameBytes [channelZeroBytes] [channelZero.toEventAttribute] ∧
      (∀ kind : Kind, kind.tryFrom anyRules channelZeroBytes = kind.tryFrom anyRules channelZero.toEventAttribute) ∧
        PacketDataAttribute.tryFrom [channelZeroBytes] = PacketDataAttribute.tryFrom [channelZero.toEventAttribute] :=
  have same : EventAttribute.SameBytes channelZeroBytes channelZero.toEventAttribute := ⟨rfl,rfl⟩
  ⟨same,.cons same .nil,decoders_read_only_bytes same (.cons same .nil)⟩

theorem Kind.key_ne_empty (kind : Kind) : kind.key ≠ .empty := by
  cases kind <;> decide

/-- A key that is not text is reported as the empty text: under every kind, whatever the
values, a pair whose key bytes are no string's UTF-8 and a pair keyed by the empty text are
refused with the same error, which therefore cannot tell them apart. -/
theorem Kind.tryFrom_key_not_text (kind : Kind) {value : EventAttribute}
    (notText : ¬ ∃ s : String, s.toUTF8.data.toList = value.keyBytes) (text : Str) :
    kind.tryFrom rules value = .error (.invalidAttributeKey .empty) ∧
      kind.tryFrom rules (.ofPair .empty text) = .error (.invalidAttributeKey .empty) := by
  have noKey : value.keyStr = none :=
    (EventAttribute.keyStr_eq value).trans ((Utf8.fromUtf8_eq_none_iff_toUTF8 _).mpr notText)
  constructor
  · rw [Kind.tryFrom_key_mismatch kind (by rw [noKey]; exact nofun),noKey]
    rfl
  · rw [Kind.tryFrom_key_mismatch kind (by simpa using kind.key_ne_empty.symm)]
    rfl

theorem kind_tryFrom_key_not_text_sequence :
    (¬ ∃ s : String, s.toUTF8.data.toList = (EventAttribute.v034 [0xFF] [0x31] false).keyBytes) ∧
      Kind.sequence.tryFrom anyRules (.v034 [0xFF] [0x31] false) = .error (.invalidAttributeKey .empty) ∧
        Kind.sequence.tryFrom anyRules (.ofPair .empty (.ofAscii "1" (by decide))) =
          .error (.invalidAttributeKey .empty) :=
  have notText : ¬ ∃ s : String, s.toUTF8.data.toList = (EventAttribute.v034 [0xFF] [0x31] false).keyBytes :=
    fun isText => absurd ((Utf8.valid_iff_toUTF8 _).mpr isText) (by decide)
  ⟨notText,Kind.tryFrom_key_not_text .sequence notText _⟩

end IbcEvents.Registry
