import IbcEvents.Codec

/-! The scalar attributes of the packet events (`packet_attributes.rs`): sequence, source and
destination port and channel, ordering, timeout height and timestamp, and the connection id,
which is encoded only. -/

namespace IbcEvents.PacketAttributes
open IbcEvents.Text IbcEvents.Abci IbcEvents.Host IbcEvents.Codec

def pktSeqAttributeKey : Str := .ofAscii "packet_sequence" (by decide)
def pktSrcPortAttributeKey : Str := .ofAscii "packet_src_port" (by decide)
def pktSrcChannelAttributeKey : Str := .ofAscii "packet_src_channel" (by decide)
def pktDstPortAttributeKey : Str := .ofAscii "packet_dst_port" (by decide)
def pktDstChannelAttributeKey : Str := .ofAscii "packet_dst_channel" (by decide)
def pktChannelOrderingAttributeKey : Str := .ofAscii "packet_channel_ordering" (by decide)
def pktTimeoutHeightAttributeKey : Str := .ofAscii "packet_timeout_height" (by decide)
def pktTimeoutTimestampAttributeKey : Str := .ofAscii "packet_timeout_timestamp" (by decide)
def pktConnectionIdAttributeKey : Str := .ofAscii "packet_connection" (by decide)

structure TimeoutHeightAttribute where
  timeoutHeight : TimeoutHeight
  deriving DecidableEq

/-- The text written for `TimeoutHeight::Never`. -/
def neverText : Str := .ofAscii "0-0" (by decide)

def TimeoutHeightAttribute.toEventAttribute (attr : TimeoutHeightAttribute) : EventAttribute :=
  match attr.timeoutHeight with
  | .never => .ofPair pktTimeoutHeightAttributeKey neverText
  | .atHeight height => .ofPair pktTimeoutHeightAttributeKey height.toStr

def TimeoutHeightAttribute.tryFrom (value : EventAttribute) : Except ChannelError TimeoutHeightAttribute :=
  (decodeScalar pktTimeoutHeightAttributeKey (fun text => TimeoutHeight.ofHeight <$> Height.fromStr text)
    value).map .mk

variable (rules : Rules)

structure TimeoutTimestampAttribute where
  timeoutTimestamp : Timestamp rules
  deriving DecidableEq

def TimeoutTimestampAttribute.toEventAttribute (attr : TimeoutTimestampAttribute rules) :
    EventAttribute :=
  .ofPair pktTimeoutTimestampAttributeKey (Decimal.toStr attr.timeoutTimestamp.nanoseconds)

/-- Both the `parse` and `from_nanoseconds` failures are reported with the value's text. -/
def TimeoutTimestampAttribute.tryFrom (value : EventAttribute) :
    Except ChannelError (TimeoutTimestampAttribute rules) :=
  (decodeScalar pktTimeoutTimestampAttributeKey
    (fun text => do
      let nanos ← (Decimal.parseU64 text.bytes).mapError fun _ => ()
      (Timestamp.fromNanoseconds rules nanos).mapError fun _ => ())
    value).map .mk

structure SequenceAttribute where
  sequence : Sequence
  deriving DecidableEq

def SequenceAttribute.toEventAttribute (attr : SequenceAttribute) : EventAttribute :=
  .ofPair pktSeqAttributeKey attr.sequence.toStr

def SequenceAttribute.tryFrom (value : EventAttribute) : Except ChannelError SequenceAttribute :=
  (decodeScalar pktSeqAttributeKey Sequence.fromStr value).map .mk

structure SrcPortIdAttribute where
  srcPortId : PortId rules
  deriving DecidableEq

def SrcPortIdAttribute.toEventAttribute (attr : SrcPortIdAttribute rules) : EventAttribute :=
  .ofPair pktSrcPortAttributeKey attr.srcPortId.asStr

def SrcPortIdAttribute.tryFrom (value : EventAttribute) : Except ChannelError (SrcPortIdAttribute rules) :=
  (decodeScalar pktSrcPortAttributeKey (Validated.fromStr rules.portId) value).map .mk

structure SrcChannelIdAttribute where
  srcChannelId : ChannelId rules
  deriving DecidableEq

def SrcChannelIdAttribute.toEventAttribute (attr : SrcChannelIdAttribute rules) : EventAttribute :=
  .ofPair pktSrcChannelAttributeKey attr.srcChannelId.asStr

def SrcChannelIdAttribute.tryFrom (value : EventAttribute) :
    Except ChannelError (SrcChannelIdAttribute rules) :=
  (decodeScalar pktSrcChannelAttributeKey (Validated.fromStr rules.channelId) value).map .mk

structure DstPortIdAttribute where
  dstPortId : PortId rules
  deriving DecidableEq

def DstPortIdAttribute.toEventAttribute (attr : DstPortIdAttribute rules) : EventAttribute :=
  .ofPair pktDstPortAttributeKey attr.dstPortId.asStr

def DstPortIdAttribute.tryFrom (value : EventAttribute) : Except ChannelError (DstPortIdAttribute rules) :=
  (decodeScalar pktDstPortAttributeKey (Validated.fromStr rules.portId) value).map .mk

structure DstChannelIdAttribute where
  dstChannelId : ChannelId rules
  deriving DecidableEq

def DstChannelIdAttribute.toEventAttribute (attr : DstChannelIdAttribute rules) : EventAttribute :=
  .ofPair pktDstChannelAttributeKey attr.dstChannelId.asStr

def DstChannelIdAttribute.tryFrom (value : EventAttribute) :
    Except ChannelError (DstChannelIdAttribute rules) :=
  (decodeScalar pktDstChannelAttributeKey (Validated.fromStr rules.channelId) value).map .mk

structure ChannelOrderingAttribute where
  order : Order
  deriving DecidableEq

def ChannelOrderingAttribute.toEventAttribute (attr : ChannelOrderingAttribute) : EventAttribute :=
  .ofPair pktChannelOrderingAttributeKey attr.order.asStr

def ChannelOrderingAttribute.tryFrom (value : EventAttribute) :
    Except ChannelError ChannelOrderingAttribute :=
  (decodeScalar pktChannelOrderingAttributeKey Order.fromStr value).map .mk

/-- Encoded only: there is no decoder for it. -/
structure PacketConnectionIdAttribute where
  connectionId : ConnectionId rules
  deriving DecidableEq

def PacketConnectionIdAttribute.toEventAttribute (attr : PacketConnectionIdAttribute rules) :
    EventAttribute :=
  .ofPair pktConnectionIdAttributeKey attr.connectionId.asStr

section RoundTrip

@[simp] theorem TimeoutTimestampAttribute.tryFrom_toEventAttribute (attr : TimeoutTimestampAttribute rules) :
    TimeoutTimestampAttribute.tryFrom rules attr.toEventAttribute = .ok attr :=
  decodeScalar_ofPair_map _ _ _ (by simp [Except.mapError,bind,Except.bind])

@[simp] theorem SequenceAttribute.tryFrom_toEventAttribute (attr : SequenceAttribute) :
    SequenceAttribute.tryFrom attr.toEventAttribute = .ok attr :=
  decodeScalar_ofPair_map _ _ _ (Sequence.fromStr_toStr _)

@[simp] theorem SrcPortIdAttribute.tryFrom_toEventAttribute (attr : SrcPortIdAttribute rules) :
    SrcPortIdAttribute.tryFrom rules attr.toEventAttribute = .ok attr :=
  decodeScalar_ofPair_map _ _ _ (Validated.fromStr_asStr _)

@[simp] theorem SrcChannelIdAttribute.tryFrom_toEventAttribute (attr : SrcChannelIdAttribute rules) :
    SrcChannelIdAttribute.tryFrom rules attr.toEventAttribute = .ok attr :=
  decodeScalar_ofPair_map _ _ _ (Validated.fromStr_asStr _)

@[simp] theorem DstPortIdAttribute.tryFrom_toEventAttribute (attr : DstPortIdAttribute rules) :
    DstPortIdAttribute.tryFrom rules attr.toEventAttribute = .ok attr :=
  decodeScalar_ofPair_map _ _ _ (Validated.fromStr_asStr _)

@[simp] theorem DstChannelIdAttribute.tryFrom_toEventAttribute (attr : DstChannelIdAttribute rules) :
    DstChannelIdAttribute.tryFrom rules attr.toEventAttribute = .ok attr :=
  decodeScalar_ofPair_map _ _ _ (Validated.fromStr_asStr _)

@[simp] theorem ChannelOrderingAttribute.tryFrom_toEventAttribute (attr : ChannelOrderingAttribute) :
    ChannelOrderingAttribute.tryFrom attr.toEventAttribute = .ok attr :=
  decodeScalar_ofPair_map _ _ _ (Order.fromStr_asStr _)

end RoundTrip

/-- The sequence and timeout-timestamp decoders read a pair under their key exactly as
`parse::<u64>()` reads its text: an optional `+` and digits, leading zeros allowed, of a value
that fits in `u64`, which is the sequence, or the count of the timestamp. -/
theorem decimalAttributes_tryFrom_denotes (text : Str) :
    (∀ seq : Sequence,
      SequenceAttribute.tryFrom (.ofPair pktSeqAttributeKey text) = .ok ⟨seq⟩ ↔
        Decimal.Denotes text.bytes seq.value.toNat) ∧
    ∀ time : Timestamp rules,
      TimeoutTimestampAttribute.tryFrom rules (.ofPair pktTimeoutTimestampAttributeKey text) = .ok ⟨time⟩ ↔
        Decimal.Denotes text.bytes time.nanoseconds.toNat := by
  refine ⟨fun seq => ?_,fun time => ?_⟩
  · rw [SequenceAttribute.tryFrom,map_eq_ok_iff fun _ _ => SequenceAttribute.mk.inj,
      decodeScalar_ofPair_eq_ok,Sequence.fromStr_eq_ok,Decimal.parseU64_eq_ok]
  · rw [TimeoutTimestampAttribute.tryFrom,map_eq_ok_iff fun _ _ => TimeoutTimestampAttribute.mk.inj,
      decodeScalar_ofPair_eq_ok,← Decimal.parseU64_eq_ok]
    rcases parsed : Decimal.parseU64 text.bytes with _ | nanos
    · simp [parsed,Except.mapError,bind,Except.bind]
    · simp only [parsed,Except.mapError,bind,Except.bind,Except.ok.injEq]
      rw [← Timestamp.fromNanoseconds_eq_ok]
      cases Timestamp.fromNanoseconds rules nanos <;> simp

example : SequenceAttribute.tryFrom (.ofPair pktSeqAttributeKey (.ofAscii "+007" (by decide))) = .ok ⟨⟨7⟩⟩ :=
  rfl

example : SequenceAttribute.tryFrom (.ofPair pktSeqAttributeKey (.ofAscii "18446744073709551616" (by decide))) =
    .error (.invalidAttributeValue (.ofAscii "18446744073709551616" (by decide))) :=
  rfl

section TimeoutHeight

theorem neverText_eq : neverText = (Height.mk 0 0).toStr := Str.ext_bytes rfl

theorem TimeoutHeight.ofHeight_of_ne {height : Height} (nonzero : height ≠ ⟨0,0⟩) :
    TimeoutHeight.ofHeight height = .atHeight height := by
  rw [TimeoutHeight.ofHeight,if_neg]
  rintro ⟨number,revision⟩
  exact nonzero (by cases height; simp_all)

theorem timeoutHeightAttribute_tryFrom_height (height : Height) :
    TimeoutHeightAttribute.tryFrom (.ofPair pktTimeoutHeightAttributeKey height.toStr) =
      .ok ⟨TimeoutHeight.ofHeight height⟩ := by
  simp [TimeoutHeightAttribute.tryFrom,decodeScalar_ofPair,Functor.map,Except.map]

theorem TimeoutHeightAttribute.tryFrom_toEventAttribute (attr : TimeoutHeightAttribute)
    (reserved : attr.timeoutHeight ≠ .atHeight ⟨0,0⟩) :
    TimeoutHeightAttribute.tryFrom attr.toEventAttribute = .ok attr := by
  rcases attr with ⟨_ | height⟩
  · rw [TimeoutHeightAttribute.toEventAttribute,neverText_eq,timeoutHeightAttribute_tryFrom_height]
    rfl
  · rw [TimeoutHeightAttribute.toEventAttribute,timeoutHeightAttribute_tryFrom_height,
      TimeoutHeight.ofHeight_of_ne (fun zero => reserved (by rw [zero]))]

/-- The round trip holds for `Never` and for every `At(h)` but the one whose height is the
zero height: its text is the reserved `0-0`. -/
theorem timeoutHeightAttribute_roundTrip (timeoutHeight : TimeoutHeight)
    (reserved : timeoutHeight ≠ .atHeight ⟨0,0⟩) :
    TimeoutHeightAttribute.tryFrom (TimeoutHeightAttribute.toEventAttribute ⟨timeoutHeight⟩) =
      .ok ⟨timeoutHeight⟩ :=
  TimeoutHeightAttribute.tryFrom_toEventAttribute ⟨timeoutHeight⟩ reserved

theorem timeoutHeightAttribute_roundTrip_never :
    TimeoutHeight.never ≠ .atHeight ⟨0,0⟩ ∧
      TimeoutHeightAttribute.tryFrom (TimeoutHeightAttribute.toEventAttribute ⟨.never⟩) = .ok ⟨.never⟩ :=
  ⟨by decide,timeoutHeightAttribute_roundTrip .never (by decide)⟩

/-- `At` of the zero height is written `0-0`, and comes back as `Never`. -/
theorem timeoutHeightAttribute_zero_decodes_never :
    TimeoutHeightAttribute.tryFrom (TimeoutHeightAttribute.toEventAttribute ⟨.atHeight ⟨0,0⟩⟩) =
      .ok ⟨.never⟩ ∧
    TimeoutHeightAttribute.tryFrom (TimeoutHeightAttribute.toEventAttribute ⟨.atHeight ⟨0,0⟩⟩) ≠
      .ok ⟨.atHeight ⟨0,0⟩⟩ := by
  have zero : TimeoutHeightAttribute.tryFrom (.ofPair pktTimeoutHeightAttributeKey (Height.mk 0 0).toStr) =
      .ok ⟨.never⟩ := timeoutHeightAttribute_tryFrom_height ⟨0,0⟩
  rw [TimeoutHeightAttribute.toEventAttribute,zero]
  simp

end TimeoutHeight

end IbcEvents.PacketAttributes
