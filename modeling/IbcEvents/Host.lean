import IbcEvents.Decimal

/-! The domain types the attributes wrap, from the crates the two files import: the
identifiers and `Sequence` from `ibc_core_host_types`, `Height` from `ibc_core_client_types`,
`Timestamp` from `ibc_primitives`, and `Version`, `Order`, `Acknowledgement` and
`TimeoutHeight` from the channel types crate. Each is modelled from the contract §6 of the
spec gives it, and what the spec leaves open is a field of `Rules`, so that every result
holds whatever the host decides there. -/

namespace IbcEvents.Host
open IbcEvents.Text IbcEvents.Decimal

/-- Modelled from the spec: §6 gives each identifier and the version only "a string parser and a canonical string accessor", and §4.3 a timestamp
"constructible from a nanosecond count" whose constructor may reject it; which texts and
counts they accept is left open. -/
structure Rules where
  portId : Str → Bool
  channelId : Str → Bool
  connectionId : Str → Bool
  version : Str → Bool
  timestamp : UInt64 → Bool

structure IdentifierError where
  id : Str
  deriving DecidableEq

/-- A newtype over text its grammar accepts, as `PortId`, `ChannelId`, `ConnectionId` and
`Version` are: `from_str` keeps the text it checked and `as_str` hands it back; its
`IdentifierError` is reduced to the text it rejects. -/
structure Validated (accepts : Str → Bool) where
  asStr : Str
  accepted : accepts asStr = true
  deriving DecidableEq

def Validated.fromStr (accepts : Str → Bool) (s : Str) : Except IdentifierError (Validated accepts) :=
  if h : accepts s = true then .ok ⟨s,h⟩ else .error ⟨s⟩

@[simp] theorem Validated.fromStr_asStr {accepts : Str → Bool} (id : Validated accepts) :
    Validated.fromStr accepts id.asStr = .ok id := by
  simp [Validated.fromStr,id.accepted]

theorem Validated.fromStr_of_rejected {accepts : Str → Bool} {s : Str} (rejected : accepts s = false) :
    Validated.fromStr accepts s = .error ⟨s⟩ := by
  simp [Validated.fromStr,rejected]

abbrev PortId (rules : Rules) := Validated rules.portId
abbrev ChannelId (rules : Rules) := Validated rules.channelId
abbrev ConnectionId (rules : Rules) := Validated rules.connectionId
abbrev Version (rules : Rules) := Validated rules.version

/-- Modelled from the spec: `Sequence`, "a sequence number with decimal string round-trip"
(§6), a `u64` written by `to_string` and read by `from_str` in decimal. -/
structure Sequence where
  value : UInt64
  deriving DecidableEq

def Sequence.toStr (seq : Sequence) : Str := Decimal.toStr seq.value

def Sequence.fromStr (s : Str) : Except IntErrorKind Sequence := (parseU64 s.bytes).map .mk

@[simp] theorem Sequence.fromStr_toStr (seq : Sequence) : Sequence.fromStr seq.toStr = .ok seq := by
  simp [Sequence.fromStr,Sequence.toStr,Except.map]

theorem Sequence.fromStr_eq_ok {s : Str} {seq : Sequence} :
    Sequence.fromStr s = .ok seq ↔ parseU64 s.bytes = .ok seq.value := by
  cases seq
  cases parsed : parseU64 s.bytes <;> simp [Sequence.fromStr,parsed,Except.map]

/-- Modelled from the spec: `Order`, "an ordering enum with a fixed string vocabulary" (§6):
`as_str` writes each variant's word and `from_str` reads exactly those words. -/
inductive Order where
  | none
  | unordered
  | ordered
  deriving DecidableEq

def Order.asStr : Order → Str
  | .none => .ofAscii "ORDER_NONE_UNSPECIFIED" (by decide)
  | .unordered => .ofAscii "ORDER_UNORDERED" (by decide)
  | .ordered => .ofAscii "ORDER_ORDERED" (by decide)

def Order.fromStr (s : Str) : Except Str Order :=
  if s = Order.none.asStr then .ok .none
  else if s = Order.unordered.asStr then .ok .unordered
  else if s = Order.ordered.asStr then .ok .ordered
  else .error s

@[simp] theorem Order.fromStr_asStr (order : Order) : Order.fromStr order.asStr = .ok order := by
  cases order <;> rfl

/-- Modelled from the spec: `Height`, "a height type with a "revision-height" string format
and its own parse-failure mode" (§6), a pair of `u64` written `revision_number-revision_height`
and read back by splitting at the first `-`. -/
structure Height where
  revisionNumber : UInt64
  revisionHeight : UInt64
  deriving DecidableEq

def Height.toBytes (height : Height) : List UInt8 :=
  Decimal.toBytes height.revisionNumber.toNat ++ 0x2D :: Decimal.toBytes height.revisionHeight.toNat

def Height.toStr (height : Height) : Str :=
  ⟨height.toBytes,valid_of_ascii (by
    simp only [Height.toBytes,List.mem_append,List.mem_cons]
    rintro b (member | rfl | member)
    · exact toBytes_ascii _ b member
    · decide
    · exact toBytes_ascii _ b member)⟩

def splitOnce (sep : UInt8) : List UInt8 → Option (List UInt8 × List UInt8)
  | [] => none
  | byte :: rest =>
    if byte = sep then some ([],rest)
    else (splitOnce sep rest).map fun parts => (byte :: parts.1,parts.2)

theorem splitOnce_append {sep : UInt8} {front : List UInt8} (absent : sep ∉ front) (back : List UInt8) :
    splitOnce sep (front ++ sep :: back) = some (front,back) := by
  induction front with
  | nil => simp [splitOnce]
  | cons byte rest ih =>
    have other : byte ≠ sep := fun same => absent (by simp [same])
    simp [splitOnce,other,ih (fun member => absent (by simp [member]))]

inductive HeightError where
  | invalidFormat
  | heightConversion (kind : IntErrorKind)

def Height.fromStr (s : Str) : Except HeightError Height :=
  match splitOnce 0x2D s.bytes with
  | none => .error .invalidFormat
  | some (number,height) => do
    let revisionNumber ← (parseU64 number).mapError .heightConversion
    let revisionHeight ← (parseU64 height).mapError .heightConversion
    pure ⟨revisionNumber,revisionHeight⟩

@[simp] theorem Height.fromStr_toStr (height : Height) : Height.fromStr height.toStr = .ok height := by
  have absent : (0x2D : UInt8) ∉ Decimal.toBytes height.revisionNumber.toNat := fun member =>
    absurd (toBytes_digit _ _ member) (by decide)
  simp [Height.fromStr,Height.toStr,Height.toBytes,splitOnce_append absent,Except.mapError,
    bind,Except.bind,Functor.map,Except.map]
  rfl

inductive TimeoutHeight where
  | never
  | atHeight (height : Height)
  deriving DecidableEq

/-- Modelled from the spec: `From<Height> for TimeoutHeight`; §4.2 says the rule "treats the
reserved zero-revision/zero-height form as `Never` and every other parseable height as
`At(height)`". -/
def TimeoutHeight.ofHeight (height : Height) : TimeoutHeight :=
  if height.revisionNumber = 0 ∧ height.revisionHeight = 0 then .never else .atHeight height

/-- Modelled from the spec: `Timestamp`, built from a nanosecond count by a constructor that
rejects the counts outside what it represents (§4.3); its `TimestampError` is the count. -/
structure Timestamp (rules : Rules) where
  nanoseconds : UInt64
  representable : rules.timestamp nanoseconds = true
  deriving DecidableEq

def Timestamp.fromNanoseconds (rules : Rules) (nanoseconds : UInt64) : Except UInt64 (Timestamp rules) :=
  if h : rules.timestamp nanoseconds = true then .ok ⟨nanoseconds,h⟩ else .error nanoseconds

@[simp] theorem Timestamp.fromNanoseconds_nanoseconds {rules : Rules} (time : Timestamp rules) :
    Timestamp.fromNanoseconds rules time.nanoseconds = .ok time := by
  simp [Timestamp.fromNanoseconds,time.representable]

theorem Timestamp.fromNanoseconds_eq_ok {rules : Rules} {nanoseconds : UInt64} {time : Timestamp rules} :
    Timestamp.fromNanoseconds rules nanoseconds = .ok time ↔ nanoseconds = time.nanoseconds := by
  unfold Timestamp.fromNanoseconds
  split
  · cases time; simp
  · rename_i rejected
    exact ⟨nofun,fun same => absurd (same ▸ time.representable) rejected⟩

/-- Modelled from the spec: `Acknowledgement`, a value type only (glossary), read through
`as_bytes` and through `AsRef<[u8]>`. -/
structure Acknowledgement where
  bytes : List UInt8
  deriving DecidableEq

def Acknowledgement.asBytes (ack : Acknowledgement) : List UInt8 := ack.bytes

def Acknowledgement.asRef (ack : Acknowledgement) : List UInt8 := ack.bytes

end IbcEvents.Host
