import IbcEvents.Codec
import IbcEvents.Hex
import IbcEvents.Utf8
import Mathlib.Data.List.Forall2

/-! The composite attributes of `packet_attributes.rs`: packet data and acknowledgements are
written twice, as text and as lower-case hex. The packet-data decoder looks each form up by
key, the first pair under each key, and checks that the two agree when both are there. -/

namespace IbcEvents.PacketData
open IbcEvents.Text IbcEvents.Abci IbcEvents.Host IbcEvents.Codec

def pktDataAttributeKey : Str := .ofAscii "packet_data" (by decide)
def pktDataHexAttributeKey : Str := .ofAscii "packet_data_hex" (by decide)
def pktAckAttributeKey : Str := .ofAscii "packet_ack" (by decide)
def pktAckHexAttributeKey : Str := .ofAscii "packet_ack_hex" (by decide)

structure PacketDataAttribute where
  packetData : List UInt8
  deriving DecidableEq

/-- `TryFrom<PacketDataAttribute> for Vec<abci::EventAttribute>`. The outer `none` is a panic
of the `expect` on the hex text. -/
def PacketDataAttribute.tryIntoEventAttributes (attr : PacketDataAttribute) :
    Option (Except ChannelError (List EventAttribute)) :=
  match fromUtf8 attr.packetData with
  | none => some (.error .nonUtf8PacketData)
  | some data =>
    (fromUtf8 (Hex.encode attr.packetData)).map fun hex =>
      .ok [.ofPair pktDataAttributeKey data,.ofPair pktDataHexAttributeKey hex]

def hasKey (key : Str) (attr : EventAttribute) : Bool := attr.keyBytes == key.bytes

def findPacketData (attrs : List EventAttribute) : Option (List UInt8) :=
  (attrs.find? (hasKey pktDataAttributeKey)).map EventAttribute.valueBytes

/-- `packet_data_hex`: the value text of the first pair keyed `packet_data_hex`; `value_str().ok()`
makes a value that is not text count as no pair at all. -/
def findPacketDataHex (attrs : List EventAttribute) : Option Str :=
  (attrs.find? (hasKey pktDataHexAttributeKey)).bind EventAttribute.valueStr

/-- `TryFrom<Vec<abci::EventAttribute>> for PacketDataAttribute`: exactly two pairs, then the
table of §4.4 on which of the two forms were found. -/
def PacketDataAttribute.tryFrom (attrs : List EventAttribute) : Except ChannelError PacketDataAttribute :=
  if attrs.length ≠ 2 then .error (.invalidAttributeCount 2 attrs.length)
  else
    match findPacketData attrs, findPacketDataHex attrs with
    | some data, some hex =>
      match Hex.decode hex.bytes with
      | none => .error (.invalidAttributeValue .empty)
      | some decodedHex => if data = decodedHex then .ok ⟨data⟩ else .error .mismatchedPacketData
    | some data, none => .ok ⟨data⟩
    | none, some hex =>
      match Hex.decode hex.bytes with
      | none => .error (.invalidAttributeValue .empty)
      | some decoded => .ok ⟨decoded⟩
    | none, none => .error (.invalidAttributeValue .empty)

structure AcknowledgementAttribute where
  acknowledgement : Acknowledgement
  deriving DecidableEq

/-- `TryFrom<AcknowledgementAttribute> for Vec<abci::EventAttribute>`: the text through
`as_bytes`, the hex through `AsRef<[u8]>`. The outer `none` is a panic of the `expect`. -/
def AcknowledgementAttribute.tryIntoEventAttributes (attr : AcknowledgementAttribute) :
    Option (Except ChannelError (List EventAttribute)) :=
  match fromUtf8 attr.acknowledgement.asBytes with
  | none => some (.error .nonUtf8PacketData)
  | some ack =>
    (fromUtf8 (Hex.encode attr.acknowledgement.asRef)).map fun hex =>
      .ok [.ofPair pktAckAttributeKey ack,.ofPair pktAckHexAttributeKey hex]

theorem hasKey_ofPair (key value : Str) : hasKey key (.ofPair key value) = true := by
  simp [hasKey]

theorem hasKey_data_hex (value : Str) : hasKey pktDataAttributeKey (.ofPair pktDataHexAttributeKey value) = false :=
  rfl

theorem hasKey_hex_data (value : Str) : hasKey pktDataHexAttributeKey (.ofPair pktDataAttributeKey value) = false :=
  rfl

theorem hasKey_congr (key : Str) {a b : EventAttribute} (same : EventAttribute.SameBytes a b) :
    hasKey key a = hasKey key b := by
  rw [hasKey,hasKey,same.1]

theorem find?_bind_congr {γ : Type} (key : Str) {f : EventAttribute → Option γ}
    (onValue : ∀ {a b}, EventAttribute.SameBytes a b → f a = f b) {attrs attrs' : List EventAttribute}
    (same : List.Forall₂ EventAttribute.SameBytes attrs attrs') :
    (attrs.find? (hasKey key)).bind f = (attrs'.find? (hasKey key)).bind f := by
  induction same with
  | nil => rfl
  | cons head _ ih =>
    rw [List.find?_cons,List.find?_cons,hasKey_congr key head]
    cases hasKey key _
    · exact ih
    · exact onValue head

theorem findPacketData_congr {attrs attrs' : List EventAttribute}
    (same : List.Forall₂ EventAttribute.SameBytes attrs attrs') : findPacketData attrs = findPacketData attrs' := by
  simp only [findPacketData,Option.map_eq_bind]
  exact find?_bind_congr _ (fun same => congrArg some same.2) same

theorem findPacketDataHex_congr {attrs attrs' : List EventAttribute}
    (same : List.Forall₂ EventAttribute.SameBytes attrs attrs') :
    findPacketDataHex attrs = findPacketDataHex attrs' :=
  find?_bind_congr _ EventAttribute.valueStr_eq_of_sameBytes same

theorem PacketDataAttribute.tryFrom_congr {attrs attrs' : List EventAttribute}
    (same : List.Forall₂ EventAttribute.SameBytes attrs attrs') :
    PacketDataAttribute.tryFrom attrs = PacketDataAttribute.tryFrom attrs' := by
  simp only [PacketDataAttribute.tryFrom,same.length_eq,findPacketData_congr same,findPacketDataHex_congr same]

theorem PacketDataAttribute.tryIntoEventAttributes_eq (attr : PacketDataAttribute) :
    attr.tryIntoEventAttributes =
      match fromUtf8 attr.packetData with
      | none => some (.error .nonUtf8PacketData)
      | some data =>
        some (.ok [.ofPair pktDataAttributeKey data,.ofPair pktDataHexAttributeKey (Hex.toStr attr.packetData)]) := by
  rw [PacketDataAttribute.tryIntoEventAttributes,Hex.fromUtf8_encode]
  rfl

theorem PacketDataAttribute.tryFrom_pair (text hex : Str) (decodes : Hex.decode hex.bytes = some text.bytes) :
    PacketDataAttribute.tryFrom [.ofPair pktDataAttributeKey text,.ofPair pktDataHexAttributeKey hex] =
        .ok ⟨text.bytes⟩ ∧
      PacketDataAttribute.tryFrom [.ofPair pktDataHexAttributeKey hex,.ofPair pktDataAttributeKey text] =
        .ok ⟨text.bytes⟩ := by
  constructor <;>
    simp [PacketDataAttribute.tryFrom,findPacketData,findPacketDataHex,hasKey_ofPair,hasKey_data_hex,
      hasKey_hex_data,decodes]

/-- Packet-data round trip: bytes that are text encode to exactly their text pair and hex pair,
which decode back to the bytes in either order; other bytes fail with `NonUtf8PacketData`. -/
theorem packetDataAttribute_roundTrip (bytes : List UInt8) :
    (fromUtf8 bytes = none →
      (PacketDataAttribute.mk bytes).tryIntoEventAttributes = some (.error .nonUtf8PacketData)) ∧
    ∀ text, fromUtf8 bytes = some text →
      ∃ hex : Str, hex.bytes = Hex.encode bytes ∧
        (PacketDataAttribute.mk bytes).tryIntoEventAttributes =
          some (.ok [.ofPair pktDataAttributeKey text,.ofPair pktDataHexAttributeKey hex]) ∧
        PacketDataAttribute.tryFrom [.ofPair pktDataAttributeKey text,.ofPair pktDataHexAttributeKey hex] =
          .ok ⟨bytes⟩ ∧
        PacketDataAttribute.tryFrom [.ofPair pktDataHexAttributeKey hex,.ofPair pktDataAttributeKey text] =
          .ok ⟨bytes⟩ := by
  refine ⟨fun notText => by rw [PacketDataAttribute.tryIntoEventAttributes_eq]; simp [notText],
    fun text isText => ⟨Hex.toStr bytes,rfl,?_⟩⟩
  have same := bytes_of_fromUtf8 isText
  rw [PacketDataAttribute.tryIntoEventAttributes_eq]
  simp only [isText,true_and]
  rw [← same]
  exact PacketDataAttribute.tryFrom_pair text (Hex.toStr text.bytes) (Hex.decode_encode _)

theorem PacketDataAttribute.tryFrom_found {attrs : List EventAttribute} {attr : PacketDataAttribute}
    (decoded : PacketDataAttribute.tryFrom attrs = .ok attr) :
    attrs.length = 2 ∧
      (∀ data, findPacketData attrs = some data → data = attr.packetData) ∧
      (∀ hex, findPacketDataHex attrs = some hex → Hex.decode hex.bytes = some attr.packetData) ∧
      ((findPacketData attrs).isSome ∨ (findPacketDataHex attrs).isSome) := by
  unfold PacketDataAttribute.tryFrom at decoded
  split_ifs at decoded with count
  refine ⟨by omega,?_⟩
  rcases plain : findPacketData attrs with _ | data <;> rcases hexText : findPacketDataHex attrs with _ | hex <;>
    simp only [plain,hexText] at decoded ⊢
  · cases decoded
  · rcases decodedHex : Hex.decode hex.bytes with _ | bytes <;> simp only [decodedHex] at decoded
    · cases decoded
    · cases decoded; simp [decodedHex]
  · cases decoded; simp
  · rcases decodedHex : Hex.decode hex.bytes with _ | bytes <;> simp only [decodedHex] at decoded
    · cases decoded
    · split_ifs at decoded with same
      cases decoded; simp [same,decodedHex]

/-- Integrity of the decoder, as the code has it: on an accepted list, the first pair keyed
`packet_data` carries the decoded bytes, and so does the hex of the first pair keyed
`packet_data_hex` when its value is text; one of the two is there. -/
theorem packetDataAttribute_tryFrom_first_pairs {attrs : List EventAttribute} {attr : PacketDataAttribute}
    (decoded : PacketDataAttribute.tryFrom attrs = .ok attr) :
    attrs.length = 2 ∧
      (∀ plain, attrs.find? (hasKey pktDataAttributeKey) = some plain → plain.valueBytes = attr.packetData) ∧
      (∀ hex text, attrs.find? (hasKey pktDataHexAttributeKey) = some hex → hex.valueStr = some text →
        Hex.decode text.bytes = some attr.packetData) ∧
      ((∃ plain, attrs.find? (hasKey pktDataAttributeKey) = some plain) ∨
        ∃ hex text, attrs.find? (hasKey pktDataHexAttributeKey) = some hex ∧ hex.valueStr = some text) := by
  obtain ⟨count,plainAgrees,hexAgrees,present⟩ := PacketDataAttribute.tryFrom_found decoded
  refine ⟨count,fun plain found => plainAgrees _ (by simp [findPacketData,found]),
    fun hex text found isText => hexAgrees _ (by simp [findPacketDataHex,found,isText]),?_⟩
  rcases plainFound : attrs.find? (hasKey pktDataAttributeKey) with _ | plain
  · have hexFound : (findPacketDataHex attrs).isSome := by simpa [findPacketData,plainFound] using present
    obtain ⟨text,found⟩ := Option.isSome_iff_exists.mp hexFound
    obtain ⟨hex,found,isText⟩ := Option.bind_eq_some.mp found
    exact .inr ⟨hex,text,found,isText⟩
  · exact .inl ⟨plain,rfl⟩

theorem packetDataAttribute_tryFrom_first_pairs_honest :
    let attrs := [EventAttribute.ofPair pktDataAttributeKey (.ofAscii "a" (by decide)),
      .ofPair pktDataHexAttributeKey (.ofAscii "61" (by decide))]
    PacketDataAttribute.tryFrom attrs = .ok ⟨[97]⟩ ∧
      (attrs.length = 2 ∧
        (∀ plain, attrs.find? (hasKey pktDataAttributeKey) = some plain → plain.valueBytes = [97]) ∧
        (∀ hex text, attrs.find? (hasKey pktDataHexAttributeKey) = some hex → hex.valueStr = some text →
          Hex.decode text.bytes = some [97]) ∧
        ((∃ plain, attrs.find? (hasKey pktDataAttributeKey) = some plain) ∨
          ∃ hex text, attrs.find? (hasKey pktDataHexAttributeKey) = some hex ∧ hex.valueStr = some text)) := by
  have decoded : PacketDataAttribute.tryFrom [.ofPair pktDataAttributeKey (.ofAscii "a" (by decide)),
      .ofPair pktDataHexAttributeKey (.ofAscii "61" (by decide))] = .ok ⟨[97]⟩ := rfl
  exact ⟨decoded,packetDataAttribute_tryFrom_first_pairs decoded⟩

/-- On the two pairs the encoder writes, text and hex under their own keys, the decoder accepts,
in either order, exactly the hex the encoder writes for the text's bytes, and returns those bytes. -/
theorem packetDataAttribute_tryFrom_canonical (text hex : Str) (attr : PacketDataAttribute) :
    (PacketDataAttribute.tryFrom [.ofPair pktDataAttributeKey text,.ofPair pktDataHexAttributeKey hex] =
        .ok attr ↔ hex = Hex.toStr text.bytes ∧ attr = ⟨text.bytes⟩) ∧
    (PacketDataAttribute.tryFrom [.ofPair pktDataHexAttributeKey hex,.ofPair pktDataAttributeKey text] =
        .ok attr ↔ hex = Hex.toStr text.bytes ∧ attr = ⟨text.bytes⟩) := by
  have canonical : Hex.decode hex.bytes = some text.bytes ↔ hex = Hex.toStr text.bytes :=
    Hex.decode_eq_some.trans ⟨fun encoded => Str.ext_bytes encoded.symm,fun same => by rw [same]; rfl⟩
  have agree : ∀ {attrs}, findPacketData attrs = some text.bytes → findPacketDataHex attrs = some hex →
      PacketDataAttribute.tryFrom attrs = .ok attr → Hex.decode hex.bytes = some text.bytes ∧ attr = ⟨text.bytes⟩ := by
    intro attrs plain hexText decoded
    obtain ⟨-,plainAgrees,hexAgrees,-⟩ := PacketDataAttribute.tryFrom_found decoded
    have same := plainAgrees _ plain
    exact ⟨same ▸ hexAgrees _ hexText,by rw [same]⟩
  rw [← canonical]
  refine ⟨⟨agree rfl rfl,?_⟩,⟨agree rfl rfl,?_⟩⟩ <;> rintro ⟨decodes,rfl⟩
  · exact (PacketDataAttribute.tryFrom_pair text hex decodes).1
  · exact (PacketDataAttribute.tryFrom_pair text hex decodes).2

/-- A plain pair beside a hex pair whose value is not text is accepted: the hex pair is read
as absent, and its bytes are never checked. -/
theorem packetDataAttribute_unchecked_hex :
    PacketDataAttribute.tryFrom
        [.ofPair pktDataAttributeKey (.ofAscii "hello" (by decide)),.v034 pktDataHexAttributeKey.bytes [0xFF] false] =
      .ok ⟨(Str.ofAscii "hello" (by decide)).bytes⟩ ∧
    fromUtf8 [0xFF] = none :=
  ⟨rfl,rfl⟩

theorem find?_perm {α : Type} {p : α → Bool} {l l' : List α} (perm : l.Perm l')
    (unique : (l.filter p).length ≤ 1) : l.find? p = l'.find? p := by
  have filtered := perm.filter p
  rw [← List.filter_head?,← List.filter_head?]
  generalize l.filter p = found at filtered unique ⊢
  match found, unique with
  | [], _ => rw [List.nil_perm.mp filtered]
  | [_], _ => rw [List.singleton_perm.mp filtered]
  | _ :: _ :: _, big => simp at big

/-- Order independence, as the code has it: the decoder answers alike on every reordering of a
list that holds at most one pair under each of the two keys. -/
theorem packetDataAttribute_tryFrom_perm {attrs attrs' : List EventAttribute} (perm : attrs.Perm attrs')
    (onePlain : (attrs.filter (hasKey pktDataAttributeKey)).length ≤ 1)
    (oneHex : (attrs.filter (hasKey pktDataHexAttributeKey)).length ≤ 1) :
    PacketDataAttribute.tryFrom attrs = PacketDataAttribute.tryFrom attrs' := by
  have plain : findPacketData attrs = findPacketData attrs' := by
    rw [findPacketData,findPacketData,find?_perm perm onePlain]
  have hex : findPacketDataHex attrs = findPacketDataHex attrs' := by
    rw [findPacketDataHex,findPacketDataHex,find?_perm perm oneHex]
  rw [PacketDataAttribute.tryFrom,PacketDataAttribute.tryFrom,perm.length_eq,plain,hex]

theorem packetDataAttribute_tryFrom_swap :
    let plain := EventAttribute.ofPair pktDataAttributeKey (.ofAscii "a" (by decide))
    let hex := EventAttribute.ofPair pktDataHexAttributeKey (.ofAscii "61" (by decide))
    [plain,hex].Perm [hex,plain] ∧ ([plain,hex].filter (hasKey pktDataAttributeKey)).length ≤ 1 ∧
      ([plain,hex].filter (hasKey pktDataHexAttributeKey)).length ≤ 1 ∧
      PacketDataAttribute.tryFrom [plain,hex] = PacketDataAttribute.tryFrom [hex,plain] :=
  ⟨.swap _ _ _,by decide,by decide,packetDataAttribute_tryFrom_perm (.swap _ _ _) (by decide) (by decide)⟩

/-- Two pairs under the same key: the decoder takes the first, so the order decides. -/
theorem packetDataAttribute_tryFrom_order_dependent :
    PacketDataAttribute.tryFrom [.ofPair pktDataAttributeKey (.ofAscii "a" (by decide)),
        .ofPair pktDataAttributeKey (.ofAscii "b" (by decide))] ≠
      PacketDataAttribute.tryFrom [.ofPair pktDataAttributeKey (.ofAscii "b" (by decide)),
        .ofPair pktDataAttributeKey (.ofAscii "a" (by decide))] := by
  rw [show PacketDataAttribute.tryFrom [.ofPair pktDataAttributeKey (.ofAscii "a" (by decide)),
      .ofPair pktDataAttributeKey (.ofAscii "b" (by decide))] = .ok ⟨[97]⟩ from rfl,
    show PacketDataAttribute.tryFrom [.ofPair pktDataAttributeKey (.ofAscii "b" (by decide)),
      .ofPair pktDataAttributeKey (.ofAscii "a" (by decide))] = .ok ⟨[98]⟩ from rfl]
  simp

theorem AcknowledgementAttribute.tryIntoEventAttributes_eq (attr : AcknowledgementAttribute) :
    attr.tryIntoEventAttributes =
      match fromUtf8 attr.acknowledgement.asBytes with
      | none => some (.error .nonUtf8PacketData)
      | some ack =>
        some (.ok [.ofPair pktAckAttributeKey ack,
          .ofPair pktAckHexAttributeKey (Hex.toStr attr.acknowledgement.asRef)]) := by
  rw [AcknowledgementAttribute.tryIntoEventAttributes,Hex.fromUtf8_encode]
  rfl

/-- The acknowledgement encoder fails only on bytes that are not text and never panics; its two
pairs, read through two accessors, carry the same bytes, as text and as lower-case hex. -/
theorem acknowledgementAttribute_encoding (ack : Acknowledgement) :
    (fromUtf8 ack.asBytes = none →
      (AcknowledgementAttribute.mk ack).tryIntoEventAttributes = some (.error .nonUtf8PacketData)) ∧
    ∀ text, fromUtf8 ack.asBytes = some text →
      ∃ hex : Str,
        (AcknowledgementAttribute.mk ack).tryIntoEventAttributes =
          some (.ok [.ofPair pktAckAttributeKey text,.ofPair pktAckHexAttributeKey hex]) ∧
        text.bytes = ack.asBytes ∧ (∀ b ∈ hex.bytes, (Hex.decodeNibble b).isSome) ∧
        Hex.decode hex.bytes = some ack.asBytes := by
  refine ⟨fun notText => by rw [AcknowledgementAttribute.tryIntoEventAttributes_eq]; simp [notText],
    fun text isText => ⟨Hex.toStr ack.asRef,?_,bytes_of_fromUtf8 isText,Hex.encode_lowercase _,
      Hex.decode_encode _⟩⟩
  rw [AcknowledgementAttribute.tryIntoEventAttributes_eq]
  simp only [isText]

/-- The two encoders that write a text form fail with `NonUtf8PacketData`, and never panic, on
exactly the bytes that are no string's UTF-8; on the UTF-8 of a string they emit exactly two
pairs, the bytes as text under the plain key and their lower-case hex under the hex key. -/
theorem textEncoders_toUTF8 (data : List UInt8) (ack : Acknowledgement) :
    ((¬ ∃ s : String, s.toUTF8.data.toList = data) →
      (PacketDataAttribute.mk data).tryIntoEventAttributes = some (.error .nonUtf8PacketData)) ∧
    (∀ s : String, s.toUTF8.data.toList = data → ∃ text : Str, text.bytes = data ∧
      (PacketDataAttribute.mk data).tryIntoEventAttributes =
        some (.ok [.ofPair pktDataAttributeKey text,.ofPair pktDataHexAttributeKey (Hex.toStr data)])) ∧
    ((¬ ∃ s : String, s.toUTF8.data.toList = ack.asBytes) →
      (AcknowledgementAttribute.mk ack).tryIntoEventAttributes = some (.error .nonUtf8PacketData)) ∧
    (∀ s : String, s.toUTF8.data.toList = ack.asBytes → ∃ text : Str, text.bytes = ack.asBytes ∧
      (AcknowledgementAttribute.mk ack).tryIntoEventAttributes =
        some (.ok [.ofPair pktAckAttributeKey text,.ofPair pktAckHexAttributeKey (Hex.toStr ack.asRef)])) := by
  refine ⟨fun notText => ?_,fun _ isText => ?_,fun notText => ?_,fun _ isText => ?_⟩
  · rw [PacketDataAttribute.tryIntoEventAttributes_eq,(Utf8.fromUtf8_eq_none_iff_toUTF8 _).mpr notText]
  · obtain ⟨text,same,decoded⟩ := Utf8.exists_fromUtf8_of_toUTF8 isText
    exact ⟨text,same,by rw [PacketDataAttribute.tryIntoEventAttributes_eq,decoded]⟩
  · rw [AcknowledgementAttribute.tryIntoEventAttributes_eq,(Utf8.fromUtf8_eq_none_iff_toUTF8 _).mpr notText]
  · obtain ⟨text,same,decoded⟩ := Utf8.exists_fromUtf8_of_toUTF8 isText
    exact ⟨text,same,by rw [AcknowledgementAttribute.tryIntoEventAttributes_eq,decoded]⟩

end IbcEvents.PacketData
