import IbcEvents.Text

/-! Lower-case hexadecimal of `subtle_encoding::hex`, the crate's default `Hex` encoding:
`encode` writes two digits per byte, high nibble first, and `decode` reads only the
lower-case alphabet back, two digits per byte. -/

namespace IbcEvents.Hex
open IbcEvents.Text

def encodeNibble (nibble : Nat) : UInt8 := .ofNat (if nibble < 10 then 0x30 + nibble else 0x57 + nibble)

/-- `hex::encode`. -/
def encode (bytes : List UInt8) : List UInt8 :=
  bytes.flatMap fun byte => [encodeNibble (byte.toNat / 16),encodeNibble (byte.toNat % 16)]

/-- `decode_nibble` of the lower-case alphabet, `none` for any other byte. -/
def decodeNibble (digit : UInt8) : Option Nat :=
  if 0x30 ≤ digit.toNat ∧ digit.toNat ≤ 0x39 then some (digit.toNat - 0x30)
  else if 0x61 ≤ digit.toNat ∧ digit.toNat ≤ 0x66 then some (digit.toNat - 0x57)
  else none

/-- `hex::decode`: an odd length or a byte outside the alphabet is an error (`none`; the
codec never reads which `Error` it was). -/
def decode : List UInt8 → Option (List UInt8)
  | [] => some []
  | [_] => none
  | high :: low :: rest => do
    let high ← decodeNibble high
    let low ← decodeNibble low
    let rest ← decode rest
    pure (.ofNat (high * 16 + low) :: rest)

theorem toNat_encodeNibble {nibble : Nat} (small : nibble < 16) :
    (encodeNibble nibble).toNat = if nibble < 10 then 0x30 + nibble else 0x57 + nibble := by
  rw [encodeNibble,toNat_ofNat (by split <;> omega)]

theorem encodeNibble_lt {nibble : Nat} (small : nibble < 16) : (encodeNibble nibble).toNat < 0x80 := by
  rw [toNat_encodeNibble small]
  split <;> omega

theorem decodeNibble_encodeNibble {nibble : Nat} (small : nibble < 16) :
    decodeNibble (encodeNibble nibble) = some nibble := by
  rw [decodeNibble,toNat_encodeNibble small]
  by_cases digit : nibble < 10
  · rw [if_pos digit,if_pos (by omega),Nat.add_sub_cancel_left]
  · rw [if_neg digit,if_neg (by omega),if_pos (by omega),Nat.add_sub_cancel_left]

theorem encode_ascii (bytes : List UInt8) : ∀ b ∈ encode bytes, b.toNat < 0x80 := by
  simp only [encode,List.mem_flatMap,List.mem_cons,List.not_mem_nil,or_false]
  rintro b ⟨byte,-,rfl | rfl⟩
  · exact encodeNibble_lt (Nat.div_lt_of_lt_mul (by simpa using byte.toNat_lt_size))
  · exact encodeNibble_lt (Nat.mod_lt _ (by decide))

def toStr (bytes : List UInt8) : Str := ⟨encode bytes,valid_of_ascii (encode_ascii bytes)⟩

@[simp] theorem fromUtf8_encode (bytes : List UInt8) : fromUtf8 (encode bytes) = some (toStr bytes) :=
  fromUtf8_bytes (toStr bytes)

theorem encode_lowercase (bytes : List UInt8) : ∀ b ∈ encode bytes, (decodeNibble b).isSome := by
  simp only [encode,List.mem_flatMap,List.mem_cons,List.not_mem_nil,or_false]
  rintro b ⟨byte,-,rfl | rfl⟩
  · rw [decodeNibble_encodeNibble (Nat.div_lt_of_lt_mul (by simpa using byte.toNat_lt_size))]; rfl
  · rw [decodeNibble_encodeNibble (Nat.mod_lt _ (by decide))]; rfl

theorem decode_encode (bytes : List UInt8) : decode (encode bytes) = some bytes := by
  induction bytes with
  | nil => rfl
  | cons byte rest ih =>
    have below : byte.toNat < 256 := byte.toNat_lt_size
    have split : byte.toNat / 16 * 16 + byte.toNat % 16 = byte.toNat := Nat.div_add_mod' _ _
    have same : (UInt8.ofNat (byte.toNat / 16 * 16 + byte.toNat % 16)) = byte :=
      UInt8.toNat.inj (by rw [toNat_ofNat (by omega),split])
    show decode (encodeNibble (byte.toNat / 16) :: encodeNibble (byte.toNat % 16) :: encode rest) = _
    simp [decode,decodeNibble_encodeNibble (by omega : byte.toNat / 16 < 16),
      decodeNibble_encodeNibble (Nat.mod_lt _ (by decide) : byte.toNat % 16 < 16),ih,same]

theorem encodeNibble_decodeNibble {digit : UInt8} {nibble : Nat} (decoded : decodeNibble digit = some nibble) :
    nibble < 16 ∧ encodeNibble nibble = digit := by
  unfold decodeNibble at decoded
  split_ifs at decoded with decimal letter <;> cases decoded
  · exact ⟨by omega,UInt8.toNat.inj (by rw [toNat_encodeNibble (by omega),if_pos (by omega)]; omega)⟩
  · exact ⟨by omega,UInt8.toNat.inj (by rw [toNat_encodeNibble (by omega),if_neg (by omega)]; omega)⟩

theorem encode_decode {text bytes : List UInt8} (decoded : decode text = some bytes) : encode bytes = text := by
  induction text using decode.induct generalizing bytes with
  | case1 => cases decoded; rfl
  | case2 => cases decoded
  | case3 high low rest ih =>
    simp only [decode,bind,Option.bind_eq_some,pure,Option.some.injEq] at decoded
    obtain ⟨h,highOk,l,lowOk,r,restOk,rfl⟩ := decoded
    obtain ⟨hSmall,rfl⟩ := encodeNibble_decodeNibble highOk
    obtain ⟨lSmall,rfl⟩ := encodeNibble_decodeNibble lowOk
    have byte : (UInt8.ofNat (h * 16 + l)).toNat = h * 16 + l := toNat_ofNat (by omega)
    show encodeNibble _ :: encodeNibble _ :: encode r = _
    rw [byte,ih restOk,Nat.mul_comm,Nat.mul_add_div (by decide),Nat.mul_add_mod,Nat.div_eq_of_lt lSmall,
      Nat.mod_eq_of_lt lSmall,Nat.add_zero]

theorem decode_eq_some {text bytes : List UInt8} : decode text = some bytes ↔ encode bytes = text :=
  ⟨encode_decode,fun encoded => encoded ▸ decode_encode bytes⟩

end IbcEvents.Hex
