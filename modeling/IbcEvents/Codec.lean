import IbcEvents.Abci
import IbcEvents.Host

/-! The error vocabulary of the codec, and the body that its scalar decoders share: check
the key, then the value's text, then the domain parser. -/

namespace IbcEvents.Codec
open IbcEvents.Text IbcEvents.Abci IbcEvents.Host

/-- `ChannelError`: the variants the codec builds, and the one that `?` reaches through
`From<IdentifierError>`. -/
inductive ChannelError where
  | invalidAttributeKey (attributeKey : Str)
  | invalidAttributeValue (attributeValue : Str)
  | invalidAttributeCount (expected actual : Nat)
  | nonUtf8PacketData
  | mismatchedPacketData
  | invalidIdentifier (error : IdentifierError)
  deriving DecidableEq

/-- The body of the scalar `TryFrom<abci::EventAttribute>` impls: the key must be text equal to
`key`, whatever the value is; then the value must be text that `parse` accepts, a rejected
text being reported whole. -/
def decodeScalar {ε α : Type} (key : Str) (parse : Str → Except ε α) (value : EventAttribute) :
    Except ChannelError α :=
  match value.keyStr with
  | none => .error (.invalidAttributeKey .empty)
  | some keyStr =>
    if keyStr ≠ key then .error (.invalidAttributeKey keyStr)
    else
      match value.valueStr with
      | none => .error (.invalidAttributeValue .empty)
      | some text => (parse text).mapError fun _ => .invalidAttributeValue text

section
variable {ε α : Type} (key : Str) (parse : Str → Except ε α)

theorem decodeScalar_ofPair_eq_ok {text : Str} {result : α} :
    decodeScalar key parse (.ofPair key text) = .ok result ↔ parse text = .ok result := by
  cases parsed : parse text <;> simp [decodeScalar,parsed,Except.mapError]

theorem decodeScalar_ofPair {text : Str} {result : α} (parsed : parse text = .ok result) :
    decodeScalar key parse (.ofPair key text) = .ok result :=
  (decodeScalar_ofPair_eq_ok key parse).mpr parsed

theorem decodeScalar_ofPair_map {β : Type} (mk : α → β) {text : Str} {result : α} (parsed : parse text = .ok result) :
    (decodeScalar key parse (.ofPair key text)).map mk = .ok (mk result) := by
  rw [decodeScalar_ofPair key parse parsed]; rfl

theorem map_eq_ok_iff {β : Type} {f : α → β} (injective : Function.Injective f) {result : Except ε α}
    {a : α} : result.map f = .ok (f a) ↔ result = .ok a := by
  cases result <;> simp [Except.map,injective.eq_iff]

theorem decodeScalar_classification (value : EventAttribute) :
    decodeScalar key parse value =
      match fromUtf8 value.keyBytes with
      | none => .error (.invalidAttributeKey .empty)
      | some keyStr =>
        if keyStr ≠ key then .error (.invalidAttributeKey keyStr)
        else
          match fromUtf8 value.valueBytes with
          | none => .error (.invalidAttributeValue .empty)
          | some text =>
            match parse text with
            | .ok result => .ok result
            | .error _ => .error (.invalidAttributeValue text) := by
  rw [decodeScalar,← value.keyStr_eq,← value.valueStr_eq]
  rcases value.keyStr with _ | keyStr
  · rfl
  · by_cases other : keyStr ≠ key
    · simp [other]
    · simp only [other,if_false]
      rcases value.valueStr with _ | text
      · rfl
      · cases result : parse text <;> simp [result,Except.mapError]

theorem decodeScalar_congr {a b : EventAttribute} (same : EventAttribute.SameBytes a b) :
    decodeScalar key parse a = decodeScalar key parse b := by
  simp only [decodeScalar,EventAttribute.keyStr_eq_of_sameBytes same,EventAttribute.valueStr_eq_of_sameBytes same]

theorem decodeScalar_key_mismatch {value : EventAttribute} (mismatch : value.keyStr ≠ some key) :
    decodeScalar key parse value = .error (.invalidAttributeKey (value.keyStr.getD .empty)) := by
  unfold decodeScalar
  rcases found : value.keyStr with _ | keyStr
  · rfl
  · have differs : keyStr ≠ key := fun same => mismatch (by rw [found,same])
    simp [differs]

theorem decodeScalar_error {value : EventAttribute} {error : ChannelError}
    (failed : decodeScalar key parse value = .error error) :
    (∃ keyStr, error = .invalidAttributeKey keyStr) ∨ ∃ text, error = .invalidAttributeValue text := by
  unfold decodeScalar at failed
  split at failed
  · cases failed; exact .inl ⟨_,rfl⟩
  · split at failed
    · cases failed; exact .inl ⟨_,rfl⟩
    · split at failed
      · cases failed; exact .inr ⟨_,rfl⟩
      · rename_i text _
        cases parsed : parse text <;> simp [parsed,Except.mapError] at failed
        exact .inr ⟨_,failed.symm⟩

end

end IbcEvents.Codec
