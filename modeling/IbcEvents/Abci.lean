import IbcEvents.Text

/-! The key/value pair of the host's event log, `tendermint::abci::EventAttribute`, read
through the accessors the codec uses. It has two variants: the 0.37 form holds text, the
0.34 form raw bytes, which `key_str` and `value_str` must check. -/

namespace IbcEvents.Abci
open IbcEvents.Text

inductive EventAttribute where
  /-- `v0_37::EventAttribute`. -/
  | v037 (key value : Str) (index : Bool)
  /-- `v0_34::EventAttribute`. -/
  | v034 (key value : List UInt8) (index : Bool)
  deriving DecidableEq

namespace EventAttribute

def keyBytes : EventAttribute → List UInt8
  | v037 key _ _ => key.bytes
  | v034 key _ _ => key

def valueBytes : EventAttribute → List UInt8
  | v037 _ value _ => value.bytes
  | v034 _ value _ => value

/-- `key_str`; the `tendermint::Error` of a 0.34 key that is not UTF-8 is `none`. -/
def keyStr : EventAttribute → Option Str
  | v037 key _ _ => some key
  | v034 key _ _ => fromUtf8 key

def valueStr : EventAttribute → Option Str
  | v037 _ value _ => some value
  | v034 _ value _ => fromUtf8 value

/-- `From<(K, V)>`: a 0.37 attribute, not indexed. -/
def ofPair (key value : Str) : EventAttribute := v037 key value false

theorem keyStr_eq (attr : EventAttribute) : attr.keyStr = fromUtf8 attr.keyBytes := by
  cases attr <;> simp [keyStr,keyBytes]

theorem valueStr_eq (attr : EventAttribute) : attr.valueStr = fromUtf8 attr.valueBytes := by
  cases attr <;> simp [valueStr,valueBytes]

/-- Two pairs that carry the same key and value bytes, in either form and with any index flag. -/
def SameBytes (a b : EventAttribute) : Prop := a.keyBytes = b.keyBytes ∧ a.valueBytes = b.valueBytes

instance (a b : EventAttribute) : Decidable (SameBytes a b) := inferInstanceAs (Decidable (_ ∧ _))

theorem keyStr_eq_of_sameBytes {a b : EventAttribute} (same : SameBytes a b) : a.keyStr = b.keyStr := by
  rw [keyStr_eq,keyStr_eq,same.1]

theorem valueStr_eq_of_sameBytes {a b : EventAttribute} (same : SameBytes a b) :
    a.valueStr = b.valueStr := by
  rw [valueStr_eq,valueStr_eq,same.2]

@[simp] theorem keyStr_ofPair (key value : Str) : (ofPair key value).keyStr = some key := rfl
@[simp] theorem valueStr_ofPair (key value : Str) : (ofPair key value).valueStr = some value := rfl
@[simp] theorem keyBytes_ofPair (key value : Str) : (ofPair key value).keyBytes = key.bytes := rfl
@[simp] theorem valueBytes_ofPair (key value : Str) : (ofPair key value).valueBytes = value.bytes := rfl

end EventAttribute

end IbcEvents.Abci
