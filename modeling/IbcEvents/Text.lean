import Mathlib.Data.List.Basic

/-! Text as the Rust side holds it: a `str` is a byte string that is well-formed UTF-8.
`valid` accepts the byte table `core::str::from_utf8` checks, one byte at a time, and
`Str` carries it as a field. -/

namespace IbcEvents.Text

/-- What the validator still expects of the current sequence: nothing (it stands between
characters), or one byte in `low..high` followed by `more` continuation bytes. -/
inductive Expect where
  | start
  | next (low high more : Nat)
  deriving DecidableEq

/-- What a leading byte opens, after the Unicode table of well-formed sequences: the second
byte's range rules out overlong forms after `E0` and `F0`, surrogates after `ED` and code
points past `10FFFF` after `F4`; `80` to `C1` and `F5` to `FF` lead nothing. -/
def lead (byte : UInt8) : Option Expect :=
  if byte.toNat < 0x80 then some .start
  else if 0xC2 ≤ byte.toNat ∧ byte.toNat ≤ 0xDF then some (.next 0x80 0xBF 0)
  else if byte.toNat = 0xE0 then some (.next 0xA0 0xBF 1)
  else if byte.toNat = 0xED then some (.next 0x80 0x9F 1)
  else if 0xE1 ≤ byte.toNat ∧ byte.toNat ≤ 0xEF then some (.next 0x80 0xBF 1)
  else if byte.toNat = 0xF0 then some (.next 0x90 0xBF 2)
  else if byte.toNat = 0xF4 then some (.next 0x80 0x8F 2)
  else if 0xF1 ≤ byte.toNat ∧ byte.toNat ≤ 0xF3 then some (.next 0x80 0xBF 2)
  else none

def step : Expect → UInt8 → Option Expect
  | .start, byte => lead byte
  | .next low high more, byte =>
    if low ≤ byte.toNat ∧ byte.toNat ≤ high then
      some (match more with
        | 0 => .start
        | more + 1 => .next 0x80 0xBF more)
    else none

def run : Expect → List UInt8 → Option Expect
  | state, [] => some state
  | state, byte :: rest => (step state byte).bind (run · rest)

/-- `run_utf8_validation` succeeds: the bytes split into well-formed sequences. -/
def valid (bytes : List UInt8) : Bool := run .start bytes = some .start

example : valid [0xE2,0x82,0xAC,0x41] = true := by decide
example : valid [0xED,0xA0,0x80] = false := by decide

/-- Rust's `str` and `String`: bytes that are UTF-8. -/
structure Str where
  bytes : List UInt8
  valid_bytes : valid bytes = true
  deriving DecidableEq

def Str.empty : Str := ⟨[],rfl⟩

/-- `core::str::from_utf8`; its `Utf8Error`, which nothing here reads, is `none`. -/
def fromUtf8 (bytes : List UInt8) : Option Str :=
  if h : valid bytes = true then some ⟨bytes,h⟩ else none

@[simp] theorem fromUtf8_bytes (s : Str) : fromUtf8 s.bytes = some s := by
  simp [fromUtf8,s.valid_bytes]

theorem bytes_of_fromUtf8 {bytes : List UInt8} {s : Str} (ok : fromUtf8 bytes = some s) :
    s.bytes = bytes := by
  unfold fromUtf8 at ok
  split at ok
  · cases ok; rfl
  · cases ok

theorem fromUtf8_eq_none {bytes : List UInt8} : fromUtf8 bytes = none ↔ valid bytes = false := by
  unfold fromUtf8
  split <;> simp_all

theorem Str.ext_bytes {s t : Str} (same : s.bytes = t.bytes) : s = t := by
  cases s; cases t; cases same; rfl

theorem toNat_ofNat {n : Nat} (bound : n < 256) : (UInt8.ofNat n).toNat = n :=
  UInt8.toNat_ofNat_of_lt bound

theorem valid_of_ascii {bytes : List UInt8} (ascii : ∀ b ∈ bytes, b.toNat < 0x80) :
    valid bytes = true := by
  suffices back : run .start bytes = some .start by simp [valid,back]
  induction bytes with
  | nil => rfl
  | cons first rest ih =>
    have one : lead first = some .start := by simp [lead,ascii first (by simp)]
    simp only [run,step,one,Option.some_bind]
    exact ih fun b member => ascii b (by simp [member])

def asciiByte (c : Char) : UInt8 := .ofNat c.toNat

/-- A string literal of ASCII characters, as the bytes Rust stores for it. Every literal of
the codec is ASCII, and `ascii` is checked by `decide` where each is written. -/
def Str.ofAscii (s : String) (ascii : ∀ c ∈ s.toList, c.toNat < 0x80) : Str :=
  ⟨s.toList.map asciiByte,valid_of_ascii (by
    simp only [List.mem_map]
    rintro b ⟨c,member,rfl⟩
    have small := ascii c member
    rw [asciiByte,toNat_ofNat (by omega)]
    exact small)⟩

end IbcEvents.Text
