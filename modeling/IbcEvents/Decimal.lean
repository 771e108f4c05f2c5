import IbcEvents.Text
import Mathlib.Data.Nat.Digits

/-! Decimal text of `u64`: the `Display` behind `to_string()` and the `FromStr` behind
`parse::<u64>()`, with the overflow checks of `from_str_radix`. -/

namespace IbcEvents.Decimal
open IbcEvents.Text

/-- The decimal digits of `n`, most significant first, as `u64`'s `Display` writes them:
no leading zero, and a single `0` for zero. -/
def digits (n : Nat) : List Nat := if n = 0 then [0] else (Nat.digits 10 n).reverse

def digitBytes (ds : List Nat) : List UInt8 := ds.map fun d => .ofNat (0x30 + d)

def toBytes (n : Nat) : List UInt8 := digitBytes (digits n)

theorem digits_lt_ten {n d : Nat} (member : d ∈ digits n) : d < 10 := by
  unfold digits at member
  split at member
  · simp_all
  · exact Nat.digits_lt_base (by decide) (List.mem_reverse.mp member)

theorem toBytes_digit (n : Nat) : ∀ b ∈ toBytes n, 0x30 ≤ b.toNat ∧ b.toNat ≤ 0x39 := by
  simp only [toBytes,digitBytes,List.mem_map]
  rintro b ⟨d,member,rfl⟩
  have small := digits_lt_ten member
  rw [toNat_ofNat (by omega)]
  omega

theorem toBytes_ascii (n : Nat) : ∀ b ∈ toBytes n, b.toNat < 0x80 :=
  fun b member => by have digit := toBytes_digit n b member; omega

/-- `u64::to_string()`. -/
def toStr (n : UInt64) : Str := ⟨toBytes n.toNat,valid_of_ascii (toBytes_ascii _)⟩

/-- `IntErrorKind` of a failed `parse::<u64>()`. -/
inductive IntErrorKind where
  | empty
  | invalidDigit
  | posOverflow
  deriving DecidableEq, Repr

/-- One pass of the `from_str_radix` loop: `to_digit(10)`, then `checked_mul` and
`checked_add` in `u64`. -/
def pushDigit (acc : Nat) (byte : UInt8) : Except IntErrorKind Nat :=
  if 0x30 ≤ byte.toNat ∧ byte.toNat ≤ 0x39 then
    if acc * 10 + (byte.toNat - 0x30) < 2 ^ 64 then .ok (acc * 10 + (byte.toNat - 0x30))
    else .error .posOverflow
  else .error .invalidDigit

def accumulate (acc : Nat) : List UInt8 → Except IntErrorKind Nat
  | [] => .ok acc
  | byte :: rest =>
    match pushDigit acc byte with
    | .ok next => accumulate next rest
    | .error e => .error e

/-- `<u64 as FromStr>::from_str` on the bytes of a `str`: the empty text and a lone sign are
errors, one leading `+` is skipped, and a `-` is a digit error as for every unsigned type. -/
def parseU64 (src : List UInt8) : Except IntErrorKind UInt64 :=
  match src with
  | [] => .error .empty
  | first :: rest =>
    if (first.toNat = 0x2B ∨ first.toNat = 0x2D) ∧ rest = [] then .error .invalidDigit
    else (accumulate 0 (if first.toNat = 0x2B then rest else src)).map UInt64.ofNat

def value (acc : Nat) (ds : List Nat) : Nat := ds.foldl (fun a d => a * 10 + d) acc

theorem le_value (acc : Nat) (ds : List Nat) : acc ≤ value acc ds := by
  induction ds generalizing acc with
  | nil => exact le_refl acc
  | cons d ds ih => exact le_trans (by omega) (ih (acc * 10 + d))

theorem accumulate_digits (acc : Nat) (ds : List Nat) (small : ∀ d ∈ ds, d < 10)
    (fits : value acc ds < 2 ^ 64) :
    accumulate acc (digitBytes ds) = .ok (value acc ds) := by
  induction ds generalizing acc with
  | nil => rfl
  | cons d ds ih =>
    have digit : d < 10 := small d (by simp)
    have step : acc * 10 + d < 2 ^ 64 := lt_of_le_of_lt (le_value _ ds) fits
    have pushed : pushDigit acc (.ofNat (0x30 + d)) = .ok (acc * 10 + d) := by
      simp only [pushDigit,toNat_ofNat (by omega : 0x30 + d < 256)]
      rw [if_pos (by omega),Nat.add_sub_cancel_left,if_pos step]
    rw [digitBytes,List.map_cons,accumulate,pushed]
    exact ih _ (fun d member => small d (by simp [member])) fits

theorem value_digits (n : Nat) : value 0 (digits n) = n := by
  unfold digits
  split
  · simp_all [value]
  · have reversed : ∀ ds : List Nat, value 0 ds.reverse = Nat.ofDigits 10 ds := fun ds => by
      rw [value,List.foldl_reverse,Nat.ofDigits_eq_foldr]
      simp [Nat.mul_comm,Nat.add_comm]
    rw [reversed,Nat.ofDigits_digits]

theorem digits_ne_nil (n : Nat) : digits n ≠ [] := by
  unfold digits
  split
  · simp
  · simpa [Nat.digits_ne_nil_iff_ne_zero]

theorem pushDigit_eq_ok {acc next : Nat} {byte : UInt8} (pushed : pushDigit acc byte = .ok next) :
    ∃ d, d < 10 ∧ byte = .ofNat (0x30 + d) ∧ next = acc * 10 + d ∧ next < 2 ^ 64 := by
  unfold pushDigit at pushed
  split_ifs at pushed with digit fits
  cases pushed
  exact ⟨byte.toNat - 0x30,by omega,UInt8.toNat.inj (by rw [toNat_ofNat (by omega)]; omega),rfl,fits⟩

theorem accumulate_sound {acc n : Nat} {bytes : List UInt8} (bound : acc < 2 ^ 64)
    (ok : accumulate acc bytes = .ok n) :
    n < 2 ^ 64 ∧ ∃ ds, (∀ d ∈ ds, d < 10) ∧ bytes = digitBytes ds ∧ value acc ds = n := by
  induction bytes generalizing acc with
  | nil => cases ok; exact ⟨bound,[],by simp,rfl,rfl⟩
  | cons byte rest ih =>
    rcases pushed : pushDigit acc byte with _ | next <;> rw [accumulate,pushed] at ok
    · cases ok
    · obtain ⟨d,digit,rfl,rfl,fits⟩ := pushDigit_eq_ok pushed
      obtain ⟨small,ds,digits,rfl,rfl⟩ := ih fits ok
      exact ⟨small,d :: ds,List.forall_mem_cons.mpr ⟨digit,digits⟩,rfl,rfl⟩

theorem map_accumulate_eq_ok {bytes : List UInt8} {n : UInt64}
    (parsed : (accumulate 0 bytes).map UInt64.ofNat = .ok n) :
    ∃ ds, (∀ d ∈ ds, d < 10) ∧ bytes = digitBytes ds ∧ value 0 ds = n.toNat := by
  rcases read : accumulate 0 bytes with _ | m <;> rw [read] at parsed <;> cases parsed
  obtain ⟨fits,ds,small,rfl,rfl⟩ := accumulate_sound (by norm_num) read
  exact ⟨ds,small,rfl,(UInt64.toNat_ofNat_of_lt fits).symm⟩

/-- `src` is a decimal text of `n`: an optional `+`, then one or more digits, leading zeros
allowed, whose value is `n`. -/
def Denotes (src : List UInt8) (n : Nat) : Prop :=
  ∃ ds, ds ≠ [] ∧ (∀ d ∈ ds, d < 10) ∧ (src = digitBytes ds ∨ src = 0x2B :: digitBytes ds) ∧ value 0 ds = n

theorem denotes_of_parseU64 {src : List UInt8} {n : UInt64} (parsed : parseU64 src = .ok n) :
    Denotes src n.toNat := by
  rcases src with _ | ⟨first,rest⟩
  · cases parsed
  · simp only [parseU64] at parsed
    split_ifs at parsed with sign plus
    · obtain ⟨ds,small,rfl,total⟩ := map_accumulate_eq_ok parsed
      have nonempty : ds ≠ [] := by rintro rfl; exact sign ⟨.inl plus,rfl⟩
      have isPlus : first = 0x2B := UInt8.toNat.inj plus
      exact ⟨ds,nonempty,small,.inr (by rw [isPlus]),total⟩
    · obtain ⟨ds,small,shape,total⟩ := map_accumulate_eq_ok parsed
      have nonempty : ds ≠ [] := by rintro rfl; cases shape
      exact ⟨ds,nonempty,small,.inl shape,total⟩

theorem parseU64_of_denotes {src : List UInt8} {n : UInt64} (denotes : Denotes src n.toNat) :
    parseU64 src = .ok n := by
  obtain ⟨ds,nonempty,small,shape,total⟩ := denotes
  have back : UInt64.ofNat (value 0 ds) = n := by
    rw [total]; exact UInt64.toNat.inj (UInt64.toNat_ofNat_of_lt n.toNat_lt_size)
  have read := accumulate_digits 0 ds small (total ▸ n.toNat_lt_size)
  obtain ⟨d,ds,rfl⟩ := List.exists_cons_of_ne_nil nonempty
  have lead : d < 10 := small d (by simp)
  rcases shape with rfl | rfl
  · rw [digitBytes,List.map_cons] at read ⊢
    rw [parseU64.eq_2,toNat_ofNat (by omega),if_neg (by omega),if_neg (by omega),read,← back]
    rfl
  · rw [parseU64.eq_2,if_neg (by simp [digitBytes]),if_pos (by decide),read,← back]
    rfl

theorem parseU64_eq_ok {src : List UInt8} {n : UInt64} : parseU64 src = .ok n ↔ Denotes src n.toNat :=
  ⟨denotes_of_parseU64,parseU64_of_denotes⟩

@[simp] theorem parseU64_toBytes_toNat (n : UInt64) : parseU64 (toBytes n.toNat) = .ok n :=
  parseU64_of_denotes ⟨digits n.toNat,digits_ne_nil _,fun _ member => digits_lt_ten member,.inl rfl,
    value_digits _⟩

@[simp] theorem toStr_bytes (n : UInt64) : (toStr n).bytes = toBytes n.toNat := rfl

end IbcEvents.Decimal
