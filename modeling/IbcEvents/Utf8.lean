import IbcEvents.Text
import Mathlib.Algebra.Group.Nat.Basic

/-! UTF-8 as Lean writes it. `String.toUTF8` encodes each character with `String.utf8EncodeChar`,
by shifts and masks on the code point; the validator behind `from_utf8` reads a table of
leading bytes and continuation ranges. The two agree: the validator accepts exactly the bytes
`String.toUTF8` writes, so the model of `from_utf8` succeeds on exactly the encodings of
Lean strings. -/

namespace IbcEvents.Utf8
open IbcEvents.Text

theorem toNat_or (x y : UInt8) : (x ||| y).toNat = x.toNat ||| y.toNat := BitVec.toNat_or ..

theorem toNat_ofNat_mod (n : Nat) : (UInt8.ofNat n).toNat = n % 256 := BitVec.toNat_ofNat ..

theorem ofNat_eq {n : Nat} {b : UInt8} (same : n = b.toNat) : UInt8.ofNat n = b :=
  UInt8.toNat.inj (by rw [toNat_ofNat_mod,same]; exact Nat.mod_eq_of_lt b.toNat_lt_size)

theorem mask_or (x k m : Nat) : (x &&& 2 ^ k - 1) ||| 2 ^ k * m = 2 ^ k * m + x % 2 ^ k := by
  rw [Nat.and_pow_two_sub_one_eq_mod,Nat.or_comm,
    ← Nat.mul_add_lt_is_or (Nat.mod_lt _ (Nat.two_pow_pos k))]

theorem toNat_cont (x : UInt8) : (x &&& 0x3f ||| 0x80).toNat = 0x80 + x.toNat % 64 := by
  rw [toNat_or,UInt8.and_toNat]; exact mask_or x.toNat 6 2

theorem toNat_lead2 (x : UInt8) : (x &&& 0x1f ||| 0xc0).toNat = 0xC0 + x.toNat % 32 := by
  rw [toNat_or,UInt8.and_toNat]; exact mask_or x.toNat 5 6

theorem toNat_lead3 (x : UInt8) : (x &&& 0x0f ||| 0xe0).toNat = 0xE0 + x.toNat % 16 := by
  rw [toNat_or,UInt8.and_toNat]; exact mask_or x.toNat 4 14

theorem toNat_lead4 (x : UInt8) : (x &&& 0x07 ||| 0xf0).toNat = 0xF0 + x.toNat % 8 := by
  rw [toNat_or,UInt8.and_toNat]; exact mask_or x.toNat 3 30

theorem toNat_shiftRight_toUInt8 (c : Char) (k : UInt32) (d : Nat) (small : k.toNat < 32)
    (power : 2 ^ k.toNat = d) : (c.val >>> k).toUInt8.toNat = c.toNat / d % 256 := by
  show (c.val.toBitVec >>> (k.toBitVec % (32 : UInt32).toBitVec).toNat).toNat % 2 ^ 8 = _
  rw [BitVec.toNat_ushiftRight,Nat.shiftRight_eq_div_pow,BitVec.toNat_umod]
  show c.toNat / 2 ^ (k.toNat % 32) % 256 = _
  rw [Nat.mod_eq_of_lt small,power]

theorem toNat_toUInt8 (c : Char) : c.val.toUInt8.toNat = c.toNat % 256 := BitVec.toNat_ofNat ..

theorem utf8EncodeChar_one (c : Char) (hi : c.toNat < 0x80) :
    String.utf8EncodeChar c = [.ofNat c.toNat] := by
  have one : c.val ≤ 0x7f := by show c.toNat ≤ 127; omega
  simp only [String.utf8EncodeChar,if_pos one,List.cons.injEq,and_true]
  exact UInt8.toNat.inj (by rw [toNat_toUInt8,toNat_ofNat_mod])

theorem utf8EncodeChar_two (c : Char) (lo : 0x80 ≤ c.toNat) (hi : c.toNat < 0x800) :
    String.utf8EncodeChar c = [.ofNat (0xC0 + c.toNat / 64),.ofNat (0x80 + c.toNat % 64)] := by
  have one : ¬ c.val ≤ 0x7f := by show ¬ c.toNat ≤ 127; omega
  have two : c.val ≤ 0x7ff := by show c.toNat ≤ 2047; omega
  simp only [String.utf8EncodeChar,if_neg one,if_pos two,List.cons.injEq,and_true]
  refine ⟨UInt8.toNat.inj ?_,UInt8.toNat.inj ?_⟩
  · rw [toNat_lead2,toNat_shiftRight_toUInt8 c 6 64 (by decide) rfl,toNat_ofNat_mod]; omega
  · rw [toNat_cont,toNat_toUInt8,toNat_ofNat_mod]; omega

theorem utf8EncodeChar_three (c : Char) (lo : 0x800 ≤ c.toNat) (hi : c.toNat < 0x10000) :
    String.utf8EncodeChar c =
      [.ofNat (0xE0 + c.toNat / 4096),.ofNat (0x80 + c.toNat / 64 % 64),.ofNat (0x80 + c.toNat % 64)] := by
  have one : ¬ c.val ≤ 0x7f := by show ¬ c.toNat ≤ 127; omega
  have two : ¬ c.val ≤ 0x7ff := by show ¬ c.toNat ≤ 2047; omega
  have three : c.val ≤ 0xffff := by show c.toNat ≤ 65535; omega
  simp only [String.utf8EncodeChar,if_neg one,if_neg two,if_pos three,List.cons.injEq,and_true]
  refine ⟨UInt8.toNat.inj ?_,UInt8.toNat.inj ?_,UInt8.toNat.inj ?_⟩
  · rw [toNat_lead3,toNat_shiftRight_toUInt8 c 12 4096 (by decide) rfl,toNat_ofNat_mod]; omega
  · rw [toNat_cont,toNat_shiftRight_toUInt8 c 6 64 (by decide) rfl,toNat_ofNat_mod]; omega
  · rw [toNat_cont,toNat_toUInt8,toNat_ofNat_mod]; omega

theorem utf8EncodeChar_four (c : Char) (lo : 0x10000 ≤ c.toNat) :
    String.utf8EncodeChar c =
      [.ofNat (0xF0 + c.toNat / 262144),.ofNat (0x80 + c.toNat / 4096 % 64),
        .ofNat (0x80 + c.toNat / 64 % 64),.ofNat (0x80 + c.toNat % 64)] := by
  have one : ¬ c.val ≤ 0x7f := by show ¬ c.toNat ≤ 127; omega
  have two : ¬ c.val ≤ 0x7ff := by show ¬ c.toNat ≤ 2047; omega
  have three : ¬ c.val ≤ 0xffff := by show ¬ c.toNat ≤ 65535; omega
  have scalar : c.toNat < 0xD800 ∨ 0xDFFF < c.toNat ∧ c.toNat < 0x110000 := c.valid
  simp only [String.utf8EncodeChar,if_neg one,if_neg two,if_neg three,List.cons.injEq,and_true]
  refine ⟨UInt8.toNat.inj ?_,UInt8.toNat.inj ?_,UInt8.toNat.inj ?_,UInt8.toNat.inj ?_⟩
  · rw [toNat_lead4,toNat_shiftRight_toUInt8 c 18 262144 (by decide) rfl,toNat_ofNat_mod]; omega
  · rw [toNat_cont,toNat_shiftRight_toUInt8 c 12 4096 (by decide) rfl,toNat_ofNat_mod]; omega
  · rw [toNat_cont,toNat_shiftRight_toUInt8 c 6 64 (by decide) rfl,toNat_ofNat_mod]; omega
  · rw [toNat_cont,toNat_toUInt8,toNat_ofNat_mod]; omega

theorem toNat_ofNatAux (v : Nat) (valid : v.isValidChar) : (Char.ofNatAux v valid).toNat = v := rfl

theorem exists_utf8EncodeChar_one {b : UInt8} (ascii : b.toNat < 0x80) :
    ∃ c : Char, String.utf8EncodeChar c = [b] := by
  refine ⟨Char.ofNatAux b.toNat (.inl (by omega)),?_⟩
  rw [utf8EncodeChar_one _ (by rw [toNat_ofNatAux]; omega),toNat_ofNatAux,ofNat_eq rfl]

theorem exists_utf8EncodeChar_two (b1 b2 : UInt8) (first : 0xC2 ≤ b1.toNat ∧ b1.toNat ≤ 0xDF)
    (second : 0x80 ≤ b2.toNat ∧ b2.toNat ≤ 0xBF) : ∃ c : Char, String.utf8EncodeChar c = [b1,b2] := by
  obtain ⟨v,value⟩ : ∃ v, v = (b1.toNat - 0xC0) * 64 + (b2.toNat - 0x80) := ⟨_,rfl⟩
  refine ⟨Char.ofNatAux v (.inl (by omega)),?_⟩
  rw [utf8EncodeChar_two _ (by rw [toNat_ofNatAux]; omega) (by rw [toNat_ofNatAux]; omega),
    toNat_ofNatAux]
  simp only [List.cons.injEq,and_true]
  exact ⟨ofNat_eq (by omega),ofNat_eq (by omega)⟩

theorem exists_utf8EncodeChar_three (b1 b2 b3 : UInt8) (first : 0xE0 ≤ b1.toNat ∧ b1.toNat ≤ 0xEF)
    (second : 0x80 ≤ b2.toNat ∧ b2.toNat ≤ 0xBF) (third : 0x80 ≤ b3.toNat ∧ b3.toNat ≤ 0xBF)
    (shortest : 0xE0 < b1.toNat ∨ 0xA0 ≤ b2.toNat) (scalar : b1.toNat ≠ 0xED ∨ b2.toNat ≤ 0x9F) :
    ∃ c : Char, String.utf8EncodeChar c = [b1,b2,b3] := by
  obtain ⟨v,value⟩ : ∃ v, v = (b1.toNat - 0xE0) * 4096 + (b2.toNat - 0x80) * 64 + (b3.toNat - 0x80) :=
    ⟨_,rfl⟩
  refine ⟨Char.ofNatAux v (by unfold Nat.isValidChar; omega),?_⟩
  rw [utf8EncodeChar_three _ (by rw [toNat_ofNatAux]; omega) (by rw [toNat_ofNatAux]; omega),
    toNat_ofNatAux]
  simp only [List.cons.injEq,and_true]
  exact ⟨ofNat_eq (by omega),ofNat_eq (by omega),ofNat_eq (by omega)⟩

theorem exists_utf8EncodeChar_four (b1 b2 b3 b4 : UInt8) (first : 0xF0 ≤ b1.toNat ∧ b1.toNat ≤ 0xF4)
    (second : 0x80 ≤ b2.toNat ∧ b2.toNat ≤ 0xBF) (third : 0x80 ≤ b3.toNat ∧ b3.toNat ≤ 0xBF)
    (fourth : 0x80 ≤ b4.toNat ∧ b4.toNat ≤ 0xBF) (shortest : 0xF0 < b1.toNat ∨ 0x90 ≤ b2.toNat)
    (scalar : b1.toNat < 0xF4 ∨ b2.toNat ≤ 0x8F) :
    ∃ c : Char, String.utf8EncodeChar c = [b1,b2,b3,b4] := by
  obtain ⟨v,value⟩ : ∃ v, v = (b1.toNat - 0xF0) * 262144 + (b2.toNat - 0x80) * 4096 +
      (b3.toNat - 0x80) * 64 + (b4.toNat - 0x80) := ⟨_,rfl⟩
  refine ⟨Char.ofNatAux v (by unfold Nat.isValidChar; omega),?_⟩
  rw [utf8EncodeChar_four _ (by rw [toNat_ofNatAux]; omega),toNat_ofNatAux]
  simp only [List.cons.injEq,and_true]
  exact ⟨ofNat_eq (by omega),ofNat_eq (by omega),ofNat_eq (by omega),ofNat_eq (by omega)⟩

/-- The bytes of a list of characters, as `String.toUTF8` writes them. -/
def Encodes (bytes : List UInt8) : Prop :=
  ∃ chars : List Char, chars.flatMap String.utf8EncodeChar = bytes

/-- `n` continuation bytes, then the bytes of whole characters. -/
def Tails : Nat → List UInt8 → Prop
  | 0, bytes => Encodes bytes
  | n + 1, bytes =>
    ∃ byte rest, bytes = byte :: rest ∧ (0x80 ≤ byte.toNat ∧ byte.toNat ≤ 0xBF) ∧ Tails n rest

/-- What may follow each state of the validator: between characters, the bytes of characters;
inside one, a byte in the state's range, the continuation bytes still owed, then characters. -/
def Lang : Expect → List UInt8 → Prop
  | .start, bytes => Encodes bytes
  | .next low high more, bytes =>
    ∃ byte rest, bytes = byte :: rest ∧ (low ≤ byte.toNat ∧ byte.toNat ≤ high) ∧ Tails more rest

theorem run_lead {b : UInt8} {next : Expect} {l : List UInt8} (leads : lead b = some next) :
    run .start (b :: l) = run next l := by
  simp only [run,step,leads,Option.some_bind]

theorem run_last {b : UInt8} {low high : Nat} {l : List UInt8}
    (inRange : low ≤ b.toNat ∧ b.toNat ≤ high) : run (.next low high 0) (b :: l) = run .start l := by
  simp only [run,step,if_pos inRange,Option.some_bind]

theorem run_more {b : UInt8} {low high more : Nat} {l : List UInt8}
    (inRange : low ≤ b.toNat ∧ b.toNat ≤ high) :
    run (.next low high (more + 1)) (b :: l) = run (.next 0x80 0xBF more) l := by
  simp only [run,step,if_pos inRange,Option.some_bind]

theorem lead_one {b : UInt8} (ascii : b.toNat < 0x80) : lead b = some .start := by
  unfold lead; rw [if_pos ascii]

theorem lead_two {b : UInt8} (first : 0xC2 ≤ b.toNat ∧ b.toNat ≤ 0xDF) :
    lead b = some (.next 0x80 0xBF 0) := by
  unfold lead; rw [if_neg (by omega),if_pos first]

theorem lead_three {b : UInt8} (first : 0xE0 ≤ b.toNat ∧ b.toNat ≤ 0xEF) :
    lead b = some (.next (if b.toNat = 0xE0 then 0xA0 else 0x80)
      (if b.toNat = 0xED then 0x9F else 0xBF) 1) := by
  by_cases e0 : b.toNat = 0xE0
  · simp only [lead,e0]; rfl
  by_cases ed : b.toNat = 0xED
  · simp only [lead,ed]; rfl
  unfold lead
  rw [if_neg (by omega),if_neg (by omega),if_neg e0,if_neg ed,if_pos (by omega),if_neg e0,if_neg ed]

theorem lead_four {b : UInt8} (first : 0xF0 ≤ b.toNat ∧ b.toNat ≤ 0xF4) :
    lead b = some (.next (if b.toNat = 0xF0 then 0x90 else 0x80)
      (if b.toNat = 0xF4 then 0x8F else 0xBF) 2) := by
  by_cases f0 : b.toNat = 0xF0
  · simp only [lead,f0]; rfl
  by_cases f4 : b.toNat = 0xF4
  · simp only [lead,f4]; rfl
  unfold lead
  rw [if_neg (by omega),if_neg (by omega),if_neg (by omega),if_neg (by omega),if_neg (by omega),
    if_neg f0,if_neg f4,if_pos (by omega),if_neg f0,if_neg f4]

theorem run_two {b1 b2 : UInt8} (rest : List UInt8) (first : 0xC2 ≤ b1.toNat ∧ b1.toNat ≤ 0xDF)
    (second : 0x80 ≤ b2.toNat ∧ b2.toNat ≤ 0xBF) : run .start (b1 :: b2 :: rest) = run .start rest := by
  rw [run_lead (lead_two first),run_last second]

theorem run_three {b1 b2 b3 : UInt8} (rest : List UInt8) (first : 0xE0 ≤ b1.toNat ∧ b1.toNat ≤ 0xEF)
    (second : 0x80 ≤ b2.toNat ∧ b2.toNat ≤ 0xBF) (third : 0x80 ≤ b3.toNat ∧ b3.toNat ≤ 0xBF)
    (shortest : 0xE0 < b1.toNat ∨ 0xA0 ≤ b2.toNat) (scalar : b1.toNat ≠ 0xED ∨ b2.toNat ≤ 0x9F) :
    run .start (b1 :: b2 :: b3 :: rest) = run .start rest := by
  have opened : (if b1.toNat = 0xE0 then 0xA0 else 0x80) ≤ b2.toNat ∧
      b2.toNat ≤ (if b1.toNat = 0xED then 0x9F else 0xBF) := by split_ifs <;> omega
  rw [run_lead (lead_three first),run_more opened,run_last third]

theorem run_four {b1 b2 b3 b4 : UInt8} (rest : List UInt8) (first : 0xF0 ≤ b1.toNat ∧ b1.toNat ≤ 0xF4)
    (second : 0x80 ≤ b2.toNat ∧ b2.toNat ≤ 0xBF) (third : 0x80 ≤ b3.toNat ∧ b3.toNat ≤ 0xBF)
    (fourth : 0x80 ≤ b4.toNat ∧ b4.toNat ≤ 0xBF) (shortest : 0xF0 < b1.toNat ∨ 0x90 ≤ b2.toNat)
    (scalar : b1.toNat < 0xF4 ∨ b2.toNat ≤ 0x8F) :
    run .start (b1 :: b2 :: b3 :: b4 :: rest) = run .start rest := by
  have opened : (if b1.toNat = 0xF0 then 0x90 else 0x80) ≤ b2.toNat ∧
      b2.toNat ≤ (if b1.toNat = 0xF4 then 0x8F else 0xBF) := by split_ifs <;> omega
  rw [run_lead (lead_four first),run_more opened,run_more third,run_last fourth]

theorem run_utf8EncodeChar (c : Char) (rest : List UInt8) :
    run .start (String.utf8EncodeChar c ++ rest) = run .start rest := by
  by_cases one : c.toNat < 0x80
  · rw [utf8EncodeChar_one c one]
    exact run_lead (lead_one (by rw [toNat_ofNat_mod]; omega))
  by_cases two : c.toNat < 0x800
  · rw [utf8EncodeChar_two c (by omega) two]
    exact run_two rest (by rw [toNat_ofNat_mod]; omega) (by rw [toNat_ofNat_mod]; omega)
  have scalar : c.toNat < 0xD800 ∨ 0xDFFF < c.toNat ∧ c.toNat < 0x110000 := c.valid
  by_cases three : c.toNat < 0x10000
  · rw [utf8EncodeChar_three c (by omega) three]
    exact run_three rest (by rw [toNat_ofNat_mod]; omega) (by rw [toNat_ofNat_mod]; omega)
      (by rw [toNat_ofNat_mod]; omega) (by simp only [toNat_ofNat_mod]; omega)
      (by simp only [toNat_ofNat_mod]; omega)
  · rw [utf8EncodeChar_four c (by omega)]
    exact run_four rest (by rw [toNat_ofNat_mod]; omega) (by rw [toNat_ofNat_mod]; omega)
      (by rw [toNat_ofNat_mod]; omega) (by rw [toNat_ofNat_mod]; omega)
      (by simp only [toNat_ofNat_mod]; omega) (by simp only [toNat_ofNat_mod]; omega)

theorem encodes_append {c : Char} {bytes rest : List UInt8} (encoded : String.utf8EncodeChar c = bytes)
    (tail : Encodes rest) : Encodes (bytes ++ rest) := by
  obtain ⟨chars,rfl⟩ := tail
  exact ⟨c :: chars,by rw [List.flatMap_cons,encoded]⟩

theorem encodes_of_lead {b : UInt8} {l : List UInt8} {next : Expect} (leads : lead b = some next)
    (follows : Lang next l) : Encodes (b :: l) := by
  simp only [lead,ite_eq_iff,Option.some.injEq,reduceCtorEq,and_false,or_false] at leads
  rcases leads with ⟨ascii,rfl⟩ | ⟨-,⟨two,rfl⟩ | ⟨-,⟨first,rfl⟩ | ⟨-,⟨first,rfl⟩ |
    ⟨notEd,⟨first,rfl⟩ | ⟨-,⟨first,rfl⟩ | ⟨-,⟨first,rfl⟩ | ⟨-,first,rfl⟩⟩⟩⟩⟩⟩⟩
  · obtain ⟨c,encoded⟩ := exists_utf8EncodeChar_one ascii
    exact encodes_append encoded follows
  · obtain ⟨b2,_,rfl,second,tail⟩ := follows
    obtain ⟨c,encoded⟩ := exists_utf8EncodeChar_two b b2 two second
    exact encodes_append encoded tail
  iterate 3
    obtain ⟨b2,_,rfl,second,b3,_,rfl,third,tail⟩ := follows
    obtain ⟨c,encoded⟩ := exists_utf8EncodeChar_three b b2 b3 (by omega) (by omega) third
      (by omega) (by omega)
    exact encodes_append encoded tail
  iterate 3
    obtain ⟨b2,_,rfl,second,b3,_,rfl,third,b4,_,rfl,fourth,tail⟩ := follows
    obtain ⟨c,encoded⟩ := exists_utf8EncodeChar_four b b2 b3 b4 (by omega) (by omega) third fourth
      (by omega) (by omega)
    exact encodes_append encoded tail

theorem lang_of_run {state : Expect} {l : List UInt8} (accepted : run state l = some .start) :
    Lang state l := by
  induction l generalizing state with
  | nil => cases accepted; exact ⟨[],rfl⟩
  | cons b l ih =>
    obtain ⟨next,stepped,rest⟩ := Option.bind_eq_some.mp accepted
    cases state with
    | start => exact encodes_of_lead stepped (ih rest)
    | next low high more =>
      simp only [step] at stepped
      split_ifs at stepped with inRange
      cases stepped
      exact ⟨b,l,rfl,inRange,by cases more <;> exact ih rest⟩

theorem run_flatMap (chars : List Char) :
    run .start (chars.flatMap String.utf8EncodeChar) = some .start := by
  induction chars with
  | nil => rfl
  | cons c chars ih => rw [List.flatMap_cons,run_utf8EncodeChar,ih]

/-- The validator accepts exactly Lean's UTF-8: the bytes `String.toUTF8` writes for some string. -/
theorem valid_iff_toUTF8 (bytes : List UInt8) :
    valid bytes = true ↔ ∃ s : String, s.toUTF8.data.toList = bytes := by
  simp only [valid,decide_eq_true_eq]
  constructor
  · intro accepted
    obtain ⟨chars,encoded⟩ := lang_of_run accepted
    exact ⟨⟨chars⟩,encoded⟩
  · rintro ⟨⟨chars⟩,rfl⟩
    exact run_flatMap chars

theorem isSome_fromUtf8 (bytes : List UInt8) : (fromUtf8 bytes).isSome = valid bytes := by
  unfold fromUtf8
  split <;> simp_all

/-- `str::from_utf8` succeeds on exactly the bytes that are the UTF-8 of some string. -/
theorem fromUtf8_isSome_iff_toUTF8 (bytes : List UInt8) :
    (fromUtf8 bytes).isSome ↔ ∃ s : String, s.toUTF8.data.toList = bytes := by
  rw [isSome_fromUtf8]
  exact valid_iff_toUTF8 bytes

theorem fromUtf8_eq_none_iff_toUTF8 (bytes : List UInt8) :
    fromUtf8 bytes = none ↔ ¬ ∃ s : String, s.toUTF8.data.toList = bytes := by
  rw [fromUtf8_eq_none,← Bool.not_eq_true,valid_iff_toUTF8]

theorem exists_fromUtf8_of_toUTF8 {bytes : List UInt8} {s : String} (isText : s.toUTF8.data.toList = bytes) :
    ∃ text : Str, text.bytes = bytes ∧ fromUtf8 bytes = some text :=
  have valid := (valid_iff_toUTF8 bytes).mpr ⟨s,isText⟩
  ⟨⟨bytes,valid⟩,rfl,fromUtf8_bytes ⟨bytes,valid⟩⟩

end IbcEvents.Utf8
