import NetUnits.Text.Numeral
import NetUnits.Proofs.Text.Trim

/-! # Numerals read back

A written number is read back as the same number, and a number is only read from its own digits:

* **`digits?_toDigits`** — numbers without a sign; **`digits?_eq_some_iff`** — zeros may stand
  before the digits, and **`natUpTo?_eq_some_iff`** a plus sign before these.
* **`signed?_toString`** — numbers with a sign.
* **`int64?_int64Text`** — numbers of 64 bits, whose texts hold no blanks. -/

namespace NetUnits.Text

/-- The value of digits is collected from the first to the last. -/
theorem digitsFrom_eq_ofDigitChars {cs : List Char} (h : ∀ c ∈ cs, c.isDigit = true) (acc : Nat) :
    digitsFrom acc cs = some (Nat.ofDigitChars 10 cs acc) := by
  induction cs generalizing acc with
  | nil => simp [digitsFrom]
  | cons c cs ih =>
    obtain ⟨hc, hcs⟩ := List.forall_mem_cons.1 h
    rw [digitsFrom, if_pos hc, ih hcs, Nat.ofDigitChars_cons, Nat.mul_comm]

theorem isDigit_of_mem_toDigits {n : Nat} {c : Char} (h : c ∈ Nat.toDigits 10 n) :
    c.isDigit = true :=
  Nat.isDigit_of_mem_toDigits (by decide) (by decide) h

/-- Digits stand together in the order of characters. -/
theorem toNat_of_isDigit {c : Char} (h : c.isDigit = true) : 48 ≤ c.toNat ∧ c.toNat ≤ 57 := by
  simp only [Char.isDigit, Bool.and_eq_true, decide_eq_true_eq, ge_iff_le, UInt32.le_iff_toNat_le]
    at h
  exact h

/-- A digit is the one of its value. -/
theorem exists_digitChar_of_isDigit {c : Char} (h : c.isDigit = true) :
    ∃ d < 10, c = d.digitChar := by
  obtain ⟨hlo, hhi⟩ := toNat_of_isDigit h
  refine ⟨c.toNat - 48, by omega, Char.toNat_inj.1 ?_⟩
  rw [Nat.toNat_digitChar_of_lt_ten (by omega)]
  omega

/-- **A number without a sign is read back.** -/
theorem digits?_toDigits (n : Nat) : digits? (Nat.toDigits 10 n) = some n := by
  have hne : (Nat.toDigits 10 n).isEmpty = false := by simp [Nat.toDigits_ne_nil]
  rw [digits?, hne, digitsFrom_eq_ofDigitChars fun c => isDigit_of_mem_toDigits]
  simp

/-- Digits are collected by their values. -/
theorem digitsFrom_digitChar_cons {d : Nat} (hd : d < 10) (acc : Nat) (cs : List Char) :
    digitsFrom acc (d.digitChar :: cs) = digitsFrom (10 * acc + d) cs := by
  have hvalue : d.digitChar.toNat - '0'.toNat = d := Nat.toNat_digitChar_sub_48_of_lt_ten hd
  rw [digitsFrom, if_pos (by simpa using hd), hvalue, Nat.mul_comm]

/-- **Digits after a number are the rest of a longer one.** -/
theorem toDigits_append_of_digitsFrom {cs : List Char} {acc n : Nat} (hacc : 0 < acc)
    (h : digitsFrom acc cs = some n) : Nat.toDigits 10 acc ++ cs = Nat.toDigits 10 n := by
  induction cs generalizing acc with
  | nil =>
    obtain rfl : acc = n := Option.some.inj h
    exact List.append_nil _
  | cons c cs ih =>
    have hdigit : c.isDigit = true := (Option.ite_none_right_eq_some.1 h).1
    obtain ⟨d, hd, rfl⟩ := exists_digitChar_of_isDigit hdigit
    rw [digitsFrom_digitChar_cons hd] at h
    calc Nat.toDigits 10 acc ++ d.digitChar :: cs
        = Nat.toDigits 10 acc ++ Nat.toDigits 10 d ++ cs := by
          rw [Nat.toDigits_of_lt_base hd, List.append_assoc, List.singleton_append]
      _ = Nat.toDigits 10 (10 * acc + d) ++ cs := by
          rw [Nat.toDigits_append_toDigits (by decide) hacc hd]
      _ = Nat.toDigits 10 n := ih (by omega) h

/-- What is read as a number is its digits after zeros. -/
theorem exists_replicate_of_digitsFrom {cs : List Char} {n : Nat} (hne : cs ≠ [])
    (h : digitsFrom 0 cs = some n) :
    ∃ zeros, cs = List.replicate zeros '0' ++ Nat.toDigits 10 n := by
  induction cs with
  | nil => exact absurd rfl hne
  | cons c cs ih =>
    have hdigit : c.isDigit = true := (Option.ite_none_right_eq_some.1 h).1
    obtain ⟨d, hd, rfl⟩ := exists_digitChar_of_isDigit hdigit
    rw [digitsFrom_digitChar_cons hd, Nat.mul_zero, Nat.zero_add] at h
    obtain rfl | hpos := Nat.eq_zero_or_pos d
    · obtain rfl | hcs := eq_or_ne cs []
      · -- the last zero is the number 0 itself
        obtain rfl : 0 = n := Option.some.inj h
        exact ⟨0, rfl⟩
      · obtain ⟨zeros, rfl⟩ := ih hcs h
        exact ⟨zeros + 1, rfl⟩
    · have hdigits := toDigits_append_of_digitsFrom hpos h
      rw [Nat.toDigits_of_lt_base hd] at hdigits
      exact ⟨0, hdigits⟩

/-- Zeros before digits do not count. -/
theorem digitsFrom_replicate (zeros : Nat) (cs : List Char) :
    digitsFrom 0 (List.replicate zeros '0' ++ cs) = digitsFrom 0 cs := by
  induction zeros with
  | zero => rfl
  | succ zeros ih => exact ih

/-- **A number without a sign is its digits, perhaps after zeros.** -/
theorem digits?_eq_some_iff {cs : List Char} {n : Nat} :
    digits? cs = some n ↔ ∃ zeros, cs = List.replicate zeros '0' ++ Nat.toDigits 10 n := by
  have hdigits : ∀ {cs : List Char}, cs ≠ [] → digits? cs = digitsFrom 0 cs := fun hne => by
    rw [digits?, if_neg (by simpa using hne)]
  constructor
  · intro h
    have hne : cs ≠ [] := fun hnil => by simp [hnil, digits?] at h
    exact exists_replicate_of_digitsFrom hne (hdigits hne ▸ h)
  · rintro ⟨zeros, rfl⟩
    have hne : Nat.toDigits 10 n ≠ [] := Nat.toDigits_ne_nil
    rw [hdigits (List.append_ne_nil_of_right_ne_nil _ hne), digitsFrom_replicate, ← hdigits hne]
    exact digits?_toDigits n

/-- **An unsigned numeral** is the digits of a number within the limit, perhaps after a plus sign
and zeros. -/
theorem natUpTo?_eq_some_iff {limit n : Nat} {cs : List Char} :
    natUpTo? limit cs = some n ↔ n ≤ limit ∧ ∃ sign zeros, (sign = [] ∨ sign = ['+']) ∧
      cs = sign ++ (List.replicate zeros '0' ++ Nat.toDigits 10 n) := by
  unfold natUpTo?
  rw [Option.filter_eq_some_iff, decide_eq_true_eq, and_comm, and_congr_right_iff]
  intro _
  constructor
  · intro h
    split at h
    · rename_i rest
      obtain ⟨zeros, rfl⟩ := digits?_eq_some_iff.1 h
      exact ⟨['+'], zeros, .inr rfl, rfl⟩
    · obtain ⟨zeros, rfl⟩ := digits?_eq_some_iff.1 h
      exact ⟨[], zeros, .inl rfl, rfl⟩
  · rintro ⟨sign, zeros, rfl | rfl, rfl⟩
    · have hread := digits?_eq_some_iff.2 ⟨zeros, Eq.refl (_ ++ Nat.toDigits 10 n)⟩
      rw [List.nil_append]
      split
      · -- no digit is a plus sign
        rename_i rest heq
        have hplus : '+' ∈ List.replicate zeros '0' ++ Nat.toDigits 10 n := heq ▸ List.mem_cons_self
        rcases List.mem_append.1 hplus with hzero | hdigit
        · exact absurd (List.eq_of_mem_replicate hzero) (by decide)
        · exact absurd (isDigit_of_mem_toDigits hdigit) (by decide)
      · exact hread
    · exact digits?_eq_some_iff.2 ⟨zeros, rfl⟩

/-- The characters of a number are a minus sign and digits. -/
theorem toList_toString_int (i : Int) :
    (toString i).toList =
      if 0 ≤ i then Nat.toDigits 10 i.toNat else '-' :: Nat.toDigits 10 (-i).toNat := by
  rw [Int.toString_eq_repr, Int.repr_eq_if]
  split <;> simp

/-- Digits are read without a sign. -/
theorem signed?_toDigits (n : Nat) : signed? (Nat.toDigits 10 n) = some (Int.ofNat n) := by
  have hread := digits?_toDigits n
  have hdigit : ∀ c ∈ Nat.toDigits 10 n, c.isDigit = true := fun c => isDigit_of_mem_toDigits
  -- no digit is a sign, so only the last case is left
  generalize Nat.toDigits 10 n = cs at hread hdigit
  unfold signed?
  split
  · exact absurd (hdigit '+' List.mem_cons_self) (by decide)
  · exact absurd (hdigit '-' List.mem_cons_self) (by decide)
  · rw [hread, Option.map_some]

/-- **A number with a sign is read back.** -/
theorem signed?_toString (i : Int) : signed? (toString i).toList = some i := by
  rw [toList_toString_int]
  by_cases h : 0 ≤ i
  · rw [if_pos h, signed?_toDigits]
    simp [Int.toNat_of_nonneg h]
  · rw [if_neg h, signed?, digits?_toDigits, Option.map_some]
    have hneg : 0 ≤ -i := by omega
    simp [Int.toNat_of_nonneg hneg]

theorem fitsInt64_iff {i : Int} :
    fitsInt64 i = true ↔ -9223372036854775808 ≤ i ∧ i ≤ 9223372036854775807 := by
  rw [fitsInt64, Bool.and_eq_true, decide_eq_true_eq, decide_eq_true_eq, minInt64, maxInt64]

theorem fitsInt64_toInt (i : Int64) : fitsInt64 i.toInt = true := by
  have hle := i.le_toInt
  have hlt := i.toInt_lt
  rw [fitsInt64_iff]
  omega

/-- A number that fits is not changed when it is kept in 64 bits. -/
theorem toInt_ofInt_of_fitsInt64 {i : Int} (h : fitsInt64 i = true) :
    (Int64.ofInt i).toInt = i := by
  obtain ⟨hle, hge⟩ := fitsInt64_iff.1 h
  exact Int64.toInt_ofInt_of_le hle (by omega)

/-- **A number of 64 bits is read back.** -/
theorem int64?_int64Text (i : Int64) : int64? (int64Text i).toList = some i := by
  rw [int64?, int64Text, signed?_toString]
  simp [fitsInt64_toInt]

/-- A digit is not blank. -/
theorem isBlank_of_isDigit {c : Char} (h : c.isDigit = true) : isBlank c = false := by
  obtain ⟨hlo, hhi⟩ := toNat_of_isDigit h
  simp only [isBlank, Bool.or_eq_false_iff, Bool.and_eq_false_iff, decide_eq_false_iff_not,
    beq_eq_false_iff_ne]
  -- every range of blanks ends before the digits or begins after them
  omega

/-- The text of a number holds no blanks. -/
theorem trimChars_int64Text (i : Int64) :
    trimChars (int64Text i).toList = (int64Text i).toList := by
  refine trimChars_eq_self_of_forall fun c hc => ?_
  rw [int64Text, toList_toString_int] at hc
  split at hc
  · exact isBlank_of_isDigit (isDigit_of_mem_toDigits hc)
  · rcases List.mem_cons.1 hc with rfl | hc
    · rfl
    · exact isBlank_of_isDigit (isDigit_of_mem_toDigits hc)

end NetUnits.Text
