import NetUnits.Json.Parser
import NetUnits.Json.Printer
import NetUnits.Proofs.Text.Numeral

/-! # JSON strings and numbers read back

* **`Json.Parser.quotedString?_flatMap`** — a written string is read back, whatever characters it
  holds.
* **`Json.Parser.number?_toString`** — a written integer of 64 bits is read back, if no more of a
  number follows; **`Json.Parser.number?_eq_int_iff`** — nothing else is read as an integer. -/

namespace NetUnits.Json.Parser

open NetUnits.Text

/-! ## Strings -/

/-- A hexadecimal digit is read back. -/
theorem hexDigit?_hexDigit {n : Nat} (h : n < 16) : Text.hexDigit? (hexDigit n) = some n := by
  revert n
  decide

/-- The code unit of a control character is read back. -/
theorem hex4?_hexDigit {n : Nat} (h : n < 0x20) (rest : List Char) :
    hex4? ('0' :: '0' :: hexDigit (n / 16) :: hexDigit (n % 16) :: rest) = some (n, rest) := by
  have hzero : Text.hexDigit? '0' = some 0 := by decide
  have hhigh := hexDigit?_hexDigit (n := n / 16) (by omega)
  have hlow := hexDigit?_hexDigit (n := n % 16) (by omega)
  simp only [hex4?, hzero, hhigh, hlow, Option.bind_eq_bind, Option.bind_some, Option.pure_def]
  have hunit : ((0 * 16 + 0) * 16 + n / 16) * 16 + n % 16 = n := by omega
  rw [hunit]

/-- What follows the backslash of an escaped character is read as the character. -/
theorem escape?_of_control {c : Char} (h : c.toNat < 0x20) (rest : List Char) :
    escape? ('u' :: '0' :: '0' :: hexDigit (c.toNat / 16) :: hexDigit (c.toNat % 16) :: rest) =
      some (some c, rest) := by
  have hhigh : ¬ (0xD800 ≤ c.toNat ∧ c.toNat < 0xDC00) := by omega
  have hlow : ¬ (0xDC00 ≤ c.toNat ∧ c.toNat < 0xE000) := by omega
  rw [escape?, unitEscape?, hex4?_hexDigit h]
  simp [hhigh, hlow]

/-- **A character of a written string is read back** in one step. -/
theorem stringChars_stringChar (c : Char) (fuel : Nat) (rest : List Char) :
    stringChars (fuel + 1) (stringChar c ++ rest) =
      (stringChars fuel rest).map fun (ds, cs) => (some c :: ds, cs) := by
  -- an escape is one step too
  have hescape : ∀ cs, escape? cs = some (some c, rest) →
      stringChars (fuel + 1) ('\\' :: cs) =
        (stringChars fuel rest).map fun (ds, cs) => (some c :: ds, cs) := by
    intro cs h
    rw [stringChars, if_neg (by decide), if_pos rfl, h]
    cases hs : stringChars fuel rest <;> simp [hs]
  unfold stringChar
  by_cases hcontrol : c.toNat < 0x20
  · rw [if_pos hcontrol]
    -- a control character has an escape of its own, or one by its code unit
    split_ifs
    any_goals
      subst c
      exact hescape _ rfl
    exact hescape _ (escape?_of_control hcontrol rest)
  · rw [if_neg hcontrol]
    split_ifs with hquote hbackslash
    any_goals
      subst c
      exact hescape _ rfl
    rw [List.singleton_append, stringChars, if_neg hquote, if_neg hbackslash, if_neg hcontrol]
    cases stringChars fuel rest <;> simp

/-- The characters of a written string are read back up to its closing quote. -/
theorem stringChars_flatMap (cs rest : List Char) {fuel : Nat} (h : cs.length < fuel) :
    stringChars fuel (cs.flatMap stringChar ++ '"' :: rest) = some (cs.map some, rest) := by
  induction cs generalizing fuel with
  | nil =>
    obtain ⟨fuel, rfl⟩ := Nat.exists_eq_add_one_of_ne_zero (by omega : fuel ≠ 0)
    simp [stringChars]
  | cons c cs ih =>
    rw [List.length_cons] at h
    obtain ⟨fuel, rfl⟩ := Nat.exists_eq_add_one_of_ne_zero (by omega : fuel ≠ 0)
    rw [List.flatMap_cons, List.append_assoc, stringChars_stringChar, ih (by omega)]
    rfl

/-- **A written string is read back**, after its opening quote. -/
theorem quotedString?_flatMap (s : String) (rest : List Char) {fuel : Nat}
    (h : s.toList.length < fuel) :
    quotedString? fuel (s.toList.flatMap stringChar ++ '"' :: rest) = some (some s, rest) := by
  have hall : ∀ cs : List Char, (cs.map some).mapM id = some cs := by
    intro cs
    induction cs with
    | nil => rfl
    | cons c cs ih => simp [ih]
  rw [quotedString?, stringChars_flatMap s.toList rest h, Option.map_some]
  simp only [hall, Option.map_some, String.ofList_toList]

/-- A string is at least as long in quotes. -/
theorem length_le_length_stringText (s : String) : s.toList.length + 2 ≤ (stringText s).length := by
  have hchar : ∀ c, 1 ≤ (stringChar c).length := by
    intro c
    unfold stringChar
    split_ifs <;> simp
  have hchars : ∀ cs : List Char, cs.length ≤ (cs.flatMap stringChar).length := by
    intro cs
    induction cs with
    | nil => simp
    | cons c cs ih =>
      have := hchar c
      rw [List.flatMap_cons, List.length_append, List.length_cons]
      omega
  have := hchars s.toList
  simp only [stringText, List.length_cons, List.length_append, List.length_nil]
  omega

/-! ## Numbers -/

/-- Whether a text cannot go on with a number that ends before it. -/
def EndsNumber (rest : List Char) : Prop :=
  ∀ c ∈ rest.head?, c.isDigit = false ∧ c ≠ '.' ∧ c ≠ 'e' ∧ c ≠ 'E'

theorem digitsOf_append {ds rest : List Char} (hds : ∀ c ∈ ds, c.isDigit = true)
    (hrest : EndsNumber rest) : digitsOf (ds ++ rest) = ds ∧ afterDigits (ds ++ rest) = rest := by
  rw [digitsOf, afterDigits, List.takeWhile_append_of_pos hds, List.dropWhile_append_of_pos hds]
  cases rest with
  | nil => simp
  | cons c cs =>
    have hc := (hrest c rfl).1
    simp [hc]

/-- The digits of a number have no superfluous zero. -/
theorem isWhole_toDigits (n : Nat) : isWhole (Nat.toDigits 10 n) = true := by
  by_cases hn : n < 10
  · rw [Nat.toDigits_of_lt_base hn]
    revert n
    decide
  · -- the first digit is that of a smaller number, which is not zero
    have hhead : ∀ n, 0 < n → (Nat.toDigits 10 n).head? ≠ some '0' := by
      intro n
      induction n using Nat.strongRecOn with
      | ind n ih =>
        intro hpos
        rcases Nat.lt_or_ge n 10 with hlt | hge
        · rw [Nat.toDigits_of_lt_base hlt]
          simp
          omega
        · rw [Nat.toDigits_of_base_le (by decide) hge,
            List.head?_append_of_ne_nil _ Nat.toDigits_ne_nil]
          exact ih (n / 10) (by omega) (by omega)
    have hne : Nat.toDigits 10 n ≠ [] := Nat.toDigits_ne_nil
    have hfirst := hhead n (by omega)
    cases hds : Nat.toDigits 10 n with
    | nil => exact absurd hds hne
    | cons d ds =>
      have hd : d ≠ '0' := by
        rintro rfl
        exact hfirst (by rw [hds]; rfl)
      unfold isWhole
      split <;> simp_all

theorem wholeValue_eq_ofDigitChars (ds : List Char) :
    wholeValue ds = Nat.ofDigitChars 10 ds 0 := by
  simp only [wholeValue, Nat.ofDigitChars_eq_foldl, Nat.mul_comm]

theorem wholeValue_toDigits (n : Nat) : wholeValue (Nat.toDigits 10 n) = n := by
  rw [wholeValue_eq_ofDigitChars, Nat.ofDigitChars_toDigits (by decide) (by decide)]

/-- Digits without superfluous zeros are those of their value. -/
theorem eq_toDigits_of_isWhole {ds : List Char} (hds : ∀ c ∈ ds, c.isDigit = true)
    (h : isWhole ds = true) : ds = Nat.toDigits 10 (wholeValue ds) := by
  have hne : ds ≠ [] := fun hnil => by simp [hnil, isWhole] at h
  have hread : digits? ds = some (wholeValue ds) := by
    rw [digits?, if_neg (by simpa using hne), digitsFrom_eq_ofDigitChars hds,
      wholeValue_eq_ofDigitChars]
  obtain ⟨zeros, hzeros⟩ := digits?_eq_some_iff.1 hread
  cases zeros with
  | zero => exact hzeros
  | succ zeros =>
    -- digits stand behind the first zero, which is superfluous then
    have hrest : List.replicate zeros '0' ++ Nat.toDigits 10 (wholeValue ds) ≠ [] :=
      List.append_ne_nil_of_right_ne_nil _ Nat.toDigits_ne_nil
    rw [hzeros, List.replicate_succ, List.cons_append] at h
    obtain ⟨c, cs, hcs⟩ := List.exists_cons_of_ne_nil hrest
    rw [hcs] at h
    exact absurd h (by simp [isWhole])

/-- An integer that is read as such: of 64 bits, with or without a sign. -/
def IsInt64 (i : Int) : Prop :=
  -9223372036854775808 ≤ i ∧ i ≤ Text.maxNat64

/-- Behind the digits of an integer there is neither a fraction nor an exponent. -/
theorem fraction?_of_endsNumber {rest : List Char} (h : EndsNumber rest) :
    fraction? rest = some ([], rest) ∧ exponent? rest = some (none, rest) := by
  cases rest with
  | nil => exact ⟨rfl, rfl⟩
  | cons c cs =>
    obtain ⟨-, hpoint, he, hE⟩ := h c rfl
    exact ⟨by simp [fraction?, hpoint], by simp [exponent?, he, hE]⟩

/-- **A written integer is read back**, if nothing of a number follows. -/
theorem number?_toString {i : Int} (hi : IsInt64 i) {rest : List Char} (hrest : EndsNumber rest) :
    number? ((toString i).toList ++ rest) = some (.int i, rest) := by
  obtain ⟨hlo, hhi⟩ := hi
  have hdigits : ∀ n, ∀ c ∈ Nat.toDigits 10 n, c.isDigit = true :=
    fun n c => isDigit_of_mem_toDigits
  obtain ⟨hfraction, hexponent⟩ := fraction?_of_endsNumber hrest
  rw [toList_toString_int]
  by_cases h : 0 ≤ i
  · rw [if_pos h]
    obtain ⟨n, rfl⟩ := Int.eq_ofNat_of_zero_le h
    obtain ⟨hwhole, hafter⟩ := digitsOf_append (hdigits n) hrest
    have hvalue := wholeValue_toDigits n
    have hfirst : ∀ c ∈ (Nat.toDigits 10 n ++ rest).head?, c ≠ '-' := by
      rintro c hc rfl
      rw [List.head?_append_of_ne_nil _ Nat.toDigits_ne_nil] at hc
      exact absurd (hdigits n '-' (List.mem_of_mem_head? hc)) (by decide)
    have hn : n ≤ Text.maxNat64 := by omega
    rw [Int.toNat_natCast]
    -- no digit is a sign, so only the second case is left
    unfold number?
    split
    rename_i heq
    split at heq
    · rename_i hsign
      exact absurd rfl (hfirst '-' (by rw [hsign]; rfl))
    · obtain ⟨rfl, rfl⟩ := Prod.mk.inj heq
      simp [hwhole, hafter, isWhole_toDigits, hfraction, hexponent, numberOf, hvalue, hn]
  · rw [if_neg h]
    obtain ⟨n, rfl⟩ : ∃ n : Nat, i = -n := ⟨(-i).toNat, by omega⟩
    obtain ⟨hwhole, hafter⟩ := digitsOf_append (hdigits n) hrest
    have hn : 0 < n ∧ n ≤ 9223372036854775808 := by omega
    simp [number?, hwhole, hafter, isWhole_toDigits, hfraction, hexponent, numberOf,
      wholeValue_toDigits, hn]

/-- A number is an integer only if neither a fraction nor an exponent stands behind its digits. -/
theorem numberOf_eq_int_iff {negative : Bool} {ds fraction : List Char} {exponent : Option Int}
    {i : Int} : numberOf negative ds fraction exponent = .int i ↔
      fraction = [] ∧ exponent = none ∧
        if negative then 0 < wholeValue ds ∧ wholeValue ds ≤ 9223372036854775808 ∧
          i = -(wholeValue ds : Int)
        else wholeValue ds ≤ Text.maxNat64 ∧ i = wholeValue ds := by
  have hfloat : ∀ size, floatOf negative size ≠ .int i := by
    rintro (_ | size) ⟨⟩
  cases fraction with
  | cons => simp [numberOf, hfloat]
  | nil =>
    cases exponent with
    | some => simp [numberOf, hfloat]
    | none =>
      cases negative with
      | false =>
        by_cases hfits : wholeValue ds ≤ maxNat64 <;> simp [numberOf, hfits, hfloat, eq_comm]
      | true =>
        by_cases hfits : 0 < wholeValue ds ∧ wholeValue ds ≤ 9223372036854775808
        · simp [numberOf, hfits, eq_comm]
        · simp only [numberOf, List.isEmpty_nil, Bool.not_true, Option.isSome_none, Bool.or_self,
            Bool.false_eq_true, if_false, if_true, if_neg hfits, hfloat, true_and, false_iff]
          exact fun h => hfits ⟨h.1, h.2.1⟩

/-- Without a fraction no point follows the digits, and without an exponent no `e`. -/
theorem endsNumber_of_fraction? {cs afterFraction rest : List Char}
    (hfraction : fraction? (afterDigits cs) = some ([], afterFraction))
    (hexponent : exponent? afterFraction = some (none, rest)) :
    afterDigits cs = rest ∧ EndsNumber rest := by
  have hdigit : ∀ c ∈ (afterDigits cs).head?, c.isDigit = false := by
    intro c hc
    have := List.head?_dropWhile_not Char.isDigit cs
    rw [afterDigits] at hc
    rw [hc] at this
    simpa using this
  generalize afterDigits cs = after at hfraction hdigit
  have hpoint : after = afterFraction ∧ ∀ c ∈ after.head?, c ≠ '.' := by
    unfold fraction? at hfraction
    split at hfraction
    · split_ifs at hfraction with hempty
      simp_all
    · rename_i hother
      obtain ⟨-, rfl⟩ := Prod.mk.inj (Option.some.inj hfraction)
      refine ⟨rfl, ?_⟩
      rintro c hc rfl
      cases after with
      | nil => exact nomatch hc
      | cons d ds => exact hother ds (by simp_all)
  obtain ⟨rfl, hpoint⟩ := hpoint
  cases after with
  | nil =>
    obtain rfl : [] = rest := (Prod.mk.inj (Option.some.inj hexponent)).2
    exact ⟨rfl, fun c hc => nomatch hc⟩
  | cons c after =>
    unfold exponent? at hexponent
    have hmark : ¬(c = 'e' ∨ c = 'E') := by
      intro hmark
      simp only [if_pos hmark] at hexponent
      simp only [Option.ite_none_left_eq_some, Option.some.injEq, Prod.mk.injEq, reduceCtorEq,
        false_and, and_false] at hexponent
    simp only [if_neg hmark] at hexponent
    obtain rfl : c :: after = rest := (Prod.mk.inj (Option.some.inj hexponent)).2
    refine ⟨rfl, ?_⟩
    rintro _ ⟨⟩
    exact ⟨hdigit c rfl, hpoint c rfl, fun h => hmark (.inl h), fun h => hmark (.inr h)⟩

/-- What a number is read from: perhaps a sign, digits, a fraction and an exponent. -/
theorem exists_of_number? {cs rest : List Char} {j : Json} (h : number? cs = some (j, rest)) :
    ∃ negative ds fraction exponent after, cs = (if negative then '-' :: ds else ds) ∧
      isWhole (digitsOf ds) = true ∧ fraction? (afterDigits ds) = some (fraction, after) ∧
      exponent? after = some (exponent, rest) ∧
      numberOf negative (digitsOf ds) fraction exponent = j := by
  unfold number? at h
  split at h
  rename_i negative ds hsign
  have hcs : cs = if negative then '-' :: ds else ds := by
    split at hsign <;> cases hsign <;> rfl
  cases hwhole : isWhole (digitsOf ds) with
  | false => simp [hwhole] at h
  | true =>
    simp only [hwhole, Bool.not_true, Bool.false_eq_true, if_false, Option.bind_eq_bind,
      Option.bind_eq_some_iff, Option.pure_def, Option.some.injEq, Prod.mk.injEq] at h
    obtain ⟨⟨fraction, after⟩, hfraction, ⟨exponent, _⟩, hexponent, hj, rfl⟩ := h
    exact ⟨negative, ds, fraction, exponent, after, hcs, hwhole, hfraction, hexponent, hj⟩

/-- **Nothing but its own text is read as an integer.** -/
theorem number?_eq_int_iff {cs rest : List Char} {i : Int} :
    number? cs = some (.int i, rest) ↔
      IsInt64 i ∧ cs = (toString i).toList ++ rest ∧ EndsNumber rest := by
  constructor
  · intro h
    obtain ⟨negative, ds, fraction, exponent, after, rfl, hwhole, hfraction, hexponent, hi⟩ :=
      exists_of_number? h
    obtain ⟨rfl, rfl, hvalue⟩ := numberOf_eq_int_iff.1 hi
    obtain ⟨rfl, hends⟩ := endsNumber_of_fraction? hfraction hexponent
    have hdigits : digitsOf ds = Nat.toDigits 10 (wholeValue (digitsOf ds)) :=
      eq_toDigits_of_isWhole (fun c hc => List.mem_takeWhile_imp hc) hwhole
    have hds : ds = Nat.toDigits 10 (wholeValue (digitsOf ds)) ++ afterDigits ds := by
      rw [← hdigits]
      exact (List.takeWhile_append_dropWhile (p := Char.isDigit)).symm
    generalize wholeValue (digitsOf ds) = n at hvalue hds
    clear hi
    rw [toList_toString_int]
    cases negative with
    | false =>
      obtain ⟨hle, rfl⟩ := hvalue
      refine ⟨⟨by omega, by exact_mod_cast hle⟩, ?_, hends⟩
      rw [if_pos (Int.natCast_nonneg n), Int.toNat_natCast]
      exact hds
    | true =>
      obtain ⟨hpos, hle, rfl⟩ := hvalue
      have hneg : ¬(0 : Int) ≤ -(n : Int) := by omega
      refine ⟨⟨by omega, by unfold maxNat64; omega⟩, ?_, hends⟩
      rw [if_neg hneg, Int.neg_neg, Int.toNat_natCast, if_pos rfl]
      exact congrArg ('-' :: ·) hds
  · rintro ⟨hi, rfl, hrest⟩
    exact number?_toString hi hrest

end NetUnits.Json.Parser
