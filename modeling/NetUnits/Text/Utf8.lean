/-!
# Bytes as text

Files and outputs are bytes; text is read from them as UTF-8.

* **`strict?`** — the text, if all bytes are valid UTF-8.
* **`lenient`** — always a text: each maximal part that begins a character but does not complete
  one, and each byte that begins none, becomes the replacement character.
-/

namespace NetUnits.Text

/-- Bytes are compared one by one. -/
instance instDecidableEqBytes : DecidableEq ByteArray := fun a b =>
  decidable_of_decidable_of_iff (p := a.data = b.data) ByteArray.ext_iff.symm

/-- The replacement character. -/
def replacementChar : Char := '\ufffd'

/-- The bits that a byte after the first adds to a code point. -/
def tailBits (b : UInt8) : Nat :=
  b.toNat % 64

/-- Whether a byte lies between two others. -/
def byteIn (first last : UInt8) (b : UInt8) : Bool :=
  first ≤ b && b ≤ last

/-- **What a leading byte asks for**: the bits it gives, the range of the byte after it, and the
number of further bytes from `0x80` to `0xBF`. -/
structure Lead where
  /-- Value of the leading byte's own bits. -/
  bits : Nat
  /-- Least second byte. -/
  low : UInt8
  /-- Greatest second byte. -/
  high : UInt8
  /-- Number of bytes after the second. -/
  more : Nat

/-- The sequences that UTF-8 allows, by their leading byte. Overlong forms, surrogates and code
points beyond U+10FFFF are left out by the range of the second byte. -/
def lead? (b : UInt8) : Option Lead :=
  if byteIn 0xC2 0xDF b then some ⟨b.toNat % 32, 0x80, 0xBF, 0⟩
  else if b = 0xE0 then some ⟨0, 0xA0, 0xBF, 1⟩ -- no overlong forms
  else if b = 0xED then some ⟨13, 0x80, 0x9F, 1⟩ -- no surrogates
  else if byteIn 0xE1 0xEF b then some ⟨b.toNat % 16, 0x80, 0xBF, 1⟩
  else if b = 0xF0 then some ⟨0, 0x90, 0xBF, 2⟩ -- no overlong forms
  else if byteIn 0xF1 0xF3 b then some ⟨b.toNat % 8, 0x80, 0xBF, 2⟩
  else if b = 0xF4 then some ⟨4, 0x80, 0x8F, 2⟩ -- nothing beyond U+10FFFF
  else none

/-- The rest of a character whose bytes so far have the value `bits`, when `more` bytes are still
to come: the character or a replacement, and the bytes after it. -/
def tail (bits : Nat) : Nat → List UInt8 → Char × List UInt8
  | 0, bs => (Char.ofNat bits, bs)
  | _ + 1, [] => (replacementChar, [])
  | more + 1, b :: bs =>
    if byteIn 0x80 0xBF b then tail (bits * 64 + tailBits b) more bs
    else (replacementChar, b :: bs)

/-- The character that the bytes begin with, where `b` is the first, and the bytes after it. -/
def firstChar (b : UInt8) (bs : List UInt8) : Char × List UInt8 :=
  if b < 0x80 then (Char.ofNat b.toNat, bs)
  else match lead? b, bs with
    | none, _ => (replacementChar, bs)
    | some _, [] => (replacementChar, [])
    | some lead, c :: cs =>
      if byteIn lead.low lead.high c then tail (lead.bits * 64 + tailBits c) lead.more cs
      else (replacementChar, c :: cs)

theorem length_tail_le (bits more : Nat) (bs : List UInt8) :
    (tail bits more bs).2.length ≤ bs.length := by
  fun_induction tail bits more bs with
  | case1 => simp
  | case2 => simp
  | case3 bits more b bs _ ih => simp only [List.length_cons]; omega
  | case4 => simp

theorem length_firstChar_le (b : UInt8) (bs : List UInt8) :
    (firstChar b bs).2.length ≤ bs.length := by
  fun_cases firstChar b bs with
  | case1 => simp
  | case2 => simp
  | case3 => simp
  | case4 _ lead c cs _ _ =>
    have := length_tail_le (lead.bits * 64 + tailBits c) lead.more cs
    simp only [List.length_cons]; omega
  | case5 => simp

/-- The characters of a byte list, with replacements. -/
def lenientChars : List UInt8 → List Char
  | [] => []
  | b :: bs => (firstChar b bs).1 :: lenientChars (firstChar b bs).2
termination_by bs => bs.length
decreasing_by
  have := length_firstChar_le b bs
  simp only [List.length_cons]; omega

/-- **The text of bytes that are valid UTF-8.** -/
def strict? (bytes : ByteArray) : Option String :=
  String.fromUTF8? bytes

/-- **The text of any bytes**: their own if they are valid UTF-8, else with replacements. -/
def lenient (bytes : ByteArray) : String :=
  (strict? bytes).getD (String.ofList (lenientChars bytes.toList))

/-- The bytes of a text. -/
def bytesOf (s : String) : ByteArray :=
  s.toUTF8

@[simp] theorem strict?_bytesOf (s : String) : strict? (bytesOf s) = some s := by
  simp only [strict?, bytesOf, String.fromUTF8?, String.toUTF8_eq_toByteArray,
    dif_pos s.isValidUTF8]
  rfl

/-- Reading the bytes of a text gives the text. -/
@[simp] theorem lenient_bytesOf (s : String) : lenient (bytesOf s) = s := by
  simp [lenient]

end NetUnits.Text
