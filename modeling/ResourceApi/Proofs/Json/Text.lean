import ResourceApi.Json.Text
import ResourceApi.Proofs.Text.Utf8

/-!
# Escaped texts read back

A text is escaped byte by byte, so scanning and unescaping only have to be followed across one byte:
it stands for itself, or behind a backslash, or as a number of four digits.

## Main definitions

- `Escaped` — the ways to write a byte

## Main results

- `scan_escape` — an escaped text is scanned up to its closing quote
- `decode_escape` — an escaped text is decoded to itself
-/

namespace ResourceApi.Json

/-- The ways to write a byte between quotes. -/
inductive Escaped (b : UInt8) : Bytes → Prop where
  | short {e : UInt8} (he : shortEscape? e = some b) : Escaped b [0x5C, e]
  | unit (hcontrol : b < 0x20) :
    Escaped b [0x5C, 0x75, 0x30, 0x30, hexDigit (b.toNat / 16), hexDigit (b.toNat % 16)]
  | plain (hquote : b ≠ 0x22) (hslash : b ≠ 0x5C) (hcontrol : ¬ b < 0x20) : Escaped b [b]

theorem Escaped.of_beq {b c e : UInt8} (h : (b == c) = true) (he : shortEscape? e = some c) :
    Escaped b [0x5C, e] :=
  .short (he.trans (congrArg some (eq_of_beq h).symm))

theorem escaped_escapeByte (b : UInt8) : Escaped b (escapeByte b) := by
  unfold escapeByte
  repeat' split
  · next h => exact .of_beq h rfl
  · next h => exact .of_beq h rfl
  · next h => exact .of_beq h rfl
  · next h => exact .of_beq h rfl
  · next h => exact .of_beq h rfl
  · next h => exact .of_beq h rfl
  · next h => exact .of_beq h rfl
  · next h => exact .unit h
  · next hquote hslash _ _ _ _ _ hcontrol =>
    exact .plain (fun h => hquote (beq_iff_eq.mpr h)) (fun h => hslash (beq_iff_eq.mpr h)) hcontrol

/-! ## Four digits -/

theorem hexValue?_hexDigit {n : Nat} (h : n < 16) : Text.hexValue? (hexDigit n) = some n := by
  have hall : ∀ n : Fin 16, Text.hexValue? (hexDigit n) = some n.val := by decide
  exact hall ⟨n, h⟩

theorem readUnit_hexDigits (b : UInt8) :
    readUnit 0x30 0x30 (hexDigit (b.toNat / 16)) (hexDigit (b.toNat % 16)) = some b.toNat := by
  have hb : b.toNat < 256 := b.toNat_lt
  have hzero : Text.hexValue? 0x30 = some 0 := rfl
  simp only [readUnit, hzero, hexValue?_hexDigit (show b.toNat / 16 < 16 by omega),
    hexValue?_hexDigit (show b.toNat % 16 < 16 by omega), Option.bind_eq_bind, Option.bind_some]
  exact congrArg some (by omega)

/-- A byte of ASCII is the bytes of its character. -/
theorem utf8Of_toNat {b : UInt8} (h : b.toNat < 128) : utf8Of b.toNat = [b] := by
  have hchar : (Char.ofNat b.toNat).toNat = b.toNat := by
    rw [Char.ofNat, dif_pos (.inl (by omega))]
    rfl
  rw [utf8Of, Text.utf8EncodeChar_of_ascii (hchar.symm ▸ h), hchar, UInt8.ofNat_toNat]

/-! ## One byte -/

section Byte

variable {b : UInt8} {es : Bytes}

/-- No short escape looks like the start of a number. -/
theorem shortEscape?_ne {e : UInt8} (h : shortEscape? e = some b) : e ≠ 0x75 := by
  rintro rfl
  cases h

theorem scan_escaped (h : Escaped b es) (rest : Bytes) :
    scan (es ++ rest) = consume es (scan rest) := by
  cases h with
  | short he =>
    have hform : ∀ (a b c d : UInt8) (rest' : Bytes), _ = (0x75 : UInt8) →
        rest = a :: b :: c :: d :: rest' → False :=
      fun _ _ _ _ _ heq _ => shortEscape?_ne he heq
    rw [List.cons_append, List.cons_append, List.nil_append, scan.eq_4 _ _ hform, he]
    rfl
  | unit =>
    rw [List.cons_append, List.cons_append, List.cons_append, List.cons_append, List.cons_append,
      List.cons_append, List.nil_append, scan, readUnit_hexDigits]
    rfl
  | plain hquote hslash hcontrol =>
    have hgo : (decide (b < 0x20) || b == 0x5C) = false := by simp [hslash, hcontrol]
    rw [List.singleton_append, scan.eq_5 _ _ hquote (fun _ _ _ _ _ heq _ => hslash heq)
      (fun _ _ heq _ => hslash heq), hgo]
    rfl

theorem unescape_escaped (h : Escaped b es) (rest : Bytes) :
    unescape (es ++ rest) = (unescape rest).map (b :: ·) := by
  cases h with
  | short he =>
    have hform : ∀ (a b c d : UInt8) (rest' : Bytes), _ = (0x75 : UInt8) →
        rest = a :: b :: c :: d :: rest' → False :=
      fun _ _ _ _ _ heq _ => shortEscape?_ne he heq
    rw [List.cons_append, List.cons_append, List.nil_append, unescape.eq_3 _ _ hform, he]
    rfl
  | unit hcontrol =>
    have hb : b.toNat < 32 := UInt8.lt_iff_toNat_lt.mp hcontrol
    -- A control character is far below the surrogates.
    have hhigh : isHighSurrogate b.toNat = false := by
      simp only [isHighSurrogate, Bool.and_eq_false_iff, decide_eq_false_iff_not]
      omega
    have hlow : isLowSurrogate b.toNat = false := by
      simp only [isLowSurrogate, Bool.and_eq_false_iff, decide_eq_false_iff_not]
      omega
    rw [List.cons_append, List.cons_append, List.cons_append, List.cons_append, List.cons_append,
      List.cons_append, List.nil_append, unescape, readUnit_hexDigits]
    simp only [Option.bind_eq_bind, Option.bind_some, hhigh, hlow, Bool.false_eq_true, if_false,
      utf8Of_toNat (show b.toNat < 128 by omega), List.singleton_append]
  | plain _ hslash _ =>
    rw [List.singleton_append, unescape.eq_4 _ _ (fun _ _ _ _ _ heq _ => hslash heq)
      (fun _ _ heq _ => hslash heq)]

end Byte

/-! ## A whole text -/

theorem escape_cons (b : UInt8) (bytes : Bytes) :
    escape (b :: bytes) = escapeByte b ++ escape bytes := rfl

/-- **An escaped text is scanned** up to the quote behind it. -/
theorem scan_escape (bytes rest : Bytes) :
    scan (escape bytes ++ 0x22 :: rest) = some (escape bytes, rest) := by
  induction bytes with
  | nil => rw [escape, List.flatMap_nil, List.nil_append, scan]
  | cons b bytes ih =>
    rw [escape_cons, List.append_assoc, scan_escaped (escaped_escapeByte b), ih]
    rfl

theorem unescape_escape (bytes : Bytes) : unescape (escape bytes) = some bytes := by
  induction bytes with
  | nil => rfl
  | cons b bytes ih =>
    rw [escape_cons, unescape_escaped (escaped_escapeByte b), ih]
    rfl

/-- **An escaped text is decoded** to itself. -/
theorem decode_escape (s : String) : decode (escape (Text.utf8 s)) = some s := by
  rw [decode, unescape_escape, Option.bind_some, Text.ofUtf8?_utf8]

end ResourceApi.Json
