import ResourceApi.Number.Digits

/-!
# Digits read back

The digits that a number is written with are read as that number, also behind zeros that fill them
up. A number that is not zero never starts with one.

## Main definitions

- `WrittenFor` — the texts that stand for a number without a minus sign

## Main results

- `readUnsigned_eq_some_iff` — the texts that are read as a number without a minus sign
- `readUnsigned_natText`, `readSigned_intText` — a number within the limits reads back
- `intText_injective`, `decimal_injective` — integers are told apart by their digits
- `head?_natText` — the first digit of a number
-/

namespace ResourceApi.Number

theorem isDigit_of_mem_natText {n : Nat} {c : Char} (h : c ∈ natText n) : c.isDigit = true :=
  Nat.isDigit_of_mem_toDigits (by decide) (by decide) h

theorem natText_ne_nil (n : Nat) : natText n ≠ [] := Nat.toDigits_ne_nil

theorem readNat_of_digits {cs : List Char} (hne : cs ≠ []) (h : ∀ c ∈ cs, c.isDigit = true) :
    readNat cs = some (Nat.ofDigitChars 10 cs 0) := by
  rw [readNat, List.isEmpty_eq_false_iff.mpr hne, List.all_eq_true.mpr h]
  rfl

theorem readNat_eq_some_iff {cs : List Char} {n : Nat} : readNat cs = some n ↔
    cs ≠ [] ∧ (∀ c ∈ cs, c.isDigit = true) ∧ Nat.ofDigitChars 10 cs 0 = n := by
  rw [readNat]
  cases cs with
  | nil => simp
  | cons c cs => simp [List.all_eq_true]

/-- A text is written for a number: its digits, perhaps behind a plus sign. -/
def WrittenFor (cs : List Char) (n : Nat) : Prop :=
  ∃ digits, (cs = digits ∨ cs = '+' :: digits) ∧ digits ≠ [] ∧
    (∀ c ∈ digits, c.isDigit = true) ∧ Nat.ofDigitChars 10 digits 0 = n

/-- Numbers without a minus sign are read from the texts written for them. -/
theorem readUnsigned_eq_some_iff {limit n : Nat} {cs : List Char} :
    readUnsigned limit cs = some n ↔ WrittenFor cs n ∧ n ≤ limit := by
  unfold readUnsigned
  dsimp only
  rw [Option.filter_eq_some_iff, decide_eq_true_iff]
  refine and_congr_left fun _ => ?_
  split
  · next digits =>
    rw [readNat_eq_some_iff]
    constructor
    · intro h
      exact ⟨digits, .inr rfl, h⟩
    · rintro ⟨ds, rfl | heq, hne, hdigits, hn⟩
      · exact absurd (hdigits '+' (List.mem_cons_self ..)) (by decide)
      · obtain ⟨-, rfl⟩ := List.cons.inj heq
        exact ⟨hne, hdigits, hn⟩
  · next hsign =>
    rw [readNat_eq_some_iff]
    constructor
    · intro h
      exact ⟨cs, .inl rfl, h⟩
    · rintro ⟨ds, rfl | rfl, h⟩
      · exact h
      · exact absurd rfl (hsign ds)

theorem readNat_natText (n : Nat) : readNat (natText n) = some n := by
  rw [readNat_of_digits (natText_ne_nil n) fun c hc => isDigit_of_mem_natText hc]
  exact congrArg some (Nat.ofDigitChars_toDigits (by decide) (by decide))

/-- What a number starts with is a digit, so it is no sign. -/
theorem natText_ne_cons {n : Nat} {c : Char} (h : c.isDigit = false) (cs : List Char) :
    natText n ≠ c :: cs := by
  intro heq
  have hdigit : c.isDigit = true := isDigit_of_mem_natText (n := n) (heq ▸ List.mem_cons_self ..)
  rw [h] at hdigit
  cases hdigit

theorem readUnsigned_natText {limit n : Nat} (h : n ≤ limit) :
    readUnsigned limit (natText n) = some n := by
  have hfilter : (some n).filter (fun m => decide (m ≤ limit)) = some n := by
    rw [Option.filter_some, if_pos (decide_eq_true h)]
  unfold readUnsigned
  dsimp only
  split
  · next ds hsign => exact absurd hsign (natText_ne_cons (by decide) ds)
  · rw [readNat_natText, hfilter]

/-! ## The first digit -/

/-- Only the digits of zero start with a zero. -/
theorem head?_natText {n : Nat} (h : 0 < n) : (natText n).head? ≠ some '0' := by
  induction n using Nat.strongRecOn with
  | ind n ih =>
    by_cases hn : n < 10
    · rw [natText, Nat.toDigits_of_lt_base hn, List.head?_cons]
      exact fun heq => absurd (Nat.digitChar_eq_zero.mp (Option.some.inj heq)) (by omega)
    · have hquotient : 0 < n / 10 := by omega
      have hshorter : n / 10 < n := by omega
      obtain ⟨first, digits, hdigits⟩ := List.exists_cons_of_ne_nil
        (Nat.toDigits_ne_nil (n := n / 10) (b := 10))
      have hfirst := ih _ hshorter hquotient
      rw [natText, hdigits] at hfirst
      rw [natText, Nat.toDigits_of_base_le (by decide) (Nat.not_lt.mp hn), hdigits]
      exact hfirst

theorem natText_zero : natText 0 = ['0'] := Nat.toDigits_zero 10

/-- A number is not written with one digit more than the bound on it has. -/
theorem length_natText_le {n width : Nat} (hwidth : 0 < width) (h : n < Nat.pow 10 width) :
    (natText n).length ≤ width :=
  (Nat.length_toDigits_le_iff (by decide) hwidth).mpr h

/-! ## Filled up with zeros -/

/-- Zeros in front of a number change nothing about it. -/
theorem readNat_zeros_natText (zeros n : Nat) :
    readNat (List.replicate zeros '0' ++ natText n) = some n := by
  have hne : List.replicate zeros '0' ++ natText n ≠ [] :=
    List.append_ne_nil_of_right_ne_nil _ (natText_ne_nil n)
  rw [readNat_of_digits hne, Nat.ofDigitChars_append, Nat.ofDigitChars_replicate_zero,
    Nat.mul_zero]
  · exact congrArg some (Nat.ofDigitChars_toDigits (by decide) (by decide))
  · intro c hc
    rcases List.mem_append.mp hc with hzero | hdigit
    · rw [List.eq_of_mem_replicate hzero]
      decide
    · exact isDigit_of_mem_natText hdigit

/-! ## Signs -/

theorem intText_ne_nil (n : Int) : intText n ≠ [] := by
  cases n with
  | ofNat n => exact natText_ne_nil n
  | negSucc n => exact List.cons_ne_nil _ _

/-- An integer is written with digits, perhaps behind a minus sign. -/
theorem eq_or_isDigit_of_mem_intText {n : Int} {c : Char} (h : c ∈ intText n) :
    c = '-' ∨ c.isDigit = true := by
  cases n with
  | ofNat n => exact .inr (isDigit_of_mem_natText h)
  | negSucc n => exact (List.mem_cons.mp h).imp_right isDigit_of_mem_natText

theorem readSigned_intText {least greatest n : Int} (hleast : least ≤ n) (hgreatest : n ≤ greatest) :
    readSigned least greatest (intText n) = some n := by
  have hfilter : (some n).filter (fun m => decide (least ≤ m ∧ m ≤ greatest)) = some n := by
    rw [Option.filter_some, if_pos (decide_eq_true ⟨hleast, hgreatest⟩)]
  cases n with
  | ofNat n =>
    unfold readSigned intText
    dsimp only
    split
    · next ds hsign => exact absurd hsign (natText_ne_cons (by decide) ds)
    · next ds hsign => exact absurd hsign (natText_ne_cons (by decide) ds)
    · rw [readNat_natText]
      exact hfilter
  | negSucc n =>
    have hdigits : (readNat (natText (n + 1))).map (fun m => -Int.ofNat m) =
        some (Int.negSucc n) := by
      rw [readNat_natText]
      rfl
    exact (congrArg _ hdigits).trans hfilter

/-- An integer of 64 bits reads back. -/
theorem readInt64_intText {n : Int} (hleast : minInt64 ≤ n) (hgreatest : n ≤ maxInt64) :
    readInt64 (intText n) = some n :=
  readSigned_intText hleast hgreatest

/-- Two integers are never written alike: within the limits that they make for each other both of
them read back. -/
theorem intText_injective : Function.Injective intText := by
  intro m n h
  have hm : readSigned (min m n) (max m n) (intText m) = some m :=
    readSigned_intText (Int.min_le_left m n) (Int.le_max_left m n)
  have hn : readSigned (min m n) (max m n) (intText n) = some n :=
    readSigned_intText (Int.min_le_right m n) (Int.le_max_right m n)
  exact Option.some.inj (hm.symm.trans ((congrArg _ h).trans hn))

theorem decimal_injective : Function.Injective decimal := fun _ _ h =>
  intText_injective (String.ofList_injective h)

end ResourceApi.Number
