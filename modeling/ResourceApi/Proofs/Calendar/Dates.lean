import ResourceApi.Calendar.Date
import ResourceApi.Proofs.Number.Digits
import ResourceApi.Proofs.Text.Trimming

/-!
# Dates read back

A date is read as itself, whatever its year. A year of four digits needs no sign, since the reader
takes four digits at most when there is none; any other year has one, and then the reader takes
digits up to the dash.

## Main results

- `Date.scanNat_append` — digits in front of what is no digit
- `Date.scanYear_yearText`, `Date.scanField_padded` — the parts of a date
- `Date.read_chars`, `Date.readSpaced_chars` — a whole date
-/

namespace ResourceApi

/-! ## The bounds of the parts -/

/-- There are no more than twelve months. -/
theorem daysInMonth_of_gt {year : Int} {month : Nat} (h : 12 < month) :
    daysInMonth year month = 0 := by
  unfold daysInMonth
  split <;> omega

theorem daysInMonth_le (year : Int) (month : Nat) : daysInMonth year month ≤ 31 := by
  unfold daysInMonth
  repeat' split
  all_goals decide

namespace Date

theorem parts (d : Date) : 1 ≤ d.day ∧ d.day ≤ daysInMonth d.year d.month := by
  have hvalid := d.valid
  simp only [isDate, Bool.and_eq_true, decide_eq_true_eq] at hvalid
  exact ⟨hvalid.1.2, hvalid.2⟩

theorem day_lt (d : Date) : d.day < Nat.pow 10 2 := by
  have hday : d.day ≤ 31 := Nat.le_trans d.parts.2 (daysInMonth_le d.year d.month)
  exact Nat.lt_of_le_of_lt hday (by decide)

theorem month_lt (d : Date) : d.month < Nat.pow 10 2 := by
  have hmonth : d.month ≤ 12 := by
    refine Nat.not_lt.mp fun hgt => ?_
    have hparts := d.parts
    rw [daysInMonth_of_gt hgt] at hparts
    omega
  exact Nat.lt_of_le_of_lt hmonth (by decide)

/-! ## Numbers of some width -/

variable {width n : Nat}

theorem isDigit_of_mem_padded {c : Char} (h : c ∈ padded width n) : c.isDigit = true := by
  rcases List.mem_append.mp h with hzero | hdigit
  · rw [List.eq_of_mem_replicate hzero]
    decide
  · exact Number.isDigit_of_mem_natText hdigit

theorem readNat_padded (width n : Nat) : Number.readNat (padded width n) = some n :=
  Number.readNat_zeros_natText _ n

theorem length_padded (hwidth : 0 < width) (h : n < Nat.pow 10 width) :
    (padded width n).length = width := by
  have hlength := Number.length_natText_le hwidth h
  rw [padded, List.length_append, List.length_replicate]
  omega

theorem padded_eq_cons (width n : Nat) :
    ∃ c cs, padded width n = c :: cs ∧ c.isDigit = true := by
  obtain ⟨c, cs, hcs⟩ := List.exists_cons_of_ne_nil
    (List.append_ne_nil_of_right_ne_nil _ (Number.natText_ne_nil n) : padded width n ≠ [])
  exact ⟨c, cs, hcs, isDigit_of_mem_padded (hcs ▸ List.mem_cons_self ..)⟩

/-! ## Digits in front of what is no digit -/

theorem takeDigits_append {limit : Nat} {digits rest : List Char}
    (hdigits : ∀ c ∈ digits, c.isDigit = true) (hfit : digits.length ≤ limit)
    (hrest : digits.length = limit ∨ rest.head?.all (fun c => !c.isDigit)) :
    takeDigits limit (digits ++ rest) = (digits, rest) := by
  have htake : ((digits ++ rest).take limit).takeWhile Char.isDigit = digits := by
    rw [List.take_append, List.take_of_length_le hfit,
      List.takeWhile_append_of_pos hdigits]
    refine List.append_right_eq_self.mpr ?_
    rcases hrest with hfull | hstop
    · rw [hfull, Nat.sub_self, List.take_zero, List.takeWhile_nil]
    · cases rest with
      | nil => rw [List.take_nil, List.takeWhile_nil]
      | cons c rest =>
        have hc : c.isDigit = false := by simpa using hstop
        cases limit - digits.length with
        | zero => rfl
        | succ room => rw [List.take_succ_cons, List.takeWhile_cons_of_neg (by simp [hc])]
  rw [takeDigits, htake, List.drop_left]

/-- Digits are read as far as they go, unless the limit ends them. -/
theorem scanNat_append {limit : Nat} {digits rest : List Char}
    (hdigits : ∀ c ∈ digits, c.isDigit = true) (hread : Number.readNat digits = some n)
    (hfit : digits.length ≤ limit)
    (hrest : digits.length = limit ∨ rest.head?.all (fun c => !c.isDigit)) :
    scanNat limit (digits ++ rest) = some (n, rest) := by
  rw [scanNat, takeDigits_append hdigits hfit hrest]
  exact congrArg (Option.map fun m => (m, rest)) hread

theorem trimStart_of_not_blank {c : Char} (h : Text.isBlank c = false) (cs : List Char) :
    Text.trimStart (c :: cs) = c :: cs := by
  rw [Text.trimStart, List.dropWhile_cons_of_neg (by simp [h])]

/-! ## The parts of a date -/

/-- A month or a day. -/
theorem scanField_padded (h : n < Nat.pow 10 2) (rest : List Char) :
    scanField (padded 2 n ++ rest) = some (n, rest) := by
  obtain ⟨c, cs, hcs, hc⟩ := padded_eq_cons 2 n
  have hlength := length_padded (by decide) h
  have htrim : Text.trimStart (padded 2 n ++ rest) = padded 2 n ++ rest := by
    rw [hcs, List.cons_append, trimStart_of_not_blank (Text.not_blank_of_isDigit hc)]
  rw [scanField, htrim]
  exact scanNat_append (fun _ => isDigit_of_mem_padded) (readNat_padded 2 n) (Nat.le_of_eq hlength)
    (.inl hlength)

/-- Digits behind a sign, up to a dash. -/
theorem scanNat_signed (n : Nat) (rest : List Char) :
    scanNat (padded 4 n ++ '-' :: rest).length (padded 4 n ++ '-' :: rest) =
      some (n, '-' :: rest) := by
  refine scanNat_append (fun _ => isDigit_of_mem_padded) (readNat_padded 4 n) ?_ (.inr rfl)
  rw [List.length_append]
  exact Nat.le_add_right _ _

theorem scanYear_yearText (year : Int) (rest : List Char) :
    scanYear (yearText year ++ '-' :: rest) = some (year, '-' :: rest) := by
  unfold yearText
  by_cases hplain : 0 ≤ year ∧ year ≤ 9999
  · obtain ⟨n, rfl⟩ := Int.eq_ofNat_of_zero_le hplain.1
    have hn : n < Nat.pow 10 4 := by
      have := hplain.2
      change n < 10000
      omega
    have hlength := length_padded (by decide) hn
    obtain ⟨c, cs, hcs, hc⟩ := padded_eq_cons 4 n
    have hscan : scanNat 4 (padded 4 n ++ '-' :: rest) = some (n, '-' :: rest) :=
      scanNat_append (fun _ => isDigit_of_mem_padded) (readNat_padded 4 n) (Nat.le_of_eq hlength)
        (.inl hlength)
    rw [if_pos hplain, Int.natAbs_natCast]
    rw [hcs, List.cons_append] at hscan ⊢
    rw [scanYear, trimStart_of_not_blank (Text.not_blank_of_isDigit hc)]
    -- The first digit is no sign.
    split
    · next heq => exact absurd ((List.cons.inj heq).1 ▸ hc) (by decide)
    · next heq => exact absurd ((List.cons.inj heq).1 ▸ hc) (by decide)
    · rw [hscan]
      rfl
  · rw [if_neg hplain]
    by_cases hneg : year < 0
    · have hyear : -(year.natAbs : Int) = year := by omega
      rw [if_pos hneg, List.cons_append, scanYear, trimStart_of_not_blank (by decide)]
      refine (congrArg (Option.map _) (scanNat_signed year.natAbs rest)).trans ?_
      exact congrArg (fun y => some (y, '-' :: rest)) hyear
    · have hyear : (year.natAbs : Int) = year := by omega
      rw [if_neg hneg, List.cons_append, scanYear, trimStart_of_not_blank (by decide)]
      refine (congrArg (Option.map _) (scanNat_signed year.natAbs rest)).trans ?_
      exact congrArg (fun y => some (y, '-' :: rest)) hyear

/-! ## A whole date -/

theorem ofParts?_parts (d : Date) : ofParts? d.year d.month d.day = some d := dif_pos d.valid

/-- A date reads back whatever may be skipped behind its numbers, as long as dashes are not. -/
theorem readWith_chars {gap : List Char → List Char} (hdash : ∀ rest, gap ('-' :: rest) = '-' :: rest)
    (hend : gap [] = []) (d : Date) : readWith gap d.chars = some d := by
  have hexpect : ∀ rest, expect '-' ('-' :: rest) = some rest :=
    fun rest => by rw [expect, if_pos rfl]
  have hday : scanField (padded 2 d.day) = some (d.day, []) := by
    simpa using scanField_padded d.day_lt []
  rw [readWith, chars, List.append_assoc, List.cons_append, scanYear_yearText]
  simp only [Option.bind_eq_bind, Option.bind_some, hdash, hexpect, scanField_padded d.month_lt,
    hday, hend]
  exact d.ofParts?_parts

/-- **A date reads back** as a filter value. -/
theorem read_chars (d : Date) : read d.chars = some d := readWith_chars (fun _ => rfl) rfl d

/-- **A date reads back** also where blanks are allowed around its parts. -/
theorem readSpaced_chars (d : Date) : readSpaced d.chars = some d :=
  readWith_chars (trimStart_of_not_blank (by decide)) rfl d

end Date

end ResourceApi
