import ResourceApi.Value

/-!
# Equality and order of values

The order of values is partial, and the only reason is NaN: two values in which it does not occur
are always comparable. Where values are comparable the order is what one expects: it does not depend
on the side on which a value stands, what is less is transitively less, and values are equal exactly
if they compare as equal, and then they compare alike with every third value. Equality is not an
equivalence, because NaN equals nothing, itself included.

## Main definitions

- `Value.hasNaN` — NaN occurs in a value, at any depth

## Main results

- `Value.compare?_swap` — the comparison from the other side
- `Value.equals_iff_compare?` — equality is what the comparison says it is
- `Value.compare?_congr`, `Value.compare?_trans` — equal values compare alike; less is transitive
- `Value.compare?_isSome` — without NaN values are comparable
-/

namespace ResourceApi

/-! ## Dates and timestamps -/

instance : Std.TransCmp Date.compare :=
  inferInstanceAs (Std.TransCmp (compareLex (compareOn Date.year)
    (compareLex (compareOn Date.month) (compareOn Date.day))))

instance : Std.LawfulEqCmp Date.compare where
  compare_self := Std.ReflCmp.compare_self
  eq_of_compare := by
    rintro ⟨year, month, day, _⟩ ⟨year', month', day', _⟩ h
    simp only [Date.compare, Ordering.then_eq_eq, Std.compare_eq_iff_eq] at h
    obtain ⟨rfl, rfl, rfl⟩ := h
    rfl

instance : Std.TransCmp fun a b : Timestamp => a.date.compare b.date where
  eq_swap := Std.OrientedCmp.eq_swap
  isLE_trans := Std.TransCmp.isLE_trans

instance : Std.TransCmp Timestamp.compare :=
  inferInstanceAs (Std.TransCmp (compareLex (fun a b => a.date.compare b.date)
    (compareLex (compareOn Timestamp.second) (compareOn Timestamp.nano))))

instance : Std.LawfulEqCmp Timestamp.compare where
  compare_self := Std.ReflCmp.compare_self
  eq_of_compare := by
    rintro ⟨date, second, nano⟩ ⟨date', second', nano'⟩ h
    simp only [Timestamp.compare, Ordering.then_eq_eq, Std.LawfulEqCmp.compare_eq_iff_eq] at h
    obtain ⟨rfl, rfl, rfl⟩ := h
    rfl

/-! ## Binary numbers -/

namespace Number.Binary

variable {f : Format} {x y z : Binary f}

theorem compare?_eq_some_iff {o : Ordering} : x.compare? y = some o ↔
    x.isNaN = false ∧ y.isNaN = false ∧ compare x.position y.position = o := by
  unfold compare?
  cases x.isNaN <;> cases y.isNaN <;> simp

theorem equals_iff_compare? : x.equals y = true ↔ x.compare? y = some .eq := by
  rw [compare?_eq_some_iff]
  simp [equals, and_assoc]

theorem compare?_swap (x y : Binary f) : y.compare? x = (x.compare? y).map Ordering.swap := by
  unfold compare?
  rw [Bool.or_comm]
  split
  · rfl
  · exact congrArg some Std.OrientedCmp.eq_swap

theorem compare?_congr (h : x.compare? y = some .eq) (z : Binary f) :
    x.compare? z = y.compare? z := by
  obtain ⟨hx, hy, hposition⟩ := compare?_eq_some_iff.mp h
  rw [compare?, compare?, hx, hy, Std.compare_eq_iff_eq.mp hposition]

theorem compare?_trans (hxy : x.compare? y = some .lt) (hyz : y.compare? z = some .lt) :
    x.compare? z = some .lt := by
  obtain ⟨hx, -, hxy⟩ := compare?_eq_some_iff.mp hxy
  obtain ⟨-, hz, hyz⟩ := compare?_eq_some_iff.mp hyz
  exact compare?_eq_some_iff.mpr ⟨hx, hz, Std.TransCmp.lt_trans hxy hyz⟩

end Number.Binary

namespace Value

/-! ## Both sides of a comparison -/

theorem compareAll?_cons_of_eq {a b : Value} (h : a.compare? b = some .eq) (as bs : List Value) :
    compareAll? (a :: as) (b :: bs) = compareAll? as bs := by
  rw [compareAll?, h]

theorem compareAll?_cons_of_ne {a b : Value} (h : a.compare? b ≠ some .eq) (as bs : List Value) :
    compareAll? (a :: as) (b :: bs) = a.compare? b := by
  rw [compareAll?]
  split
  · next heq => exact absurd heq h
  · rfl

/-- Lists compare as equal if their items do. -/
theorem compareAll?_cons_eq_iff {a b : Value} {as bs : List Value} :
    compareAll? (a :: as) (b :: bs) = some .eq ↔
      a.compare? b = some .eq ∧ compareAll? as bs = some .eq := by
  by_cases h : a.compare? b = some .eq
  · rw [compareAll?_cons_of_eq h, and_iff_right h]
  · rw [compareAll?_cons_of_ne h]
    exact ⟨fun heq => absurd heq h, fun heq => absurd heq.1 h⟩

mutual

/-- **The comparison from the other side.** -/
theorem compare?_swap (a b : Value) : b.compare? a = (a.compare? b).map Ordering.swap := by
  cases a with
  | text s =>
    cases b with
    | text t => exact congrArg some Std.OrientedCmp.eq_swap
    | _ => rfl
  | integer m =>
    cases b with
    | integer n => exact congrArg some Std.OrientedCmp.eq_swap
    | _ => rfl
  | float x =>
    cases b with
    | float y => exact x.compare?_swap y
    | _ => rfl
  | boolean p =>
    cases b with
    | boolean q => exact congrArg some Std.OrientedCmp.eq_swap
    | _ => rfl
  | date d =>
    cases b with
    | date e => exact congrArg some Std.OrientedCmp.eq_swap
    | _ => rfl
  | timestamp t =>
    cases b with
    | timestamp u => exact congrArg some Std.OrientedCmp.eq_swap
    | _ => rfl
  | list as =>
    cases b with
    | list bs => exact compareAll?_swap as bs
    | _ => rfl

theorem compareAll?_swap : ∀ as bs : List Value,
    compareAll? bs as = (compareAll? as bs).map Ordering.swap
  | [], [] => rfl
  | [], _ :: _ => rfl
  | _ :: _, [] => rfl
  | a :: as, b :: bs => by
    rw [compareAll?, compareAll?, compare?_swap a b]
    -- Only what the items do not decide is left to the rest of the lists.
    cases a.compare? b with
    | none => rfl
    | some o =>
      cases o with
      | eq => exact compareAll?_swap as bs
      | lt | gt => rfl

end

mutual

/-- **Equality is what the comparison says it is.** -/
theorem equals_iff_compare? (a b : Value) : a.equals b = true ↔ a.compare? b = some .eq := by
  cases a with
  | text s => cases b <;> simp [equals, compare?, rank]
  | integer m => cases b <;> simp [equals, compare?, rank]
  | boolean p => cases b <;> simp [equals, compare?, rank]
  | date d => cases b <;> simp [equals, compare?, rank]
  | timestamp t => cases b <;> simp [equals, compare?, rank]
  | float x =>
    cases b with
    | float y => exact Number.Binary.equals_iff_compare?
    | _ => simp [equals, compare?, rank]
  | list as =>
    cases b with
    | list bs => exact equalAll_iff_compareAll? as bs
    | _ => simp [equals, compare?, rank]

theorem equalAll_iff_compareAll? : ∀ as bs : List Value,
    equalAll as bs = true ↔ compareAll? as bs = some .eq
  | [], [] => by simp [equalAll, compareAll?]
  | [], _ :: _ => by simp [equalAll, compareAll?]
  | _ :: _, [] => by simp [equalAll, compareAll?]
  | a :: as, b :: bs => by
    rw [equalAll, Bool.and_eq_true, equals_iff_compare? a b, equalAll_iff_compareAll? as bs,
      compareAll?_cons_eq_iff]

end

/-- Equality of values is symmetric. -/
theorem equals_comm (a b : Value) : a.equals b = b.equals a := by
  rw [Bool.eq_iff_iff, equals_iff_compare?, equals_iff_compare?, compare?_swap a b]
  cases a.compare? b with
  | none => simp
  | some o => cases o <;> simp

/-! ## Three values -/

/-- Values of different types are ordered by type. -/
theorem compare?_of_rank_ne {a b : Value} (h : a.rank ≠ b.rank) :
    a.compare? b = some (compare a.rank b.rank) := by
  unfold compare?
  split
  -- Only the last equation is about values of two types.
  case h_8 => rfl
  all_goals exact absurd rfl h

theorem rank_le_of_lt {a b : Value} (h : a.compare? b = some .lt) : a.rank ≤ b.rank := by
  by_cases heq : a.rank = b.rank
  · exact Nat.le_of_eq heq
  · rw [compare?_of_rank_ne heq] at h
    exact Nat.le_of_lt (Nat.compare_eq_lt.mp (Option.some.inj h))

mutual

/-- **Equal values compare alike** with every value. -/
theorem compare?_congr (a b : Value) (h : a.compare? b = some .eq) (c : Value) :
    a.compare? c = b.compare? c := by
  -- Only numbers and lists can be equal and yet not the same.
  cases a with
  | text s =>
    cases b with
    | text t => rw [Std.compare_eq_iff_eq.mp (Option.some.inj h)]
    | _ => cases h
  | integer m =>
    cases b with
    | integer n => rw [Std.compare_eq_iff_eq.mp (Option.some.inj h)]
    | _ => cases h
  | boolean p =>
    cases b with
    | boolean q => rw [Std.compare_eq_iff_eq.mp (Option.some.inj h)]
    | _ => cases h
  | date d =>
    cases b with
    | date e => rw [Std.LawfulEqCmp.eq_of_compare (Option.some.inj h)]
    | _ => cases h
  | timestamp t =>
    cases b with
    | timestamp u => rw [Std.LawfulEqCmp.eq_of_compare (Option.some.inj h)]
    | _ => cases h
  | float x =>
    cases b with
    | float y =>
      cases c with
      | float z => exact Number.Binary.compare?_congr h z
      | _ => rfl
    | _ => cases h
  | list as =>
    cases b with
    | list bs =>
      cases c with
      | list cs => exact compareAll?_congr as bs h cs
      | _ => rfl
    | _ => cases h

theorem compareAll?_congr : ∀ as bs : List Value, compareAll? as bs = some .eq →
    ∀ cs, compareAll? as cs = compareAll? bs cs
  | [], [], _, _ => rfl
  | [], _ :: _, h, _ => nomatch h
  | _ :: _, [], h, _ => nomatch h
  | _ :: _, _ :: _, _, [] => rfl
  | a :: as, b :: bs, h, c :: cs => by
    obtain ⟨hab, hbs⟩ := compareAll?_cons_eq_iff.mp h
    rw [compareAll?, compareAll?, compare?_congr a b hab c, compareAll?_congr as bs hbs cs]

end

/-- Equal values compare alike on the other side, too. -/
theorem compare?_congr_right {a b : Value} (h : a.compare? b = some .eq) (c : Value) :
    c.compare? a = c.compare? b := by
  rw [compare?_swap a c, compare?_swap b c, compare?_congr a b h c]

/-- A list is less than another one if the first items that differ say so. -/
theorem compareAll?_cons_lt_iff {a b : Value} {as bs : List Value} :
    compareAll? (a :: as) (b :: bs) = some .lt ↔
      a.compare? b = some .lt ∨ (a.compare? b = some .eq ∧ compareAll? as bs = some .lt) := by
  by_cases h : a.compare? b = some .eq
  · rw [compareAll?_cons_of_eq h, h]
    simp
  · rw [compareAll?_cons_of_ne h]
    simp [h]

theorem some_lt_trans {α : Type} (cmp : α → α → Ordering) [Std.TransCmp cmp] {x y z : α}
    (hxy : some (cmp x y) = some .lt) (hyz : some (cmp y z) = some .lt) :
    some (cmp x z) = some .lt :=
  congrArg some (Std.TransCmp.lt_trans (Option.some.inj hxy) (Option.some.inj hyz))

mutual

/-- **Less is transitive.** -/
theorem compare?_trans (a b c : Value) (hab : a.compare? b = some .lt)
    (hbc : b.compare? c = some .lt) : a.compare? c = some .lt := by
  have hle := rank_le_of_lt hab
  have hle' := rank_le_of_lt hbc
  by_cases hac : a.rank = c.rank
  · -- The type in between is the same one, too.
    have hrank : a.rank = b.rank := by omega
    cases a with
    | text s =>
      cases b with
      | text t =>
        cases c with
        | text u => exact some_lt_trans compare hab hbc
        | _ => simp [rank] at hac
      | _ => simp [rank] at hrank
    | integer m =>
      cases b with
      | integer n =>
        cases c with
        | integer k => exact some_lt_trans compare hab hbc
        | _ => simp [rank] at hac
      | _ => simp [rank] at hrank
    | boolean p =>
      cases b with
      | boolean q =>
        cases c with
        | boolean r => exact some_lt_trans compare hab hbc
        | _ => simp [rank] at hac
      | _ => simp [rank] at hrank
    | date d =>
      cases b with
      | date e =>
        cases c with
        | date g => exact some_lt_trans Date.compare hab hbc
        | _ => simp [rank] at hac
      | _ => simp [rank] at hrank
    | timestamp t =>
      cases b with
      | timestamp u =>
        cases c with
        | timestamp v => exact some_lt_trans Timestamp.compare hab hbc
        | _ => simp [rank] at hac
      | _ => simp [rank] at hrank
    | float x =>
      cases b with
      | float y =>
        cases c with
        | float z => exact Number.Binary.compare?_trans hab hbc
        | _ => simp [rank] at hac
      | _ => simp [rank] at hrank
    | list as =>
      cases b with
      | list bs =>
        cases c with
        | list cs => exact compareAll?_trans as bs cs hab hbc
        | _ => simp [rank] at hac
      | _ => simp [rank] at hrank
  · rw [compare?_of_rank_ne hac]
    exact congrArg some (Nat.compare_eq_lt.mpr (by omega))

theorem compareAll?_trans : ∀ as bs cs : List Value, compareAll? as bs = some .lt →
    compareAll? bs cs = some .lt → compareAll? as cs = some .lt
  | _, [], [], _, h => nomatch h
  | [], _, _ :: _, _, _ => rfl
  | _ :: _, [], _ :: _, h, _ => nomatch h
  | _, _ :: _, [], _, h => nomatch h
  | a :: as, b :: bs, c :: cs, hab, hbc => by
    rw [compareAll?_cons_lt_iff] at hab hbc ⊢
    rcases hab with hab | ⟨hab, has⟩
    · rcases hbc with hbc | ⟨hbc, -⟩
      · exact .inl (compare?_trans a b c hab hbc)
      · exact .inl (compare?_congr_right hbc a ▸ hab)
    · rcases hbc with hbc | ⟨hbc, hbs⟩
      · exact .inl (compare?_congr a b hab c ▸ hbc)
      · exact .inr ⟨compare?_congr a b hab c ▸ hbc, compareAll?_trans as bs cs has hbs⟩

end

/-! ## NaN -/

mutual

/-- NaN occurs in a value, itself or as an item of a list. -/
def hasNaN : Value → Bool
  | .float x => x.isNaN
  | .list items => anyNaN items
  | _ => false

def anyNaN : List Value → Bool
  | [] => false
  | v :: vs => hasNaN v || anyNaN vs

end

mutual

/-- **Without NaN values are comparable.** -/
theorem compare?_isSome (a b : Value) (ha : a.hasNaN = false) (hb : b.hasNaN = false) :
    (a.compare? b).isSome := by
  cases a with
  | float x =>
    cases b with
    | float y =>
      have hx : x.isNaN = false := ha
      have hy : y.isNaN = false := hb
      rw [compare?, Number.Binary.compare?, hx, hy]
      rfl
    | _ => rfl
  | list as =>
    cases b with
    | list bs => exact compareAll?_isSome as bs ha hb
    | _ => rfl
  | _ => cases b <;> rfl

theorem compareAll?_isSome : ∀ as bs : List Value, anyNaN as = false → anyNaN bs = false →
    (compareAll? as bs).isSome
  | [], [], _, _ => rfl
  | [], _ :: _, _, _ => rfl
  | _ :: _, [], _, _ => rfl
  | a :: as, b :: bs, ha, hb => by
    rw [anyNaN, Bool.or_eq_false_iff] at ha hb
    by_cases h : a.compare? b = some .eq
    · rw [compareAll?_cons_of_eq h]
      exact compareAll?_isSome as bs ha.2 hb.2
    · rw [compareAll?_cons_of_ne h]
      exact compare?_isSome a b ha.1 hb.1

end

/-- What stands behind the first difference of two lists is not looked at, NaN or not. -/
example : compare? (.list [.integer 1, .float ⟨false, 0x7FF8000000000000⟩])
    (.list [.integer 2, .integer 0]) = some .lt := rfl

end Value

end ResourceApi
