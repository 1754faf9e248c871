import ResourceApi.Filter.Satisfies
import ResourceApi.Proofs.Value

/-!
# The operators of filters

What the operators say of one field and one operand. A present field is less than the operand, equal
to it or greater, and at most one of the three; the other operators, `like` aside, are put together
from these answers. None of the three is the answer only where NaN is involved.

## Main definitions

- `Filter.Passes` — a field passes an operator with an operand
- `Filter.Operator.asking` — the operator that asks for an answer of the comparison

## Main results

- `Filter.passes_asking_iff` — the operator that asks for an answer is passed if it is the answer
- `Filter.operators_agree` — the laws of the order of values, and of the operators that rest on it
-/

namespace ResourceApi.Filter

/-- A field passes an operator with an operand: the comparison, as a filter of its own, is
satisfied. -/
def Passes (fields : String → Option Value) (field : String) (op : Operator)
    (operand : Value) : Prop :=
  Expression.satisfiedBy fields (.comparison ⟨field, op, operand⟩) = true

/-- The operator that asks for an answer of the comparison. -/
def Operator.asking : Ordering → Operator
  | .lt => .lt
  | .eq => .eq
  | .gt => .gt

variable {fields : String → Option Value} {field : String} {operand : Value}

/-- An absent field passes nothing. -/
theorem passes_iff {op : Operator} : Passes fields field op operand ↔
    ∃ actual, fields field = some actual ∧ op.test actual operand = true := by
  rw [Passes, Expression.satisfiedBy, Expression.holds, Comparison.satisfiedBy]
  cases fields field with
  | none => simp
  | some actual => simp

theorem passes_asking_iff {o : Ordering} : Passes fields field (.asking o) operand ↔
    ∃ actual, fields field = some actual ∧ actual.compare? operand = some o := by
  rw [passes_iff]
  refine exists_congr fun actual => and_congr_right fun _ => ?_
  cases o with
  | lt => exact beq_iff_eq
  | gt => exact beq_iff_eq
  | eq => exact Value.equals_iff_compare? actual operand

/-- At most one answer is the right one. -/
theorem eq_of_passes_asking (o o' : Ordering) (h : Passes fields field (.asking o) operand)
    (h' : Passes fields field (.asking o') operand) : o = o' := by
  obtain ⟨actual, hactual, ho⟩ := passes_asking_iff.mp h
  obtain ⟨actual', hactual', ho'⟩ := passes_asking_iff.mp h'
  obtain rfl : actual = actual' := Option.some.inj (hactual.symm.trans hactual')
  exact Option.some.inj (ho.symm.trans ho')

/-- One answer is the right one if the field is present and NaN is not involved. -/
theorem exists_passes_asking {actual : Value} (hactual : fields field = some actual)
    (hfield : actual.hasNaN = false) (hoperand : operand.hasNaN = false) :
    ∃ o, Passes fields field (.asking o) operand := by
  have hsome := Value.compare?_isSome actual operand hfield hoperand
  obtain ⟨o, ho⟩ := Option.isSome_iff_exists.mp hsome
  exact ⟨o, passes_asking_iff.mpr ⟨actual, hactual, ho⟩⟩

/-- An operator that takes two answers is passed where one of the two is the right one. -/
theorem passes_either_iff {op : Operator} (o o' : Ordering)
    (htest : ∀ actual : Value, op.test actual operand = true ↔
      actual.compare? operand = some o ∨ actual.compare? operand = some o') :
    Passes fields field op operand ↔
      Passes fields field (.asking o) operand ∨ Passes fields field (.asking o') operand := by
  rw [passes_iff, passes_asking_iff, passes_asking_iff, ← exists_or]
  refine exists_congr fun actual => ?_
  rw [htest, and_or_left]

theorem passes_gte_iff : Passes fields field .gte operand ↔
    Passes fields field .gt operand ∨ Passes fields field .eq operand :=
  passes_either_iff .gt .eq fun actual => by simp [Operator.test]

theorem passes_lte_iff : Passes fields field .lte operand ↔
    Passes fields field .lt operand ∨ Passes fields field .eq operand :=
  passes_either_iff .lt .eq fun actual => by simp [Operator.test]

theorem passes_ne_iff : Passes fields field .ne operand ↔
    (fields field).isSome ∧ ¬ Passes fields field .eq operand := by
  rw [passes_iff, passes_iff]
  cases fields field with
  | none => simp
  | some actual => simp [Operator.test]

/-- Each item is compared from its own side; that makes no difference. -/
theorem passes_among_iff {items : List Value} : Passes fields field .among (.list items) ↔
    ∃ item ∈ items, Passes fields field .eq item := by
  constructor
  · intro h
    obtain ⟨actual, hactual, htest⟩ := passes_iff.mp h
    obtain ⟨item, hitem, hequal⟩ := List.any_eq_true.mp htest
    exact ⟨item, hitem,
      passes_iff.mpr ⟨actual, hactual, (Value.equals_comm actual item).trans hequal⟩⟩
  · rintro ⟨item, hitem, h⟩
    obtain ⟨actual, hactual, hequal⟩ := passes_iff.mp h
    exact passes_iff.mpr ⟨actual, hactual,
      List.any_eq_true.mpr ⟨item, hitem, (Value.equals_comm item actual).trans hequal⟩⟩

/-- **The operators agree with each other**, for they rest on one order of values.

* Two values are equal exactly if they compare as equal, and compare the other way round from the
  other side. They do not compare at all only if NaN occurs in one of them.
* Less is transitive, and equal values compare alike with every third one, on either side.
* A field passes `gte` and `lte` where it passes the strict operator or `eq`, and `ne` where it is
  present and does not pass `eq`. It passes at most one of `lt`, `eq` and `gt`, and one of them if
  it is present and NaN occurs neither in it nor in the operand.
* It passes `in` with a list exactly if it passes `eq` with an item. -/
theorem operators_agree :
    (∀ a b : Value,
      (a.equals b = true ↔ a.compare? b = some .eq) ∧
      b.compare? a = (a.compare? b).map Ordering.swap ∧
      (a.compare? b = none → a.hasNaN = true ∨ b.hasNaN = true)) ∧
    (∀ a b c : Value,
      (a.compare? b = some .lt → b.compare? c = some .lt → a.compare? c = some .lt) ∧
      (a.equals b = true → a.compare? c = b.compare? c ∧ c.compare? a = c.compare? b)) ∧
    ∀ (fields : String → Option Value) (field : String),
      (∀ operand,
        (Passes fields field .gte operand ↔
          Passes fields field .gt operand ∨ Passes fields field .eq operand) ∧
        (Passes fields field .lte operand ↔
          Passes fields field .lt operand ∨ Passes fields field .eq operand) ∧
        (Passes fields field .ne operand ↔
          (fields field).isSome ∧ ¬ Passes fields field .eq operand) ∧
        ¬ (Passes fields field .lt operand ∧ Passes fields field .eq operand) ∧
        ¬ (Passes fields field .lt operand ∧ Passes fields field .gt operand) ∧
        ¬ (Passes fields field .eq operand ∧ Passes fields field .gt operand) ∧
        ∀ actual, fields field = some actual → actual.hasNaN = false → operand.hasNaN = false →
          Passes fields field .lt operand ∨ Passes fields field .eq operand ∨
            Passes fields field .gt operand) ∧
      ∀ items, Passes fields field .among (.list items) ↔
        ∃ item ∈ items, Passes fields field .eq item := by
  refine ⟨fun a b => ⟨a.equals_iff_compare? b, a.compare?_swap b, fun hnone => ?_⟩,
    fun a b c => ⟨a.compare?_trans b c, fun hequal => ?_⟩, fun fields field => ⟨?_, ?_⟩⟩
  · cases ha : a.hasNaN with
    | true => exact .inl rfl
    | false =>
      cases hb : b.hasNaN with
      | true => exact .inr rfl
      | false =>
        have hsome := a.compare?_isSome b ha hb
        rw [hnone] at hsome
        cases hsome
  · have heq : a.compare? b = some .eq := (a.equals_iff_compare? b).mp hequal
    exact ⟨a.compare?_congr b heq c, Value.compare?_congr_right heq c⟩
  · intro operand
    refine ⟨passes_gte_iff, passes_lte_iff, passes_ne_iff, ?_, ?_, ?_, ?_⟩
    · rintro ⟨hlt, heq⟩
      exact nomatch eq_of_passes_asking .lt .eq hlt heq
    · rintro ⟨hlt, hgt⟩
      exact nomatch eq_of_passes_asking .lt .gt hlt hgt
    · rintro ⟨heq, hgt⟩
      exact nomatch eq_of_passes_asking .eq .gt heq hgt
    · intro actual hactual hfield hoperand
      obtain ⟨o, ho⟩ := exists_passes_asking hactual hfield hoperand
      cases o with
      | lt => exact .inl ho
      | eq => exact .inr (.inl ho)
      | gt => exact .inr (.inr ho)
  · intro items
    exact passes_among_iff

end ResourceApi.Filter
