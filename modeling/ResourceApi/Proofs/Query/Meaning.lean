import ResourceApi.Proofs.Filter.Keys
import ResourceApi.Proofs.Filter.Patterns
import ResourceApi.Proofs.Reading
import ResourceApi.Proofs.Value
import ResourceApi.Query.Build

/-!
# What a pair of a query string means

The meaning of one pair, told by itself: the key spells an operator on a field, the field is
present, and its value meets the operator with the operand read as a literal of the field's type.
The comparison that the pair is read as has this meaning.

## Main definitions

- `Filter.Operator.Meets` — a value meets an operator with an operand
- `Query.Holds` — a pair holds of the fields of an entity

## Main results

- `Query.satisfiedBy_iff_holds` — a comparison is satisfied where the pair it was read from holds
-/

namespace ResourceApi

open ResourceApi.Filter

/-- A value meets an operator, given the text of the operand and the type to read it as. -/
def Filter.Operator.Meets (type : FieldType) (raw : String) (actual : Value) : Operator → Prop
  | .eq => ∃ operand, Value.read type raw = some operand ∧ actual.equals operand
  | .ne => ∃ operand, Value.read type raw = some operand ∧ ¬ actual.equals operand
  | .gt => ∃ operand, Value.read type raw = some operand ∧ actual.compare? operand = some .gt
  | .gte => ∃ operand, Value.read type raw = some operand ∧
      (actual.compare? operand = some .gt ∨ actual.compare? operand = some .eq)
  | .lt => ∃ operand, Value.read type raw = some operand ∧ actual.compare? operand = some .lt
  | .lte => ∃ operand, Value.read type raw = some operand ∧
      (actual.compare? operand = some .lt ∨ actual.compare? operand = some .eq)
  | .like => ∃ text, actual = .text text ∧ Fits raw.toList text.toList
  | .among => ∃ item operand, Text.IsPiece ',' raw.toList item ∧
      Value.read type (String.ofList item) = some operand ∧ actual.equals operand

namespace Query

/-- A pair holds of the fields of an entity. An absent field is met by nothing. -/
def Holds (schema : Schema) (fields : String → Option Value) (pair : String × String) : Prop :=
  ∃ field op type actual, Spells pair.1 field op ∧ schema.type? field = some type ∧
    fields field = some actual ∧ op.Meets type pair.2 actual

/-! ## Operands -/

theorem readValue_eq_ok_iff {field raw : String} {type : FieldType} {value : Value} :
    readValue field type raw = .ok value ↔ Value.read type raw = some value := by
  unfold readValue
  cases Value.read type raw <;> simp

theorem readItem_eq_ok_iff {field raw : String} {type : FieldType} {item : List Char}
    {value : Value} :
    (if item.isEmpty then .error (.invalidValue field raw type)
      else readValue field type (String.ofList item)) = .ok value ↔
      item ≠ [] ∧ Value.read type (String.ofList item) = some value := by
  cases item with
  | nil => simp
  | cons c item => simp [readValue_eq_ok_iff]

/-- The items of a membership test are what its pieces stand for. -/
theorem mem_items_iff {field raw : String} {type : FieldType} {items : List Value}
    (h : readItems field type raw = .ok items) {value : Value} :
    value ∈ items ↔ ∃ item, Text.IsPiece ',' raw.toList item ∧
      Value.read type (String.ofList item) = some value := by
  rw [mem_of_mapM_ok h]
  constructor
  · rintro ⟨item, hitem, hread⟩
    exact ⟨item, Text.mem_pieces_iff.mp hitem, (readItem_eq_ok_iff.mp hread).2⟩
  · rintro ⟨item, hpiece, hread⟩
    have hitem := Text.mem_pieces_iff.mpr hpiece
    -- An empty piece would have spoiled the whole operand.
    obtain ⟨found, -, hfound⟩ := ok_of_mapM_ok h hitem
    exact ⟨item, hitem, readItem_eq_ok_iff.mpr ⟨(readItem_eq_ok_iff.mp hfound).1, hread⟩⟩

/-! ## Comparisons -/

theorem resolve_eq_ok_iff {schema : Schema} {c : Comparison String} {r : Comparison Value} :
    resolve schema c = .ok r ↔ ∃ type operand, schema.type? c.field = some type ∧
      c.operator.appliesTo type ∧ readOperand c.field type c.operator c.operand = .ok operand ∧
      r = ⟨c.field, c.operator, operand⟩ := by
  unfold resolve
  cases schema.type? c.field with
  | none => simp
  | some type =>
    by_cases happlies : c.operator.appliesTo type
    · dsimp only
      rw [if_pos happlies, bind_eq_ok_iff]
      constructor
      · rintro ⟨operand, hread, h⟩
        exact ⟨type, operand, rfl, happlies, hread, (Except.ok.inj h).symm⟩
      · rintro ⟨type', operand, htype, -, hread, rfl⟩
        obtain rfl := Option.some.inj htype
        exact ⟨operand, hread, rfl⟩
    · simp [happlies]

/-- A value passes the test of an operator where it meets the operator. -/
theorem test_iff_meets {op : Operator} {field raw : String} {type : FieldType} {operand : Value}
    (happlies : op.appliesTo type) (hread : readOperand field type op raw = .ok operand)
    (actual : Value) : op.test actual operand ↔ op.Meets type raw actual := by
  cases op with
  | among =>
    obtain ⟨items, hitems, rfl⟩ : ∃ items, readItems field type raw = .ok items ∧
        Value.list items = operand := map_eq_ok_iff.mp hread
    simp only [Operator.test, Operator.Meets, List.any_eq_true, mem_items_iff hitems]
    constructor
    · rintro ⟨value, ⟨item, hpiece, hvalue⟩, hequal⟩
      exact ⟨item, value, hpiece, hvalue, Value.equals_comm value actual ▸ hequal⟩
    · rintro ⟨item, value, hpiece, hvalue, hequal⟩
      exact ⟨value, ⟨item, hpiece, hvalue⟩, Value.equals_comm actual value ▸ hequal⟩
  | like =>
    -- Patterns apply to texts only, and every text is a literal.
    obtain rfl : type = .text := by simpa [Operator.appliesTo] using happlies
    obtain rfl : Value.text raw = operand := Except.ok.inj hread
    cases actual <;> simp [Operator.test, Operator.Meets, like_iff]
  | _ =>
    have hvalue : Value.read type raw = some operand := readValue_eq_ok_iff.mp hread
    simp [Operator.test, Operator.Meets, hvalue]

/-- **The meaning of a comparison** is that of the pair it was read from. -/
theorem satisfiedBy_iff_holds {schema : Schema} {pair : String × String} {c : Comparison String}
    {r : Comparison Value} (hread : readPair pair.1 pair.2 = .ok c)
    (hresolve : resolve schema c = .ok r) (fields : String → Option Value) :
    r.satisfiedBy fields ↔ Holds schema fields pair := by
  obtain ⟨hspells, hraw⟩ := readPair_eq_ok_iff.mp hread
  obtain ⟨type, operand, htype, happlies, hoperand, rfl⟩ := resolve_eq_ok_iff.mp hresolve
  rw [hraw] at hoperand
  have hmeets := test_iff_meets happlies hoperand
  constructor
  · intro h
    rw [Comparison.satisfiedBy] at h
    cases hactual : fields c.field with
    | none => simp [hactual] at h
    | some actual =>
      simp only [hactual] at h
      exact ⟨c.field, c.operator, type, actual, hspells, htype, hactual, (hmeets actual).mp h⟩
  · rintro ⟨field, op, type', actual, hspells', htype', hactual, hmet⟩
    -- A key spells one field and one operator only.
    obtain rfl : ⟨field, op, pair.2⟩ = c :=
      Except.ok.inj ((readPair_eq_ok_iff.mpr ⟨hspells', rfl⟩).symm.trans hread)
    obtain rfl : type' = type := Option.some.inj (htype'.symm.trans htype)
    simp only [Comparison.satisfiedBy, hactual]
    exact (hmeets actual).mpr hmet

end Query

end ResourceApi
