import ResourceApi.Filter.Key
import ResourceApi.Proofs.Text.Pieces

/-!
# The grammar of filter keys

A key is the name of a field, or the name of a field and the token of an operator in brackets. No
name and no token holds a bracket, so a key is taken apart in one way only.

## Main definitions

- `Spells` — the keys that ask for an operator on a field

## Main results

- `readPair_eq_ok_iff` — a pair is read as the comparison that its key spells
-/

namespace ResourceApi.Filter

open Text

/-- A key asks for an operator on a field. Without an operator it asks for equality. -/
inductive Spells : String → String → Operator → Prop where
  /-- The name of a field. -/
  | bare {field : String} : isFieldName field.toList → Spells field field .eq
  /-- The name of a field, and a token in brackets. -/
  | bracketed {field : String} {op : Operator} : isFieldName field.toList →
      Spells (field ++ "[" ++ op.token ++ "]") field op

/-! ## Names and tokens hold no brackets -/

theorem isNamePart_of_isNameStart {c : Char} (h : isNameStart c) : isNamePart c := by
  simp only [isNameStart, isNamePart, Char.isAlphanum, Bool.or_eq_true] at h ⊢
  rcases h with h | h
  · exact .inl (.inl h)
  · exact .inr h

theorem isNamePart_of_mem_identifier {word : List Char} (hword : isIdentifier word) {c : Char}
    (hc : c ∈ word) : isNamePart c := by
  cases word with
  | nil => cases hword
  | cons first rest =>
    obtain ⟨hfirst, hrest⟩ := Bool.and_eq_true_iff.mp hword
    rcases List.mem_cons.mp hc with rfl | hc
    · exact isNamePart_of_isNameStart hfirst
    · exact List.all_eq_true.mp hrest c hc

/-- The characters of a field name are those of identifiers, and points. -/
theorem isNamePart_of_mem {name : List Char} (hname : isFieldName name) {c : Char}
    (hc : c ∈ name) : c = '.' ∨ isNamePart c := by
  rcases mem_piece_of_mem '.' hc with rfl | ⟨piece, hpiece, hmem⟩
  · exact .inl rfl
  · exact .inr (isNamePart_of_mem_identifier (List.all_eq_true.mp hname piece hpiece) hmem)

theorem not_mem_of_isFieldName {name : List Char} (hname : isFieldName name) : '[' ∉ name := by
  intro hmem
  rcases isNamePart_of_mem hname hmem with h | h
  · exact absurd h (by decide)
  · exact absurd h (by decide)

theorem Operator.token_free (op : Operator) :
    op.token.toList ≠ [] ∧ '[' ∉ op.token.toList ∧ ']' ∉ op.token.toList := by
  cases op <;> decide

theorem Operator.ofToken?_eq_some_iff {token : String} {op : Operator} :
    Operator.ofToken? token = some op ↔ op.token = token := by
  constructor
  · intro h
    exact beq_iff_eq.mp (List.find?_some (p := fun op : Operator => op.token == token) h)
  · rintro rfl
    cases op <;> rfl

/-! ## Taking a key apart -/

/-- A key without brackets is the name of a field. -/
theorem splitKey_eq_bare_iff {key field : List Char} :
    splitKey key = some (field, none) ↔ isFieldName key ∧ field = key := by
  constructor
  · intro h
    rw [splitKey] at h
    cases hkey : cut '[' key with
    | none =>
      obtain ⟨hname, rfl⟩ : isFieldName key ∧ key = field := by simpa [hkey] using h
      exact ⟨hname, rfl⟩
    | some parts =>
      rw [hkey] at h
      dsimp only at h
      split at h
      · split at h <;> simp at h
      · cases h
  · rintro ⟨hname, rfl⟩
    simp [splitKey, cut_eq_none_iff.mpr (not_mem_of_isFieldName hname), hname]

/-- A key with brackets is the name of a field and what the brackets hold. -/
theorem splitKey_eq_some_iff {key field inner : List Char} :
    splitKey key = some (field, some inner) ↔
      isFieldName field ∧ '[' ∉ inner ∧ ']' ∉ inner ∧ key = field ++ '[' :: (inner ++ [']']) := by
  constructor
  · intro h
    rw [splitKey] at h
    cases hkey : cut '[' key with
    | none =>
      rw [hkey] at h
      dsimp only at h
      split at h <;> cases h
    | some parts =>
      obtain ⟨front, rest⟩ := parts
      rw [hkey] at h
      cases hrest : cut ']' rest with
      | none => simp [hrest] at h
      | some parts =>
        obtain ⟨middle, back⟩ := parts
        cases back with
        | cons c back => simp [hrest] at h
        | nil =>
          obtain ⟨⟨hfield, hopen⟩, rfl, rfl⟩ : (isFieldName front ∧ '[' ∉ middle) ∧
              front = field ∧ middle = inner := by
            simpa [hrest] using h
          obtain ⟨hkey, -⟩ := cut_eq_some_iff.mp hkey
          obtain ⟨rfl, hclose⟩ := cut_eq_some_iff.mp hrest
          exact ⟨hfield, hopen, hclose, hkey⟩
  · rintro ⟨hfield, hopen, hclose, rfl⟩
    have hkey : cut '[' (field ++ '[' :: (inner ++ [']'])) = some (field, inner ++ [']']) :=
      cut_eq_some_iff.mpr ⟨rfl, not_mem_of_isFieldName hfield⟩
    have hrest : cut ']' (inner ++ [']']) = some (inner, []) := cut_eq_some_iff.mpr ⟨rfl, hclose⟩
    simp [splitKey, hkey, hrest, hfield, hopen]

/-- **Reading a pair**: the comparison is the one that its key spells, with the operand as it is. -/
theorem readPair_eq_ok_iff {key operand : String} {c : Comparison String} :
    readPair key operand = .ok c ↔ Spells key c.field c.operator ∧ c.operand = operand := by
  constructor
  · intro h
    unfold readPair at h
    cases hsplit : splitKey key.toList with
    | none => simp [hsplit] at h
    | some parts =>
      obtain ⟨field, inner⟩ := parts
      cases inner with
      | none =>
        obtain ⟨hname, rfl⟩ := splitKey_eq_bare_iff.mp hsplit
        obtain rfl : ⟨key, .eq, operand⟩ = c := by simpa [hsplit] using h
        exact ⟨.bare hname, rfl⟩
      | some inner =>
        obtain ⟨hfield, -, -, hkey⟩ := splitKey_eq_some_iff.mp hsplit
        cases inner with
        | nil => simp [hsplit] at h
        | cons first inner =>
          cases htoken : Operator.ofToken? (String.ofList (first :: inner)) with
          | none =>
            simp only [hsplit, htoken] at h
            cases h
          | some operator =>
            simp only [hsplit, htoken] at h
            obtain rfl := Except.ok.inj h
            have hspelled := Operator.ofToken?_eq_some_iff.mp htoken
            have heq : key = String.ofList field ++ "[" ++ operator.token ++ "]" := by
              rw [← String.toList_inj, hkey, hspelled]
              simp
            exact ⟨heq ▸ .bracketed (by simpa using hfield), rfl⟩
  · obtain ⟨field, operator, raw⟩ := c
    rintro ⟨hspells, rfl⟩
    cases hspells with
    | bare hfield =>
      have hsplit : splitKey field.toList = some (field.toList, none) :=
        splitKey_eq_bare_iff.mpr ⟨hfield, rfl⟩
      simp [readPair, hsplit]
    | bracketed hfield =>
      obtain ⟨hne, hopen, hclose⟩ := operator.token_free
      have hsplit : splitKey (field ++ "[" ++ operator.token ++ "]").toList =
          some (field.toList, some operator.token.toList) :=
        splitKey_eq_some_iff.mpr ⟨hfield, hopen, hclose, by simp⟩
      obtain ⟨first, rest, htoken⟩ := List.exists_cons_of_ne_nil hne
      have hoperator : Operator.ofToken? (String.ofList (first :: rest)) = some operator := by
        rw [← htoken, String.ofList_toList]
        exact Operator.ofToken?_eq_some_iff.mpr rfl
      rw [htoken] at hsplit
      simp only [readPair, hsplit, hoperator, String.ofList_toList]

end ResourceApi.Filter
