import ResourceApi.Proofs.Text.Pieces

/-!
# Texts told apart from what follows them

A writer is self-delimiting if the text of a value ends where it ends, whatever stands behind it.
Then values that are written one behind the other can be told apart again. A text that ends with a
character it does not hold is of this kind, and so are an optional text in front of something that
it cannot be taken for, and any number of texts in front of something that none of them can be taken
for.

## Main definitions

- `SelfDelimiting` — a writer whose texts end where they end
- `Apart` — two writers whose texts cannot be taken for each other

## Main results

- `SelfDelimiting.before` — texts in front of a character that they do not hold
- `SelfDelimiting.optional`, `SelfDelimiting.many` — optional texts and several texts
- `SelfDelimiting.flatMap_injective` — texts without anything behind them
-/

namespace ResourceApi.Text

variable {α β : Type} {write : α → List Char} {other : β → List Char}

/-- No text of the writer can be taken for that of another value, whatever stands behind the two. -/
def SelfDelimiting (write : α → List Char) : Prop :=
  ∀ ⦃a b r s⦄, write a ++ r = write b ++ s → a = b ∧ r = s

/-- No text of the one writer can be taken for one of the other, whatever stands behind the two. -/
def Apart (write : α → List Char) (other : β → List Char) : Prop :=
  ∀ a b r s, write a ++ r ≠ other b ++ s

/-- Texts differ if they start differently, whatever stands behind. -/
theorem append_ne_append {front front' : List Char} (h : ¬ front <+: front')
    (h' : ¬ front' <+: front) (r s : List Char) : front ++ r ≠ front' ++ s := by
  intro heq
  have hfront : front <+: front' ++ s := heq ▸ List.prefix_append front r
  exact (List.prefix_or_prefix_of_prefix hfront (List.prefix_append front' s)).elim h h'

namespace SelfDelimiting

theorem injective (h : SelfDelimiting write) : Function.Injective write := fun _ _ heq =>
  (h (congrArg (· ++ []) heq)).1

/-- A reader that takes back what is written shows where it ends. -/
theorem of_read {read : List Char → Option (α × List Char)}
    (h : ∀ a r, read (write a ++ r) = some (a, r)) : SelfDelimiting write := by
  intro a b r s heq
  have hread : some (a, r) = some (b, s) := (h a r).symm.trans (heq ▸ h b s)
  exact Prod.mk.inj (Option.some.inj hread)

/-- A text ends in front of the first character that it does not hold. -/
theorem before {stop : Char} (hinj : Function.Injective write) (hfree : ∀ a, stop ∉ write a)
    (tail : List Char) : SelfDelimiting fun a => write a ++ stop :: tail := by
  intro a b r s heq
  rw [List.append_assoc, List.append_assoc, List.cons_append, List.cons_append] at heq
  have ha : cut stop (write a ++ stop :: (tail ++ r)) = some (write a, tail ++ r) :=
    cut_eq_some_iff.mpr ⟨rfl, hfree a⟩
  have hb : cut stop (write a ++ stop :: (tail ++ r)) = some (write b, tail ++ s) :=
    cut_eq_some_iff.mpr ⟨heq, hfree b⟩
  obtain ⟨htext, hrest⟩ := Prod.mk.inj (Option.some.inj (ha.symm.trans hb))
  exact ⟨hinj htext, List.append_cancel_left hrest⟩

theorem behind (h : SelfDelimiting write) (front : List Char) :
    SelfDelimiting fun a => front ++ write a := by
  intro a b r s heq
  rw [List.append_assoc, List.append_assoc] at heq
  exact h (List.append_cancel_left heq)

/-- A text that may be there, in front of one that is. -/
theorem optional (h : SelfDelimiting write) (hother : SelfDelimiting other)
    (hapart : Apart write other) :
    SelfDelimiting fun p : Option α × β => p.1.elim [] write ++ other p.2 := by
  rintro ⟨a, x⟩ ⟨b, y⟩ r s heq
  rw [List.append_assoc, List.append_assoc] at heq
  cases a with
  | none =>
    cases b with
    | none =>
      obtain ⟨rfl, hrest⟩ := hother heq
      exact ⟨rfl, hrest⟩
    | some b => exact absurd heq.symm (hapart b x _ _)
  | some a =>
    cases b with
    | none => exact absurd heq (hapart a y _ _)
    | some b =>
      obtain ⟨rfl, htail⟩ := h heq
      obtain ⟨rfl, hrest⟩ := hother htail
      exact ⟨rfl, hrest⟩

/-- Any number of texts in front of an end, by induction on the one list of values. -/
theorem many (h : SelfDelimiting write) {last : List Char}
    (hapart : Apart write fun _ : Unit => last) :
    SelfDelimiting fun values : List α => values.flatMap write ++ last := by
  intro values
  induction values with
  | nil =>
    rintro (_ | ⟨b, others⟩) r s heq
    · exact ⟨rfl, List.append_cancel_left heq⟩
    · dsimp only at heq
      rw [List.flatMap_nil, List.nil_append, List.flatMap_cons, List.append_assoc,
        List.append_assoc] at heq
      exact absurd heq.symm (hapart b () _ _)
  | cons a values ih =>
    rintro (_ | ⟨b, others⟩) r s heq
    · dsimp only at heq
      rw [List.flatMap_nil, List.nil_append, List.flatMap_cons, List.append_assoc,
        List.append_assoc] at heq
      exact absurd heq (hapart a () _ _)
    · dsimp only at heq
      rw [List.flatMap_cons, List.flatMap_cons, List.append_assoc, List.append_assoc,
        List.append_assoc, List.append_assoc] at heq
      obtain ⟨rfl, htail⟩ := h heq
      rw [← List.append_assoc, ← List.append_assoc] at htail
      obtain ⟨rfl, hrest⟩ := ih htail
      exact ⟨rfl, hrest⟩

/-- Texts without anything behind them are told apart if none of them is empty. -/
theorem flatMap_injective (h : SelfDelimiting write) (hne : ∀ a, write a ≠ []) :
    Function.Injective fun values : List α => values.flatMap write := by
  intro values
  induction values with
  | nil =>
    rintro (_ | ⟨b, others⟩) heq
    · rfl
    · have hb := (List.append_eq_nil_iff.mp heq.symm).1
      exact absurd hb (hne b)
  | cons a values ih =>
    rintro (_ | ⟨b, others⟩) heq
    · have ha := (List.append_eq_nil_iff.mp heq).1
      exact absurd ha (hne a)
    · dsimp only at heq
      rw [List.flatMap_cons, List.flatMap_cons] at heq
      obtain ⟨rfl, htail⟩ := h heq
      rw [ih htail]

end SelfDelimiting

end ResourceApi.Text
