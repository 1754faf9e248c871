import ResourceApi.Proofs.Json.Node
import ResourceApi.Proofs.Number.Digits
import ResourceApi.Proofs.Text.Trimming

/-!
# Values read back from their trees

The trees of texts and integers are well formed, and so are the objects made of them; asked for its
value, such a tree gives the one that it was made of.

## Main definitions

- `Node.wording?` — the text that a reader sees in a tree

## Main results

- `Node.isNumeral_intText` — integers are numerals
- `Node.wellFormed_ofMembers` — objects made of well-formed trees
- `Node.integer?_ofInt`, `Node.text?_ofText` — the values
- `Node.wording?_ofInt`, `Node.wording?_boolean`, `Node.wording?_ofText` — their wordings
-/

namespace ResourceApi.Json

namespace Node

/-! ## Numbers -/

theorem ascii_toNat {c : Char} (h : c.toNat < 256) : (ascii c).toNat = c.toNat := by
  rw [ascii, UInt8.toNat_ofNat', Nat.mod_eq_of_lt h]

theorem isDigit_ascii {c : Char} (h : c.isDigit = true) : isDigit (ascii c) = true := by
  have hc := Text.toNat_of_isDigit h
  have hascii : (ascii c).toNat = c.toNat := ascii_toNat (by omega)
  simp only [isDigit, Bool.and_eq_true, decide_eq_true_eq, UInt8.le_iff_toNat_le, hascii]
  exact hc

/-- Nothing that may follow a number makes it longer. -/
theorem Behind.ends {rest : Bytes} (h : Behind rest) :
    rest.takeWhile isDigit = [] ∧ rest.dropWhile isDigit = rest ∧
      scanFraction rest = some ([], rest) ∧ scanExponent rest = some ([], rest) := by
  cases h <;> exact ⟨rfl, rfl, rfl, rfl⟩

/-- The digits of a natural number are a run of digits that starts with no zero too many. -/
theorem scanWhole_natText (n : Nat) {rest : Bytes} (hrest : Behind rest) :
    scanWhole ((Number.natText n).map ascii ++ rest) = some ((Number.natText n).map ascii, rest) := by
  have hdigits : ∀ b ∈ (Number.natText n).map ascii, isDigit b = true := by
    intro b hb
    obtain ⟨c, hc, rfl⟩ := List.mem_map.mp hb
    exact isDigit_ascii (Number.isDigit_of_mem_natText hc)
  obtain ⟨htake, hdrop, -, -⟩ := hrest.ends
  rw [scanWhole, List.takeWhile_append_of_pos hdigits, List.dropWhile_append_of_pos hdigits,
    htake, hdrop, List.append_nil]
  obtain ⟨c, cs, hcs⟩ := List.exists_cons_of_ne_nil (Number.natText_ne_nil n)
  split
  · next heq =>
    rw [hcs, List.map_cons] at heq
    cases heq
  · next b bs heq =>
    rw [hcs, List.map_cons] at heq
    have hpositive : 0 < n := by
      refine Nat.pos_of_ne_zero ?_
      rintro rfl
      rw [Number.natText_zero] at hcs
      obtain ⟨-, rfl⟩ := List.cons.inj hcs
      cases (List.cons.inj heq).2
    have hc := Text.toNat_of_isDigit (Number.isDigit_of_mem_natText (hcs ▸ List.mem_cons_self ..))
    have hzero : c = '0' := by
      have hbyte : (ascii c).toNat = 48 := congrArg UInt8.toNat (List.cons.inj heq).1
      rw [ascii_toNat (by omega)] at hbyte
      exact Char.toNat_inj.mp hbyte
    have hfirst := Number.head?_natText hpositive
    rw [hcs, hzero] at hfirst
    exact absurd rfl hfirst
  · rfl

theorem scanMagnitude_natText (n : Nat) {rest : Bytes} (hrest : Behind rest) :
    scanMagnitude ((Number.natText n).map ascii ++ rest) =
      some ((Number.natText n).map ascii, rest) := by
  obtain ⟨-, -, hfraction, hexponent⟩ := hrest.ends
  rw [scanMagnitude, scanWhole_natText n hrest]
  simp only [Option.bind_eq_bind, Option.bind_some, hfraction, hexponent, List.append_nil]

theorem isNumeral_intText (n : Int) : IsNumeral ((Number.intText n).map ascii) := by
  intro rest hrest
  cases n with
  | ofNat n =>
    obtain ⟨c, cs, hcs⟩ := List.exists_cons_of_ne_nil (Number.natText_ne_nil n)
    have hc := Text.toNat_of_isDigit (Number.isDigit_of_mem_natText (hcs ▸ List.mem_cons_self ..))
    have hscan := scanMagnitude_natText n hrest
    have hsign : ascii c ≠ 0x2D := by
      intro heq
      have hbyte : (ascii c).toNat = 45 := congrArg UInt8.toNat heq
      rw [ascii_toNat (by omega)] at hbyte
      omega
    rw [Number.intText, hcs, List.map_cons, List.cons_append] at *
    rw [scanNumber]
    · exact hscan
    · exact fun rest' heq => hsign (List.cons.inj heq).1
  | negSucc n =>
    rw [Number.intText, List.map_cons, List.cons_append]
    exact congrArg (consume [0x2D]) (scanMagnitude_natText (n + 1) hrest)

/-! ## Values -/

theorem wellFormed_ofInt (n : Int) : (ofInt n).WellFormed := .number (isNumeral_intText n)

theorem wellFormed_ofText (s : String) : (ofText s).WellFormed := .text (scan_escape _)

theorem wellFormed_ofMembers {members : List (String × Node)}
    (h : ∀ member ∈ members, member.2.WellFormed) : (ofMembers members).WellFormed := by
  refine .object (fun member hmem => ?_) (fun member hmem => ?_)
  · obtain ⟨source, -, rfl⟩ := List.mem_map.mp hmem
    exact scan_escape _
  · obtain ⟨source, hsource, rfl⟩ := List.mem_map.mp hmem
    exact h source hsource

theorem text?_ofText (s : String) : (ofText s).text? = some s := decode_escape s

theorem map_char_ascii {cs : List Char} (h : ∀ c ∈ cs, c.toNat < 256) :
    ((cs.map ascii).map fun b => Char.ofNat b.toNat) = cs := by
  rw [List.map_map]
  refine (List.map_congr_left fun c hc => ?_).trans (List.map_id cs)
  exact (congrArg Char.ofNat (ascii_toNat (h c hc))).trans (Char.ofNat_toNat c)

theorem ascii_of_mem_intText {n : Int} {c : Char} (h : c ∈ Number.intText n) : c.toNat < 128 := by
  rcases Number.eq_or_isDigit_of_mem_intText h with rfl | hdigit
  · decide
  · have := Text.toNat_of_isDigit hdigit
    omega

/-- **An integer of 64 bits** reads back from its tree. -/
theorem integer?_ofInt {n : Int} (hleast : Number.minInt64 ≤ n) (hgreatest : n ≤ Number.maxInt64) :
    (ofInt n).integer? = some n := by
  have hchars : ∀ c ∈ Number.intText n, c.toNat < 256 := fun c hc =>
    Nat.lt_trans (ascii_of_mem_intText hc) (by decide)
  -- No integer is written as minus zero.
  have hzero : (Number.intText n == ['-', '0']) = false := by
    refine beq_eq_false_iff_ne.mpr fun heq => ?_
    cases n with
    | ofNat n => exact Number.natText_ne_cons (by decide) _ heq
    | negSucc n =>
      have hfirst := Number.head?_natText (Nat.succ_pos n)
      rw [(List.cons.inj heq).2] at hfirst
      exact hfirst rfl
  unfold ofInt integer?
  dsimp only
  rw [map_char_ascii hchars, hzero]
  exact Number.readInt64_intText hleast hgreatest

/-! ## Wordings -/

/-- The text that a reader sees in a tree: a text without its quotes and escapes, anything else as it
is written. -/
def wording? : Node → Option String
  | .text raw => decode raw
  | node => Text.ofUtf8? node.bytes

theorem wording?_ofText (s : String) : (ofText s).wording? = some s := decode_escape s

theorem wording?_ofInt (n : Int) : (ofInt n).wording? = some (Number.decimal n) := by
  have hbytes : (ofInt n).bytes = Text.utf8 (Number.decimal n) :=
    (Text.utf8_ofList_of_ascii fun _ => ascii_of_mem_intText).symm
  exact (congrArg Text.ofUtf8? hbytes).trans (Text.ofUtf8?_utf8 _)

theorem wording?_boolean (b : Bool) : (boolean b).wording? = some (if b then "true" else "false") := by
  cases b <;> exact Text.ofUtf8?_utf8 _

end Node

end ResourceApi.Json
