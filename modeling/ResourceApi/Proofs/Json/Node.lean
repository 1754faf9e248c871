import ResourceApi.Json.Node
import ResourceApi.Proofs.Json.Text

/-!
# Trees read back

A tree whose numbers and texts are spelled as they have to be is read back from what it is written
as, up to what stands behind it. The fuel of the reader is twice the length of the bytes: an item of
an array costs one step for itself and one for the list it stands in, and takes a byte of its own
and one for the comma or the bracket in front of it.

## Main definitions

- `Node.Behind` — what may follow a tree
- `Node.IsNumeral`, `Node.IsQuoted` — the spellings of numbers and of texts
- `Node.WellFormed` — a tree with such spellings

## Main results

- `Node.WellFormed.reads` — the tree in front of anything that may follow it
- `Node.WellFormed.read_bytes` — a whole body
-/

namespace ResourceApi.Json

namespace Node

/-- What may follow a tree: nothing, a comma or a closing bracket. -/
inductive Behind : Bytes → Prop where
  | nothing : Behind []
  | comma (rest : Bytes) : Behind (0x2C :: rest)
  | bracket (rest : Bytes) : Behind (0x5D :: rest)
  | brace (rest : Bytes) : Behind (0x7D :: rest)

/-- The spelling of a number, which is scanned as far as it goes. -/
def IsNumeral (spelling : Bytes) : Prop :=
  ∀ rest, Behind rest → scanNumber (spelling ++ rest) = some (spelling, rest)

/-- The spelling of a text, which is scanned up to the quote behind it. -/
def IsQuoted (raw : Bytes) : Prop := ∀ rest, scan (raw ++ 0x22 :: rest) = some (raw, rest)

/-- A tree whose numbers and texts are spelled as they have to be. -/
inductive WellFormed : Node → Prop where
  | null : WellFormed .null
  | boolean (b : Bool) : WellFormed (.boolean b)
  | number {spelling : Bytes} (h : IsNumeral spelling) : WellFormed (.number spelling)
  | text {raw : Bytes} (h : IsQuoted raw) : WellFormed (.text raw)
  | array {items : List Node} (h : ∀ item ∈ items, WellFormed item) : WellFormed (.array items)
  | object {members : List (Bytes × Node)} (hkeys : ∀ member ∈ members, IsQuoted member.1)
    (hvalues : ∀ member ∈ members, WellFormed member.2) : WellFormed (.object members)

/-- A tree is read back in front of anything that may follow it. -/
def Reads (node : Node) : Prop :=
  ∀ fuel rest, 2 * node.bytes.length ≤ fuel → Behind rest →
    readTree fuel (node.bytes ++ rest) = some (node, rest)

theorem skip_cons {b : UInt8} (h : isSpace b = false) (rest : Bytes) :
    skip (b :: rest) = b :: rest := by
  rw [skip, List.dropWhile_cons_of_neg (by simp [h])]

/-! ## How trees start -/

theorem scanMagnitude_head {bs : Bytes} {found : Bytes × Bytes}
    (h : scanMagnitude bs = some found) : ∃ b rest, bs = b :: rest ∧ isDigit b = true := by
  cases bs with
  | nil => cases h
  | cons b rest =>
    refine ⟨b, rest, rfl, Bool.not_eq_false _ ▸ fun hb => ?_⟩
    have hnone : scanWhole (b :: rest) = none := by
      rw [scanWhole, List.takeWhile_cons_of_neg (by simp [hb])]
    rw [scanMagnitude, hnone] at h
    cases h

/-- A number starts with a minus sign or a digit. -/
theorem scanNumber_head {bs : Bytes} {found : Bytes × Bytes} (h : scanNumber bs = some found) :
    ∃ b rest, bs = b :: rest ∧ (b = 0x2D ∨ isDigit b = true) := by
  unfold scanNumber at h
  split at h
  · next rest => exact ⟨_, rest, rfl, .inl rfl⟩
  · obtain ⟨b, rest, hbs, hb⟩ := scanMagnitude_head h
    exact ⟨b, rest, hbs, .inr hb⟩

theorem IsNumeral.head {spelling : Bytes} (h : IsNumeral spelling) :
    ∃ b bs, spelling = b :: bs ∧ (b = 0x2D ∨ isDigit b = true) := by
  have hscan := h [] .nothing
  rw [List.append_nil] at hscan
  exact scanNumber_head hscan

theorem numeral_ne {b : UInt8} (h : b = 0x2D ∨ isDigit b = true) {c : UInt8}
    (hsign : c ≠ 0x2D) (hdigit : isDigit c = false) : b ≠ c := by
  rintro rfl
  rcases h with rfl | h
  · exact hsign rfl
  · rw [hdigit] at h
    cases h

theorem not_space_of_numeral {b : UInt8} (h : b = 0x2D ∨ isDigit b = true) :
    isSpace b = false := by
  simp only [isSpace, Bool.or_eq_false_iff, beq_eq_false_iff_ne]
  exact ⟨⟨⟨numeral_ne h (by decide) (by decide), numeral_ne h (by decide) (by decide)⟩,
    numeral_ne h (by decide) (by decide)⟩, numeral_ne h (by decide) (by decide)⟩

/-- A tree starts with a byte that is no space and closes nothing. -/
theorem WellFormed.head {node : Node} (h : node.WellFormed) :
    ∃ b bs, node.bytes = b :: bs ∧ isSpace b = false ∧ b ≠ 0x5D := by
  cases h with
  | null => exact ⟨_, _, rfl, rfl, by decide⟩
  | boolean b => cases b <;> exact ⟨_, _, rfl, rfl, by decide⟩
  | number h =>
    obtain ⟨b, bs, hbs, hb⟩ := h.head
    exact ⟨b, bs, by rw [bytes, hbs], not_space_of_numeral hb, numeral_ne hb (by decide) (by decide)⟩
  | text => exact ⟨_, _, by rw [bytes, quoted, List.cons_append], rfl, by decide⟩
  | array => exact ⟨_, _, by rw [bytes, List.cons_append], rfl, by decide⟩
  | object => exact ⟨_, _, by rw [bytes, List.cons_append], rfl, by decide⟩

/-! ## One kind of tree after the other -/

theorem reads_number {spelling : Bytes} (h : IsNumeral spelling) : Reads (.number spelling) := by
  intro fuel rest hfuel hrest
  obtain ⟨b, bs, hbs, hb⟩ := h.head
  have hskip : skip (spelling ++ rest) = spelling ++ rest := by
    rw [hbs, List.cons_append, skip_cons (not_space_of_numeral hb)]
  have hother : ∀ c rest', c ≠ 0x2D → isDigit c = false → spelling ++ rest ≠ c :: rest' := by
    intro c rest' hsign hdigit heq
    rw [hbs, List.cons_append] at heq
    exact numeral_ne hb hsign hdigit (List.cons.inj heq).1
  cases fuel with
  | zero =>
    rw [bytes, hbs, List.length_cons] at hfuel
    omega
  | succ fuel =>
    rw [bytes, readTree, hskip]
    split
    · next heq =>
      rw [hbs, List.cons_append] at heq
      cases heq
    · next heq => exact absurd heq (hother _ _ (by decide) (by decide))
    · next heq => exact absurd heq (hother _ _ (by decide) (by decide))
    · next heq => exact absurd heq (hother _ _ (by decide) (by decide))
    · next heq => exact absurd heq (hother _ _ (by decide) (by decide))
    · next heq => exact absurd heq (hother _ _ (by decide) (by decide))
    · next heq => exact absurd heq (hother _ _ (by decide) (by decide))
    · rw [h rest hrest]
      rfl

theorem readTree_text {fuel : Nat} {bs raw rest : Bytes} (h : scan bs = some (raw, rest)) :
    readTree (fuel + 1) (0x22 :: bs) = some (.text raw, rest) := by
  have hskip : skip (0x22 :: bs) = 0x22 :: bs := skip_cons rfl bs
  rw [readTree, hskip]
  exact congrArg (Option.map _) h

theorem quoted_append (raw rest : Bytes) : quoted raw ++ rest = 0x22 :: (raw ++ 0x22 :: rest) := by
  rw [quoted, List.cons_append, List.cons_append, List.append_assoc, List.singleton_append]

theorem reads_text {raw : Bytes} (h : IsQuoted raw) : Reads (.text raw) := by
  intro fuel rest hfuel _
  cases fuel with
  | zero =>
    rw [bytes, quoted, List.cons_append, List.length_cons] at hfuel
    omega
  | succ fuel =>
    rw [bytes, quoted_append]
    exact readTree_text (h rest)

/-- One of the words is read whatever follows it. -/
theorem reads_word {node : Node} (hpositive : 0 < node.bytes.length)
    (h : ∀ fuel rest, readTree (fuel + 1) (node.bytes ++ rest) = some (node, rest)) :
    Reads node := by
  intro fuel rest hfuel _
  cases fuel with
  | zero => omega
  | succ fuel => exact h fuel rest

/-! ## Arrays -/

section Items

variable {fuel : Nat} {item : Node} {items : List Node} {bs bs' rest : Bytes}

theorem readItems_last (h : readTree fuel bs = some (item, 0x5D :: rest)) :
    readItems (fuel + 1) bs = some ([item], rest) := by
  rw [readItems, h]
  rfl

theorem readItems_more (h : readTree fuel bs = some (item, 0x2C :: bs'))
    (hmore : readItems fuel bs' = some (items, rest)) :
    readItems (fuel + 1) bs = some (item :: items, rest) := by
  rw [readItems, h]
  exact congrArg (Option.bind · _) hmore

/-- The items of an array, by induction on them. -/
theorem readItems_commas (h : ∀ other ∈ item :: items, Reads other) (fuel : Nat) (rest : Bytes)
    (hfuel : 2 * (commas (itemBytes (item :: items))).length + 1 ≤ fuel) :
    readItems fuel (commas (itemBytes (item :: items)) ++ 0x5D :: rest) =
      some (item :: items, rest) := by
  have hitem := h item (List.mem_cons_self ..)
  cases fuel with
  | zero => omega
  | succ fuel =>
    induction items generalizing item fuel with
    | nil =>
      have hcommas : commas (itemBytes [item]) = item.bytes := rfl
      rw [hcommas] at hfuel ⊢
      exact readItems_last (hitem fuel _ (by omega) (.bracket rest))
    | cons next items ih =>
      have hcommas : commas (itemBytes (item :: next :: items)) =
          item.bytes ++ 0x2C :: commas (itemBytes (next :: items)) := rfl
      have hothers : ∀ other ∈ next :: items, Reads other :=
        fun other hmem => h other (List.mem_cons_of_mem _ hmem)
      rw [hcommas, List.length_append, List.length_cons] at hfuel
      obtain ⟨fuel, rfl⟩ : ∃ smaller, fuel = smaller + 1 := ⟨fuel - 1, by omega⟩
      rw [hcommas, List.append_assoc, List.cons_append]
      exact readItems_more (hitem _ _ (by omega) (.comma _))
        (ih hothers (hothers next (List.mem_cons_self ..)) fuel (by omega))

end Items

/-- What does not look like the end of an array is the first of its items. -/
theorem readTree_items {fuel : Nat} {b : UInt8} {bs rest : Bytes} {items : List Node}
    (hspace : isSpace b = false) (hclose : b ≠ 0x5D)
    (h : readItems fuel (b :: bs) = some (items, rest)) :
    readTree (fuel + 1) (0x5B :: b :: bs) = some (.array items, rest) := by
  have hskip : skip (0x5B :: b :: bs) = 0x5B :: b :: bs := skip_cons rfl _
  rw [readTree, hskip]
  simp only
  rw [skip_cons hspace]
  split
  · next heq => exact absurd (List.cons.inj heq).1 hclose
  · rw [h]
    rfl

theorem reads_array {items : List Node} (hhead : ∀ item ∈ items, item.WellFormed)
    (h : ∀ item ∈ items, Reads item) : Reads (.array items) := by
  intro fuel rest hfuel _
  have hbytes : (Node.array items).bytes ++ rest =
      0x5B :: (commas (itemBytes items) ++ 0x5D :: rest) := by
    rw [bytes, List.cons_append, List.cons_append, List.append_assoc, List.singleton_append]
  rw [bytes, List.length_append, List.length_cons, List.length_singleton] at hfuel
  obtain ⟨fuel, rfl⟩ : ∃ smaller, fuel = smaller + 1 := ⟨fuel - 1, by omega⟩
  rw [hbytes]
  cases items with
  | nil =>
    have hskip : skip (0x5B :: 0x5D :: rest) = 0x5B :: 0x5D :: rest := skip_cons rfl _
    rw [itemBytes, commas, List.nil_append, readTree, hskip]
    rfl
  | cons item items =>
    obtain ⟨b, bs, hbs, hspace, hclose⟩ := (hhead item (List.mem_cons_self ..)).head
    have hfront : ∃ bs', commas (itemBytes (item :: items)) = b :: bs' := by
      cases items with
      | nil => exact ⟨bs, hbs⟩
      | cons next items => exact ⟨_, congrArg (· ++ 0x2C :: commas (itemBytes (next :: items))) hbs⟩
    obtain ⟨bs', hbs'⟩ := hfront
    have hitems := readItems_commas h fuel rest (by omega)
    rw [hbs', List.cons_append] at hitems ⊢
    exact readTree_items hspace hclose hitems

/-! ## Objects -/

section Members

variable {fuel : Nat} {key : Bytes} {value : Node} {members : List (Bytes × Node)}
  {bs bs' bs'' rest : Bytes}

theorem readMembers_last (hkey : scan bs = some (key, 0x3A :: bs'))
    (hvalue : readTree fuel bs' = some (value, 0x7D :: rest)) :
    readMembers (fuel + 1) (0x22 :: bs) = some ([(key, value)], rest) := by
  have hskip : skip (0x22 :: bs) = 0x22 :: bs := skip_cons rfl bs
  rw [readMembers, hskip]
  refine (congrArg (Option.bind · _) hkey).trans ?_
  exact congrArg (Option.bind · _) hvalue

theorem readMembers_more (hkey : scan bs = some (key, 0x3A :: bs'))
    (hvalue : readTree fuel bs' = some (value, 0x2C :: bs''))
    (hmore : readMembers fuel bs'' = some (members, rest)) :
    readMembers (fuel + 1) (0x22 :: bs) = some ((key, value) :: members, rest) := by
  have hskip : skip (0x22 :: bs) = 0x22 :: bs := skip_cons rfl bs
  rw [readMembers, hskip]
  refine (congrArg (Option.bind · _) hkey).trans ?_
  refine (congrArg (Option.bind · _) hvalue).trans ?_
  exact congrArg (Option.bind · _) hmore

/-- The members of an object, by induction on them. -/
theorem readMembers_commas (hkeys : ∀ member ∈ (key, value) :: members, IsQuoted member.1)
    (h : ∀ member ∈ (key, value) :: members, Reads member.2) (fuel : Nat) (rest : Bytes)
    (hfuel : 2 * (commas (memberBytes ((key, value) :: members))).length + 1 ≤ fuel) :
    readMembers fuel (commas (memberBytes ((key, value) :: members)) ++ 0x7D :: rest) =
      some ((key, value) :: members, rest) := by
  have hkey : IsQuoted key := hkeys _ (List.mem_cons_self ..)
  have hvalue : Reads value := h _ (List.mem_cons_self ..)
  obtain ⟨fuel, rfl⟩ : ∃ smaller, fuel = smaller + 1 := ⟨fuel - 1, by omega⟩
  induction members generalizing key value fuel with
  | nil =>
    have hcommas : commas (memberBytes [(key, value)]) = quoted key ++ 0x3A :: value.bytes := rfl
    rw [hcommas, List.length_append, List.length_cons] at hfuel
    rw [hcommas, List.append_assoc, List.cons_append, quoted_append]
    exact readMembers_last (hkey _) (hvalue _ _ (by omega) (.brace rest))
  | cons next members ih =>
    obtain ⟨nextKey, nextValue⟩ := next
    have hcommas : commas (memberBytes ((key, value) :: (nextKey, nextValue) :: members)) =
        (quoted key ++ 0x3A :: value.bytes) ++
          0x2C :: commas (memberBytes ((nextKey, nextValue) :: members)) := rfl
    have hothers : ∀ member ∈ (nextKey, nextValue) :: members, Reads member.2 :=
      fun member hmem => h member (List.mem_cons_of_mem _ hmem)
    have hotherKeys : ∀ member ∈ (nextKey, nextValue) :: members, IsQuoted member.1 :=
      fun member hmem => hkeys member (List.mem_cons_of_mem _ hmem)
    rw [hcommas, List.length_append, List.length_append, List.length_cons, List.length_cons]
      at hfuel
    obtain ⟨fuel, rfl⟩ : ∃ smaller, fuel = smaller + 1 := ⟨fuel - 1, by omega⟩
    rw [hcommas, List.append_assoc, List.append_assoc, List.cons_append, List.cons_append,
      quoted_append]
    refine readMembers_more (hkey _) (hvalue _ _ (by omega) (.comma _)) ?_
    exact ih hotherKeys hothers (hotherKeys _ (List.mem_cons_self ..))
      (hothers _ (List.mem_cons_self ..)) fuel (by omega)

end Members

/-- What is no end of an object is the first of its members. -/
theorem readTree_members {fuel : Nat} {bs rest : Bytes} {members : List (Bytes × Node)}
    (h : readMembers fuel (0x22 :: bs) = some (members, rest)) :
    readTree (fuel + 1) (0x7B :: 0x22 :: bs) = some (.object members, rest) := by
  have hskip : skip (0x7B :: 0x22 :: bs) = 0x7B :: 0x22 :: bs := skip_cons rfl _
  have hopened : skip (0x22 :: bs) = 0x22 :: bs := skip_cons rfl bs
  rw [readTree, hskip]
  simp only
  rw [hopened]
  exact congrArg (Option.map _) h

theorem reads_object {members : List (Bytes × Node)}
    (hkeys : ∀ member ∈ members, IsQuoted member.1) (h : ∀ member ∈ members, Reads member.2) :
    Reads (.object members) := by
  intro fuel rest hfuel _
  have hbytes : (Node.object members).bytes ++ rest =
      0x7B :: (commas (memberBytes members) ++ 0x7D :: rest) := by
    rw [bytes, List.cons_append, List.cons_append, List.append_assoc, List.singleton_append]
  rw [bytes, List.length_append, List.length_cons, List.length_singleton] at hfuel
  obtain ⟨fuel, rfl⟩ : ∃ smaller, fuel = smaller + 1 := ⟨fuel - 1, by omega⟩
  rw [hbytes]
  cases members with
  | nil =>
    have hskip : skip (0x7B :: 0x7D :: rest) = 0x7B :: 0x7D :: rest := skip_cons rfl _
    rw [memberBytes, commas, List.nil_append, readTree, hskip]
    rfl
  | cons member members =>
    obtain ⟨key, value⟩ := member
    have hmembers := readMembers_commas hkeys h fuel rest (by omega)
    have hfront : ∃ bs, commas (memberBytes ((key, value) :: members)) = 0x22 :: bs := by
      cases members with
      | nil => exact ⟨_, rfl⟩
      | cons next members => exact ⟨_, rfl⟩
    obtain ⟨bs, hbs⟩ := hfront
    rw [hbs, List.cons_append] at hmembers ⊢
    exact readTree_members hmembers

/-! ## Whole trees -/

/-- **A well-formed tree is read back** in front of anything that may follow it, by induction on the
tree. -/
theorem WellFormed.reads {node : Node} (h : node.WellFormed) : Reads node := by
  induction h with
  | null => exact reads_word (by decide) fun _ _ => rfl
  | boolean b => cases b <;> exact reads_word (by decide) fun _ _ => rfl
  | number h => exact reads_number h
  | text h => exact reads_text h
  | array h ih => exact reads_array h ih
  | object hkeys _ ih => exact reads_object hkeys ih

/-- **A well-formed tree is read back** from the body that consists of it. -/
theorem WellFormed.read_bytes {node : Node} (h : node.WellFormed) :
    read node.bytes = some node := by
  have htree := h.reads (2 * node.bytes.length + 1) [] (by omega) .nothing
  rw [List.append_nil] at htree
  rw [read, htree]
  rfl

end Node

end ResourceApi.Json
