import Mathlib.Data.List.TakeWhile
import ResourceApi.Proofs.Http.Members
import ResourceApi.Proofs.Number.Digits
import ResourceApi.Proofs.Text.Pieces
import ResourceApi.Proofs.Text.Utf8

/-!
# Bases of slashes and plain segments

A path of slashes and unreserved characters means the same to everybody who reads it: as a pattern
it stands for itself, as a target it is all path, and nothing in it is decoded. So what is mounted
at such a base is found under the path that entities are said to be found under, if the base has a
segment. Without a segment the members are mounted behind two slashes, and entities are said to be
found behind one.

## Main definitions

- `IsPlain` — texts of slashes and unreserved characters
- `Pattern.verbatim` — the pattern of a base that stands for itself

## Main results

- `Service.mount_of_plain` — a service is mounted at every plain base
- `Routes.names_behind` — the path of an entity names it, if the base has a segment
- `Routes.place?_of_bare` — and if it has none, nothing is found there
-/

namespace ResourceApi

/-- The characters that stand for nothing but themselves in a path. -/
def isUnreserved (c : Char) : Bool :=
  c.isAlphanum || c == '-' || c == '.' || c == '_' || c == '~'

/-- A text of slashes and unreserved characters. -/
def IsPlain (cs : List Char) : Prop := ∀ c ∈ cs, c = '/' ∨ isUnreserved c = true

instance (cs : List Char) : Decidable (IsPlain cs) :=
  List.decidableBAll (fun c => c = '/' ∨ isUnreserved c = true) cs

/-! ## Plain texts -/

section Plain

variable {c d : Char} {cs ds : List Char}

theorem IsPlain.append (h : IsPlain cs) (h' : IsPlain ds) : IsPlain (cs ++ ds) := by
  intro c hc
  rcases List.mem_append.mp hc with hc | hc
  · exact h c hc
  · exact h' c hc

theorem IsPlain.cons (hc : c = '/' ∨ isUnreserved c = true) (h : IsPlain cs) :
    IsPlain (c :: cs) := by
  intro d hd
  rcases List.mem_cons.mp hd with rfl | hd
  · exact hc
  · exact h d hd

theorem IsPlain.tail (h : IsPlain (c :: cs)) : IsPlain cs :=
  fun d hd => h d (List.mem_cons_of_mem _ hd)

theorem IsPlain.of_sublist (h : IsPlain cs) (hsub : ds.Sublist cs) : IsPlain ds :=
  fun d hd => h d (hsub.subset hd)

/-- A plain character is none of those that mean something in a pattern or a target. -/
theorem ne_of_plain (h : c = '/' ∨ isUnreserved c = true) (hslash : d ≠ '/')
    (hreserved : isUnreserved d = false) : c ≠ d := by
  rintro rfl
  rcases h with rfl | h
  · exact hslash rfl
  · rw [hreserved] at h
    cases h

theorem IsPlain.not_mem (h : IsPlain cs) (hslash : d ≠ '/') (hreserved : isUnreserved d = false) :
    d ∉ cs :=
  fun hd => ne_of_plain (h d hd) hslash hreserved rfl

/-- Plain characters are visible characters of ASCII. -/
theorem toNat_of_plain (h : c = '/' ∨ isUnreserved c = true) : 32 < c.toNat ∧ c.toNat < 127 := by
  rcases h with rfl | h
  · decide
  · delta isUnreserved Char.isAlphanum Char.isAlpha Char.isUpper Char.isLower Char.isDigit at h
    simp only [Bool.or_eq_true, Bool.and_eq_true, decide_eq_true_eq, beq_iff_eq, ge_iff_le,
      UInt32.le_iff_toNat_le] at h
    rcases h with (((h | rfl) | rfl) | rfl) | rfl
    · change ((65 ≤ c.toNat ∧ c.toNat ≤ 90) ∨ 97 ≤ c.toNat ∧ c.toNat ≤ 122) ∨
        48 ≤ c.toNat ∧ c.toNat ≤ 57 at h
      omega
    · decide
    · decide
    · decide
    · decide

theorem isUnreserved_of_isDigit (h : c.isDigit = true) : isUnreserved c = true := by
  simp [isUnreserved, Char.isAlphanum, h]

/-- The digits of an integer and its sign are unreserved. -/
theorem isUnreserved_of_mem_intText {n : Int} (h : c ∈ Number.intText n) :
    isUnreserved c = true := by
  rcases Number.eq_or_isDigit_of_mem_intText h with rfl | h
  · decide
  · exact isUnreserved_of_isDigit h

theorem isPlain_intText (n : Int) : IsPlain (Number.intText n) :=
  fun _ hc => .inr (isUnreserved_of_mem_intText hc)

theorem slash_not_mem_intText (n : Int) : '/' ∉ Number.intText n := fun hmem =>
  absurd (isUnreserved_of_mem_intText hmem) (by decide)

theorem isHeaderText_of_plain (h : IsPlain cs) :
    Response.isHeaderText (String.ofList cs) = true := by
  rw [Response.isHeaderText, String.toList_ofList, List.all_eq_true]
  intro c hc
  obtain ⟨hlow, hhigh⟩ := toNat_of_plain (h c hc)
  have hdelete : (c.toNat != 127) = true := bne_iff_ne.mpr (by omega)
  have hcontrol : decide (32 ≤ c.toNat) = true := decide_eq_true (by omega)
  rw [hdelete, hcontrol]
  exact Bool.or_true _

end Plain

/-! ## Plain patterns -/

namespace Pattern

variable {cs : List Char}

/-- The pattern of a text that stands for itself. -/
def verbatim (cs : List Char) : Pattern := [.text cs]

theorem signs_of_plain (h : IsPlain cs) : signs cs = cs.map .plain := by
  induction cs with
  | nil => rfl
  | cons c cs ih =>
    have hopen : c ≠ '\x7b' := ne_of_plain (h c (List.mem_cons_self ..)) (by decide) (by decide)
    have hclose : c ≠ '\x7d' := ne_of_plain (h c (List.mem_cons_self ..)) (by decide) (by decide)
    rw [signs.eq_5 c cs (fun _ heq _ => hopen heq) (fun _ heq _ => hclose heq) hopen hclose,
      ih h.tail, List.map_cons]

/-- Plain signs are one text, by induction on them. -/
theorem scanPieces_plain {fuel : Nat} (room : Nat) (c : Char) (cs : List Char)
    (hfuel : cs.length < fuel) :
    scanPieces fuel room ((c :: cs).map .plain) = .ok (verbatim (c :: cs)) := by
  obtain ⟨fuel, rfl⟩ : ∃ smaller, fuel = smaller + 1 := ⟨fuel - 1, by omega⟩
  induction cs generalizing c fuel with
  | nil =>
    rw [List.map_cons, List.map_nil, scanPieces, scanPieces]
    rfl
  | cons d cs ih =>
    rw [List.length_cons] at hfuel
    obtain ⟨fuel, rfl⟩ : ∃ smaller, fuel = smaller + 1 := ⟨fuel - 1, by omega⟩
    rw [List.map_cons, scanPieces, ih d fuel (by omega)]
    rfl

theorem read_of_plain {c : Char} (h : IsPlain (c :: cs)) :
    read (c :: cs) = .ok (verbatim (c :: cs)) := by
  have hsegments : (Text.pieces '/' (c :: cs)).findSome? segmentFault? = none := by
    refine List.findSome?_eq_none_iff.mpr fun segment hsegment => ?_
    obtain ⟨front, back, hsplit, -, -⟩ := (Text.mem_pieces_iff.mp hsegment).between
    have hplain : IsPlain segment := by
      refine h.of_sublist ?_
      rw [hsplit]
      exact (List.sublist_append_right front segment).trans (List.sublist_append_left _ back)
    unfold segmentFault?
    split
    · exact absurd rfl (ne_of_plain (hplain _ (List.mem_cons_self ..)) (by decide) (by decide))
    · exact absurd rfl (ne_of_plain (hplain _ (List.mem_cons_self ..)) (by decide) (by decide))
    · rfl
  rw [read, hsegments, signs_of_plain h]
  dsimp only
  rw [scanPieces_plain maxParameters c cs (by rw [List.length_cons]; omega)]
  rfl

/-- A text in front of a path is taken off it. -/
theorem capture_text (cs rest : List Char) (pieces : List Piece) :
    capture (.text cs :: pieces) (cs ++ rest) = capture pieces rest := by
  rw [capture, if_pos (List.isPrefixOf_iff_prefix.mpr (List.prefix_append cs rest)),
    List.drop_left]

end Pattern

/-! ## Trimmed ends -/

section Trimmed

variable {p : Char → Bool} {cs front : List Char} {c : Char}

/-- A trimmed text ends with a character that stays, if anything stays. -/
theorem dropEndWhile_cases (p : Char → Bool) (cs : List Char) :
    Text.dropEndWhile p cs = [] ∨
      ∃ front c, Text.dropEndWhile p cs = front ++ [c] ∧ p c = false := by
  have hhead := List.head?_dropWhile_not p cs.reverse
  rw [Text.dropEndWhile]
  cases hrest : cs.reverse.dropWhile p with
  | nil => exact .inl rfl
  | cons c rest =>
    rw [hrest] at hhead
    exact .inr ⟨rest.reverse, c, List.reverse_cons, by simpa using hhead⟩

theorem dropEndWhile_of_last (h : p c = false) :
    Text.dropEndWhile p (front ++ [c]) = front ++ [c] := by
  rw [Text.dropEndWhile, List.reverse_append, List.reverse_singleton, List.singleton_append,
    List.dropWhile_cons_of_neg (by simp [h]), List.reverse_cons, List.reverse_reverse]

theorem dropEndWhile_eq_nil_iff : Text.dropEndWhile p cs = [] ↔ ∀ c ∈ cs, p c = true := by
  rw [Text.dropEndWhile, List.reverse_eq_nil_iff, List.dropWhile_eq_nil_iff]
  simp only [List.mem_reverse]

theorem dropEndWhile_sublist (p : Char → Bool) (cs : List Char) :
    (Text.dropEndWhile p cs).Sublist cs := by
  have hsub := (List.dropWhile_sublist p (l := cs.reverse)).reverse
  rwa [List.reverse_reverse] at hsub

end Trimmed

/-- What is left of a path between its outermost slashes. -/
def core (path : String) : List Char :=
  Text.dropEndWhile (· == '/') (path.toList.dropWhile (· == '/'))

theorem toList_basePath (path : String) : (basePath path).toList = '/' :: core path :=
  String.toList_ofList

theorem isPlain_core {path : String} (h : IsPlain path.toList) : IsPlain (core path) :=
  h.of_sublist ((dropEndWhile_sublist _ _).trans (List.dropWhile_sublist _))

/-- Nothing is left of slashes only. -/
theorem core_eq_nil_iff (path : String) : core path = [] ↔ ∀ c ∈ path.toList, c = '/' := by
  rw [core, dropEndWhile_eq_nil_iff]
  constructor
  · intro h c hc
    cases hrest : path.toList.dropWhile (· == '/') with
    | nil => exact eq_of_beq (List.dropWhile_eq_nil_iff.mp hrest c hc)
    | cons d rest =>
      -- What is left in front begins with another character.
      have hhead := List.head?_dropWhile_not (· == '/') path.toList
      rw [hrest] at h hhead
      have hslash := h d (List.mem_cons_self ..)
      rw [List.head?_cons] at hhead
      simp [hslash] at hhead
  · intro h c hc
    exact beq_iff_eq.mpr (h c ((List.dropWhile_sublist _).subset hc))

/-! ## Mounted at a plain base -/

section Mounted

variable {E D : Type} (s : Service E D) {path : String}

/-- A service that knows its base. -/
def Service.based (base : String) : Service E D :=
  { s with options := { s.options with basePath := some base } }

/-- **A service is mounted at every plain base**, whose pattern is its text. -/
theorem Service.mount_of_plain (h : IsPlain path.toList) :
    s.mount path = .ok ⟨s.based (basePath path), Pattern.verbatim ('/' :: core path)⟩ := by
  have hread := Pattern.read_of_plain ((isPlain_core h).cons (.inl rfl))
  unfold mount
  dsimp only
  rw [toList_basePath, hread]
  rfl

theorem slash_between (xs ys : List Char) :
    String.ofList xs ++ "/" ++ String.ofList ys = String.ofList (xs ++ '/' :: ys) := by
  have hslash : "/" = String.ofList ['/'] := rfl
  rw [hslash, ← String.ofList_append, ← String.ofList_append, List.append_assoc,
    List.singleton_append]

/-- Where an entity is said to be found, if the base has a segment. -/
theorem Service.location?_of_segment (h : core path ≠ []) (id : Int) :
    (s.based (basePath path)).location? id =
      some (String.ofList ('/' :: core path ++ '/' :: Number.intText id)) := by
  have hstem : Text.dropEndWhile (· == '/') (basePath path).toList = '/' :: core path := by
    rw [toList_basePath]
    rcases dropEndWhile_cases (· == '/') (path.toList.dropWhile (· == '/')) with
      hnone | ⟨front, c, hcore, hc⟩
    · exact absurd hnone h
    · have hlast : '/' :: core path = ('/' :: front) ++ [c] := congrArg ('/' :: ·) hcore
      rw [hlast]
      exact dropEndWhile_of_last hc
  unfold location? based
  rw [Option.map_some, hstem]
  exact congrArg some (slash_between _ _)

/-- Where an entity is said to be found, if the base has no segment. -/
theorem Service.location?_of_bare (h : core path = []) (id : Int) :
    (s.based (basePath path)).location? id =
      some (String.ofList ('/' :: Number.intText id)) := by
  have hstem : Text.dropEndWhile (· == '/') (basePath path).toList = [] := by
    rw [toList_basePath, h]
    rfl
  unfold location? based
  rw [Option.map_some, hstem]
  exact congrArg some (slash_between [] _)

end Mounted

/-! ## Paths behind a plain base -/

theorem Message.path_of_plain {m : Message} {cs : List Char}
    (htarget : m.target = String.ofList ('/' :: cs)) (h : IsPlain cs) : m.path = '/' :: cs := by
  have hplain : IsPlain ('/' :: cs) := h.cons (.inl rfl)
  have hfragment : ('/' :: cs).takeWhile (· != '#') = '/' :: cs :=
    List.takeWhile_eq_self_iff.mpr fun c hc =>
      bne_iff_ne.mpr (ne_of_plain (hplain c hc) (by decide) (by decide))
  have hquery : Text.cut '?' ('/' :: cs) = none :=
    Text.cut_eq_none_iff.mpr (hplain.not_mem (by decide) (by decide))
  rw [path, htarget, String.toList_ofList, Target.read, hfragment]
  change (Target.ofAddress ('/' :: cs)).path = _
  rw [Target.ofAddress, hquery]

namespace Routes

variable {E D : Type} {r : Routes E D} {base value : List Char}

/-- One segment behind its base is the path of a member. -/
theorem place?_behind (hbase : r.base = Pattern.verbatim base) (hvalue : value ≠ [])
    (hslash : '/' ∉ value) :
    r.place? (base ++ '/' :: value) = some (.member [("id".toList, value)]) := by
  have hcollection : Pattern.capture r.base (base ++ '/' :: value) = none := by
    rw [hbase, Pattern.verbatim, Pattern.capture_text, Pattern.capture]
    rfl
  have hall : ∀ c ∈ value, (c != '/') = true := fun c hc =>
    bne_iff_ne.mpr fun heq => hslash (heq ▸ hc)
  have htake : value.takeWhile (· != '/') = value := List.takeWhile_eq_self_iff.mpr hall
  have hdrop : value.dropWhile (· != '/') = [] := List.dropWhile_eq_nil_iff.mpr hall
  have hslashed : Pattern.capture [.text ['/'], .parameter "id".toList] ('/' :: value) =
      some [("id".toList, value)] := by
    refine (Pattern.capture_text ['/'] value _).trans ?_
    rw [Pattern.capture, htake, hdrop, List.isEmpty_eq_false_iff.mpr hvalue]
    rfl
  have hmember : Pattern.capture r.members (base ++ '/' :: value) = some [("id".toList, value)] := by
    rw [members, hbase, Pattern.verbatim, List.singleton_append, Pattern.capture_text, hslashed]
  rw [place?, hcollection, hmember]
  rfl

/-- Digits are decoded to themselves. -/
theorem decode_intText (name : List Char) (id : Int) :
    decode (name, Number.intText id) = .ok (String.ofList (Number.intText id)) := by
  have hascii : ∀ c ∈ Number.intText id, c.toNat < 128 := fun c hc => by
    have hplain := toNat_of_plain (.inr (isUnreserved_of_mem_intText hc))
    omega
  have hpercent : (0x25 : UInt8) ∉ Text.utf8 (String.ofList (Number.intText id)) := by
    rw [Text.utf8_ofList_of_ascii hascii]
    intro hmem
    obtain ⟨c, hc, hbyte⟩ := List.mem_map.mp hmem
    have hcode : c.toNat = 37 := by
      have hnat := congrArg UInt8.toNat hbyte
      rw [UInt8.toNat_ofNat', Nat.mod_eq_of_lt (by have := hascii c hc; omega)] at hnat
      exact hnat
    exact (isPlain_intText id).not_mem (by decide) (by decide)
      ((Char.toNat_inj.mp hcode : c = '%') ▸ hc)
  rw [decode, Text.percentDecode_of_not_mem hpercent, Text.ofUtf8?_utf8]

/-- **The path of an entity names it.** -/
theorem names_behind (hbase : r.base = Pattern.verbatim base) {id : Int}
    (hleast : Number.minInt64 ≤ id) (hgreatest : id ≤ Number.maxInt64) :
    r.Names (base ++ '/' :: Number.intText id) id := by
  refine ⟨_, String.ofList (Number.intText id),
    place?_behind hbase (Number.intText_ne_nil id) (slash_not_mem_intText id), ?_, ?_⟩
  · rw [List.filter_cons_of_pos (by rfl), List.filter_nil, List.mapM_cons, decode_intText]
    rfl
  · rw [String.toList_ofList, Number.readInt64_intText hleast hgreatest]

/-- **Behind a base without a segment** no entity is found where it is said to be: its path has one
slash in front and the members have two. -/
theorem place?_of_bare (hbase : r.base = Pattern.verbatim ['/']) (id : Int) :
    r.place? ('/' :: Number.intText id) = none := by
  obtain ⟨c, cs, hcs⟩ := List.exists_cons_of_ne_nil (Number.intText_ne_nil id)
  have hcollection : Pattern.capture r.base ('/' :: Number.intText id) = none := by
    rw [hbase, hcs]
    exact Pattern.capture_text ['/'] (c :: cs) []
  have hmember : Pattern.capture r.members ('/' :: Number.intText id) = none := by
    have hc : ('/' == c) = false :=
      beq_eq_false_iff_ne.mpr fun heq => slash_not_mem_intText id (hcs ▸ heq ▸ List.mem_cons_self ..)
    have hsecond : Pattern.capture [.text ['/'], .parameter "id".toList] (c :: cs) = none := by
      rw [Pattern.capture, if_neg (by simp [List.isPrefixOf, hc])]
    rw [members, hbase, hcs]
    exact (Pattern.capture_text ['/'] (c :: cs) _).trans hsecond
  rw [place?, hcollection, hmember]
  rfl

end Routes

end ResourceApi
