import ResourceApi.Text.Percent

/-!
# Texts read back from their bytes

The strict reader takes the bytes of a text for that text. Characters of ASCII are one byte each,
and bytes without a percent sign stand for themselves in a percent-encoded text.

## Main results

- `ofUtf8?_utf8` — a text reads back from its bytes
- `utf8EncodeChar_of_ascii` — a character of ASCII is one byte
- `percentDecode_of_not_mem` — without a percent sign nothing is decoded
-/

namespace ResourceApi.Text

theorem ofUtf8?_utf8 (s : String) : ofUtf8? (utf8 s) = some s := by
  have hdecode : (utf8 s).toByteArray.utf8Decode? = some s.toList.toArray :=
    List.utf8Decode?_utf8Encode
  rw [ofUtf8?, hdecode, Option.map_some, List.toList_toArray, String.ofList_toList]

theorem utf8EncodeChar_of_ascii {c : Char} (h : c.toNat < 128) :
    String.utf8EncodeChar c = [UInt8.ofNat c.toNat] := by
  rw [String.utf8EncodeChar, if_pos (by simpa using Nat.le_of_lt_succ h)]
  rfl

/-- The bytes of a text that is all ASCII. -/
theorem utf8_ofList_of_ascii {cs : List Char} (h : ∀ c ∈ cs, c.toNat < 128) :
    utf8 (String.ofList cs) = cs.map fun c => UInt8.ofNat c.toNat := by
  rw [utf8, String.toList_ofList]
  induction cs with
  | nil => rfl
  | cons c cs ih =>
    rw [List.flatMap_cons, utf8EncodeChar_of_ascii (h c (List.mem_cons_self ..)),
      ih fun d hd => h d (List.mem_cons_of_mem _ hd), List.map_cons, List.singleton_append]

theorem percentDecode_of_not_mem {bytes : Bytes} (h : 0x25 ∉ bytes) :
    percentDecode bytes = bytes := by
  fun_induction percentDecode bytes with
  | case1 a b rest hi lo _ _ _ => exact absurd (List.mem_cons_self ..) h
  | case2 a b rest _ _ => exact absurd (List.mem_cons_self ..) h
  | case3 b rest _ ih => rw [ih fun hmem => h (List.mem_cons_of_mem _ hmem)]
  | case4 => rfl

end ResourceApi.Text
