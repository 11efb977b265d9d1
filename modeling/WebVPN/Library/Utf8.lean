import Mathlib.Algebra.GroupWithZero.Nat
import Mathlib.Data.String.Basic

namespace WebVPN.Library

/-!
# Library — the runes of a byte sequence

Go reads a byte sequence as runes, with U+FFFD for every byte that is not part of the UTF-8 encoding of a
rune.

* `decodeRunes` — as `utf8.DecodeRune` in a loop; `decodeRunes_toUTF8` — encoded text is read back;
* `utf8Len_flatMap` — the size of a text that is written character by character.
-/

/-- The loop; a byte sequence has at most as many runes as bytes. -/
def decodeRunesFrom : Nat → ByteArray → List Char
  | 0, _ => []
  | fuel + 1, bytes =>
    if bytes.size = 0 then []
    else
      match bytes.utf8DecodeChar? 0 with
      | some c => c :: decodeRunesFrom fuel (bytes.extract c.utf8Size bytes.size)
      | none => '�' :: decodeRunesFrom fuel (bytes.extract 1 bytes.size)

/-- The runes of a byte sequence. -/
def decodeRunes (bytes : ByteArray) : List Char := decodeRunesFrom bytes.size bytes

theorem size_utf8Encode (text : List Char) : text.utf8Encode.size = String.utf8Len text := by
  rw [← String.toByteArray_ofList, ← String.utf8ByteSize_ofList]
  rfl

theorem decodeRunesFrom_utf8Encode {text : List Char} {fuel : Nat} (h : String.utf8Len text ≤ fuel) :
    decodeRunesFrom fuel text.utf8Encode = text := by
  induction text generalizing fuel with
  | nil => cases fuel <;> simp [decodeRunesFrom]
  | cons c text ih =>
    have hpos := c.utf8Size_pos
    have hlen : String.utf8Len (c :: text) = String.utf8Len text + c.utf8Size := String.utf8Len_cons c text
    have hhead : [c].utf8Encode.size = c.utf8Size := by simp [size_utf8Encode]
    obtain ⟨fuel, rfl⟩ : ∃ n, fuel = n + 1 := ⟨fuel - 1, by omega⟩
    rw [decodeRunesFrom, if_neg (by rw [size_utf8Encode]; omega), List.utf8DecodeChar?_utf8Encode_cons]
    -- the rest of the bytes is the encoding of the rest of the text
    have hrest : (c :: text).utf8Encode.extract c.utf8Size (c :: text).utf8Encode.size = text.utf8Encode := by
      rw [List.utf8Encode_cons, ← hhead, ByteArray.size_append]
      exact ByteArray.extract_append_eq_right rfl rfl
    show c :: decodeRunesFrom fuel _ = c :: text
    rw [hrest, ih (by omega)]

/-- **Encoded text is read back.** -/
theorem decodeRunes_toUTF8 (text : List Char) : decodeRunes (String.ofList text).toUTF8 = text := by
  show decodeRunesFrom (String.ofList text).toByteArray.size (String.ofList text).toByteArray = text
  rw [String.toByteArray_ofList]
  exact decodeRunesFrom_utf8Encode (Nat.le_of_eq (size_utf8Encode text).symm)

theorem size_toUTF8 (text : List Char) : (String.ofList text).toUTF8.size = String.utf8Len text :=
  String.utf8ByteSize_ofList text

theorem length_toUTF8 (text : List Char) : (String.ofList text).toUTF8.data.toList.length = String.utf8Len text := by
  rw [← size_toUTF8]
  rfl

/-- ASCII text has one byte for each character. -/
theorem utf8Len_of_ascii {text : List Char} (h : ∀ c ∈ text, c.toNat < 128) :
    String.utf8Len text = text.length := by
  induction text with
  | nil => rfl
  | cons c text ih =>
    have hsize : c.utf8Size = 1 := by
      have hc := h c List.mem_cons_self
      rw [Char.utf8Size_eq_one_iff, UInt32.le_iff_toNat_le]
      show c.toNat ≤ 127
      omega
    rw [String.utf8Len_cons, ih (fun d hd => h d (List.mem_cons_of_mem _ hd)), hsize, List.length_cons]

/-- The size of text that is written character by character. -/
theorem utf8Len_flatMap (f : Char → List Char) (text : List Char) :
    String.utf8Len (text.flatMap f) = (text.map (fun c => String.utf8Len (f c))).sum := by
  induction text with
  | nil => rfl
  | cons c text ih => rw [List.flatMap_cons, String.utf8Len_append, ih, List.map_cons, List.sum_cons]

end WebVPN.Library
