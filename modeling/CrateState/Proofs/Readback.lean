import Mathlib
import CrateState.Relational.Client
import CrateState.Player

/-!
# Texts come back as they were written

A text bound to a statement reaches the database as the string holding its UTF-8 bytes
(`Bytes.held`), and a query hands it back as held. The client takes its bytes
(`Bytes.ofText`), checks them as UTF-8 (`utf8Fault`) and decodes them (`textValue`). The
main statement, `textValue_held`, is that this round trip is the identity, for every text,
reserved characters included.

Under it are facts about one character's bytes (`String.utf8EncodeChar`), by the
character's length: the checker passes them (`utf8Fault_encode`), the decoder reads the
character back (`Bytes.wellFormed_encode`), and no byte after the first starts a character.
So the string holding a text's bytes holds exactly them (`Bytes.ofText_held`).
-/

namespace CrateState

open Relational

/-! ### The bytes of a character, as numbers -/

theorem forall_uint8 {P : UInt8 → Prop} (h : ∀ n < 256, P (UInt8.ofNat n)) (b : UInt8) :
    P b := by
  simpa using h b.toNat b.toNat_lt

set_option maxRecDepth 8000 in
/-- The lead byte of a two-byte character: five bits under the tag `0xC0`. -/
theorem toNat_lead_two (b : UInt8) : (b &&& 0x1f ||| 0xc0).toNat = 0xC0 + b.toNat % 32 :=
  forall_uint8 (P := fun b => (b &&& 0x1f ||| 0xc0).toNat = 0xC0 + b.toNat % 32)
    (by decide) b

set_option maxRecDepth 8000 in
/-- The lead byte of a three-byte character: four bits under the tag `0xE0`. -/
theorem toNat_lead_three (b : UInt8) : (b &&& 0x0f ||| 0xe0).toNat = 0xE0 + b.toNat % 16 :=
  forall_uint8 (P := fun b => (b &&& 0x0f ||| 0xe0).toNat = 0xE0 + b.toNat % 16)
    (by decide) b

set_option maxRecDepth 8000 in
/-- The lead byte of a four-byte character: three bits under the tag `0xF0`. -/
theorem toNat_lead_four (b : UInt8) : (b &&& 0x07 ||| 0xf0).toNat = 0xF0 + b.toNat % 8 :=
  forall_uint8 (P := fun b => (b &&& 0x07 ||| 0xf0).toNat = 0xF0 + b.toNat % 8)
    (by decide) b

set_option maxRecDepth 8000 in
theorem toNat_following (b : UInt8) : (b &&& 0x3f ||| 0x80).toNat = 0x80 + b.toNat % 64 :=
  forall_uint8 (P := fun b => (b &&& 0x3f ||| 0x80).toNat = 0x80 + b.toNat % 64)
    (by decide) b

theorem Char.toNat_shiftRight_toUInt8 (c : Char) (k : UInt32) (hk : k.toNat < 32) :
    (c.val >>> k).toUInt8.toNat = c.toNat / 2 ^ k.toNat % 256 := by
  simp [UInt32.toNat_shiftRight, Nat.shiftRight_eq_div_pow, Nat.mod_eq_of_lt hk]

theorem Char.toNat_val_toUInt8 (c : Char) : c.val.toUInt8.toNat = c.toNat % 256 := by
  simp
  rfl

theorem Char.toNat_valid (c : Char) :
    c.toNat < 0xD800 ∨ (0xDFFF < c.toNat ∧ c.toNat < 0x110000) := by
  have := c.valid
  simp only [UInt32.isValidChar, Nat.isValidChar] at this
  exact this

theorem utf8EncodeChar_one {c : Char} (h : c.toNat < 0x80) :
    ∃ b0 : UInt8, String.utf8EncodeChar c = [b0] ∧ b0.toNat = c.toNat := by
  have size : c.utf8Size = 1 := by
    rw [Char.utf8Size_eq_one_iff, UInt32.le_iff_toNat_le]
    simp
    omega
  refine ⟨_, String.utf8EncodeChar_eq_singleton size, ?_⟩
  rw [Char.toNat_val_toUInt8]
  omega

theorem utf8EncodeChar_two {c : Char} (h : 0x80 ≤ c.toNat) (h' : c.toNat < 0x800) :
    ∃ b0 b1 : UInt8, String.utf8EncodeChar c = [b0, b1] ∧
      b0.toNat = 0xC0 + c.toNat / 64 ∧ b1.toNat = 0x80 + c.toNat % 64 := by
  have size : c.utf8Size = 2 := by
    rw [Char.utf8Size_eq_two_iff, UInt32.lt_iff_toNat_lt, UInt32.le_iff_toNat_le]
    exact ⟨by simp; omega, by simp; omega⟩
  refine ⟨_, _, String.utf8EncodeChar_eq_cons_cons size, ?_, ?_⟩
  · rw [toNat_lead_two, Char.toNat_shiftRight_toUInt8 c 6 (by decide)]
    simp
    omega
  · rw [toNat_following, Char.toNat_val_toUInt8]
    omega

theorem utf8EncodeChar_three {c : Char} (h : 0x800 ≤ c.toNat) (h' : c.toNat < 0x10000) :
    ∃ b0 b1 b2 : UInt8, String.utf8EncodeChar c = [b0, b1, b2] ∧
      b0.toNat = 0xE0 + c.toNat / 4096 ∧ b1.toNat = 0x80 + c.toNat / 64 % 64 ∧
      b2.toNat = 0x80 + c.toNat % 64 := by
  have size : c.utf8Size = 3 := by
    rw [Char.utf8Size_eq_three_iff, UInt32.lt_iff_toNat_lt, UInt32.le_iff_toNat_le]
    exact ⟨by simp; omega, by simp; omega⟩
  refine ⟨_, _, _, String.utf8EncodeChar_eq_cons_cons_cons size, ?_, ?_, ?_⟩
  · rw [toNat_lead_three, Char.toNat_shiftRight_toUInt8 c 12 (by decide)]
    simp
    omega
  · rw [toNat_following, Char.toNat_shiftRight_toUInt8 c 6 (by decide)]
    simp
  · rw [toNat_following, Char.toNat_val_toUInt8]
    omega

theorem utf8EncodeChar_four {c : Char} (h : 0x10000 ≤ c.toNat) :
    ∃ b0 b1 b2 b3 : UInt8, String.utf8EncodeChar c = [b0, b1, b2, b3] ∧
      b0.toNat = 0xF0 + c.toNat / 262144 ∧ b1.toNat = 0x80 + c.toNat / 4096 % 64 ∧
      b2.toNat = 0x80 + c.toNat / 64 % 64 ∧ b3.toNat = 0x80 + c.toNat % 64 := by
  have size : c.utf8Size = 4 := by
    rw [Char.utf8Size_eq_four_iff, UInt32.lt_iff_toNat_lt]
    simp
    omega
  have top := Char.toNat_valid c
  refine ⟨_, _, _, _, String.utf8EncodeChar_eq_cons_cons_cons_cons size, ?_, ?_, ?_, ?_⟩
  · rw [toNat_lead_four, Char.toNat_shiftRight_toUInt8 c 18 (by decide)]
    simp
    omega
  · rw [toNat_following, Char.toNat_shiftRight_toUInt8 c 12 (by decide)]
    simp
  · rw [toNat_following, Char.toNat_shiftRight_toUInt8 c 6 (by decide)]
    simp
  · rw [toNat_following, Char.toNat_val_toUInt8]
    omega

/-! ### The client's check passes every character -/

set_option maxRecDepth 8000 in
/-- The lead bytes of two-byte characters, `0xC2` to `0xDF`, as the check reads them. -/
theorem utf8Lead_two {b : UInt8} (h : 0xC2 ≤ b.toNat ∧ b.toNat ≤ 0xDF) :
    utf8Lead b = some (2, 0x80, 0xBF) :=
  forall_uint8 (P := fun b => 0xC2 ≤ b.toNat ∧ b.toNat ≤ 0xDF → utf8Lead b = some (2, 0x80, 0xBF))
    (by decide) b h

set_option maxRecDepth 8000 in
/-- The lead bytes of three-byte characters, `0xE0` to `0xEF`: after `0xE0` the next byte
is at least `0xA0` (no overlong form), after `0xED` at most `0x9F` (no surrogate). -/
theorem utf8Lead_three {b : UInt8} (h : 0xE0 ≤ b.toNat ∧ b.toNat ≤ 0xEF) :
    utf8Lead b = some (3, if b.toNat = 0xE0 then 0xA0 else 0x80,
      if b.toNat = 0xED then 0x9F else 0xBF) :=
  forall_uint8 (P := fun b => 0xE0 ≤ b.toNat ∧ b.toNat ≤ 0xEF → utf8Lead b =
      some (3, if b.toNat = 0xE0 then 0xA0 else 0x80, if b.toNat = 0xED then 0x9F else 0xBF))
    (by decide) b h

set_option maxRecDepth 8000 in
/-- The lead bytes of four-byte characters, `0xF0` to `0xF4`: after `0xF0` the next byte
is at least `0x90` (no overlong form), after `0xF4` at most `0x8F` (nothing above
`U+10FFFF`). -/
theorem utf8Lead_four {b : UInt8} (h : 0xF0 ≤ b.toNat ∧ b.toNat ≤ 0xF4) :
    utf8Lead b = some (4, if b.toNat = 0xF0 then 0x90 else 0x80,
      if b.toNat = 0xF4 then 0x8F else 0xBF) :=
  forall_uint8 (P := fun b => 0xF0 ≤ b.toNat ∧ b.toNat ≤ 0xF4 → utf8Lead b =
      some (4, if b.toNat = 0xF0 then 0x90 else 0x80, if b.toNat = 0xF4 then 0x8F else 0xBF))
    (by decide) b h

theorem utf8Fault_single {b : UInt8} (h : b.toNat < 0x80) (rest : List UInt8) (i : Nat) :
    utf8Fault (b :: rest) i = utf8Fault rest (i + 1) := by
  have low : b < 0x80 := by
    rw [UInt8.lt_iff_toNat_lt]
    exact h
  rw [utf8Fault.eq_def]
  simp only [low, if_true]

theorem not_lt_of_high {b : UInt8} (h : 0x80 ≤ b.toNat) : ¬ b < 0x80 := by
  rw [UInt8.lt_iff_toNat_lt]
  simpa using h

theorem isContinuation_of_toNat {b : UInt8} (h : 0x80 ≤ b.toNat ∧ b.toNat ≤ 0xBF) :
    isContinuation b = true := by
  simp [isContinuation, UInt8.le_iff_toNat_le]
  omega

theorem utf8Fault_pair {b0 b1 lo hi : UInt8} (high : 0x80 ≤ b0.toNat)
    (lead : utf8Lead b0 = some (2, lo, hi)) (h1 : lo ≤ b1 ∧ b1 ≤ hi) (rest : List UInt8) (i : Nat) :
    utf8Fault (b0 :: b1 :: rest) i = utf8Fault rest (i + 2) := by
  have within : (lo ≤ b1 && b1 ≤ hi) = true := by simpa using h1
  rw [utf8Fault.eq_def]
  simp only [not_lt_of_high high, if_false, lead, within]
  rfl

theorem utf8Fault_triple {b0 b1 b2 lo hi : UInt8} (high : 0x80 ≤ b0.toNat)
    (lead : utf8Lead b0 = some (3, lo, hi)) (h1 : lo ≤ b1 ∧ b1 ≤ hi)
    (h2 : 0x80 ≤ b2.toNat ∧ b2.toNat ≤ 0xBF) (rest : List UInt8) (i : Nat) :
    utf8Fault (b0 :: b1 :: b2 :: rest) i = utf8Fault rest (i + 3) := by
  have within : (lo ≤ b1 && b1 ≤ hi) = true := by simpa using h1
  rw [utf8Fault.eq_def]
  simp only [not_lt_of_high high, if_false, lead, within, isContinuation_of_toNat h2]
  rfl

theorem utf8Fault_quad {b0 b1 b2 b3 lo hi : UInt8} (high : 0x80 ≤ b0.toNat)
    (lead : utf8Lead b0 = some (4, lo, hi)) (h1 : lo ≤ b1 ∧ b1 ≤ hi)
    (h2 : 0x80 ≤ b2.toNat ∧ b2.toNat ≤ 0xBF) (h3 : 0x80 ≤ b3.toNat ∧ b3.toNat ≤ 0xBF)
    (rest : List UInt8) (i : Nat) :
    utf8Fault (b0 :: b1 :: b2 :: b3 :: rest) i = utf8Fault rest (i + 4) := by
  have within : (lo ≤ b1 && b1 ≤ hi) = true := by simpa using h1
  rw [utf8Fault.eq_def]
  simp only [not_lt_of_high high, if_false, lead, within, isContinuation_of_toNat h2,
    isContinuation_of_toNat h3]
  rfl

theorem utf8Fault_encode (c : Char) (rest : List UInt8) (i : Nat) :
    utf8Fault (String.utf8EncodeChar c ++ rest) i = utf8Fault rest (i + c.utf8Size) := by
  rw [← String.length_utf8EncodeChar]
  have valid := Char.toNat_valid c
  by_cases one : c.toNat < 0x80
  · obtain ⟨b0, bytes, h0⟩ := utf8EncodeChar_one one
    rw [bytes]
    exact utf8Fault_single (by omega) rest i
  by_cases two : c.toNat < 0x800
  · obtain ⟨b0, b1, bytes, h0, h1⟩ := utf8EncodeChar_two (by omega) two
    rw [bytes]
    refine utf8Fault_pair (by omega) (utf8Lead_two (by omega)) ?_ rest i
    simp only [UInt8.le_iff_toNat_le]
    simp
    omega
  by_cases three : c.toNat < 0x10000
  · obtain ⟨b0, b1, b2, bytes, h0, h1, h2⟩ := utf8EncodeChar_three (by omega) three
    rw [bytes]
    refine utf8Fault_triple (by omega) (utf8Lead_three (by omega)) ?_ (by omega) rest i
    -- the second byte keeps to the lead's range: no overlong form after 0xE0, no
    -- surrogate after 0xED
    simp only [UInt8.le_iff_toNat_le]
    by_cases e0 : b0.toNat = 0xE0 <;> by_cases ed : b0.toNat = 0xED <;> simp [e0, ed] <;> omega
  · obtain ⟨b0, b1, b2, b3, bytes, h0, h1, h2, h3⟩ := utf8EncodeChar_four (c := c) (by omega)
    rw [bytes]
    refine utf8Fault_quad (by omega) (utf8Lead_four (by omega)) ?_ (by omega) (by omega) rest i
    -- after 0xF0 no overlong form, after 0xF4 nothing above U+10FFFF
    simp only [UInt8.le_iff_toNat_le]
    by_cases f0 : b0.toNat = 0xF0 <;> by_cases f4 : b0.toNat = 0xF4 <;> simp [f0, f4] <;> omega

theorem utf8Fault_flatMap (l : List Char) (i : Nat) :
    utf8Fault (l.flatMap String.utf8EncodeChar) i = none := by
  induction l generalizing i with
  | nil => rfl
  | cons c l ih => rw [List.flatMap_cons, utf8Fault_encode, ih]

/-! ### Strings and their bytes -/

theorem toList_loop (b : ByteArray) (i : Nat) (r : List UInt8) :
    ByteArray.toList.loop b i r = r.reverse ++ b.data.toList.drop i := by
  fun_induction ByteArray.toList.loop b i r with
  | case1 i r inside ih =>
    have at_i : b.get! i = b.data[i] := by
      simp [ByteArray.get!, inside]
    rw [ih, at_i, List.drop_eq_getElem_cons (i := i) (by simpa using inside)]
    simp
  | case2 i r outside =>
    rw [List.drop_eq_nil_of_le (by simpa using Nat.le_of_not_lt outside)]
    simp

theorem toList_byteArray (b : ByteArray) : b.toList = b.data.toList := by
  rw [ByteArray.toList, toList_loop]
  simp

theorem toList_toUTF8 (s : String) : s.toUTF8.toList = s.toList.flatMap String.utf8EncodeChar := by
  rw [toList_byteArray, String.toUTF8_eq_toByteArray, ← String.utf8Encode_toList, List.utf8Encode,
    List.toList_data_toByteArray]

theorem fromUTF8?_flatMap (s : String) :
    String.fromUTF8? (ByteArray.mk (s.toList.flatMap String.utf8EncodeChar).toArray) = some s := by
  have bytes : ByteArray.mk (s.toList.flatMap String.utf8EncodeChar).toArray = s.toByteArray := by
    rw [← toList_toUTF8, toList_byteArray, Array.toArray_toList, String.toUTF8_eq_toByteArray]
  rw [bytes]
  simp [String.fromUTF8?, s.isValidUTF8, String.fromUTF8]

theorem any_toList (s : String) (p : Char → Bool) : s.any p = s.toList.any p := by
  rw [String.any, String.contains_bool_eq]

/-! ### The database reads every character back -/

namespace Bytes

theorem wellFormed_single {b : UInt8} (h : b.toNat < 0x80) (rest : List UInt8) :
    wellFormed (b :: rest) = some (Char.ofNat b.toNat, 1) := by
  simp [wellFormed, h]

theorem wellFormed_following {b : UInt8} (h : 0x80 ≤ b.toNat ∧ b.toNat < 0xC2)
    (rest : List UInt8) : wellFormed (b :: rest) = none := by
  have ascii : ¬ b.toNat < 0x80 := by omega
  simp [wellFormed, ascii, h.2]

theorem wellFormed_pair {b0 b1 : UInt8} (h0 : 0xC2 ≤ b0.toNat ∧ b0.toNat < 0xE0)
    (h1 : 0x80 ≤ b1.toNat ∧ b1.toNat ≤ 0xBF) (rest : List UInt8) :
    wellFormed (b0 :: b1 :: rest) =
      some (Char.ofNat ((b0.toNat % 32) * 64 + b1.toNat % 64), 2) := by
  have ascii : ¬ b0.toNat < 0x80 := by omega
  have low : ¬ b0.toNat < 0xC2 := by omega
  simp [wellFormed, ascii, low, h0.2, h1.1, h1.2]

theorem wellFormed_triple {b0 b1 b2 : UInt8} (h0 : 0xE0 ≤ b0.toNat ∧ b0.toNat < 0xF0)
    (h1 : (if b0.toNat = 0xE0 then 0xA0 else 0x80) ≤ b1.toNat ∧
      b1.toNat ≤ (if b0.toNat = 0xED then 0x9F else 0xBF))
    (h2 : 0x80 ≤ b2.toNat ∧ b2.toNat ≤ 0xBF) (rest : List UInt8) :
    wellFormed (b0 :: b1 :: b2 :: rest) =
      some (Char.ofNat ((b0.toNat % 16) * 4096 + b1.toNat % 64 * 64 + b2.toNat % 64), 3) := by
  have ascii : ¬ b0.toNat < 0x80 := by omega
  have low : ¬ b0.toNat < 0xC2 := by omega
  have notTwo : ¬ b0.toNat < 0xE0 := by omega
  simp [wellFormed, ascii, low, notTwo, h0.2, h1.1, h1.2, h2.1, h2.2]

theorem wellFormed_quad {b0 b1 b2 b3 : UInt8} (h0 : 0xF0 ≤ b0.toNat ∧ b0.toNat < 0xF5)
    (h1 : (if b0.toNat = 0xF0 then 0x90 else 0x80) ≤ b1.toNat ∧
      b1.toNat ≤ (if b0.toNat = 0xF4 then 0x8F else 0xBF))
    (h2 : 0x80 ≤ b2.toNat ∧ b2.toNat ≤ 0xBF) (h3 : 0x80 ≤ b3.toNat ∧ b3.toNat ≤ 0xBF)
    (rest : List UInt8) :
    wellFormed (b0 :: b1 :: b2 :: b3 :: rest) =
      some (Char.ofNat ((b0.toNat % 8) * 262144 + b1.toNat % 64 * 4096 + b2.toNat % 64 * 64 +
        b3.toNat % 64), 4) := by
  have ascii : ¬ b0.toNat < 0x80 := by omega
  have low : ¬ b0.toNat < 0xC2 := by omega
  have notTwo : ¬ b0.toNat < 0xE0 := by omega
  have notThree : ¬ b0.toNat < 0xF0 := by omega
  simp [wellFormed, ascii, low, notTwo, notThree, h0.2, h1.1, h1.2, h2.1, h2.2, h3.1, h3.2]

/-- The database's decoder reads any character back from its bytes, and takes exactly
them. -/
theorem wellFormed_encode (c : Char) (rest : List UInt8) :
    wellFormed (String.utf8EncodeChar c ++ rest) = some (c, c.utf8Size) := by
  rw [← String.length_utf8EncodeChar]
  have valid := Char.toNat_valid c
  by_cases one : c.toNat < 0x80
  · obtain ⟨b0, bytes, h0⟩ := utf8EncodeChar_one one
    rw [bytes, List.cons_append, List.nil_append, wellFormed_single (by omega), h0,
      Char.ofNat_toNat]
    rfl
  by_cases two : c.toNat < 0x800
  · obtain ⟨b0, b1, bytes, h0, h1⟩ := utf8EncodeChar_two (by omega) two
    have value : (b0.toNat % 32) * 64 + b1.toNat % 64 = c.toNat := by omega
    rw [bytes, List.cons_append, List.cons_append, List.nil_append,
      wellFormed_pair (by omega) (by omega), value, Char.ofNat_toNat]
    rfl
  by_cases three : c.toNat < 0x10000
  · obtain ⟨b0, b1, b2, bytes, h0, h1, h2⟩ := utf8EncodeChar_three (by omega) three
    have range : (if b0.toNat = 0xE0 then 0xA0 else 0x80) ≤ b1.toNat ∧
        b1.toNat ≤ (if b0.toNat = 0xED then 0x9F else 0xBF) := by
      by_cases e0 : b0.toNat = 0xE0 <;> by_cases ed : b0.toNat = 0xED <;> simp [e0, ed] <;> omega
    have value : (b0.toNat % 16) * 4096 + b1.toNat % 64 * 64 + b2.toNat % 64 = c.toNat := by
      omega
    rw [bytes, List.cons_append, List.cons_append, List.cons_append, List.nil_append,
      wellFormed_triple (by omega) range (by omega), value, Char.ofNat_toNat]
    rfl
  · obtain ⟨b0, b1, b2, b3, bytes, h0, h1, h2, h3⟩ := utf8EncodeChar_four (c := c) (by omega)
    have range : (if b0.toNat = 0xF0 then 0x90 else 0x80) ≤ b1.toNat ∧
        b1.toNat ≤ (if b0.toNat = 0xF4 then 0x8F else 0xBF) := by
      by_cases f0 : b0.toNat = 0xF0 <;> by_cases f4 : b0.toNat = 0xF4 <;> simp [f0, f4] <;> omega
    have value : (b0.toNat % 8) * 262144 + b1.toNat % 64 * 4096 + b2.toNat % 64 * 64 +
        b3.toNat % 64 = c.toNat := by
      omega
    rw [bytes, List.cons_append, List.cons_append, List.cons_append, List.cons_append,
      List.nil_append, wellFormed_quad (by omega) range (by omega) (by omega), value,
      Char.ofNat_toNat]
    rfl

/-! ### Held texts -/

theorem rawChar_toNat (b : UInt8) : (rawChar b).toNat = rawBase + b.toNat := by
  have hb := b.toNat_lt
  have valid : (rawBase + b.toNat).isValidChar := by
    simp only [Nat.isValidChar, rawBase]
    omega
  rw [rawChar, Char.ofNat, dif_pos valid]
  simp [Char.ofNatAux, Char.toNat, rawBase]
  omega

theorem isRaw_rawChar {b : UInt8} (h : 0x80 ≤ b.toNat) : isRaw (rawChar b) = true := by
  simp [isRaw, rawChar_toNat, rawBase]
  omega

/-- A character of the reserved range has four bytes, the lead `0xF4` and three that can
only follow it. -/
theorem utf8EncodeChar_raw {c : Char} (h : isRaw c = true) :
    ∃ b0 b1 b2 b3 : UInt8, String.utf8EncodeChar c = [b0, b1, b2, b3] ∧
      b0.toNat = 0xF4 ∧ (0x80 ≤ b1.toNat ∧ b1.toNat ≤ 0xBF) ∧
      (0x80 ≤ b2.toNat ∧ b2.toNat ≤ 0xBF) ∧ (0x80 ≤ b3.toNat ∧ b3.toNat ≤ 0xBF) := by
  have valid := Char.toNat_valid c
  simp only [isRaw, rawBase, ge_iff_le, decide_eq_true_eq] at h
  obtain ⟨b0, b1, b2, b3, bytes, h0, h1, h2, h3⟩ := utf8EncodeChar_four (c := c) (by omega)
  exact ⟨b0, b1, b2, b3, bytes, by omega, by omega, by omega, by omega⟩

/-- The characters a string holding the UTF-8 bytes of a character has for them: the
character itself, or, for a character of the reserved range, one reserved character for
each of its bytes. -/
def heldChars (c : Char) : List Char :=
  if isRaw c then (String.utf8EncodeChar c).map rawChar else [c]

theorem charsOf_following {b : UInt8} (h : 0x80 ≤ b.toNat ∧ b.toNat ≤ 0xBF) (fuel : Nat)
    (rest : List UInt8) : charsOf (fuel + 1) (b :: rest) = rawChar b :: charsOf fuel rest := by
  simp [charsOf, wellFormed_following (b := b) (by omega)]

/-- Reading the UTF-8 bytes of characters as held characters gives each character as
`heldChars` says, given fuel for every byte. -/
theorem charsOf_encode (l : List Char) (fuel : Nat)
    (h : (l.flatMap String.utf8EncodeChar).length ≤ fuel) :
    charsOf fuel (l.flatMap String.utf8EncodeChar) = l.flatMap heldChars := by
  induction l generalizing fuel with
  | nil => cases fuel <;> rfl
  | cons c l ih =>
    have length : (String.utf8EncodeChar c).length + (l.flatMap String.utf8EncodeChar).length ≤
        fuel := by
      rw [List.flatMap_cons, List.length_append] at h
      exact h
    have decoded := wellFormed_encode c (l.flatMap String.utf8EncodeChar)
    rw [List.flatMap_cons, List.flatMap_cons]
    by_cases raw : isRaw c = true
    · obtain ⟨b0, b1, b2, b3, bytes, h0, h1, h2, h3⟩ := utf8EncodeChar_raw raw
      rw [bytes] at length decoded ⊢
      simp only [List.length_cons, List.length_nil] at length
      obtain ⟨fuel, rfl⟩ : ∃ f, fuel = f + 4 := ⟨fuel - 4, by omega⟩
      simp only [List.cons_append, List.nil_append] at decoded ⊢
      -- the lead byte decodes to a reserved character, held byte for byte; the three bytes
      -- after it start no character
      rw [show fuel + 4 = (fuel + 3) + 1 from rfl, charsOf, decoded]
      simp only [raw, if_true, charsOf_following h1, charsOf_following h2, charsOf_following h3]
      rw [ih fuel (by omega), heldChars, if_pos raw, bytes]
      rfl
    · have nonempty : 0 < (String.utf8EncodeChar c).length :=
        List.length_pos_iff.mpr String.utf8EncodeChar_ne_nil
      obtain ⟨b, tail, split⟩ : ∃ b tail, String.utf8EncodeChar c ++
          l.flatMap String.utf8EncodeChar = b :: tail := by
        cases hc : String.utf8EncodeChar c with
        | nil => exact absurd hc String.utf8EncodeChar_ne_nil
        | cons b bs => exact ⟨b, bs ++ l.flatMap String.utf8EncodeChar, rfl⟩
      obtain ⟨fuel, rfl⟩ : ∃ f, fuel = f + 1 := ⟨fuel - 1, by omega⟩
      rw [split] at decoded
      rw [split, charsOf, decoded]
      simp only [raw, Bool.false_eq_true, if_false]
      rw [← split, ← String.length_utf8EncodeChar, List.drop_left, ih fuel (by omega), heldChars,
        if_neg raw]
      rfl

theorem isRaw_heldChars {c : Char} (h : isRaw c = true) : (heldChars c).any isRaw = true := by
  obtain ⟨b0, b1, b2, b3, bytes, h0, -⟩ := utf8EncodeChar_raw h
  simp [heldChars, h, bytes, isRaw_rawChar (b := b0) (by omega)]

/-- Reading back the bytes a character's held characters stand for gives its UTF-8 bytes. -/
theorem flatMap_heldChars (c : Char) :
    (heldChars c).flatMap (fun d => if isRaw d then [(d.toNat - rawBase).toUInt8]
      else String.utf8EncodeChar d) = String.utf8EncodeChar c := by
  by_cases raw : isRaw c = true
  · obtain ⟨b0, b1, b2, b3, bytes, h0, h1, h2, h3⟩ := utf8EncodeChar_raw raw
    have back : ∀ b : UInt8, 0x80 ≤ b.toNat →
        (if isRaw (rawChar b) then [((rawChar b).toNat - rawBase).toUInt8]
          else String.utf8EncodeChar (rawChar b)) = [b] := by
      intro b hb
      rw [if_pos (isRaw_rawChar hb), rawChar_toNat, Nat.add_sub_cancel_left]
      simp
    simp only [heldChars, raw, if_true, bytes, List.map_cons, List.map_nil, List.flatMap_cons,
      List.flatMap_nil, back b0 (by omega), back b1 h1.1, back b2 h2.1, back b3 h3.1]
    rfl
  · simp [heldChars, raw]

/-- A string holding the UTF-8 bytes of characters, one of them reserved, holds exactly those
bytes. -/
theorem ofText_heldChars {l : List Char} (h : l.any isRaw = true) :
    ofText (String.ofList (l.flatMap heldChars)) = l.flatMap String.utf8EncodeChar := by
  have anyRaw : (String.ofList (l.flatMap heldChars)).any isRaw = true := by
    rw [any_toList, String.toList_ofList, List.any_flatMap]
    obtain ⟨c, mem, raw⟩ := List.any_eq_true.mp h
    exact List.any_eq_true.mpr ⟨c, mem, isRaw_heldChars raw⟩
  rw [ofText, if_pos anyRaw, String.toList_ofList, List.flatMap_assoc]
  exact congrArg (List.flatMap · l) (funext flatMap_heldChars)

/-- **A held text holds exactly the UTF-8 bytes of the text.** -/
theorem ofText_held (s : String) : ofText (held s) = s.toList.flatMap String.utf8EncodeChar := by
  by_cases raw : s.any isRaw = true
  · have decoded : toText s.toUTF8.toList = String.ofList (s.toList.flatMap heldChars) := by
      rw [toText, toList_toUTF8, fromUTF8?_flatMap]
      simp only [raw, if_true]
      rw [charsOf_encode _ _ (Nat.le_refl _)]
    rw [held, if_pos raw, decoded, ofText_heldChars (by rwa [← any_toList])]
  · rw [held, if_neg raw, ofText, if_neg raw, toList_toUTF8]

end Bytes

/-! ### The client reads back what it wrote -/

namespace Relational

variable {r : Relation} {row : List SqlValue} {column : String} {s : String}

/-- **A text the database holds as written is read back as itself.** -/
theorem textValue_held (asked : String) (h : r.get row column = .ok (.text (Bytes.held s))) :
    textValue r row column asked = .ok (some s) := by
  simp only [textValue, h, bind, Except.bind, Bytes.ofText_held, utf8Fault_flatMap,
    fromUTF8?_flatMap]
  rfl

theorem readText_held (h : r.get row column = .ok (.text (Bytes.held s))) :
    readText r row column = .ok s := by
  rw [readText, textValue_held _ h]

theorem readOptText_held (h : r.get row column = .ok (.text (Bytes.held s))) :
    readOptText r row column = .ok (some s) :=
  textValue_held _ h

theorem readOptText_null (h : r.get row column = .ok .null) :
    readOptText r row column = .ok none := by
  simp only [readOptText, textValue, h]
  rfl

theorem readInt_int {i : Int} (h : r.get row column = .ok (.int i)) :
    readInt r row column = .ok i := by
  simp only [readInt, h]
  rfl

end Relational

/-! ### Player ids read back -/

namespace PlayerId

theorem hexDigit_ne_hyphen (d : Fin 16) : hexDigit d ≠ '-' := by
  revert d
  decide

theorem utf8Size_hexDigit (d : Fin 16) : (hexDigit d).utf8Size = 1 := by
  revert d
  decide

/-- Where the hyphens of a hyphenated text stand depends only on how many characters it
has, when none of them is a hyphen. -/
theorem hyphenate_hyphens (i : Nat) (xs : List Char) (h : ∀ c ∈ xs, c ≠ '-') :
    (hyphenate i xs).map (· == '-') = (hyphenate i (List.replicate xs.length '0')).map (· == '-') := by
  induction xs generalizing i with
  | nil => rfl
  | cons x xs ih =>
    have hx : (x == '-') = false := by simpa using h x (by simp)
    rw [List.length_cons, List.replicate_succ]
    by_cases at_break : i = 8 ∨ i = 12 ∨ i = 16 ∨ i = 20 <;>
      simp [hyphenate, at_break, hx, ih (i + 1) (fun c mem => h c (by simp [mem]))]

theorem hyphenate_filter (i : Nat) (xs : List Char) (h : ∀ c ∈ xs, c ≠ '-') :
    (hyphenate i xs).filter (· ≠ '-') = xs := by
  induction xs generalizing i with
  | nil => rfl
  | cons x xs ih =>
    have hx : x ≠ '-' := h x (by simp)
    have rest := ih (i + 1) (fun c mem => h c (by simp [mem]))
    simp only [ne_eq, decide_not] at rest
    by_cases at_break : i = 8 ∨ i = 12 ∨ i = 16 ∨ i = 20 <;> simp [hyphenate, at_break, hx, rest]

theorem length_hyphenate (i : Nat) (xs : List Char) :
    (hyphenate i xs).length = (hyphenate i (List.replicate xs.length '0')).length := by
  induction xs generalizing i with
  | nil => rfl
  | cons x xs ih =>
    rw [List.length_cons, List.replicate_succ]
    by_cases at_break : i = 8 ∨ i = 12 ∨ i = 16 ∨ i = 20 <;> simp [hyphenate, at_break, ih (i + 1)]

theorem hyphensAt_eq (cs : List Char) :
    hyphensAt cs = ((cs.map (· == '-')).zipIdx.all fun (b, i) =>
      if i = 8 ∨ i = 13 ∨ i = 18 ∨ i = 23 then b else !b) := by
  simp only [hyphensAt, List.zipIdx_map, List.all_map]
  congr 1
  funext ci
  by_cases hyphen : ci.1 = '-' <;>
    by_cases at_break : ci.2 = 8 ∨ ci.2 = 13 ∨ ci.2 = 18 ∨ ci.2 = 23 <;> simp [hyphen, at_break]

theorem byteLength_fold (cs : List Char) (h : ∀ c ∈ cs, c.utf8Size = 1) (k : Nat) :
    cs.foldl (fun n c => n + c.utf8Size) k = k + cs.length := by
  induction cs generalizing k with
  | nil => rfl
  | cons c cs ih =>
    rw [List.foldl_cons, h c (by simp), ih (fun d mem => h d (by simp [mem]))]
    simp
    omega

/-- **A rendered player id parses back to itself.** -/
theorem parse_render (p : PlayerId) : parse p.render = .ok p := by
  have noHyphen : ∀ c ∈ p.digits.map hexDigit, c ≠ '-' := by
    simp only [List.mem_map]
    rintro c ⟨d, -, rfl⟩
    exact hexDigit_ne_hyphen d
  have chars : (p.render).toList = hyphenate 0 (p.digits.map hexDigit) := by
    simp [render]
  have length : (hyphenate 0 (p.digits.map hexDigit)).length = 36 := by
    rw [length_hyphenate, List.length_map, p.length_digits]
    rfl
  have ascii : ∀ c ∈ hyphenate 0 (p.digits.map hexDigit), c.utf8Size = 1 := by
    intro c mem
    by_cases hc : c = '-'
    · rw [hc]
      rfl
    · have kept : c ∈ (hyphenate 0 (p.digits.map hexDigit)).filter (· ≠ '-') :=
        List.mem_filter.mpr ⟨mem, by simpa using hc⟩
      rw [hyphenate_filter 0 _ noHyphen, List.mem_map] at kept
      obtain ⟨d, -, rfl⟩ := kept
      exact utf8Size_hexDigit d
  have bytes : byteLength (hyphenate 0 (p.digits.map hexDigit)) = 36 := by
    rw [byteLength, byteLength_fold _ ascii, length]
  have hyphens : hyphensAt (hyphenate 0 (p.digits.map hexDigit)) = true := by
    rw [hyphensAt_eq, hyphenate_hyphens 0 _ noHyphen, List.length_map, p.length_digits]
    decide
  have digits : digitsOf ((hyphenate 0 (p.digits.map hexDigit)).filter (· ≠ '-')) =
      some p.digits := by
    rw [hyphenate_filter 0 _ noHyphen, digitsOf, List.mapM_map]
    have back : hexValue ∘ hexDigit = some := funext hexValue_hexDigit
    rw [back]
    simpa using List.mapM_pure (m := Option) (f := id) (l := p.digits)
  simp only [parse, chars, shapedPart, bytes, partDigits, ofHyphenated, length, hyphens,
    digits]
  simp [p.length_digits]

end PlayerId

end CrateState
