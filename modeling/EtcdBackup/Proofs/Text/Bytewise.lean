import EtcdBackup.Text.Utf8
import Mathlib.Data.String.Basic

/-!
# The order of texts is that of their bytes

UTF-8 keeps the order of texts: comparing two texts character by character compares their bytes
(`encode_lt_encode_iff`).
-/

set_option autoImplicit false
set_option relaxedAutoImplicit false

namespace EtcdBackup.Utf8

theorem toList_loop (bytes : ByteArray) (i : Nat) (read : List UInt8) :
    ByteArray.toList.loop bytes i read = read.reverse ++ bytes.data.toList.drop i := by
  fun_induction ByteArray.toList.loop bytes i read with
  | case1 i read h ih =>
    have hi : i < bytes.data.toList.length := h
    rw [ih, List.drop_eq_getElem_cons hi]
    simp [ByteArray.get!, h]
  | case2 i read h =>
    rw [List.drop_eq_nil_of_le (Nat.le_of_not_lt h), List.append_nil]

/-- The bytes of a text are those of its characters. -/
theorem encode_eq (s : String) : encode s = s.toList.flatMap String.utf8EncodeChar := by
  unfold encode ByteArray.toList
  rw [toList_loop, List.drop_zero, List.reverse_nil, List.nil_append, String.toUTF8_eq_toByteArray,
    ← String.utf8Encode_toList, List.utf8Encode, List.toList_data_toByteArray]

section

variable {v w : Nat} {xs ys : List UInt8}

/-- Of two lists of bytes the first byte that differs decides. -/
theorem ofNat_cons_lt (hv : v < 256) (hw : w < 256) (h : v < w ∨ v = w ∧ xs < ys) :
    UInt8.ofNat v :: xs < UInt8.ofNat w :: ys := by
  rw [List.cons_lt_cons_iff, UInt8.lt_iff_toNat_lt, ← UInt8.toNat_inj, UInt8.toNat_ofNat',
    UInt8.toNat_ofNat', Nat.mod_eq_of_lt hv, Nat.mod_eq_of_lt hw]
  exact h

/-- The last byte of a character decides if the digits before it agree. -/
theorem last_lt (h : v < w) (agree : v / 64 = w / 64) :
    UInt8.ofNat (v % 64 + 128) :: xs < UInt8.ofNat (w % 64 + 128) :: ys :=
  ofNat_cons_lt (by omega) (by omega) (Or.inl (by omega))

theorem lastTwo_lt (h : v < w) (agree : v / 4096 = w / 4096) :
    UInt8.ofNat (v / 64 % 64 + 128) :: UInt8.ofNat (v % 64 + 128) :: xs <
      UInt8.ofNat (w / 64 % 64 + 128) :: UInt8.ofNat (w % 64 + 128) :: ys := by
  refine ofNat_cons_lt (by omega) (by omega) ?_
  by_cases more : v / 64 = w / 64
  · exact Or.inr ⟨by rw [more], last_lt h more⟩
  · exact Or.inl (by omega)

theorem lastThree_lt (h : v < w) (agree : v / 262144 = w / 262144) :
    UInt8.ofNat (v / 4096 % 64 + 128) :: UInt8.ofNat (v / 64 % 64 + 128) ::
        UInt8.ofNat (v % 64 + 128) :: xs <
      UInt8.ofNat (w / 4096 % 64 + 128) :: UInt8.ofNat (w / 64 % 64 + 128) ::
        UInt8.ofNat (w % 64 + 128) :: ys := by
  refine ofNat_cons_lt (by omega) (by omega) ?_
  by_cases more : v / 4096 = w / 4096
  · exact Or.inr ⟨by rw [more], lastTwo_lt h more⟩
  · exact Or.inl (by omega)

end

/-- The bytes of a smaller character come first, whatever follows them. -/
theorem utf8EncodeChar_append_lt {c d : Char} (h : c < d) (xs ys : List UInt8) :
    String.utf8EncodeChar c ++ xs < String.utf8EncodeChar d ++ ys := by
  have hlt : c.val.toNat < d.val.toNat := h
  have hd : d.val.toNat < 0x110000 := by
    have := d.valid
    unfold UInt32.isValidChar Nat.isValidChar at this
    omega
  unfold String.utf8EncodeChar
  generalize c.val.toNat = v at hlt
  generalize d.val.toNat = w at hlt hd
  dsimp only
  -- A longer character has a greater first byte; among equally long ones the digits decide.
  repeat' split
  all_goals refine ofNat_cons_lt (by omega) (by omega) ?_
  all_goals first
    | exact Or.inl (by omega)
    | by_cases more : v / 64 = w / 64
      · exact Or.inr ⟨by rw [more], last_lt hlt more⟩
      · exact Or.inl (by omega)
    | by_cases more : v / 4096 = w / 4096
      · exact Or.inr ⟨by rw [more], lastTwo_lt hlt more⟩
      · exact Or.inl (by omega)
    | by_cases more : v / 262144 = w / 262144
      · exact Or.inr ⟨by rw [more], lastThree_lt hlt more⟩
      · exact Or.inl (by omega)

theorem utf8EncodeChar_ne_nil (c : Char) : String.utf8EncodeChar c ≠ [] := by
  unfold String.utf8EncodeChar
  dsimp only
  repeat' split
  all_goals exact List.cons_ne_nil _ _

theorem flatMap_lt_flatMap {s t : List Char} (h : s < t) :
    s.flatMap String.utf8EncodeChar < t.flatMap String.utf8EncodeChar := by
  induction h with
  | @nil c t =>
    obtain ⟨byte, bytes, hbytes⟩ := List.exists_cons_of_ne_nil (utf8EncodeChar_ne_nil c)
    rw [List.flatMap_cons, hbytes]
    exact List.nil_lt_cons _ _
  | cons _ ih => exact List.append_left_lt ih
  | rel h => exact utf8EncodeChar_append_lt h _ _

/-- Texts are ordered as their bytes are. -/
theorem encode_lt_encode_iff {s t : String} : encode s < encode t ↔ s < t := by
  rw [encode_eq, encode_eq, String.lt_iff]
  refine ⟨fun h ↦ ?_, flatMap_lt_flatMap⟩
  rcases lt_trichotomy s.toList t.toList with hlt | heq | hlt
  · exact hlt
  · rw [heq] at h
    exact (List.lt_irrefl _ h).elim
  · exact (List.lt_asymm h (flatMap_lt_flatMap hlt)).elim

end EtcdBackup.Utf8
