import EtcdBackup.Proofs.Course
import EtcdBackup.Proofs.Text.Bytewise
import EtcdBackup.SealedFile

/-!
# The form of sealed files

`IsSealed` is the format: the letters `EBO1`, a salt, a nonce, and the sealed content, with nothing
in between and nothing behind. Opening accepts exactly this format, and tells bytes that do not even
begin like a sealed file from those that begin so and do not open (`unpack_eq_ok_iff`,
`unpack_of_not_isHeaded`, `unpack_of_isHeaded`). Sealing with fresh random bytes produces it
(`isSealed_of_leads`).
-/

set_option autoImplicit false
set_option relaxedAutoImplicit false

namespace EtcdBackup.Sealed

variable {passphrase : String} {data plain : Bytes}

/-- The bytes are some content sealed under a passphrase. The key is what Argon2id makes of the
passphrase and the salt, with 19456 KiB of memory, two passes and 32 bytes to come out. -/
def IsSealed (passphrase : String) (plain data : Bytes) : Prop :=
  ∃ salt nonce : Bytes, salt.length = 16 ∧ nonce.length = 12 ∧
    data = Utf8.encode "EBO1" ++ salt ++ nonce ++
      Aead.encrypt (Argon2.hash ⟨19456, 2, 32⟩ (Utf8.encode passphrase) salt) nonce plain

/-- The bytes begin like a sealed file: with the mark and at least as many bytes behind it as a
salt and a nonce have. -/
def IsHeaded (data : Bytes) : Prop := 32 ≤ data.length ∧ Utf8.encode "EBO1" <+: data

theorem mark_eq : mark = Utf8.encode "EBO1" := by
  rw [Utf8.encode_eq]
  decide

theorem isSealed_iff : IsSealed passphrase plain data ↔
    ∃ salt nonce : Bytes, salt.length = saltLength ∧ nonce.length = nonceLength ∧
      data = pack passphrase salt nonce plain := by
  unfold IsSealed pack key keyCost
  rw [mark_eq]
  rfl

theorem isSealed_pack {salt nonce : Bytes} (passphrase : String) (plain : Bytes)
    (hsalt : salt.length = saltLength) (hnonce : nonce.length = nonceLength) :
    IsSealed passphrase plain (pack passphrase salt nonce plain) :=
  isSealed_iff.2 ⟨salt, nonce, hsalt, hnonce, rfl⟩

theorem IsSealed.length_eq (h : IsSealed passphrase plain data) :
    data.length = 32 + plain.length + 16 := by
  obtain ⟨salt, nonce, hsalt, hnonce, rfl⟩ := isSealed_iff.1 h
  exact length_pack hsalt hnonce

/-- The check in front of the opening passes exactly for bytes that begin like a sealed file. -/
theorem isHeaded_iff :
    IsHeaded data ↔ ¬(data.length < headerLength ∨ data.take mark.length ≠ mark) := by
  rw [IsHeaded, ← mark_eq, List.prefix_iff_eq_take, not_or, Nat.not_lt, not_not, eq_comm]
  rfl

/-- Bytes that begin like a sealed file are the mark, a salt, a nonce and a rest; both slices have
their full length. -/
theorem IsHeaded.exists_parts (h : IsHeaded data) :
    ∃ salt nonce rest : Bytes, salt.length = saltLength ∧ nonce.length = nonceLength ∧
      data = mark ++ salt ++ nonce ++ rest := by
  obtain ⟨hlength, behind, rfl⟩ := h
  rw [← mark_eq] at hlength ⊢
  have hbehind : saltLength + nonceLength ≤ behind.length := by
    have : mark.length = 4 := rfl
    rw [List.length_append] at hlength
    exact (by omega : 28 ≤ behind.length)
  refine ⟨behind.take saltLength, (behind.drop saltLength).take nonceLength,
    (behind.drop saltLength).drop nonceLength, ?_, ?_, ?_⟩
  · rw [List.length_take]
    omega
  · rw [List.length_take, List.length_drop]
    omega
  · rw [List.append_assoc, List.append_assoc, List.take_append_drop, List.take_append_drop]

theorem unpack_of_not_isHeaded (h : ¬IsHeaded data) :
    unpack passphrase data = .error .notSealed := by
  rw [isHeaded_iff, not_not] at h
  rw [unpack, if_pos h]

/-- Bytes that begin like a sealed file open, or they are reported as damaged or under another
passphrase. -/
theorem unpack_of_isHeaded (passphrase : String) (h : IsHeaded data) :
    (∃ plain, unpack passphrase data = .ok plain ∧ IsSealed passphrase plain data) ∨
      unpack passphrase data = .error .notOpened := by
  obtain ⟨salt, nonce, rest, hsalt, hnonce, rfl⟩ := h.exists_parts
  rw [unpack_append passphrase hsalt hnonce]
  cases hopen : Aead.decrypt? (key passphrase salt) nonce rest with
  | none => exact Or.inr rfl
  | some plain =>
    rw [Aead.decrypt?_eq_some_iff] at hopen
    subst hopen
    exact Or.inl ⟨plain, rfl, isSealed_pack passphrase plain hsalt hnonce⟩

theorem unpack_of_isSealed (h : IsSealed passphrase plain data) :
    unpack passphrase data = .ok plain := by
  obtain ⟨salt, nonce, hsalt, hnonce, rfl⟩ := isSealed_iff.1 h
  exact unpack_pack hsalt hnonce

/-- What opens is exactly what was sealed. -/
theorem unpack_eq_ok_iff :
    unpack passphrase data = .ok plain ↔ IsSealed passphrase plain data := by
  refine ⟨fun h ↦ ?_, unpack_of_isSealed⟩
  by_cases headed : IsHeaded data
  · rcases unpack_of_isHeaded passphrase headed with ⟨plain', hplain, isSealed⟩ | hno
    · rw [hplain] at h
      rwa [← Except.ok.inj h]
    · rw [hno] at h
      cases h
  · rw [unpack_of_not_isHeaded headed] at h
    cases h

/-- Too short a content to hold a tag does not open. -/
theorem unpack_of_length_lt (headed : IsHeaded data) (short : data.length < 48) :
    unpack passphrase data = .error .notOpened := by
  rcases unpack_of_isHeaded passphrase headed with ⟨plain, -, isSealed⟩ | hno
  · have := isSealed.length_eq
    omega
  · exact hno

/-- Whatever random bytes are drawn, sealing gives a sealed form of the content. -/
theorem isSealed_of_leads {es : List (Exchange Machine)}
    (h : (SealedFile.sealFresh passphrase plain).Leads es (.done data)) :
    IsSealed passphrase plain data := by
  obtain ⟨salt, _, rfl, hnonce⟩ := Dialogue.leads_ask_done_iff.1 h
  obtain ⟨nonce, _, rfl, hend⟩ := Dialogue.leads_ask_done_iff.1 hnonce
  cases hend
  exact isSealed_pack passphrase plain salt.2 nonce.2

/-- Opening accepts exactly the sealed forms of a content, which is given back; sealing produces
such a form, 48 bytes longer than the content. Bytes that do not begin like a sealed file are
refused as none, with no slice taken of them. All slices are complete in those that do, and what
does not open of these is refused as damaged or under another passphrase, be it too short for a
tag. -/
theorem unpack_exactly (passphrase : String) (data : Bytes) :
    (∀ plain, unpack passphrase data = .ok plain ↔ IsSealed passphrase plain data) ∧
      (¬IsHeaded data → unpack passphrase data = .error .notSealed) ∧
      (IsHeaded data →
        ((data.drop 4).take 16).length = 16 ∧ ((data.drop 20).take 12).length = 12 ∧
        ((∀ plain, ¬IsSealed passphrase plain data) →
          unpack passphrase data = .error .notOpened) ∧
        (data.length < 48 → unpack passphrase data = .error .notOpened)) ∧
      (Error.encryption .notSealed).message = "encryption error: not an encrypted backup" ∧
      (Error.encryption .notOpened).message =
        "encryption error: decryption failed: wrong passphrase or corrupted file" ∧
      ∀ plain es, (SealedFile.sealFresh passphrase plain).Leads es (.done data) →
        IsSealed passphrase plain data ∧ data.length = 32 + plain.length + 16 ∧
          unpack passphrase data = .ok plain := by
  refine ⟨fun plain ↦ unpack_eq_ok_iff, unpack_of_not_isHeaded, fun headed ↦ ?_, rfl, rfl, ?_⟩
  · have hlength := headed.1
    refine ⟨?_, ?_, fun none ↦ ?_, unpack_of_length_lt headed⟩
    · rw [List.length_take, List.length_drop]
      omega
    · rw [List.length_take, List.length_drop]
      omega
    · rcases unpack_of_isHeaded passphrase headed with ⟨plain, -, isSealed⟩ | hno
      · exact (none plain isSealed).elim
      · exact hno
  · intro plain es h
    have isSealed := isSealed_of_leads h
    exact ⟨isSealed, isSealed.length_eq, unpack_of_isSealed isSealed⟩

/-- Three bytes sealed with the first random bytes that come are fifty-one bytes, and open. The mark
and 43 more zero bytes are refused as damaged, and the mark alone as no sealed file. -/
theorem unpack_exactly_three :
    (∃ es data, (SealedFile.sealFresh "pw" [1, 2, 3]).Leads es (.done data) ∧
      data.length = 51 ∧ unpack "pw" data = .ok [1, 2, 3]) ∧
      IsHeaded (mark ++ List.replicate 43 0) ∧
      unpack "pw" (mark ++ List.replicate 43 0) = .error .notOpened ∧
      unpack "pw" mark = .error .notSealed := by
  have headed : IsHeaded (mark ++ List.replicate 43 0) :=
    ⟨by decide, mark_eq ▸ List.prefix_append _ _⟩
  have bare : ¬IsHeaded mark := fun h ↦ absurd h.1 (by decide)
  let salt : { bs : Bytes // bs.length = 16 } := ⟨List.replicate 16 0, rfl⟩
  let nonce : { bs : Bytes // bs.length = 12 } := ⟨List.replicate 12 0, rfl⟩
  have course : (SealedFile.sealFresh "pw" [1, 2, 3]).Leads
      [⟨.randomBytes 16, salt⟩, ⟨.randomBytes 12, nonce⟩]
      (.done (pack "pw" salt.1 nonce.1 [1, 2, 3])) := .ask (.ask (.rest _))
  obtain ⟨-, -, -, -, -, sealing⟩ := unpack_exactly "pw" (pack "pw" salt.1 nonce.1 [1, 2, 3])
  obtain ⟨-, hlength, hopen⟩ := sealing _ _ course
  obtain ⟨-, -, damaged, -⟩ := unpack_exactly "pw" (mark ++ List.replicate 43 0)
  obtain ⟨-, refused, -⟩ := unpack_exactly "pw" mark
  exact ⟨⟨_, _, course, hlength, hopen⟩, headed, (damaged headed).2.2.2 (by decide), refused bare⟩

end EtcdBackup.Sealed
