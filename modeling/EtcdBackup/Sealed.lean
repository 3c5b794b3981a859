import EtcdBackup.Crypto.Aead
import EtcdBackup.Crypto.Argon2
import EtcdBackup.Error

/-!
# Sealed files

A sealed file begins with the mark `EBO1`, a salt of 16 bytes and a nonce of 12; the encrypted
content follows. The key is made from the passphrase and the salt. What `Sealed.pack` makes with a
salt and a nonce of these lengths, `Sealed.unpack` opens again (`Sealed.unpack_pack`).
-/

set_option autoImplicit false
set_option relaxedAutoImplicit false

namespace EtcdBackup.Sealed

/-- The mark at the beginning, the text `EBO1`. -/
def mark : Bytes := [0x45, 0x42, 0x4F, 0x31]

/-- The length of a salt. -/
def saltLength : Nat := 16

/-- The length of a nonce. -/
def nonceLength : Nat := 12

/-- The length of what stands in front of the encrypted content. -/
def headerLength : Nat := mark.length + saltLength + nonceLength

/-- The work that making a key takes. -/
def keyCost : Argon2.Cost := ⟨19456, 2, 32⟩

/-- The key for a passphrase and a salt. -/
def key (passphrase : String) (salt : Bytes) : Bytes :=
  Argon2.hash keyCost (Utf8.encode passphrase) salt

/-- Seals bytes with a salt and a nonce. -/
def pack (passphrase : String) (salt nonce plain : Bytes) : Bytes :=
  mark ++ salt ++ nonce ++ Aead.encrypt (key passphrase salt) nonce plain

/-- Opens sealed bytes. -/
def unpack (passphrase : String) (data : Bytes) : Except EncryptionFault Bytes :=
  if data.length < headerLength ∨ data.take mark.length ≠ mark then .error .notSealed
  else
    let salt := (data.drop mark.length).take saltLength
    let nonce := (data.drop (mark.length + saltLength)).take nonceLength
    match Aead.decrypt? (key passphrase salt) nonce (data.drop headerLength) with
    | some plain => .ok plain
    | none => .error .notOpened

/-- Whether bytes begin like a sealed file. -/
def hasMark (data : Bytes) : Bool := data.take mark.length = mark

/-- The content under at most `depth` sealed layers, and the number of layers. -/
def peel (passphrase : String) (data : Bytes) : Nat → Bytes × Nat
  | 0 => (data, 0)
  | depth + 1 =>
    match if hasMark data then unpack passphrase data else .error .notSealed with
    | .ok plain =>
      let (content, layers) := peel passphrase plain depth
      (content, layers + 1)
    | .error _ => (data, 0)

theorem length_pack {passphrase : String} {salt nonce plain : Bytes}
    (hsalt : salt.length = saltLength) (hnonce : nonce.length = nonceLength) :
    (pack passphrase salt nonce plain).length = headerLength + plain.length + 16 := by
  simp [pack, hsalt, hnonce, headerLength]
  omega

/-- Bytes that are in four parts are opened part by part. -/
theorem unpack_append {salt nonce : Bytes} (passphrase : String) (hsalt : salt.length = saltLength)
    (hnonce : nonce.length = nonceLength) (rest : Bytes) :
    unpack passphrase (mark ++ salt ++ nonce ++ rest) =
      match Aead.decrypt? (key passphrase salt) nonce rest with
      | some plain => .ok plain
      | none => .error .notOpened := by
  have hlength : ¬(mark ++ salt ++ nonce ++ rest).length < headerLength := by
    simp [hsalt, hnonce, headerLength]
    omega
  have hmark : (mark ++ salt ++ nonce ++ rest).take mark.length = mark := by
    simp [List.append_assoc]
  have hsaltPart : ((mark ++ salt ++ nonce ++ rest).drop mark.length).take saltLength = salt := by
    simp [List.append_assoc, ← hsalt]
  have hnoncePart : ((mark ++ salt ++ nonce ++ rest).drop (mark.length + saltLength)).take
      nonceLength = nonce := by
    rw [List.append_assoc, ← hsalt, ← List.length_append, List.drop_left, ← hnonce, List.take_left]
  have hrest : (mark ++ salt ++ nonce ++ rest).drop headerLength = rest := by
    rw [headerLength, ← hsalt, ← hnonce, ← List.length_append, ← List.length_append,
      List.drop_left]
  unfold unpack
  simp only [hlength, hmark, ne_eq, not_true_eq_false, or_self, if_false, hsaltPart, hnoncePart,
    hrest]

theorem unpack_pack {passphrase : String} {salt nonce plain : Bytes}
    (hsalt : salt.length = saltLength) (hnonce : nonce.length = nonceLength) :
    unpack passphrase (pack passphrase salt nonce plain) = .ok plain := by
  rw [pack, unpack_append passphrase hsalt hnonce, Aead.decrypt?_eq_some_iff.2 rfl]

end EtcdBackup.Sealed
