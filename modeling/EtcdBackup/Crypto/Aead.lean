import EtcdBackup.Crypto.ChaCha20
import EtcdBackup.Crypto.Poly1305

/-!
# Authenticated encryption

ChaCha20 with Poly1305 and nothing but the message to authenticate: the sealed form is the
message under the key stream with a tag of 16 bytes behind it. What opens is exactly what was
sealed (`Aead.open?_eq_some_iff`).
-/

set_option autoImplicit false
set_option relaxedAutoImplicit false

namespace EtcdBackup.Aead

/-- The tag of a message that is under the key stream already. -/
def tag (key nonce covered : Bytes) : Bytes :=
  let padding := List.replicate ((16 - covered.length % 16) % 16) 0
  let lengths := Bytes.ofNumber 8 0 ++ Bytes.ofNumber 8 covered.length
  Poly1305.tag ((ChaCha20.block key nonce 0).take 32) (covered ++ padding ++ lengths)

/-- Seals a message. -/
def encrypt (key nonce message : Bytes) : Bytes :=
  let covered := ChaCha20.apply key nonce 1 message
  covered ++ tag key nonce covered

/-- Opens a sealed message, unless its tag is wrong. -/
def decrypt? (key nonce sealedMessage : Bytes) : Option Bytes :=
  if 16 ≤ sealedMessage.length then
    let covered := sealedMessage.take (sealedMessage.length - 16)
    if sealedMessage.drop (sealedMessage.length - 16) = tag key nonce covered then
      some (ChaCha20.apply key nonce 1 covered)
    else none
  else none

@[simp] theorem length_tag (key nonce covered : Bytes) : (tag key nonce covered).length = 16 :=
  Poly1305.length_tag ..

@[simp] theorem length_encrypt (key nonce message : Bytes) :
    (encrypt key nonce message).length = message.length + 16 := by
  simp [encrypt]

theorem decrypt?_eq_some_iff {key nonce message sealedMessage : Bytes} :
    decrypt? key nonce sealedMessage = some message ↔
      sealedMessage = encrypt key nonce message := by
  constructor
  · intro h
    unfold decrypt? at h
    split at h
    · simp only at h
      split at h
      · rename_i hlen htag
        obtain rfl := Option.some.inj h
        rw [encrypt, ChaCha20.apply_apply, ← htag, List.take_append_drop]
      · simp at h
    · simp at h
  · rintro rfl
    have hlen : (encrypt key nonce message).length - 16
        = (ChaCha20.apply key nonce 1 message).length := by simp
    simp only [decrypt?, hlen]
    simp [encrypt, ChaCha20.apply_apply]

end EtcdBackup.Aead
