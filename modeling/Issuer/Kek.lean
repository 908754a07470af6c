import Issuer.Platform

/-!
# Envelope encryption under the key encryption key

Secrets are stored as a 12-byte nonce followed by the AES-256-GCM ciphertext and tag. During a
rotation of the key encryption key the previous one is tried after the current one.

The cipher is a parameter. `AesGcm.Lawful` is what the code relies on: a 16-byte tag, and that
decryption under the same key, nonce and purpose gives the plaintext back. `AesGcm.Rejects` says that one
ciphertext is refused; only statements about the wrong key need it.
-/

namespace Issuer

abbrev Bytes := List UInt8

def bytesOf (s : String) : Bytes := s.toUTF8.data.toList

theorem bytesOf_injective {s t : String} (h : bytesOf s = bytesOf t) : s = t :=
  String.toByteArray_inj.mp (ByteArray.ext (Array.toList_inj.mp h))

structure AesGcm where
  encrypt : (kek nonce plaintext aad : Bytes) → Bytes
  decrypt : (kek nonce ciphertext aad : Bytes) → Option Bytes

structure AesGcm.Lawful (A : AesGcm) : Prop where
  length_encrypt : ∀ kek nonce plaintext aad, (A.encrypt kek nonce plaintext aad).length = plaintext.length + 16
  decrypt_encrypt : ∀ kek nonce plaintext aad, kek.length = 32 → nonce.length = 12 →
    A.decrypt kek nonce (A.encrypt kek nonce plaintext aad) aad = some plaintext

/-- The nonce and the ciphertext in `data` do not open under `kek`. -/
def AesGcm.Rejects (A : AesGcm) (kek data aad : Bytes) : Prop :=
  A.decrypt kek (data.take 12) (data.drop 12) aad = none

section
variable (A : AesGcm)

/-- `nonce` are the twelve random bytes of this call. -/
def encryptWithKek (nonce : Vector UInt8 12) (kek plaintext purpose : Bytes) : Except ApiError Bytes :=
  if kek.length ≠ 32 then .error (.cryptoError "Invalid KEK: Invalid Length")
  else .ok (nonce.toList ++ A.encrypt kek nonce.toList plaintext purpose)

def decryptWithKek (kek encryptedData purpose : Bytes) : Except ApiError Bytes :=
  if encryptedData.length < 28 then
    .error (.cryptoError "Encrypted data too short (minimum 28 bytes: nonce + tag)")
  else if kek.length ≠ 32 then .error (.cryptoError "Invalid KEK: Invalid Length")
  else
    match A.decrypt kek (encryptedData.take 12) (encryptedData.drop 12) purpose with
    | some plaintext => .ok plaintext
    | none => .error (.cryptoError "Decryption failed: aead::Error")

structure KekPair where
  current : Bytes
  previous : Option Bytes
deriving DecidableEq, Repr

def decryptWithKekFallback (kekPair : KekPair) (encryptedData purpose : Bytes) : Except ApiError Bytes :=
  match decryptWithKek A kekPair.current encryptedData purpose with
  | .ok plaintext => .ok plaintext
  | .error primaryErr =>
    match kekPair.previous with
    | some prevKek =>
      match decryptWithKek A prevKek encryptedData purpose with
      | .ok plaintext => .ok plaintext
      | .error _ => .error primaryErr
    | none => .error primaryErr

variable {A}

theorem decryptWithKek_encrypt (hA : A.Lawful) {nonce : Vector UInt8 12} {kek plaintext purpose data : Bytes}
    (h : encryptWithKek A nonce kek plaintext purpose = .ok data) : decryptWithKek A kek data purpose = .ok plaintext := by
  unfold encryptWithKek at h
  split at h
  · cases h
  · rename_i hkek
    cases h
    have hnonce : nonce.toList.length = 12 := by simp
    have htake : (nonce.toList ++ A.encrypt kek nonce.toList plaintext purpose).take 12 = nonce.toList :=
      List.take_left' hnonce
    have hdrop : (nonce.toList ++ A.encrypt kek nonce.toList plaintext purpose).drop 12 =
        A.encrypt kek nonce.toList plaintext purpose := List.drop_left' hnonce
    have hlong : ¬(nonce.toList ++ A.encrypt kek nonce.toList plaintext purpose).length < 28 := by
      rw [List.length_append, hA.length_encrypt, hnonce]; omega
    have hkek' : kek.length = 32 := by omega
    simp only [decryptWithKek, hlong, if_false, hkek, htake, hdrop, hA.decrypt_encrypt _ _ _ _ hkek' hnonce]

theorem decryptWithKekFallback_current {kekPair : KekPair} {data purpose plaintext : Bytes}
    (h : decryptWithKek A kekPair.current data purpose = .ok plaintext) :
    decryptWithKekFallback A kekPair data purpose = .ok plaintext := by
  simp [decryptWithKekFallback, h]

end

/-! ## A cipher to run the model with

The text in the clear, with a tag that depends on key, nonce and purpose.
-/

def clearTag (kek nonce aad : Bytes) : Bytes :=
  [kek.sum, nonce.sum, aad.sum] ++ List.replicate 13 0

def clearGcm : AesGcm where
  encrypt kek nonce plaintext aad := plaintext ++ clearTag kek nonce aad
  decrypt kek nonce ciphertext aad :=
    if ciphertext.drop (ciphertext.length - 16) = clearTag kek nonce aad then
      some (ciphertext.take (ciphertext.length - 16))
    else none

theorem clearGcm_lawful : clearGcm.Lawful := by
  refine ⟨?_, ?_⟩
  · intro kek nonce plaintext aad
    simp [clearGcm, clearTag]
  · intro kek nonce plaintext aad _ _
    have hlen : (plaintext ++ clearTag kek nonce aad).length - 16 = plaintext.length := by simp [clearTag]
    simp only [clearGcm, hlen, List.drop_left, List.take_left, if_true]

theorem clearGcm_rejects {kek other : Bytes} (h : kek.sum ≠ other.sum) (nonce : Vector UInt8 12) (plaintext aad : Bytes) :
    clearGcm.Rejects other (nonce.toList ++ clearGcm.encrypt kek nonce.toList plaintext aad) aad := by
  have hnonce : nonce.toList.length = 12 := by simp
  have hlen : (plaintext ++ clearTag kek nonce.toList aad).length - 16 = plaintext.length := by simp [clearTag]
  have htag : clearTag kek nonce.toList aad ≠ clearTag other nonce.toList aad := by
    intro he
    simp only [clearTag, List.cons_append, List.cons.injEq] at he
    exact h he.1
  simp only [AesGcm.Rejects, List.take_left' hnonce, List.drop_left' hnonce, clearGcm, hlen, List.drop_left, if_neg htag]

end Issuer
