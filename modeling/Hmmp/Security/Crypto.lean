import Hmmp.Wire.Binary
import Hmmp.Wire.Constants

/-!
# Signatures, key derivation and config encryption

The cryptographic primitives are a parameter; what the protocol feeds to them
and how it lays out the encrypted body is modelled here.
-/

namespace Hmmp
namespace Security

open Foundation
open Wire

/-- The primitives of the cryptographic libraries. -/
structure CryptoLib where
  /-- Key and message to digest. -/
  hmacSha256 : Bytes -> Bytes -> Bytes
  /-- Input key material, salt, info and length to derived key. -/
  hkdfSha256 : Bytes -> Bytes -> Bytes -> Nat -> Bytes
  /-- Key, initialisation vector, plaintext and associated data. -/
  aesGcmEncrypt : Bytes -> Bytes -> Bytes -> Bytes -> Except PyError Bytes
  /-- Key, initialisation vector, ciphertext and associated data; failure
  carries the text of the exception. -/
  aesGcmDecrypt : Bytes -> Bytes -> Bytes -> Bytes -> Except String Bytes

/-- Primitives that protect nothing, for runs that do not depend on them. -/
def CryptoLib.plain : CryptoLib where
  hmacSha256 _ _ := []
  hkdfSha256 _ _ _ _ := []
  aesGcmEncrypt _ _ plaintext _ := pure plaintext
  aesGcmDecrypt _ _ ciphertext _ := pure ciphertext

def hexDigit (n : Nat) : CodePoint :=
  codePointOf (Nat.digitChar n)

/-- Lowercase hexadecimal digits of a byte string. -/
def hex (bs : Bytes) : Text :=
  bs.flatMap fun b => [hexDigit (b.toNat / 16), hexDigit (b.toNat % 16)]

theorem hexDigit_inj {m n : Nat} (hm : m < 16) (hn : n < 16)
    (h : hexDigit m = hexDigit n) : m = n := by
  have hall : forall m, m < 16 -> forall n, n < 16 ->
      hexDigit m = hexDigit n -> m = n := by
    decide
  exact hall m hm n hn h

theorem hex_length (bs : Bytes) : (hex bs).length = 2 * bs.length := by
  induction bs with
  | nil => rfl
  | cons b bs ih =>
      have hcons : hex (b :: bs) =
          hexDigit (b.toNat / 16) :: hexDigit (b.toNat % 16) :: hex bs := rfl
      rw [hcons, List.length_cons, List.length_cons, ih, List.length_cons]
      omega

theorem hex_injective : Function.Injective hex := by
  intro xs
  induction xs with
  | nil =>
      intro ys h
      cases ys with
      | nil => rfl
      | cons y ys => cases h
  | cons x xs ih =>
      intro ys h
      cases ys with
      | nil => cases h
      | cons y ys =>
          have hx := x.toNat_lt
          have hy := y.toNat_lt
          have hcons : hexDigit (x.toNat / 16) :: hexDigit (x.toNat % 16) ::
              hex xs = hexDigit (y.toNat / 16) :: hexDigit (y.toNat % 16) ::
              hex ys := h
          injection hcons with hhigh hcons
          injection hcons with hlow hrest
          have hhigh := hexDigit_inj (by omega) (by omega) hhigh
          have hlow := hexDigit_inj (by omega) (by omega) hlow
          have hbyte : x = y := UInt8.toNat_inj.mp (by omega)
          rw [hbyte, ih hrest]

/-!
# Signatures and keys
-/

def computeSignature (crypto : CryptoLib) (secret clientId : Text)
    (timestamp : Nat) : Except PyError Text := do
  let message ← BinaryWriter.encodeString (clientId ++ decimal timestamp)
  let key ← BinaryWriter.encodeString secret
  pure (hex (crypto.hmacSha256 key message))

def computeSignatureV2 (crypto : CryptoLib) (secret clientId : Text)
    (timestamp : Nat) (serverNonce : Bytes) : Except PyError Text := do
  let message ← BinaryWriter.encodeString
    (clientId ++ decimal timestamp ++ hex serverNonce)
  let key ← BinaryWriter.encodeString secret
  pure (hex (crypto.hmacSha256 key message))

/-- {lit}`hmac.compare_digest` of two strings, which are to be ASCII. -/
def compareDigest (expected signature : Text) : Except PyError Bool :=
  if (expected ++ signature).all fun c => decide (c.val < 0x80) then
    pure (decide (expected = signature))
  else throw PyError.typeError

def verifySignature (crypto : CryptoLib) (secret clientId : Text)
    (timestamp : Nat) (signature : Text) : Except PyError Bool := do
  let expected ← computeSignature crypto secret clientId timestamp
  compareDigest expected signature

def verifySignatureV2 (crypto : CryptoLib) (secret clientId : Text)
    (timestamp : Nat) (serverNonce : Bytes) (signature : Text) :
    Except PyError Bool := do
  let expected ←
    computeSignatureV2 crypto secret clientId timestamp serverNonce
  compareDigest expected signature

def deriveSessionSecret (crypto : CryptoLib) (clientId : Text)
    (timestamp : Nat) (sharedKey : Text) : Except PyError Bytes := do
  let message ← BinaryWriter.encodeString (clientId ++ decimal timestamp)
  let key ← BinaryWriter.encodeString sharedKey
  pure (crypto.hmacSha256 key message)

def cekSalt : Bytes :=
  [104, 109, 109, 112, 45, 99, 111, 110, 102, 105, 103, 45, 101, 110, 99, 114,
    121, 112, 116, 45, 118, 49]

def deriveCek (crypto : CryptoLib) (sessionSecret : Bytes)
    (configKeyId : Text) : Except PyError Bytes := do
  let info ← BinaryWriter.encodeString configKeyId
  pure (crypto.hkdfSha256 sessionSecret cekSalt info 32)

/-!
# Encrypted config bodies
-/

def buildAad (magic version streamId bodyType : Nat) :
    Except PyError Bytes := do
  let magic ← packUnsigned 2 magic
  let version ← packUnsigned 1 version
  let streamId ← packUnsigned 4 streamId
  let bodyType ← packUnsigned 2 bodyType
  pure (magic ++ version ++ streamId ++ bodyType)

/-- Encrypt under a given initialisation vector. -/
def encryptConfigBody (crypto : CryptoLib) (iv plaintext cek : Bytes)
    (streamId bodyType : Nat) : Except PyError Bytes := do
  let aad ← buildAad magicNumber protocolVersion streamId bodyType
  let ciphertext ← crypto.aesGcmEncrypt cek iv plaintext aad
  let ivLen ← packUnsigned 1 12
  let length ← packUnsigned 4 ciphertext.length
  pure (ivLen ++ iv ++ length ++ ciphertext)

/-- The initialisation vector and the ciphertext of an encrypted body. -/
def readEncryptedBody (encryptedBody : Bytes) :
    Except PyError (Bytes × Bytes) := do
  if encryptedBody.length < 1 then
    throw (PyError.decryptionError "Encrypted body too short")
  let ivLen := fromBigEndian (slice encryptedBody 0 1)
  if ivLen ≠ 12 then
    throw (PyError.decryptionError
      ("Invalid IV length: " ++ toString ivLen ++ ", expected 12"))
  if encryptedBody.length < 1 + ivLen + 4 then
    throw (PyError.decryptionError
      "Encrypted body too short for IV and length")
  let iv := slice encryptedBody 1 (1 + ivLen)
  let offset := 1 + ivLen
  let ciphertextLen := fromBigEndian (slice encryptedBody offset (offset + 4))
  let offset := offset + 4
  if encryptedBody.length < offset + ciphertextLen then
    throw (PyError.decryptionError "Encrypted body too short for ciphertext")
  pure (iv, slice encryptedBody offset (offset + ciphertextLen))

def decryptConfigBody (crypto : CryptoLib) (encryptedBody cek : Bytes)
    (streamId bodyType : Nat) : Except PyError Bytes := do
  let (iv, ciphertext) ← readEncryptedBody encryptedBody
  let aad ← buildAad magicNumber protocolVersion streamId bodyType
  match crypto.aesGcmDecrypt cek iv ciphertext aad with
  | Except.ok plaintext => pure plaintext
  | Except.error e =>
      throw (PyError.decryptionError ("AES-GCM decryption failed: " ++ e))

def encryptedLayout (iv ciphertext : Bytes) : Bytes :=
  bigEndian 1 12 ++ iv ++ bigEndian 4 ciphertext.length ++ ciphertext

theorem readEncryptedBody_layout_append {iv ciphertext : Bytes}
    (hiv : iv.length = 12) (hlt : ciphertext.length < 256 ^ 4)
    (rest : Bytes) :
    readEncryptedBody (encryptedLayout iv ciphertext ++ rest) =
      Except.ok (iv, ciphertext) := by
  have hbody : encryptedLayout iv ciphertext ++ rest = bigEndian 1 12 ++
      iv ++ (bigEndian 4 ciphertext.length ++ (ciphertext ++ rest)) := by
    simp [encryptedLayout]
  have hstart : (bigEndian 1 12 ++ iv).length = 13 := by
    simp [hiv]
  have hfront : (bigEndian 1 12 ++ iv ++
      bigEndian 4 ciphertext.length).length = 17 := by
    simp [hiv]
  have htotal : (encryptedLayout iv ciphertext ++ rest).length =
      17 + ciphertext.length + rest.length := by
    rw [List.length_append, encryptedLayout, List.length_append, hfront]
  have hivLen : fromBigEndian
      (slice (encryptedLayout iv ciphertext ++ rest) 0 1) = 12 := rfl
  have hivSlice :
      slice (encryptedLayout iv ciphertext ++ rest) 1 13 = iv := by
    rw [hbody]
    exact slice_mid (bigEndian 1 12) iv _ rfl (by rw [hiv])
  have hlen : fromBigEndian
      (slice (encryptedLayout iv ciphertext ++ rest) 13 17) =
        ciphertext.length := by
    rw [hbody, ← List.append_assoc, slice_mid _ _ _ hstart (by simp),
      fromBigEndian_bigEndian, Nat.mod_eq_of_lt hlt]
  have hcipher : slice (encryptedLayout iv ciphertext ++ rest) 17
      (17 + ciphertext.length) = ciphertext :=
    slice_mid _ ciphertext rest hfront rfl
  unfold readEncryptedBody
  simp only [htotal, hivLen, hivSlice, hlen, hcipher]
  rw [if_neg (by omega), if_neg (by omega), if_neg (by omega),
    if_neg (by omega)]
  rfl

theorem readEncryptedBody_layout {iv ciphertext : Bytes}
    (hiv : iv.length = 12) (hlt : ciphertext.length < 256 ^ 4) :
    readEncryptedBody (encryptedLayout iv ciphertext) =
      Except.ok (iv, ciphertext) := by
  have h := readEncryptedBody_layout_append hiv hlt []
  rwa [List.append_nil] at h

/-- The primitives are free of collisions, and decryption undoes encryption. -/
structure CryptoLib.Ideal (crypto : CryptoLib) : Prop where
  hmac_inj : forall key m m', crypto.hmacSha256 key m =
    crypto.hmacSha256 key m' -> m = m'
  hkdf_inj : forall ikm ikm' salt info length,
    crypto.hkdfSha256 ikm salt info length =
      crypto.hkdfSha256 ikm' salt info length -> ikm = ikm'
  hkdf_ne_nil : forall ikm salt info,
    crypto.hkdfSha256 ikm salt info 32 ≠ []
  decrypt_encrypt : forall key iv plaintext aad ciphertext,
    crypto.aesGcmEncrypt key iv plaintext aad = Except.ok ciphertext ->
      crypto.aesGcmDecrypt key iv ciphertext aad = Except.ok plaintext

theorem encryptConfigBody_eq_ok {crypto : CryptoLib}
    {iv plaintext cek body : Bytes} {streamId bodyType : Nat}
    (h : encryptConfigBody crypto iv plaintext cek streamId bodyType =
      Except.ok body) :
    exists aad ciphertext,
      buildAad magicNumber protocolVersion streamId bodyType =
          Except.ok aad ∧
        crypto.aesGcmEncrypt cek iv plaintext aad = Except.ok ciphertext ∧
          ciphertext.length < 256 ^ 4 ∧
            body = encryptedLayout iv ciphertext := by
  rcases bind_eq_ok.mp h with ⟨aad, haad, h⟩
  rcases bind_eq_ok.mp h with ⟨ciphertext, hcipher, h⟩
  rcases bind_eq_ok.mp h with ⟨ivLen, hivLen, h⟩
  rcases bind_eq_ok.mp h with ⟨length, hlength, h⟩
  rcases packUnsigned_eq_ok.mp hivLen with ⟨_, rfl⟩
  rcases packUnsigned_eq_ok.mp hlength with ⟨hlt, rfl⟩
  injection h with h
  exact ⟨aad, ciphertext, haad, hcipher, hlt, h.symm⟩

theorem decryptConfigBody_encryptConfigBody {crypto : CryptoLib}
    (hideal : crypto.Ideal) {iv plaintext cek body : Bytes}
    {streamId bodyType : Nat} (hiv : iv.length = 12)
    (h : encryptConfigBody crypto iv plaintext cek streamId bodyType =
      Except.ok body) :
    decryptConfigBody crypto body cek streamId bodyType =
      Except.ok plaintext := by
  rcases encryptConfigBody_eq_ok h with
    ⟨aad, ciphertext, haad, hcipher, hlt, rfl⟩
  have hplain :=
    hideal.decrypt_encrypt cek iv plaintext aad ciphertext hcipher
  unfold decryptConfigBody
  simp only [readEncryptedBody_layout hiv hlt, haad, bind, Except.bind,
    hplain]
  rfl

end Security
end Hmmp
