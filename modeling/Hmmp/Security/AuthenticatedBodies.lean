import Hmmp.Security.Crypto

/-!
# What decryption accepts

The body of a frame says itself where its ciphertext ends, outside of what the
cipher authenticates.  With an ideal cipher the holder of the key accepts
exactly the bodies that begin with an encrypted body for the same frame.
-/

namespace Hmmp
namespace Security

open Foundation
open Wire

def aadSize : Nat := 9

/-- A cipher that decrypts what it has encrypted, under the same associated
data, and nothing else. -/
structure CryptoLib.IdealAead (crypto : CryptoLib) : Prop where
  /-- The tag takes sixteen bytes. -/
  ciphertext_length : forall key iv plaintext aad ciphertext,
    crypto.aesGcmEncrypt key iv plaintext aad = Except.ok ciphertext ->
      ciphertext.length = plaintext.length + 16
  authentic : forall key iv plaintext aad ciphertext,
    crypto.aesGcmDecrypt key iv ciphertext aad = Except.ok plaintext <->
      crypto.aesGcmEncrypt key iv plaintext aad = Except.ok ciphertext
  /-- A ciphertext belongs to one associated data of the protocol. -/
  aad_bound : forall key iv plaintext plaintext' aad aad' ciphertext,
    aad.length = aadSize -> aad'.length = aadSize ->
      crypto.aesGcmEncrypt key iv plaintext aad = Except.ok ciphertext ->
        crypto.aesGcmEncrypt key iv plaintext' aad' = Except.ok ciphertext ->
          aad = aad'

/-!
# Associated data
-/

def aadLayout (streamId bodyType : Nat) : Bytes :=
  bigEndian 2 magicNumber ++ bigEndian 1 protocolVersion ++
    bigEndian 4 streamId ++ bigEndian 2 bodyType

theorem buildAad_eq {streamId bodyType : Nat} (hstream : streamId < 2 ^ 32)
    (htype : bodyType < 2 ^ 16) :
    buildAad magicNumber protocolVersion streamId bodyType =
      Except.ok (aadLayout streamId bodyType) := by
  have hmagic : magicNumber < 256 ^ 2 := by decide
  have hversion : protocolVersion < 256 ^ 1 := by decide
  have hstream : streamId < 256 ^ 4 := hstream
  have htype : bodyType < 256 ^ 2 := htype
  unfold buildAad
  rw [packUnsigned_of_lt hmagic, packUnsigned_of_lt hversion,
    packUnsigned_of_lt hstream, packUnsigned_of_lt htype]
  rfl

theorem aadLayout_length (streamId bodyType : Nat) :
    (aadLayout streamId bodyType).length = aadSize := by
  simp [aadLayout, aadSize]

theorem bigEndian_inj {width n n' : Nat} (hn : n < 256 ^ width)
    (hn' : n' < 256 ^ width) (h : bigEndian width n = bigEndian width n') :
    n = n' := by
  have hread := congrArg fromBigEndian h
  rw [fromBigEndian_bigEndian, fromBigEndian_bigEndian, Nat.mod_eq_of_lt hn,
    Nat.mod_eq_of_lt hn'] at hread
  exact hread

theorem aadLayout_inj {streamId streamId' bodyType bodyType' : Nat}
    (hstream : streamId < 2 ^ 32) (hstream' : streamId' < 2 ^ 32)
    (htype : bodyType < 2 ^ 16) (htype' : bodyType' < 2 ^ 16)
    (h : aadLayout streamId bodyType = aadLayout streamId' bodyType') :
    streamId = streamId' ∧ bodyType = bodyType' := by
  unfold aadLayout at h
  have hparts := List.append_inj h (by simp)
  have hfront := List.append_inj hparts.1 (by simp)
  exact ⟨bigEndian_inj hstream hstream' hfront.2,
    bigEndian_inj htype htype' hparts.2⟩

/-!
# Layouts
-/

theorem encryptedLayout_of_fields {body : Bytes}
    (hivLen : fromBigEndian (slice body 0 1) = 12) (hlong : 17 <= body.length)
    (hcipher : 17 + fromBigEndian (slice body 13 17) <= body.length) :
    exists iv ciphertext, iv.length = 12 ∧ ciphertext.length < 256 ^ 4 ∧
      encryptedLayout iv ciphertext <+: body := by
  let count := fromBigEndian (slice body 13 17)
  have hcount : count < 256 ^ 4 := fromBigEndian_slice_lt rfl
  have hsize : (slice body 17 (17 + count)).length = count := by
    rw [slice_length (by omega)]
    omega
  refine ⟨slice body 1 13, slice body 17 (17 + count), ?_, ?_, ?_⟩
  · exact slice_length (by omega)
  · rw [hsize]
    exact hcount
  · -- The four fields are consecutive slices.
    have hfirst : bigEndian 1 12 = slice body 0 1 := by
      rw [← hivLen, bigEndian_slice 1 (by omega) rfl]
    have hthird : bigEndian 4 count = slice body 13 17 :=
      bigEndian_slice 4 (by omega) rfl
    rw [encryptedLayout, hsize, hfirst, hthird,
      slice_append_slice body (by omega) (by omega),
      slice_append_slice body (by omega) (by omega),
      slice_append_slice body (by omega) (by omega), slice_zero]
    exact List.take_prefix _ body

theorem readEncryptedBody_cases (body : Bytes) :
    (exists message, readEncryptedBody body =
      Except.error (PyError.decryptionError message)) ∨
    exists iv ciphertext, iv.length = 12 ∧ ciphertext.length < 256 ^ 4 ∧
      encryptedLayout iv ciphertext <+: body := by
  by_cases hempty : body.length < 1
  · left
    refine ⟨"Encrypted body too short", ?_⟩
    unfold readEncryptedBody
    rw [if_pos hempty]
    rfl
  by_cases hivLen : fromBigEndian (slice body 0 1) ≠ 12
  · left
    refine ⟨"Invalid IV length: " ++
      toString (fromBigEndian (slice body 0 1)) ++ ", expected 12", ?_⟩
    unfold readEncryptedBody
    simp only [if_neg hempty, if_pos hivLen]
    rfl
  have hivLen : fromBigEndian (slice body 0 1) = 12 :=
    Decidable.of_not_not hivLen
  by_cases hshort : body.length < 17
  · left
    refine ⟨"Encrypted body too short for IV and length", ?_⟩
    unfold readEncryptedBody
    simp only [hivLen]
    rw [if_neg hempty, if_neg (by simp), if_pos hshort]
    rfl
  by_cases hcipher :
      body.length < 17 + fromBigEndian (slice body 13 17)
  · left
    refine ⟨"Encrypted body too short for ciphertext", ?_⟩
    unfold readEncryptedBody
    simp only [hivLen]
    rw [if_neg hempty, if_neg (by simp), if_neg hshort, if_pos hcipher]
    rfl
  right
  exact encryptedLayout_of_fields hivLen (Nat.le_of_not_lt hshort)
    (Nat.le_of_not_lt hcipher)

theorem encryptedLayout_unique {iv iv' ciphertext ciphertext' body : Bytes}
    (hiv : iv.length = 12) (hlt : ciphertext.length < 256 ^ 4)
    (hiv' : iv'.length = 12) (hlt' : ciphertext'.length < 256 ^ 4)
    (h : encryptedLayout iv ciphertext <+: body)
    (h' : encryptedLayout iv' ciphertext' <+: body) :
    iv = iv' ∧ ciphertext = ciphertext' := by
  rcases h with ⟨rest, hrest⟩
  rcases h' with ⟨rest', hrest'⟩
  have hread := readEncryptedBody_layout_append hiv hlt rest
  have hread' := readEncryptedBody_layout_append hiv' hlt' rest'
  rw [hrest] at hread
  rw [hrest', hread] at hread'
  injection hread' with hpair
  exact Prod.mk.inj hpair

/-!
# Bodies that are accepted
-/

variable {crypto : CryptoLib} {cek : Bytes} {streamId bodyType : Nat}

theorem encryptConfigBody_of_ciphertext {iv plaintext ciphertext : Bytes}
    (hstream : streamId < 2 ^ 32) (htype : bodyType < 2 ^ 16)
    (hlt : ciphertext.length < 256 ^ 4)
    (h : crypto.aesGcmEncrypt cek iv plaintext (aadLayout streamId bodyType) =
      Except.ok ciphertext) :
    encryptConfigBody crypto iv plaintext cek streamId bodyType =
      Except.ok (encryptedLayout iv ciphertext) := by
  have hivLen : (12 : Nat) < 256 ^ 1 := by decide
  unfold encryptConfigBody
  rw [buildAad_eq hstream htype]
  show (crypto.aesGcmEncrypt cek iv plaintext _ >>= fun ciphertext => _) = _
  rw [h]
  show (packUnsigned 1 12 >>= fun ivLen => _) = _
  rw [packUnsigned_of_lt hivLen, packUnsigned_of_lt hlt]
  rfl

theorem ciphertext_of_encryptConfigBody {iv plaintext body : Bytes}
    (hstream : streamId < 2 ^ 32) (htype : bodyType < 2 ^ 16)
    (h : encryptConfigBody crypto iv plaintext cek streamId bodyType =
      Except.ok body) :
    exists ciphertext, ciphertext.length < 256 ^ 4 ∧
      body = encryptedLayout iv ciphertext ∧
        crypto.aesGcmEncrypt cek iv plaintext
          (aadLayout streamId bodyType) = Except.ok ciphertext := by
  rcases encryptConfigBody_eq_ok h with
    ⟨aad, ciphertext, haad, hcipher, hlt, hbody⟩
  rw [buildAad_eq hstream htype] at haad
  injection haad with haad
  rw [← haad] at hcipher
  exact ⟨ciphertext, hlt, hbody, hcipher⟩

/-- The body was rejected with a decryption error. -/
def Rejected (result : Except PyError Bytes) : Prop :=
  exists message, result = Except.error (PyError.decryptionError message)

theorem decryptConfigBody_opened (hstream : streamId < 2 ^ 32)
    (htype : bodyType < 2 ^ 16) {iv ciphertext plaintext : Bytes}
    (hiv : iv.length = 12) (hlt : ciphertext.length < 256 ^ 4)
    (rest : Bytes) (hplain : crypto.aesGcmDecrypt cek iv ciphertext
      (aadLayout streamId bodyType) = Except.ok plaintext) :
    decryptConfigBody crypto (encryptedLayout iv ciphertext ++ rest) cek
      streamId bodyType = Except.ok plaintext := by
  unfold decryptConfigBody
  simp only [readEncryptedBody_layout_append hiv hlt rest,
    buildAad_eq hstream htype, bind, Except.bind, hplain]
  rfl

theorem decryptConfigBody_refused (hstream : streamId < 2 ^ 32)
    (htype : bodyType < 2 ^ 16) {iv ciphertext : Bytes} {e : String}
    (hiv : iv.length = 12) (hlt : ciphertext.length < 256 ^ 4)
    (rest : Bytes) (hplain : crypto.aesGcmDecrypt cek iv ciphertext
      (aadLayout streamId bodyType) = Except.error e) :
    Rejected (decryptConfigBody crypto (encryptedLayout iv ciphertext ++ rest)
      cek streamId bodyType) := by
  refine ⟨"AES-GCM decryption failed: " ++ e, ?_⟩
  unfold decryptConfigBody
  simp only [readEncryptedBody_layout_append hiv hlt rest,
    buildAad_eq hstream htype, bind, Except.bind, hplain]
  rfl

/-- A body is rejected, or begins with an encrypted body of what it is
decrypted to. -/
theorem decryptConfigBody_cases (hideal : crypto.IdealAead)
    (hstream : streamId < 2 ^ 32) (htype : bodyType < 2 ^ 16)
    (body : Bytes) :
    Rejected (decryptConfigBody crypto body cek streamId bodyType) ∨
    exists iv plaintext front, iv.length = 12 ∧ front <+: body ∧
      encryptConfigBody crypto iv plaintext cek streamId bodyType =
        Except.ok front := by
  rcases readEncryptedBody_cases body with ⟨message, herror⟩ | hlayout
  · left
    refine ⟨message, ?_⟩
    unfold decryptConfigBody
    rw [herror]
    rfl
  · rcases hlayout with ⟨iv, ciphertext, hiv, hlt, rest, hrest⟩
    rw [← hrest]
    cases hplain : crypto.aesGcmDecrypt cek iv ciphertext
      (aadLayout streamId bodyType) with
    | error e =>
        left
        exact decryptConfigBody_refused hstream htype hiv hlt rest hplain
    | ok plaintext =>
        right
        have hcipher := (hideal.authentic ..).mp hplain
        exact ⟨iv, plaintext, _, hiv, ⟨rest, rfl⟩,
          encryptConfigBody_of_ciphertext hstream htype hlt hcipher⟩

theorem decryptConfigBody_of_encrypted (hideal : crypto.IdealAead)
    (hstream : streamId < 2 ^ 32) (htype : bodyType < 2 ^ 16)
    {iv plaintext body : Bytes} (hiv : iv.length = 12)
    (h : encryptConfigBody crypto iv plaintext cek streamId bodyType =
      Except.ok body) :
    decryptConfigBody crypto body cek streamId bodyType =
      Except.ok plaintext := by
  rcases ciphertext_of_encryptConfigBody hstream htype h with
    ⟨ciphertext, hlt, rfl, hcipher⟩
  have hplain := (hideal.authentic ..).mpr hcipher
  have hopened := decryptConfigBody_opened hstream htype hiv hlt [] hplain
  rwa [List.append_nil] at hopened

theorem decryptConfigBody_other_frame (hideal : crypto.IdealAead)
    (hstream : streamId < 2 ^ 32) (htype : bodyType < 2 ^ 16)
    {streamId' bodyType' : Nat} (hstream' : streamId' < 2 ^ 32)
    (htype' : bodyType' < 2 ^ 16)
    (hother : (streamId', bodyType') ≠ (streamId, bodyType))
    {iv plaintext body : Bytes} (hiv : iv.length = 12)
    (h : encryptConfigBody crypto iv plaintext cek streamId bodyType =
      Except.ok body) :
    Rejected (decryptConfigBody crypto body cek streamId' bodyType') := by
  refine (decryptConfigBody_cases hideal hstream' htype' body).resolve_right
    ?_
  rintro ⟨iv', plaintext', front, hiv', hfront, h'⟩
  rcases ciphertext_of_encryptConfigBody hstream htype h with
    ⟨ciphertext, hlt, rfl, hcipher⟩
  rcases ciphertext_of_encryptConfigBody hstream' htype' h' with
    ⟨ciphertext', hlt', rfl, hcipher'⟩
  rcases encryptedLayout_unique hiv hlt hiv' hlt' List.prefix_rfl hfront with
    ⟨rfl, rfl⟩
  have haad := hideal.aad_bound cek iv plaintext plaintext' _ _ ciphertext
    (aadLayout_length ..) (aadLayout_length ..) hcipher hcipher'
  rcases aadLayout_inj hstream hstream' htype htype' haad with ⟨rfl, rfl⟩
  exact hother rfl

theorem decryptConfigBody_strict_prefix (hideal : crypto.IdealAead)
    (hstream : streamId < 2 ^ 32) (htype : bodyType < 2 ^ 16)
    {iv plaintext body cut : Bytes} (hiv : iv.length = 12)
    (h : encryptConfigBody crypto iv plaintext cek streamId bodyType =
      Except.ok body)
    (hcut : cut <+: body) (hne : cut ≠ body) :
    Rejected (decryptConfigBody crypto cut cek streamId bodyType) := by
  refine (decryptConfigBody_cases hideal hstream htype cut).resolve_right ?_
  rintro ⟨iv', plaintext', front, hiv', hfront, h'⟩
  rcases ciphertext_of_encryptConfigBody hstream htype h with
    ⟨ciphertext, hlt, rfl, hcipher⟩
  rcases ciphertext_of_encryptConfigBody hstream htype h' with
    ⟨ciphertext', hlt', rfl, hcipher'⟩
  rcases encryptedLayout_unique hiv hlt hiv' hlt' List.prefix_rfl
    (hfront.trans hcut) with ⟨rfl, rfl⟩
  exact hne (hcut.eq_of_length_le hfront.length_le)

/-- With an ideal cipher an encrypted body is read back under its own frame
and rejected under every other, and so is every body that was cut short or
changed into one that begins with no encrypted body. -/
theorem encrypted_bodies_authentic (hideal : crypto.IdealAead)
    (iv plaintext cek : Bytes) (streamId bodyType : Nat)
    (hiv : iv.length = 12) (hplain : plaintext.length < 2 ^ 32 - 16)
    (hstream : streamId < 2 ^ 32) (htype : bodyType < 2 ^ 16) :
    (forall ciphertext, crypto.aesGcmEncrypt cek iv plaintext
        (aadLayout streamId bodyType) = Except.ok ciphertext ->
      encryptConfigBody crypto iv plaintext cek streamId bodyType =
        Except.ok (encryptedLayout iv ciphertext)) ∧
    forall body,
      encryptConfigBody crypto iv plaintext cek streamId bodyType =
        Except.ok body ->
      decryptConfigBody crypto body cek streamId bodyType =
        Except.ok plaintext ∧
      (forall streamId' bodyType', streamId' < 2 ^ 32 ->
        bodyType' < 2 ^ 16 ->
        (streamId', bodyType') ≠ (streamId, bodyType) ->
        Rejected (decryptConfigBody crypto body cek streamId' bodyType')) ∧
      (forall cut, cut <+: body -> cut ≠ body ->
        Rejected (decryptConfigBody crypto cut cek streamId bodyType)) ∧
      forall changed, changed.length = body.length -> changed ≠ body ->
        (forall iv' plaintext' front, iv'.length = 12 ->
          encryptConfigBody crypto iv' plaintext' cek streamId bodyType =
            Except.ok front ->
          ¬ front <+: changed) ->
        Rejected (decryptConfigBody crypto changed cek streamId bodyType) := by
  constructor
  · intro ciphertext hcipher
    have hsize := hideal.ciphertext_length _ _ _ _ _ hcipher
    exact encryptConfigBody_of_ciphertext hstream htype (by omega) hcipher
  · intro body hbody
    refine ⟨decryptConfigBody_of_encrypted hideal hstream htype hiv hbody,
      ?_, ?_, ?_⟩
    · intro streamId' bodyType' hstream' htype' hother
      exact decryptConfigBody_other_frame hideal hstream htype hstream' htype'
        hother hiv hbody
    · intro cut hcut hne
      exact decryptConfigBody_strict_prefix hideal hstream htype hiv hbody
        hcut hne
    · intro changed _ _ hnone
      refine (decryptConfigBody_cases hideal hstream htype
        changed).resolve_right ?_
      rintro ⟨iv', plaintext', front, hiv', hfront, h'⟩
      exact hnone iv' plaintext' front hiv' h' hfront

/-!
A cipher that has one ciphertext of AES-256-GCM, and hides nothing elsewhere
but tags every plaintext with its associated data.
-/

/-- A ciphertext and what it encrypts. -/
structure Seal where
  key : Bytes
  iv : Bytes
  plaintext : Bytes
  aad : Bytes
  ciphertext : Bytes
  size : ciphertext.length = plaintext.length + 16
  marked : ciphertext.getLast? ≠ some 0

/-- Sixteen bytes that tell the associated data of the protocol apart. -/
def aadTag (aad : Bytes) : Bytes :=
  aad.take 9 ++ List.replicate (16 - (aad.take 9).length) 0

namespace Seal

def Encrypts (s : Seal) (key iv plaintext aad : Bytes) : Prop :=
  key = s.key ∧ iv = s.iv ∧ plaintext = s.plaintext ∧ aad = s.aad

instance (s : Seal) (key iv plaintext aad : Bytes) :
    Decidable (s.Encrypts key iv plaintext aad) :=
  inferInstanceAs (Decidable (_ ∧ _))

def encrypt (s : Seal) (key iv plaintext aad : Bytes) : Bytes :=
  if s.Encrypts key iv plaintext aad then s.ciphertext
  else plaintext ++ aadTag aad

def candidate (s : Seal) (ciphertext : Bytes) : Bytes :=
  if ciphertext = s.ciphertext then s.plaintext
  else ciphertext.take (ciphertext.length - 16)

end Seal

def CryptoLib.sealing (s : Seal) : CryptoLib where
  hmacSha256 _ _ := []
  hkdfSha256 _ _ _ _ := []
  aesGcmEncrypt key iv plaintext aad := pure (s.encrypt key iv plaintext aad)
  aesGcmDecrypt key iv ciphertext aad :=
    if ciphertext = s.encrypt key iv (s.candidate ciphertext) aad then
      pure (s.candidate ciphertext)
    else throw ""

theorem aadTag_length (aad : Bytes) : (aadTag aad).length = 16 := by
  have hfront : (aad.take 9).length <= 16 :=
    Nat.le_trans (List.length_take_le 9 aad) (by decide)
  rw [aadTag, List.length_append, List.length_replicate,
    Nat.add_sub_cancel' hfront]

theorem Seal.ciphertext_ne (s : Seal) (plaintext aad : Bytes) :
    plaintext ++ aadTag aad ≠ s.ciphertext := by
  have hfront : (aad.take 9).length <= 9 := List.length_take_le 9 aad
  rcases Nat.exists_eq_succ_of_ne_zero
    (show 16 - (aad.take 9).length ≠ 0 by omega) with ⟨n, hn⟩
  intro heq
  apply s.marked
  rw [← heq, aadTag, hn, List.replicate_succ', ← List.append_assoc,
    ← List.append_assoc, List.getLast?_concat]

theorem Seal.candidate_encrypt (s : Seal) (key iv plaintext aad : Bytes) :
    s.candidate (s.encrypt key iv plaintext aad) = plaintext := by
  unfold encrypt
  split
  · rename_i hseal
    rw [candidate, if_pos rfl, hseal.2.2.1]
  · rw [candidate, if_neg (s.ciphertext_ne plaintext aad), List.length_append,
      aadTag_length, Nat.add_sub_cancel, List.take_left]

theorem CryptoLib.sealing_idealAead (s : Seal) :
    (CryptoLib.sealing s).IdealAead := by
  constructor
  · intro key iv plaintext aad ciphertext h
    injection h with h
    rw [← h, Seal.encrypt]
    split
    · rename_i hseal
      rw [s.size, hseal.2.2.1]
    · rw [List.length_append, aadTag_length]
  · intro key iv plaintext aad ciphertext
    constructor
    · intro h
      simp only [sealing] at h
      split at h
      · rename_i hencrypt
        injection h with h
        rw [h] at hencrypt
        exact congrArg Except.ok hencrypt.symm
      · cases h
    · intro h
      injection h with h
      subst h
      simp only [sealing, s.candidate_encrypt, if_true]
      rfl
  · intro key iv plaintext plaintext' aad aad' ciphertext haad haad' h h'
    injection h with h
    injection h' with h'
    have hsame := h.trans h'.symm
    unfold Seal.encrypt at hsame
    split at hsame
    · rename_i hseal
      split at hsame
      · rename_i hseal'
        exact hseal.2.2.2.trans hseal'.2.2.2.symm
      · exact absurd hsame.symm (s.ciphertext_ne plaintext' aad')
    · split at hsame
      · exact absurd hsame (s.ciphertext_ne plaintext aad)
      · have htags := List.append_inj_right' hsame
          (by rw [aadTag_length, aadTag_length])
        have hall : aad.take 9 = aad :=
          List.take_of_length_le (Nat.le_of_eq haad)
        have hall' : aad'.take 9 = aad' :=
          List.take_of_length_le (Nat.le_of_eq haad')
        unfold aadTag at htags
        rw [hall, hall'] at htags
        exact List.append_inj_left htags (haad.trans haad'.symm)

/-- One byte under a key of ones, for the frame of stream five and type two. -/
def sampleSeal : Seal where
  key := List.replicate 32 1
  iv := List.replicate 12 0
  plaintext := [7]
  aad := aadLayout 5 2
  ciphertext :=
    [184, 50, 125, 119, 94, 212, 153, 75, 114, 214, 56, 12, 206, 19, 77, 60, 21]
  size := rfl
  marked := by decide

theorem encrypted_bodies_authentic_sampleSeal :
    exists body,
      body = encryptedLayout sampleSeal.iv sampleSeal.ciphertext ∧
      encryptConfigBody (CryptoLib.sealing sampleSeal) sampleSeal.iv [7]
        sampleSeal.key 5 2 = Except.ok body ∧
      decryptConfigBody (CryptoLib.sealing sampleSeal) body sampleSeal.key 5
        2 = Except.ok [7] ∧
      (forall streamId' bodyType', streamId' < 2 ^ 32 ->
        bodyType' < 2 ^ 16 -> (streamId', bodyType') ≠ (5, 2) ->
        Rejected (decryptConfigBody (CryptoLib.sealing sampleSeal) body
          sampleSeal.key streamId' bodyType')) ∧
      forall cut, cut <+: body -> cut ≠ body ->
        Rejected (decryptConfigBody (CryptoLib.sealing sampleSeal) cut
          sampleSeal.key 5 2) := by
  rcases encrypted_bodies_authentic (CryptoLib.sealing_idealAead sampleSeal)
    sampleSeal.iv [7] sampleSeal.key 5 2 rfl (by decide) (by decide)
    (by decide) with ⟨hreturns, hbody⟩
  have hencrypted := hreturns sampleSeal.ciphertext rfl
  rcases hbody _ hencrypted with ⟨hread, hother, hcut, _⟩
  exact ⟨_, rfl, hencrypted, hread, hother, hcut⟩

end Security
end Hmmp
