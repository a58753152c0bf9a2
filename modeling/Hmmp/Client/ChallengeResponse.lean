import Hmmp.Client.AdminFraming
import Hmmp.Client.Handshake
import Hmmp.Client.RequestFraming
import Hmmp.Foundation.TextFile
import Hmmp.Security.SignedMessages
import Hmmp.Wire.BodyReading

/-!
# Answering the nonce challenge

A server sends a nonce, the client signs it in its handshake request, and the
server reads the request back and checks the signature.
-/

namespace Hmmp
namespace Client

open Foundation
open Wire
open Security

/-!
# The challenge
-/

/-- What the body of a response to the nonce challenge holds. -/
structure ChallengeBody where
  status : UInt16
  serverNonce : Bytes
  serverNonce_length : serverNonce.length = 32
  nonceTtlMs : UInt32
  serverTimestamp : UInt64

namespace ChallengeBody

def layout (b : ChallengeBody) : Bytes :=
  bigEndian 2 b.status.toNat ++ (b.serverNonce ++
    (bigEndian 4 b.nonceTtlMs.toNat ++ bigEndian 8 b.serverTimestamp.toNat))

def result (b : ChallengeBody) : NonceChallengeResult where
  status := b.status.toNat
  serverNonce := b.serverNonce
  nonceTtlMs := b.nonceTtlMs.toNat
  serverTimestamp := b.serverTimestamp.toNat

theorem reads (b : ChallengeBody) :
    Reads NonceChallengeResult.read b.layout b.result := by
  have hnonce := Reads.bytes b.serverNonce
  rw [b.serverNonce_length] at hnonce
  unfold NonceChallengeResult.read layout
  exact (Reads.u16 b.status).bind (hnonce.bind
    ((Reads.u32 b.nonceTtlMs).bind
      ((Reads.u64 b.serverTimestamp).map fun timestamp => _)))

theorem readsBack :
    ReadsBack NonceChallengeResult.fromBytes layout result :=
  ReadsBack.of_reads reads

end ChallengeBody

/-!
# The request
-/

/-- What a handshake request says about its client. -/
structure HandshakeProof where
  clientId : Text
  accessKey : Text
  timestamp : Nat
  signature : Text
  serverNonce : Option Bytes
  labels : List (Text × Text)
  deriving DecidableEq

def handshakeLayout : Codec (Text × Text × Nat × Text × Option Bytes ×
    List (Text × Text)) :=
  (stringLayout 1).seq ((stringLayout 1).seq ((Codec.uint 8).seq
    ((stringLayout 1).seq ((Codec.optional Codec.flag (Codec.raw 32)).seq
      (Codec.counted (Codec.uint 1) labelLayout)))))

def readProof (body : Bytes) : Option HandshakeProof := do
  let (clientId, accessKey, timestamp, signature, serverNonce, labels) ←
    handshakeLayout.whole.decode body
  some ⟨clientId, accessKey, timestamp, signature, serverNonce, labels⟩

def HandshakeProof.verify (crypto : CryptoLib) (secret : Text)
    (serverNonce : Bytes) (proof : HandshakeProof) : Except PyError Bool :=
  verifySignatureV2 crypto secret proof.clientId proof.timestamp serverNonce
    proof.signature

/-- A string that a request can carry behind a length of one byte. -/
def ShortText (s : Text) : Prop :=
  ¬ Unencodable s ∧ utf8Length s < 256

instance (s : Text) : Decidable (ShortText s) :=
  inferInstanceAs (Decidable (¬ Unencodable s ∧ utf8Length s < 256))

/-- Everything the client says about itself can be encoded and fits. -/
structure Introduces (config : ClientConfig) : Prop where
  clientId : ShortText config.clientId
  accessKey : ShortText config.accessKey
  secretKey : ¬ Unencodable config.secretKey
  few : config.labels.entries.length < 256
  labels : forall label, label ∈ config.labels.entries ->
    ShortText label.1 ∧ ShortText label.2

/-!
# Digits
-/

def AsciiText (s : Text) : Prop :=
  forall c, c ∈ s -> c.val < 0x80

theorem hexDigit_ascii {n : Nat} (hn : n < 16) : (hexDigit n).val < 0x80 := by
  have hall : forall n, n < 16 -> (hexDigit n).val < 0x80 := by decide
  exact hall n hn

theorem hex_ascii (bs : Bytes) : AsciiText (hex bs) := by
  intro c hc
  rcases List.mem_flatMap.mp hc with ⟨b, _, hb⟩
  have hbyte := b.toNat_lt
  rcases List.mem_pair.mp hb with rfl | rfl
  · exact hexDigit_ascii (by omega)
  · exact hexDigit_ascii (by omega)

theorem decimal_ascii (n : Nat) : AsciiText (decimal n) := by
  intro c hc
  rcases List.mem_map.mp hc with ⟨d, hd, rfl⟩
  have hdigit := Nat.isDigit_of_mem_toDigits (by decide) (by decide) hd
  have hrange : d.val <= 57 := by
    simp only [Char.isDigit, Bool.and_eq_true, decide_eq_true_iff] at hdigit
    exact hdigit.2
  show d.val.toNat < 0x80
  exact Nat.lt_of_le_of_lt (UInt32.le_iff_toNat_le.mp hrange) (by decide)

theorem encodable_iff {s : Text} : ¬ Unencodable s <->
    forall c, c ∈ s -> (Utf8.encodeCodePoint c).isSome := by
  rw [← encodeUtf8_isSome_iff]
  unfold Unencodable
  exact Option.ne_none_iff_isSome

theorem encodable_append {s t : Text} (hs : ¬ Unencodable s)
    (ht : ¬ Unencodable t) : ¬ Unencodable (s ++ t) := by
  rw [encodable_iff] at hs ht ⊢
  intro c hc
  rcases List.mem_append.mp hc with hc | hc
  · exact hs c hc
  · exact ht c hc

theorem encodable_ascii {s : Text} (h : AsciiText s) : ¬ Unencodable s := by
  rw [encodable_iff]
  intro c hc
  rw [encodeCodePoint_ascii (h c hc)]
  rfl

theorem utf8Length_ascii {s : Text} (h : AsciiText s) :
    utf8Length s = s.length := by
  have hencoded : forall s : Text, AsciiText s ->
      exists bs, encodeUtf8 s = some bs ∧ bs.length = s.length := by
    intro s
    induction s with
    | nil => exact fun _ => ⟨[], rfl, rfl⟩
    | cons c rest ih =>
        intro h
        rcases ih fun d hd => h d (List.mem_cons_of_mem c hd) with
          ⟨bs, hbs, hlength⟩
        have hc := encodeCodePoint_ascii (h c List.mem_cons_self)
        refine ⟨_, encodeUtf8_cons_eq_some.mpr ⟨_, bs, hc, hbs, rfl⟩, ?_⟩
        rw [List.singleton_append, List.length_cons, hlength,
          List.length_cons]
  rcases hencoded s h with ⟨bs, hbs, hlength⟩
  unfold utf8Length
  rw [hbs]
  exact hlength

theorem compareDigest_hex (digest digest' : Bytes) :
    compareDigest (hex digest) (hex digest') =
      Except.ok (decide (digest = digest')) := by
  have hascii : ((hex digest ++ hex digest').all
      fun c => decide (c.val < 0x80)) = true := by
    rw [List.all_eq_true]
    intro c hc
    rw [decide_eq_true_iff]
    rcases List.mem_append.mp hc with hc | hc
    · exact hex_ascii digest c hc
    · exact hex_ascii digest' c hc
  unfold compareDigest
  rw [if_pos hascii]
  congr 1
  rw [decide_eq_decide]
  exact hex_injective.eq_iff

/-!
# Signatures
-/

variable {crypto : CryptoLib} {config : ClientConfig} {timestamp : Nat}

theorem encodeString_of_encodable {s : Text} (h : ¬ Unencodable s) :
    exists bs, BinaryWriter.encodeString s = Except.ok bs := by
  rcases Option.isSome_iff_exists.mp (Option.ne_none_iff_isSome.mp h) with
    ⟨bs, hbs⟩
  exact ⟨bs, BinaryWriter.encodeString_eq_ok.mpr hbs⟩

theorem signedMessageV2_of_encodable {clientId : Text}
    (h : ¬ Unencodable clientId) (timestamp : Nat) (serverNonce : Bytes) :
    exists message, signedMessageV2 clientId timestamp serverNonce =
      Except.ok message :=
  encodeString_of_encodable
    (encodable_append
      (encodable_append h (encodable_ascii (decimal_ascii timestamp)))
      (encodable_ascii (hex_ascii serverNonce)))

theorem signedMessageV2_nonce_inj {clientId : Text} {timestamp : Nat}
    {serverNonce serverNonce' message : Bytes}
    (h : signedMessageV2 clientId timestamp serverNonce = Except.ok message)
    (h' : signedMessageV2 clientId timestamp serverNonce' =
      Except.ok message) : serverNonce = serverNonce' :=
  hex_injective (List.append_cancel_left (encodeString_inj h h'))

theorem computeSignatureV2_of_parts (crypto : CryptoLib)
    {secret clientId : Text} {serverNonce message key : Bytes}
    (hmessage : signedMessageV2 clientId timestamp serverNonce =
      Except.ok message)
    (hkey : BinaryWriter.encodeString secret = Except.ok key) :
    computeSignatureV2 crypto secret clientId timestamp serverNonce =
      Except.ok (hex (crypto.hmacSha256 key message)) := by
  rw [computeSignatureV2_eq, hmessage, hkey]
  rfl

theorem verifySignatureV2_of_parts (crypto : CryptoLib)
    {secret clientId : Text} {serverNonce message key : Bytes}
    (hmessage : signedMessageV2 clientId timestamp serverNonce =
      Except.ok message)
    (hkey : BinaryWriter.encodeString secret = Except.ok key)
    (digest : Bytes) :
    verifySignatureV2 crypto secret clientId timestamp serverNonce
        (hex digest) =
      Except.ok (decide (crypto.hmacSha256 key message = digest)) := by
  unfold verifySignatureV2
  rw [computeSignatureV2_of_parts crypto hmessage hkey]
  exact compareDigest_hex _ _

/-!
# The request and its reader
-/

/-- The strings in front of the labels, and the strings of the labels. -/
def proofStrings (config : ClientConfig) (signature : Text) : List Text :=
  [config.clientId, config.accessKey, signature] ++
    config.labels.entries.flatMap fun label => [label.1, label.2]

/-- The fields of a handshake request over a nonce. -/
def writeSignedHandshake (config : ClientConfig) (serverNonce : Bytes)
    (timestamp : Nat) (signature : Text) : Writing Unit := do
  BinaryWriter.writeStringU8 config.clientId
  BinaryWriter.writeStringU8 config.accessKey
  BinaryWriter.writeU64 timestamp
  BinaryWriter.writeStringU8 signature
  writeOptional BinaryWriter.writeBytes (some serverNonce)
  BinaryWriter.writeU8 config.labels.entries.length
  config.labels.entries.forM BinaryWriter.writeLabel

theorem signedHandshake_framing (config : ClientConfig) (serverNonce : Bytes)
    (timestamp : Nat) (signature : Text) :
    Framing (writeSignedHandshake config serverNonce timestamp signature)
      (handshakeLayout.encode (config.clientId, config.accessKey, timestamp,
        signature, some serverNonce, config.labels.entries))
      (proofStrings config signature)
      (utf8Length config.clientId < 256 ∧ utf8Length config.accessKey < 256 ∧
        timestamp < 2 ^ 64 ∧ utf8Length signature < 256 ∧
          serverNonce.length = 32 ∧ config.labels.entries.length < 256 ∧
            forall label, label ∈ config.labels.entries ->
              utf8Length label.1 < 256 ∧ utf8Length label.2 < 256) := by
  have hnonce := optional_framing (c := Codec.raw 32)
    (fun nonce => Framing.bytes nonce 32) (some serverNonce)
  have hbody := (Framing.string 1 config.clientId).bind
    ((Framing.string 1 config.accessKey).bind ((Framing.count 8 timestamp).bind
      ((Framing.string 1 signature).bind (hnonce.bind
        (Framing.counted 1 config.labels.entries label_framing)))))
  apply Framing.congr hbody
  simp

theorem handshakeBody_of_signature {session : Session} {signature : Text}
    (hnonce : session.serverNonce ≠ [])
    (hsignature : computeSignatureV2 crypto config.secretKey config.clientId
      timestamp session.serverNonce = Except.ok signature) :
    handshakeBody crypto config session timestamp =
      BinaryWriter.getvalue (writeSignedHandshake config session.serverNonce
        timestamp signature) := by
  have hempty : session.serverNonce.isEmpty = false :=
    List.isEmpty_eq_false_iff.mpr hnonce
  unfold handshakeBody handshakeSignature
  simp only [hempty, Bool.false_eq_true, if_false]
  rw [hsignature]
  rfl

def proofOf (config : ClientConfig) (serverNonce : Bytes) (timestamp : Nat)
    (signature : Text) : HandshakeProof where
  clientId := config.clientId
  accessKey := config.accessKey
  timestamp := timestamp
  signature := signature
  serverNonce := some serverNonce
  labels := config.labels.entries

theorem signedHandshake_read (hintroduces : Introduces config)
    {serverNonce : Bytes} (hnonce : serverNonce.length = 32)
    (htime : timestamp < 2 ^ 64) {signature : Text}
    (hsignature : AsciiText signature) (hshort : signature.length < 256) :
    exists body, BinaryWriter.getvalue
        (writeSignedHandshake config serverNonce timestamp signature) =
          Except.ok body ∧
      readProof body =
        some (proofOf config serverNonce timestamp signature) := by
  have hstrings : forall s, s ∈ proofStrings config signature ->
      ¬ Unencodable s := by
    intro s hs
    rcases List.mem_append.mp hs with hs | hs
    · simp only [List.mem_cons, List.not_mem_nil, or_false] at hs
      rcases hs with rfl | rfl | rfl
      · exact hintroduces.clientId.1
      · exact hintroduces.accessKey.1
      · exact encodable_ascii hsignature
    · rcases List.mem_flatMap.mp hs with ⟨label, hlabel, hs⟩
      have hshort := hintroduces.labels label hlabel
      rcases List.mem_pair.mp hs with rfl | rfl
      · exact hshort.1.1
      · exact hshort.2.1
  have hfits : forall label, label ∈ config.labels.entries ->
      utf8Length label.1 < 256 ∧ utf8Length label.2 < 256 :=
    fun label hlabel => ⟨(hintroduces.labels label hlabel).1.2,
      (hintroduces.labels label hlabel).2.2⟩
  rcases sendMember_of_framing OpCode.handshakeRequest
    (signedHandshake_framing config serverNonce timestamp signature)
    ⟨hintroduces.clientId.2, hintroduces.accessKey.2, htime,
      (utf8Length_ascii hsignature).symm ▸ hshort, hnonce, hintroduces.few,
      hfits⟩ hstrings with ⟨body, hsend, hdecode⟩
  rcases bind_eq_ok.mp hsend with ⟨written, hwritten, hpair⟩
  injection hpair with hpair
  injection hpair with _ hbody
  subst hbody
  refine ⟨written, hwritten, ?_⟩
  unfold readProof
  rw [hdecode]
  rfl

theorem challenge_refused (session : Session) (challenge : ChallengeBody)
    (response : Frame) :
    (challenge.status ≠ 0 -> forall tail,
      response.body = challenge.layout ++ tail ->
        handleNonceResponse session response = Except.error
          (PyError.nonceError
            ("Nonce challenge failed with status " ++
              toString challenge.status.toNat)
            (some challenge.status.toNat))) ∧
    forall n, n < challenge.layout.length ->
      response.body = challenge.layout.take n -> exists message,
        handleNonceResponse session response =
          Except.error (PyError.eofError message) := by
  constructor
  · intro hstatus tail hbody
    have hread := ChallengeBody.readsBack.complete challenge tail
    have hcode : challenge.result.status ≠ 0 :=
      fun h => hstatus (UInt16.toNat_inj.mp h)
    unfold handleNonceResponse
    rw [hbody, hread]
    simp only [bind, Except.bind, if_pos hcode]
    rfl
  · intro n hn hbody
    rcases ChallengeBody.readsBack.cut challenge n hn with ⟨message, hread⟩
    refine ⟨message, ?_⟩
    unfold handleNonceResponse
    rw [hbody, hread]
    rfl

theorem challenge_granted (session : Session) {challenge : ChallengeBody}
    {response : Frame} {tail : Bytes} (hgranted : challenge.status = 0)
    (hbody : response.body = challenge.layout ++ tail) :
    handleNonceResponse session response = Except.ok
      { session with
        serverNonce := challenge.serverNonce
        nonceTtlMs := challenge.nonceTtlMs.toNat } := by
  have hread := ChallengeBody.readsBack.complete challenge tail
  have hcode : challenge.result.status = 0 :=
    congrArg UInt16.toNat hgranted
  unfold handleNonceResponse
  rw [hbody, hread]
  simp only [bind, Except.bind, hcode]
  rfl

/-- Against a server that grants a challenge: the client signs the nonce of the
challenge, the server reads the request back as what the client is configured
with, accepts the signature over its own nonce, and accepts it over another
nonce only if the digests of two different messages collide.  A challenge that
is refused or cut is raised. -/
theorem challenge_answered (crypto : CryptoLib)
    (hdigest : forall key message,
      (crypto.hmacSha256 key message).length = 32)
    (config : ClientConfig) (hintroduces : Introduces config)
    (session : Session) (challenge : ChallengeBody) (response : Frame)
    (timestamp : Nat) (htime : timestamp < 2 ^ 64) :
    (challenge.status = 0 -> forall tail,
      response.body = challenge.layout ++ tail ->
        exists session' body proof message key,
          handleNonceResponse session response = Except.ok session' ∧
          handshakeBody crypto config session' timestamp = Except.ok body ∧
          readProof body = some proof ∧
          proof = proofOf config challenge.serverNonce timestamp
            (hex (crypto.hmacSha256 key message)) ∧
          proof.verify crypto config.secretKey challenge.serverNonce =
            Except.ok true ∧
          forall other, other ≠ challenge.serverNonce ->
            exists message', message' ≠ message ∧
              proof.verify crypto config.secretKey other = Except.ok
                (decide (crypto.hmacSha256 key message' =
                  crypto.hmacSha256 key message))) ∧
    (challenge.status ≠ 0 -> forall tail,
      response.body = challenge.layout ++ tail ->
        handleNonceResponse session response = Except.error
          (PyError.nonceError
            ("Nonce challenge failed with status " ++
              toString challenge.status.toNat)
            (some challenge.status.toNat))) ∧
    forall n, n < challenge.layout.length ->
      response.body = challenge.layout.take n -> exists message,
        handleNonceResponse session response =
          Except.error (PyError.eofError message) := by
  refine ⟨?_, challenge_refused session challenge response⟩
  intro hgranted tail hbody
  have hclient := hintroduces.clientId.1
  rcases encodeString_of_encodable hintroduces.secretKey with ⟨key, hkey⟩
  rcases signedMessageV2_of_encodable hclient timestamp
    challenge.serverNonce with ⟨message, hmessage⟩
  have hsignature := computeSignatureV2_of_parts crypto hmessage hkey
  have hshort : (hex (crypto.hmacSha256 key message)).length < 256 := by
    rw [hex_length, hdigest]
    decide
  have hnonce : challenge.serverNonce ≠ [] := by
    intro hnil
    have hlength := challenge.serverNonce_length
    rw [hnil] at hlength
    cases hlength
  rcases signedHandshake_read hintroduces challenge.serverNonce_length htime
    (hex_ascii _) hshort with ⟨body, hwritten, hread⟩
  refine ⟨_, body, _, message, key, challenge_granted session hgranted hbody,
    ?_, hread, rfl, ?_, ?_⟩
  · exact (handshakeBody_of_signature hnonce hsignature).trans hwritten
  · have hverify := verifySignatureV2_of_parts crypto hmessage hkey
       (crypto.hmacSha256 key message)
    rw [decide_eq_true rfl] at hverify
    exact hverify
  · intro other hother
    rcases signedMessageV2_of_encodable hclient timestamp other with
      ⟨message', hmessage'⟩
    refine ⟨message', ?_, verifySignatureV2_of_parts crypto hmessage' hkey _⟩
    rintro rfl
    exact hother (signedMessageV2_nonce_inj hmessage' hmessage)

/-- HMAC-SHA256 of the client id, the clock and the nonce, under the secret. -/
def grantedDigest : Bytes :=
  [121, 139, 114, 15, 167, 103, 180, 71, 233, 0, 72, 138, 111, 87, 130, 67, 225,
    160, 252, 189, 138, 204, 17, 77, 46, 89, 219, 97, 238, 175, 66, 11]

/-- That digest at its own input, and the front of the message elsewhere. -/
def grantedCrypto : CryptoLib :=
  { CryptoLib.plain with
    hmacSha256 := fun key message =>
      if some key = encodeUtf8 (text "secret") ∧
          some message = encodeUtf8
            (text "c1" ++ decimal 1300 ++ hex (List.replicate 32 7)) then
        grantedDigest
      else (message ++ List.replicate 32 0).take 32 }

def introducedConfig : ClientConfig where
  clientId := text "c1"
  accessKey := text "key"
  secretKey := text "secret"
  labels := Dict.empty.set (text "zone") (text "a")

def grantedChallenge : ChallengeBody where
  status := 0
  serverNonce := List.replicate 32 7
  serverNonce_length := rfl
  nonceTtlMs := 5000
  serverTimestamp := 1234

def grantedResponse : Frame where
  header := { flags := 0, streamId := 1, payloadLength := 48 }
  metadata := Value.nil
  body := grantedChallenge.layout
  governanceBlock := none

theorem challenge_answered_granted :
    exists session' body proof,
      handleNonceResponse {} grantedResponse = Except.ok session' ∧
      handshakeBody grantedCrypto introducedConfig session' 1300 =
        Except.ok body ∧
      readProof body = some proof ∧
      proof.verify grantedCrypto (text "secret")
        grantedChallenge.serverNonce = Except.ok true := by
  have hdigest : forall key message,
      (grantedCrypto.hmacSha256 key message).length = 32 := by
    intro key message
    show (if _ then grantedDigest
      else (message ++ List.replicate 32 0).take 32).length = 32
    split
    · rfl
    · rw [List.length_take, List.length_append, List.length_replicate]
      omega
  have hintroduces : Introduces introducedConfig :=
    ⟨by decide +kernel, by decide +kernel, by decide +kernel, by decide,
      by decide +kernel⟩
  rcases (challenge_answered grantedCrypto hdigest introducedConfig
    hintroduces {} grantedChallenge grantedResponse 1300 (by decide)).1 rfl []
    (List.append_nil _).symm with
    ⟨session', body, proof, _, _, hgranted, hbody, hread, _, hverify, _⟩
  exact ⟨session', body, proof, hgranted, hbody, hread, hverify⟩

end Client
end Hmmp
