import Hmmp.Client.ConfigFetch
import Hmmp.Client.Handshake

/-!
# Key agreement

The server derives the content encryption key from the timestamp the handshake
request carries.  The client derives it from the clock at the time it processes
the response, so the two keys agree when the two readings do.
-/

namespace Hmmp
namespace Client

open Foundation
open Wire
open Connection
open Security

/-- The timestamp a request carries when it is built at a clock reading. -/
def timestampField (now : Nat) : Nat :=
  now % 256 ^ 8

/-- The key the server derives from a timestamp and the id of the key. -/
def serverKey (crypto : CryptoLib) (config : ClientConfig) (keyId : Text)
    (timestamp : Nat) : Except PyError Bytes := do
  let sessionSecret ←
    deriveSessionSecret crypto config.clientId timestamp config.secretKey
  deriveCek crypto sessionSecret keyId

/-- The client holds the server's key, and it decrypts every config response
the server encrypts with it. -/
structure KeyAgreement (crypto : CryptoLib) (config : ClientConfig)
    (keyId : Text) (timestamp : Nat) (session : Session) : Prop where
  key : serverKey crypto config keyId timestamp = Except.ok session.cek
  decrypts : forall (key iv plaintext : Bytes) (response : Frame),
    serverKey crypto config keyId timestamp = Except.ok key ->
      iv.length = 12 -> response.header.isEncrypted = true ->
        encryptConfigBody crypto iv plaintext key response.streamId
            OpCode.configResponse.code = Except.ok response.body ->
          configBody crypto session.cek response = Except.ok plaintext

/-!
# The timestamp in the request
-/

/-- The fields of a handshake request in front of its timestamp. -/
def identityBytes (config : ClientConfig) : Option Bytes :=
  emissions (stringBytes 1 config.clientId) (stringBytes 1 config.accessKey)

variable {crypto : CryptoLib} {config : ClientConfig}

/-- What follows the timestamp in a handshake request. -/
def writeProof (config : ClientConfig) (session : Session)
    (signature : Text) : Writing Unit := do
  BinaryWriter.writeStringU8 signature
  if session.serverNonce.isEmpty then
    BinaryWriter.writeU8 0
  else do
    BinaryWriter.writeU8 1
    BinaryWriter.writeBytes session.serverNonce
  BinaryWriter.writeU8 config.labels.entries.length
  config.labels.entries.forM BinaryWriter.writeLabel

theorem emits_writeLabel (label : Text × Text) :
    Emits (BinaryWriter.writeLabel label)
      (emissions (stringBytes 1 label.1) (stringBytes 1 label.2)) :=
  (Emits.writeString 1 label.1).bind (Emits.writeString 1 label.2)

theorem emits_writeProof (config : ClientConfig) (session : Session)
    (signature : Text) :
    exists out, Emits (writeProof config session signature) out := by
  have hlabels :=
    Emits.forM config.labels.entries fun label _ => emits_writeLabel label
  have hcount := (Emits.writeCount 1 config.labels.entries.length).bind hlabels
  unfold writeProof
  by_cases hnonce : session.serverNonce.isEmpty
  · simp only [if_pos hnonce]
    exact ⟨_, (Emits.writeString 1 signature).bind
      ((Emits.writeUnsigned 1 0).bind hcount)⟩
  · simp only [if_neg hnonce]
    exact ⟨_, (Emits.writeString 1 signature).bind
      ((Emits.writeUnsigned 1 1).bind
        ((Emits.writeBytes session.serverNonce).bind hcount))⟩

/-- A handshake request built at a clock reading carries its timestamp right
behind the identity of the client. -/
theorem handshakeRequest_carries {session : Session} {now streamId : Nat}
    {request : FrameRequest}
    (h : handshakeRequest crypto config session now streamId =
      Except.ok request) :
    exists front back, identityBytes config = some front ∧
      request.body = front ++ bigEndian 8 (timestampField now) ++ back := by
  rcases bind_eq_ok.mp h with ⟨body, hbody, hrequest⟩
  rcases bind_eq_ok.mp hbody with ⟨signature, _, hwrites⟩
  rcases emits_writeProof config session signature with ⟨out, hout⟩
  have hemits := (Emits.writeString 1 config.clientId).bind
    ((Emits.writeString 1 config.accessKey).bind
      ((Emits.writeCount 8 now).bind hout))
  rcases emissions_eq_some.mp (hemits.getvalue_eq_ok.mp hwrites) with
    ⟨x, rest, hx, hrest, rfl⟩
  rcases emissions_eq_some.mp hrest with ⟨y, rest', hy, hrest', rfl⟩
  rcases emissions_eq_some.mp hrest' with ⟨z, back, hz, _, rfl⟩
  injection hz with hz
  injection hrequest with hrequest
  refine ⟨x ++ y, back, emissions_eq_some.mpr ⟨x, y, hx, hy, rfl⟩, ?_⟩
  rw [← hrequest, ← hz, timestampField, bigEndian_mod]
  simp

/-!
# The derived keys
-/

theorem serverKey_eq_ok {keyId : Text} {timestamp : Nat} {key : Bytes} :
    serverKey crypto config keyId timestamp = Except.ok key <->
      exists message secret info,
        encodeUtf8 (config.clientId ++ decimal timestamp) = some message ∧
        encodeUtf8 config.secretKey = some secret ∧
        encodeUtf8 keyId = some info ∧
        crypto.hkdfSha256 (crypto.hmacSha256 secret message) cekSalt info 32 =
          key := by
  constructor
  · intro h
    rcases bind_eq_ok.mp h with ⟨digest, hsession, hcek⟩
    rcases bind_eq_ok.mp hsession with ⟨message, hmessage, hkeyed⟩
    rcases bind_eq_ok.mp hkeyed with ⟨secret, hsecret, hdigest⟩
    rcases bind_eq_ok.mp hcek with ⟨info, hinfo, hderived⟩
    injection hdigest with hdigest
    injection hderived with hderived
    refine ⟨message, secret, info, ?_, ?_, ?_, ?_⟩
    · exact BinaryWriter.encodeString_eq_ok.mp hmessage
    · exact BinaryWriter.encodeString_eq_ok.mp hsecret
    · exact BinaryWriter.encodeString_eq_ok.mp hinfo
    · rw [hdigest]
      exact hderived
  · intro hparts
    rcases hparts with ⟨message, secret, info, hmessage, hsecret, hinfo, rfl⟩
    have hmessage := BinaryWriter.encodeString_eq_ok.mpr hmessage
    have hsecret := BinaryWriter.encodeString_eq_ok.mpr hsecret
    have hinfo := BinaryWriter.encodeString_eq_ok.mpr hinfo
    have hsession : deriveSessionSecret crypto config.clientId timestamp
        config.secretKey = Except.ok (crypto.hmacSha256 secret message) :=
      bind_eq_ok.mpr ⟨message, hmessage, bind_eq_ok.mpr ⟨secret, hsecret, rfl⟩⟩
    exact bind_eq_ok.mpr ⟨_, hsession, bind_eq_ok.mpr ⟨info, hinfo, rfl⟩⟩

/-- Without collisions, one key belongs to one timestamp. -/
theorem serverKey_inj (hideal : crypto.Ideal) {keyId : Text}
    {timestamp timestamp' : Nat} {key : Bytes}
    (h : serverKey crypto config keyId timestamp = Except.ok key)
    (h' : serverKey crypto config keyId timestamp' = Except.ok key) :
    timestamp = timestamp' := by
  rcases serverKey_eq_ok.mp h with
    ⟨message, secret, info, hmessage, hsecret, hinfo, hkey⟩
  rcases serverKey_eq_ok.mp h' with
    ⟨message', secret', info', hmessage', hsecret', hinfo', hkey'⟩
  have hsecrets : secret' = secret :=
    Option.some.inj (hsecret'.symm.trans hsecret)
  have hinfos : info' = info := Option.some.inj (hinfo'.symm.trans hinfo)
  subst hsecrets
  subst hinfos
  have hdigest := hideal.hkdf_inj _ _ _ _ _ (hkey.trans hkey'.symm)
  have hmessages : message = message' := hideal.hmac_inj _ _ _ hdigest
  subst hmessages
  have htext := Utf8.utf8.encode_inj hmessage hmessage'
  exact decimal_injective (List.append_cancel_left htext)

theorem keyAgreement_of_key (hideal : crypto.Ideal) {keyId : Text}
    {timestamp : Nat} {session : Session}
    (h : serverKey crypto config keyId timestamp = Except.ok session.cek) :
    KeyAgreement crypto config keyId timestamp session where
  key := h
  decrypts key iv plaintext response hkey hiv hflag hbody := by
    have hcek : key = session.cek := Except.ok.inj (hkey.symm.trans h)
    subst hcek
    have hheld : session.cek ≠ [] := by
      rcases serverKey_eq_ok.mp h with ⟨_, _, _, _, _, _, hderived⟩
      rw [← hderived]
      exact hideal.hkdf_ne_nil _ _ _
    unfold configBody
    rw [hflag]
    simp only [Bool.true_and, Bool.not_eq_true', List.isEmpty_eq_false_iff]
    rw [if_pos hheld]
    exact decryptConfigBody_encryptConfigBody hideal hiv hbody

theorem keyAgreement_iff (hideal : crypto.Ideal) {keyId : Text}
    {timestamp : Nat} {session : Session} :
    KeyAgreement crypto config keyId timestamp session <->
      serverKey crypto config keyId timestamp = Except.ok session.cek :=
  ⟨fun h => h.key, keyAgreement_of_key hideal⟩

/-!
# The client's side
-/

/-- A client that has negotiated a cipher suite derives its key from the clock
at the response, unless the id of the key is empty. -/
theorem handled_cek {session session' : Session} {response : Frame}
    {result : HandshakeResult} {keyId : Text} {receivedAt : Nat}
    (hresult : parseHandshakeResponse response = Except.ok result)
    (hsuite : result.configCipherSuite.truthy = true)
    (hkeyId : result.configKeyId = Value.str keyId)
    (h : handleHandshakeResponse crypto config session response receivedAt =
      Except.ok session') :
    (keyId = [] ∧ session'.cek = session.cek) ∨
      (keyId ≠ [] ∧
        serverKey crypto config keyId receivedAt =
          Except.ok session'.cek) := by
  rcases bind_eq_ok.mp h with ⟨parsed, hparsed, hrest⟩
  have hsame : parsed = result := Except.ok.inj (hparsed.symm.trans hresult)
  subst hsame
  by_cases hstatus : parsed.status ≠ statusOk
  · rw [if_pos hstatus] at hrest
    cases hrest
  · rw [if_neg hstatus] at hrest
    simp only [hsuite, hkeyId, Bool.true_and] at hrest
    cases keyId with
    | nil =>
        injection hrest with hrest
        exact Or.inl ⟨rfl, by rw [← hrest]⟩
    | cons c rest =>
        rcases bind_eq_ok.mp hrest with ⟨cek, hcek, hsession⟩
        injection hsession with hsession
        exact Or.inr ⟨List.cons_ne_nil c rest, by rw [← hsession]; exact hcek⟩

/--
The request carries the timestamp of its clock reading, and the client agrees
with the server exactly when the clock shows this timestamp again while the
response is processed; with an empty key id nothing is derived, and the client
agrees when it holds the right key already.
-/
theorem handshake_keyAgreement_iff (crypto : CryptoLib)
    (hideal : crypto.Ideal) (config : ClientConfig)
    (session session' : Session) (request : FrameRequest) (response : Frame)
    (result : HandshakeResult) (keyId : Text)
    (sentAt receivedAt streamId : Nat)
    (hrequest : handshakeRequest crypto config session sentAt streamId =
      Except.ok request)
    (hresult : parseHandshakeResponse response = Except.ok result)
    (hsuite : result.configCipherSuite.truthy = true)
    (hkeyId : result.configKeyId = Value.str keyId)
    (hhandled : handleHandshakeResponse crypto config session response
      receivedAt = Except.ok session') :
    (exists front back, identityBytes config = some front ∧
      request.body = front ++ bigEndian 8 (timestampField sentAt) ++ back) ∧
    (KeyAgreement crypto config keyId (timestampField sentAt) session' <->
      (keyId ≠ [] ∧ receivedAt = timestampField sentAt) ∨
        (keyId = [] ∧
          serverKey crypto config keyId (timestampField sentAt) =
            Except.ok session.cek)) := by
  refine ⟨handshakeRequest_carries hrequest, ?_⟩
  rw [keyAgreement_iff hideal]
  rcases handled_cek hresult hsuite hkeyId hhandled with
    ⟨hempty, hcek⟩ | ⟨hnonempty, hcek⟩
  · rw [hcek]
    constructor
    · intro hkey
      exact Or.inr ⟨hempty, hkey⟩
    · intro h
      rcases h with ⟨hne, _⟩ | ⟨_, hkey⟩
      · exact absurd hempty hne
      · exact hkey
  · constructor
    · intro hkey
      exact Or.inl ⟨hnonempty, serverKey_inj hideal hcek hkey⟩
    · intro h
      rcases h with ⟨_, htime⟩ | ⟨hnil, _⟩
      · rw [← htime]
        exact hcek
      · exact absurd hnil hnonempty

/-!
# One handshake

The digests below are those of HMAC-SHA256 and HKDF-SHA256 on the inputs of the
handshake; elsewhere the primitives only have to be free of collisions.
-/

/-- The given digest at one input, and something longer everywhere else. -/
def pinned (known : Bool) (digest input : Bytes) : Bytes :=
  if known then digest else List.replicate 33 0 ++ input

theorem pinned_inj {known known' : Bool} {digest input input' : Bytes}
    (hlength : digest.length = 32)
    (hknown : known = true -> known' = true -> input = input')
    (h : pinned known digest input = pinned known' digest input') :
    input = input' := by
  have hlong : forall rest : Bytes,
      digest ≠ List.replicate 33 0 ++ rest := by
    intro rest heq
    rw [heq] at hlength
    simp at hlength
  cases known with
  | true =>
      cases known' with
      | true => exact hknown rfl rfl
      | false => exact absurd h (hlong input')
  | false =>
      cases known' with
      | true => exact absurd h.symm (hlong input)
      | false => exact List.append_cancel_left h

def sampleConfig : ClientConfig where
  clientId := text "client"
  accessKey := text "access"
  secretKey := text "secret"
  configEncrypt := true

def sampleClock : Nat := 1700000000000

/-- HMAC-SHA256 of the client id and the clock, under the secret. -/
def sampleDigest : Bytes :=
  [38, 94, 92, 214, 75, 130, 110, 242, 254, 29, 99, 193, 102, 245, 59, 55, 250,
    229, 99, 64, 202, 168, 130, 87, 88, 41, 141, 185, 72, 9, 69, 123]

/-- HKDF-SHA256 of the digest for the key id {lit}`key-1`. -/
def sampleCek : Bytes :=
  [25, 220, 101, 249, 62, 192, 171, 20, 92, 97, 213, 0, 239, 185, 214, 251, 83,
    227, 166, 143, 229, 212, 108, 162, 170, 245, 16, 39, 138, 53, 169, 138]

def sampleCrypto : CryptoLib where
  hmacSha256 key message :=
    pinned
      (some key == encodeUtf8 (text "secret") &&
        some message == encodeUtf8 (text "client" ++ decimal sampleClock))
      sampleDigest message
  hkdfSha256 ikm salt info length :=
    pinned
      (ikm == sampleDigest && salt == cekSalt &&
        some info == encodeUtf8 (text "key-1") && length == 32)
      sampleCek ikm
  aesGcmEncrypt _ _ plaintext _ := pure (plaintext ++ List.replicate 16 0)
  aesGcmDecrypt _ _ ciphertext _ :=
    if ciphertext.length < 16 then throw "InvalidTag"
    else pure (ciphertext.take (ciphertext.length - 16))

theorem sampleCrypto_ideal : sampleCrypto.Ideal where
  hmac_inj key m m' h := by
    refine pinned_inj rfl ?_ h
    intro hm hm'
    simp only [Bool.and_eq_true, beq_iff_eq] at hm hm'
    exact Option.some.inj (hm.2.trans hm'.2.symm)
  hkdf_inj ikm ikm' salt info length h := by
    refine pinned_inj rfl ?_ h
    intro hikm hikm'
    simp only [Bool.and_eq_true, beq_iff_eq] at hikm hikm'
    rw [hikm.1.1.1, hikm'.1.1.1]
  hkdf_ne_nil ikm salt info := by
    show pinned _ _ _ ≠ []
    unfold pinned
    split
    · exact List.cons_ne_nil _ _
    · simp
  decrypt_encrypt key iv plaintext aad ciphertext h := by
    injection h with h
    subst h
    simp [sampleCrypto, pure, Except.pure]

/-- The response of a server that has agreed on a suite and the key
{lit}`key-1`. -/
def sampleResponse : Frame where
  header := { streamId := 2 }
  metadata :=
    Value.map
      [(Value.str (text "config_cipher_suite"),
          Value.str (text "AES-256-GCM")),
        (Value.str (text "config_key_id"), Value.str (text "key-1"))]
  body := [0, 1, 115, 0, 0]
  governanceBlock := none

def sampleResult : HandshakeResult where
  sessionId := text "s"
  status := statusOk
  configCipherSuite := Value.str (text "AES-256-GCM")
  configKeyId := Value.str (text "key-1")
  configKeyRotationMs := Value.int 0

theorem sampleRequest_built :
    exists request,
      handshakeRequest sampleCrypto sampleConfig {} sampleClock 2 =
        Except.ok request :=
  ⟨_, rfl⟩

theorem sampleResponse_parsed :
    parseHandshakeResponse sampleResponse = Except.ok sampleResult := rfl

/-- A response processed within the millisecond of the request. -/
theorem handshake_keyAgreement_iff_sample :
    exists session,
      handleHandshakeResponse sampleCrypto sampleConfig {} sampleResponse
          sampleClock = Except.ok session ∧
        session.cek = sampleCek ∧
        KeyAgreement sampleCrypto sampleConfig (text "key-1")
          (timestampField sampleClock) session := by
  rcases sampleRequest_built with ⟨request, hrequest⟩
  refine ⟨_, rfl, rfl, ?_⟩
  exact (handshake_keyAgreement_iff sampleCrypto sampleCrypto_ideal
    sampleConfig {} _ request sampleResponse sampleResult (text "key-1")
    sampleClock sampleClock 2 hrequest sampleResponse_parsed rfl rfl
    rfl).2.mpr (Or.inl ⟨by decide, rfl⟩)

/-- A response processed 25 milliseconds after the request was built. -/
theorem late_response_disagrees :
    ¬ forall (crypto : CryptoLib), crypto.Ideal ->
        forall (config : ClientConfig) (session session' : Session)
          (request : FrameRequest) (response : Frame)
          (result : HandshakeResult) (keyId : Text)
          (sentAt receivedAt streamId : Nat),
          handshakeRequest crypto config session sentAt streamId =
              Except.ok request ->
            parseHandshakeResponse response = Except.ok result ->
            result.configCipherSuite.truthy = true ->
            result.configKeyId = Value.str keyId ->
            handleHandshakeResponse crypto config session response
                receivedAt = Except.ok session' ->
              KeyAgreement crypto config keyId (timestampField sentAt)
                session' := by
  intro h
  rcases sampleRequest_built with ⟨request, hrequest⟩
  have hlate : exists session,
      handleHandshakeResponse sampleCrypto sampleConfig {} sampleResponse
          (sampleClock + 25) = Except.ok session ∧
        serverKey sampleCrypto sampleConfig (text "key-1")
          (sampleClock + 25) = Except.ok session.cek :=
    ⟨_, rfl, rfl⟩
  rcases hlate with ⟨session, hhandled, hcek⟩
  have hagreed := h sampleCrypto sampleCrypto_ideal sampleConfig {} session
    request sampleResponse sampleResult (text "key-1") sampleClock
    (sampleClock + 25) 2 hrequest sampleResponse_parsed rfl rfl hhandled
  have hclock := serverKey_inj sampleCrypto_ideal hcek hagreed.key
  exact absurd hclock (by decide)

end Client
end Hmmp
