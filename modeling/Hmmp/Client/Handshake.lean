import Hmmp.Client.Config
import Hmmp.Security.Crypto

/-!
# Handshake messages

The bodies of the nonce challenge and of the handshake request, and what the
client makes of their responses.
-/

namespace Hmmp
namespace Client

open Foundation
open Wire
open Connection
open Security

/-- What a client keeps of its handshakes. -/
structure Session where
  sessionId : Text := []
  serverNonce : Bytes := []
  nonceTtlMs : Nat := 5000
  cek : Bytes := []
  configKeyId : Value := Value.str []
  configKeyRotationMs : Value := Value.int 0
  cipherSuite : Value := Value.str []

/-!
# Nonce challenge
-/

def nonceChallengeBody (config : ClientConfig) (timestamp : Nat) :
    Except PyError Bytes :=
  BinaryWriter.getvalue do
    BinaryWriter.writeStringU8 config.clientId
    BinaryWriter.writeU64 timestamp

def nonceChallengeRequest (config : ClientConfig) (timestamp streamId : Nat) :
    Except PyError FrameRequest := do
  let body ← nonceChallengeBody config timestamp
  pure
    { opcode := OpCode.nonceChallengeRequest
      body := body
      streamId := streamId }

structure NonceChallengeResult where
  status : Nat
  serverNonce : Bytes
  nonceTtlMs : Nat
  serverTimestamp : Nat
  deriving DecidableEq

namespace NonceChallengeResult

def read : Reading NonceChallengeResult := do
  let status ← BinaryReader.readU16
  let serverNonce ← BinaryReader.readBytes 32
  let nonceTtlMs ← BinaryReader.readU32
  let serverTimestamp ← BinaryReader.readU64
  pure
    { status := status
      serverNonce := serverNonce
      nonceTtlMs := nonceTtlMs
      serverTimestamp := serverTimestamp }

def fromBytes (data : Bytes) : Except PyError NonceChallengeResult := do
  let (result, _) ← read.run (BinaryReader.new data)
  pure result

end NonceChallengeResult

def handleNonceResponse (session : Session) (response : Frame) :
    Except PyError Session := do
  let result ← NonceChallengeResult.fromBytes response.body
  if result.status ≠ 0 then
    throw (PyError.nonceError
      ("Nonce challenge failed with status " ++ toString result.status)
      (some result.status))
  pure
    { session with
      serverNonce := result.serverNonce
      nonceTtlMs := result.nonceTtlMs }

/-!
# Handshake request
-/

/-- The signature of the request: over the nonce if the server sent one. -/
def handshakeSignature (crypto : CryptoLib) (config : ClientConfig)
    (session : Session) (timestamp : Nat) : Except PyError Text :=
  if session.serverNonce.isEmpty then
    computeSignature crypto config.secretKey config.clientId timestamp
  else
    computeSignatureV2 crypto config.secretKey config.clientId timestamp
      session.serverNonce

def handshakeBody (crypto : CryptoLib) (config : ClientConfig)
    (session : Session) (timestamp : Nat) : Except PyError Bytes := do
  let signature ← handshakeSignature crypto config session timestamp
  BinaryWriter.getvalue do
    BinaryWriter.writeStringU8 config.clientId
    BinaryWriter.writeStringU8 config.accessKey
    BinaryWriter.writeU64 timestamp
    BinaryWriter.writeStringU8 signature
    if session.serverNonce.isEmpty then
      BinaryWriter.writeU8 0
    else do
      BinaryWriter.writeU8 1
      BinaryWriter.writeBytes session.serverNonce
    BinaryWriter.writeU8 config.labels.entries.length
    config.labels.entries.forM BinaryWriter.writeLabel

def handshakeMetadata (config : ClientConfig) : Metadata :=
  let encryption : Metadata :=
    if config.configEncrypt then
      (Dict.empty.set (text "config_encrypt") (Value.bool true)).set
        (text "config_cipher_suites")
        (Value.array (config.configCipherSuites.map Value.str))
    else Dict.empty
  if config.canaryLabels.entries.isEmpty then encryption
  else
    encryption.set (text "canary_labels")
      (Value.map (config.canaryLabels.entries.map fun label =>
        (Value.str label.1, Value.str label.2)))

def handshakeRequest (crypto : CryptoLib) (config : ClientConfig)
    (session : Session) (timestamp streamId : Nat) :
    Except PyError FrameRequest := do
  let body ← handshakeBody crypto config session timestamp
  pure
    { opcode := OpCode.handshakeRequest
      body := body
      streamId := streamId
      metadata := handshakeMetadata config }

/-!
# Handshake response
-/

structure HandshakeResult where
  sessionId : Text
  status : Nat
  configCipherSuite : Value
  configKeyId : Value
  configKeyRotationMs : Value

/-- {lit}`value.get(key, default)`. -/
def getOr (metadata : Value) (key : Text) (default : Value) :
    Except PyError Value := do
  pure ((← metadata.get key).getD default)

def readHandshakeBody : Reading (Text × Nat) := do
  let sessionId ← BinaryReader.readStringU16
  let status ← BinaryReader.readU16
  pure (sessionId, status)

def parseHandshakeResponse (frame : Frame) :
    Except PyError HandshakeResult := do
  let ((sessionId, status), _) ←
    readHandshakeBody.run (BinaryReader.new frame.body)
  let suite ← getOr frame.metadata (text "config_cipher_suite") (Value.str [])
  let keyId ← getOr frame.metadata (text "config_key_id") (Value.str [])
  let rotation ←
    getOr frame.metadata (text "config_key_rotation_ms") (Value.int 0)
  pure
    { sessionId := sessionId
      status := status
      configCipherSuite := suite
      configKeyId := keyId
      configKeyRotationMs := rotation }

/-- Only a string can be encoded. -/
def encodable : Value -> Except PyError Text
  | Value.str s => pure s
  | _ => throw PyError.attributeError

/-- Derive the content encryption key, with the session secret of the given
clock reading. -/
def deriveConfigKey (crypto : CryptoLib) (config : ClientConfig)
    (timestampMs : Nat) (configKeyId : Value) : Except PyError Bytes := do
  let sessionSecret ←
    deriveSessionSecret crypto config.clientId timestampMs config.secretKey
  let keyId ← encodable configKeyId
  deriveCek crypto sessionSecret keyId

/-- Process the response to the handshake request at a clock reading. -/
def handleHandshakeResponse (crypto : CryptoLib) (config : ClientConfig)
    (session : Session) (response : Frame) (timestampMs : Nat) :
    Except PyError Session := do
  let result ← parseHandshakeResponse response
  if result.status ≠ statusOk then
    throw (PyError.handshakeError
      ("Handshake failed with status " ++ toString result.status)
      (some result.status))
  let session : Session :=
    { session with
      sessionId := result.sessionId
      cipherSuite := result.configCipherSuite
      configKeyId := result.configKeyId
      configKeyRotationMs := result.configKeyRotationMs }
  if session.cipherSuite.truthy && session.configKeyId.truthy then do
    let cek ← deriveConfigKey crypto config timestampMs session.configKeyId
    pure { session with cek := cek }
  else
    pure session

end Client
end Hmmp
