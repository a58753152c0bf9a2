import Hmmp.Security.Crypto

/-!
# Signed messages

The messages that a handshake signs are fields in a row without separators.
The digits of the timestamp and of the nonce are as many in every message, so
they are found from its end, and what is left is the client id.
-/

namespace Hmmp
namespace Security

open Foundation
open Wire

def signedMessage (clientId : Text) (timestamp : Nat) : Except PyError Bytes :=
  BinaryWriter.encodeString (clientId ++ decimal timestamp)

def signedMessageV2 (clientId : Text) (timestamp : Nat)
    (serverNonce : Bytes) : Except PyError Bytes :=
  BinaryWriter.encodeString
    (clientId ++ decimal timestamp ++ hex serverNonce)

theorem computeSignature_eq (crypto : CryptoLib) (secret clientId : Text)
    (timestamp : Nat) :
    computeSignature crypto secret clientId timestamp =
      (do
        let message ← signedMessage clientId timestamp
        let key ← BinaryWriter.encodeString secret
        pure (hex (crypto.hmacSha256 key message))) :=
  rfl

theorem computeSignatureV2_eq (crypto : CryptoLib) (secret clientId : Text)
    (timestamp : Nat) (serverNonce : Bytes) :
    computeSignatureV2 crypto secret clientId timestamp serverNonce =
      (do
        let message ← signedMessageV2 clientId timestamp serverNonce
        let key ← BinaryWriter.encodeString secret
        pure (hex (crypto.hmacSha256 key message))) :=
  rfl

theorem encodeString_inj {s t : Text} {message : Bytes}
    (h : BinaryWriter.encodeString s = Except.ok message)
    (h' : BinaryWriter.encodeString t = Except.ok message) : s = t :=
  Utf8.utf8.encode_inj (BinaryWriter.encodeString_eq_ok.mp h)
    (BinaryWriter.encodeString_eq_ok.mp h')

theorem stamped_inj {clientId clientId' : Text} {timestamp timestamp' : Nat}
    (hdigits : (decimal timestamp).length = (decimal timestamp').length)
    (h : clientId ++ decimal timestamp = clientId' ++ decimal timestamp') :
    clientId = clientId' ∧ timestamp = timestamp' := by
  rcases List.append_inj' h hdigits with ⟨hclient, htime⟩
  exact ⟨hclient, decimal_injective htime⟩

/-- Messages determine the client id and the timestamp, and the nonce if there
is one. -/
theorem signedMessages_unambiguous (clientId clientId' : Text)
    (timestamp timestamp' : Nat) (serverNonce serverNonce' : Bytes)
    (hdigits : (decimal timestamp).length = (decimal timestamp').length)
    (hnonce : serverNonce.length = 32) (hnonce' : serverNonce'.length = 32) :
    (forall message,
      signedMessageV2 clientId timestamp serverNonce = Except.ok message ->
        signedMessageV2 clientId' timestamp' serverNonce' =
            Except.ok message ->
          clientId = clientId' ∧ timestamp = timestamp' ∧
            serverNonce = serverNonce') ∧
    forall message, signedMessage clientId timestamp = Except.ok message ->
      signedMessage clientId' timestamp' = Except.ok message ->
        clientId = clientId' ∧ timestamp = timestamp' := by
  constructor
  · intro message h h'
    have htext := encodeString_inj h h'
    have hlength : (hex serverNonce).length = (hex serverNonce').length := by
      rw [hex_length, hex_length, hnonce, hnonce']
    rcases List.append_inj' htext hlength with ⟨hstamped, hhex⟩
    rcases stamped_inj hdigits hstamped with ⟨hclient, htime⟩
    exact ⟨hclient, htime, hex_injective hhex⟩
  · intro message h h'
    exact stamped_inj hdigits (encodeString_inj h h')

/-- The client "c1" signs no message of the client "c". -/
theorem signedMessages_unambiguous_digits :
    signedMessage (text "c1") 1234 ≠ signedMessage (text "c") 1123 := by
  intro h
  have hencodes : exists message,
      signedMessage (text "c1") 1234 = Except.ok message := ⟨_, rfl⟩
  rcases hencodes with ⟨message, hmessage⟩
  have hmessages := (signedMessages_unambiguous (text "c1") (text "c") 1234 1123
    (List.replicate 32 0) (List.replicate 32 1) (by decide) rfl rfl).2
  have hclient := (hmessages message hmessage (h.symm.trans hmessage)).1
  revert hclient
  decide

end Security
end Hmmp
