import Mathlib.Data.List.Forall2
import Hmmp.Client.ConfigFetch
import Hmmp.Models.ConfigReading
import Hmmp.Security.AuthenticatedBodies

/-!
# Config responses over a session

What {lit}`get_config` does with the responses of a whole session: it reads the
plain ones, decrypts the flagged ones under the key of the last handshake, and
counts the decryptions that fail in a row.
-/

namespace Hmmp
namespace Client

open Foundation
open Wire
open Models
open Security

/-- What the calls of {lit}`get_config` keep from one response to the next. -/
structure ConfigReceiver where
  cek : Bytes := []
  decryptionFailures : Nat := 0
  deriving DecidableEq

inductive ReceiverEvent where
  /-- A handshake, with the key it derives if the server offers encryption. -/
  | handshake (cek : Option Bytes)
  /-- A call goes on with its response. -/
  | response (frame : Frame)

namespace ConfigReceiver

/-- The body of a response, and the failures counted after it.  No error but a
decryption error is caught. -/
def takeBody (crypto : CryptoLib) (s : ConfigReceiver) (response : Frame) :
    Except PyError Bytes × ConfigReceiver :=
  if response.header.isEncrypted && !s.cek.isEmpty then
    match decryptConfigBody crypto response.body s.cek response.streamId
        OpCode.configResponse.code with
    | Except.ok body => (Except.ok body, { s with decryptionFailures := 0 })
    | Except.error (PyError.decryptionError message) =>
        (Except.error (PyError.decryptionError message),
          { s with decryptionFailures := s.decryptionFailures + 1 })
    | Except.error e => (Except.error e, s)
  else (Except.ok response.body, s)

/-- {lit}`get_config` from its response to the parsed entry. -/
def getConfig (crypto : CryptoLib) (s : ConfigReceiver) (response : Frame) :
    Except PyError ConfigEntry × ConfigReceiver :=
  let (body, s') := s.takeBody crypto response
  (body >>= ConfigEntry.fromResponseBytes, s')

/-- The results of the calls of a session, in order, and what is kept. -/
def run (crypto : CryptoLib) (s : ConfigReceiver) :
    List ReceiverEvent -> List (Except PyError ConfigEntry) × ConfigReceiver
  | [] => ([], s)
  | .handshake cek :: events =>
      run crypto { s with cek := cek.getD s.cek } events
  | .response frame :: events =>
      let (result, s') := s.getConfig crypto frame
      let (results, s') := run crypto s' events
      (result :: results, s')

theorem takeBody_fst (crypto : CryptoLib) (s : ConfigReceiver)
    (response : Frame) :
    (s.takeBody crypto response).1 = configBody crypto s.cek response := by
  unfold takeBody configBody
  split
  · split
    · next h => exact h.symm
    · next h => exact h.symm
    · next h => exact h.symm
  · rfl

theorem getConfig_fst (crypto : CryptoLib) (s : ConfigReceiver)
    (response : Frame) :
    (s.getConfig crypto response).1 = configEntry crypto s.cek response := by
  show (s.takeBody crypto response).1 >>= _ = _
  rw [takeBody_fst]
  rfl

end ConfigReceiver

/-!
# What a response delivers
-/

/-- What a call makes of a response: the entry it carries, a body that ends
early, or a body that cannot be decrypted. -/
inductive DeliveryOutcome where
  | entry (decrypted : Bool) (e : ConfigEntry)
  | unreadable (decrypted : Bool)
  | refused

namespace DeliveryOutcome

def isDecrypted : DeliveryOutcome -> Bool
  | entry decrypted _ => decrypted
  | unreadable decrypted => decrypted
  | refused => false

def isRefused : DeliveryOutcome -> Bool
  | refused => true
  | _ => false

def Shows (outcome : DeliveryOutcome)
    (result : Except PyError ConfigEntry) : Prop :=
  match outcome with
  | entry _ e => result = Except.ok e
  | unreadable _ => exists message,
      result = Except.error (PyError.eofError message)
  | refused => exists message,
      result = Except.error (PyError.decryptionError message)

def countFailure (failures : Nat) (outcome : DeliveryOutcome) : Nat :=
  if outcome.isDecrypted then 0
  else if outcome.isRefused then failures + 1
  else failures

/-- Refusals behind the last response that was decrypted. -/
def failuresInARow (outcomes : List DeliveryOutcome) : Nat :=
  (outcomes.reverse.takeWhile fun outcome => !outcome.isDecrypted).countP
    isRefused

theorem failuresInARow_concat (outcomes : List DeliveryOutcome)
    (outcome : DeliveryOutcome) :
    failuresInARow (outcomes ++ [outcome]) =
      countFailure (failuresInARow outcomes) outcome := by
  unfold failuresInARow countFailure
  rw [List.reverse_append, List.reverse_singleton, List.singleton_append,
    List.takeWhile_cons]
  cases hdecrypted : outcome.isDecrypted with
  | true => rfl
  | false =>
      rw [if_neg Bool.false_ne_true, Bool.not_false, if_pos rfl,
        List.countP_cons]
      split
      · rfl
      · rfl

theorem foldl_countFailure (outcomes : List DeliveryOutcome) :
    outcomes.foldl countFailure 0 = failuresInARow outcomes := by
  induction outcomes using List.reverseRecOn with
  | nil => rfl
  | append_singleton outcomes outcome ih =>
      rw [List.foldl_append, ih, failuresInARow_concat]
      rfl

end DeliveryOutcome

/-- The body of a config response, whole or cut where a field is missing. -/
inductive Carries (decrypted : Bool) : Bytes -> DeliveryOutcome -> Prop
  | whole (c : ConfigChunk) (block : CanaryBlock) :
      Carries decrypted (c.layout ++ block.layout)
        (.entry decrypted (block.assign c.entry))
  | cutChunk (c : ConfigChunk) {n : Nat} (hn : n < c.layout.length) :
      Carries decrypted (c.layout.take n) (.unreadable decrypted)
  | cutBlock (c : ConfigChunk) (block : CanaryBlock) {n : Nat} (hpos : 0 < n)
      (hn : n < block.layout.length) :
      Carries decrypted (c.layout ++ block.layout.take n)
        (.unreadable decrypted)

theorem Carries.shows {decrypted : Bool} {body : Bytes}
    {outcome : DeliveryOutcome} (h : Carries decrypted body outcome) :
    outcome.Shows (ConfigEntry.fromResponseBytes body) := by
  cases h with
  | whole c block =>
      cases block with
      | absent =>
          show ConfigEntry.fromResponseBytes (c.layout ++ []) = _
          rw [List.append_nil]
          exact ConfigEntry.fromResponseBytes_chunk c
      | noCanary => exact ConfigEntry.fromResponseBytes_block c nofun
      | canary versionId stableVersionId matchLabels =>
          exact ConfigEntry.fromResponseBytes_block c nofun
  | cutChunk c hn => exact ConfigEntry.fromResponseBytes_cut_chunk c hn
  | cutBlock c block hpos hn =>
      exact ConfigEntry.fromResponseBytes_cut_block c block hpos hn

theorem Carries.counted {decrypted : Bool} {body : Bytes}
    {outcome : DeliveryOutcome} (h : Carries decrypted body outcome)
    (failures : Nat) :
    outcome.countFailure failures = if decrypted then 0 else failures := by
  cases h <;> cases decrypted <;> rfl

/-- A body that was encrypted under a key for a frame. -/
def SealedFor (crypto : CryptoLib) (cek : Bytes) (streamId bodyType : Nat)
    (plaintext body : Bytes) : Prop :=
  exists iv, iv.length = 12 ∧
    encryptConfigBody crypto iv plaintext cek streamId bodyType =
      Except.ok body

theorem decryptConfigBody_sealed {crypto : CryptoLib}
    (hideal : crypto.IdealAead) {cek plaintext front body : Bytes}
    {streamId bodyType : Nat} (hstream : streamId < 2 ^ 32)
    (htype : bodyType < 2 ^ 16)
    (h : SealedFor crypto cek streamId bodyType plaintext front)
    (hfront : front <+: body) :
    decryptConfigBody crypto body cek streamId bodyType =
      Except.ok plaintext := by
  rcases h with ⟨iv, hiv, hencrypt⟩
  rcases hfront with ⟨rest, rfl⟩
  rcases ciphertext_of_encryptConfigBody hstream htype hencrypt with
    ⟨ciphertext, hlt, rfl, hcipher⟩
  exact decryptConfigBody_opened hstream htype hiv hlt rest
    ((hideal.authentic ..).mpr hcipher)

/-- What the key makes of a flagged response: of one that begins with a body
that was encrypted for it, and of one that was encrypted for another frame, cut
short, or never encrypted. -/
inductive Deciphers (crypto : CryptoLib) (cek : Bytes) (frame : Frame) :
    DeliveryOutcome -> Prop
  | opened {plaintext front : Bytes} {outcome : DeliveryOutcome}
      (hsealed : SealedFor crypto cek frame.streamId
        OpCode.configResponse.code plaintext front)
      (hfront : front <+: frame.body)
      (hcarries : Carries true plaintext outcome) :
      Deciphers crypto cek frame outcome
  | foreign {streamId bodyType : Nat} {plaintext : Bytes}
      (hstream : streamId < 2 ^ 32) (htype : bodyType < 2 ^ 16)
      (hother : (frame.streamId, OpCode.configResponse.code) ≠
        (streamId, bodyType))
      (hsealed : SealedFor crypto cek streamId bodyType plaintext
        frame.body) :
      Deciphers crypto cek frame .refused
  | cut {plaintext body : Bytes}
      (hsealed : SealedFor crypto cek frame.streamId
        OpCode.configResponse.code plaintext body)
      (hcut : frame.body <+: body) (hne : frame.body ≠ body) :
      Deciphers crypto cek frame .refused
  | forged
      (hnone : forall plaintext front, SealedFor crypto cek frame.streamId
        OpCode.configResponse.code plaintext front ->
          ¬ front <+: frame.body) :
      Deciphers crypto cek frame .refused

/-- What a client makes of a response: a plain one is read as it is, a flagged
one once there is a key. -/
inductive Delivers (crypto : CryptoLib) (cek : Bytes) (frame : Frame)
    (outcome : DeliveryOutcome) : Prop
  | plain (hflag : frame.header.isEncrypted = false)
      (hcarries : Carries false frame.body outcome)
  | flagged (hflag : frame.header.isEncrypted = true) (hkey : cek ≠ [])
      (h : Deciphers crypto cek frame outcome)

/-- The responses of a session and what they are to give, each under the key of
the last handshake. -/
inductive Delivering (crypto : CryptoLib) :
    Bytes -> List ReceiverEvent -> List DeliveryOutcome -> Prop
  | nil {cek : Bytes} : Delivering crypto cek [] []
  | handshake {cek : Bytes} {offered : Option Bytes}
      {events : List ReceiverEvent} {outcomes : List DeliveryOutcome}
      (h : Delivering crypto (offered.getD cek) events outcomes) :
      Delivering crypto cek (.handshake offered :: events) outcomes
  | response {cek : Bytes} {frame : Frame} {outcome : DeliveryOutcome}
      {events : List ReceiverEvent} {outcomes : List DeliveryOutcome}
      (hstream : frame.streamId < 2 ^ 32)
      (hdelivers : Delivers crypto cek frame outcome)
      (h : Delivering crypto cek events outcomes) :
      Delivering crypto cek (.response frame :: events) (outcome :: outcomes)

/-!
# One response
-/

namespace ConfigReceiver

variable {crypto : CryptoLib} {s : ConfigReceiver} {frame : Frame}
variable {outcome : DeliveryOutcome}

theorem takeBody_plain (hflag : frame.header.isEncrypted = false) :
    s.takeBody crypto frame = (Except.ok frame.body, s) := by
  unfold takeBody
  rw [hflag, Bool.false_and, if_neg Bool.false_ne_true]

theorem takeBody_opened (hflag : frame.header.isEncrypted = true)
    (hkey : s.cek ≠ []) {plaintext : Bytes}
    (h : decryptConfigBody crypto frame.body s.cek frame.streamId
      OpCode.configResponse.code = Except.ok plaintext) :
    s.takeBody crypto frame =
      (Except.ok plaintext, { s with decryptionFailures := 0 }) := by
  unfold takeBody
  rw [hflag, List.isEmpty_eq_false_iff.mpr hkey, h]
  rfl

theorem getConfig_refused (hflag : frame.header.isEncrypted = true)
    (hkey : s.cek ≠ [])
    (h : Rejected (decryptConfigBody crypto frame.body s.cek frame.streamId
      OpCode.configResponse.code)) :
    DeliveryOutcome.refused.Shows (s.getConfig crypto frame).1 ∧
      (s.getConfig crypto frame).2 =
        { s with decryptionFailures := s.decryptionFailures + 1 } := by
  rcases h with ⟨message, h⟩
  unfold getConfig takeBody
  rw [hflag, List.isEmpty_eq_false_iff.mpr hkey, h]
  exact ⟨⟨message, rfl⟩, rfl⟩

theorem getConfig_deciphers (hideal : crypto.IdealAead)
    (hflag : frame.header.isEncrypted = true) (hkey : s.cek ≠ [])
    (hstream : frame.streamId < 2 ^ 32)
    (h : Deciphers crypto s.cek frame outcome) :
    outcome.Shows (s.getConfig crypto frame).1 ∧
      (s.getConfig crypto frame).2 =
        { s with
          decryptionFailures :=
            outcome.countFailure s.decryptionFailures } := by
  have htype : OpCode.configResponse.code < 2 ^ 16 := by decide
  cases h with
  | opened hsealed hfront hcarries =>
      have hopened := decryptConfigBody_sealed hideal hstream htype hsealed
        hfront
      unfold getConfig
      rw [takeBody_opened hflag hkey hopened, hcarries.counted]
      exact ⟨hcarries.shows, rfl⟩
  | foreign hstream' htype' hother hsealed =>
      rcases hsealed with ⟨iv, hiv, hencrypt⟩
      apply getConfig_refused hflag hkey
      exact decryptConfigBody_other_frame hideal hstream' htype' hstream htype
        hother hiv hencrypt
  | cut hsealed hcut hne =>
      rcases hsealed with ⟨iv, hiv, hencrypt⟩
      apply getConfig_refused hflag hkey
      exact decryptConfigBody_strict_prefix hideal hstream htype hiv hencrypt
        hcut hne
  | forged hnone =>
      apply getConfig_refused hflag hkey
      apply (decryptConfigBody_cases hideal hstream htype
        frame.body).resolve_right
      rintro ⟨iv, plaintext, front, hiv, hfront, hencrypt⟩
      exact hnone plaintext front ⟨iv, hiv, hencrypt⟩ hfront

theorem getConfig_delivers (hideal : crypto.IdealAead)
    (hstream : frame.streamId < 2 ^ 32)
    (h : Delivers crypto s.cek frame outcome) :
    outcome.Shows (s.getConfig crypto frame).1 ∧
      (s.getConfig crypto frame).2 =
        { s with
          decryptionFailures :=
            outcome.countFailure s.decryptionFailures } := by
  cases h with
  | plain hflag hcarries =>
      unfold getConfig
      rw [takeBody_plain hflag, hcarries.counted]
      exact ⟨hcarries.shows, rfl⟩
  | flagged hflag hkey h =>
      exact getConfig_deciphers hideal hflag hkey hstream h

/-!
# Whole sessions
-/

theorem run_response {events : List ReceiverEvent} {s' : ConfigReceiver}
    (h : (s.getConfig crypto frame).2 = s') :
    s.run crypto (.response frame :: events) =
      ((s.getConfig crypto frame).1 :: (s'.run crypto events).1,
        (s'.run crypto events).2) := by
  rw [← h]
  rfl

theorem run_delivers (hideal : crypto.IdealAead) {cek : Bytes}
    {events : List ReceiverEvent} {outcomes : List DeliveryOutcome}
    (h : Delivering crypto cek events outcomes) (s : ConfigReceiver)
    (hcek : s.cek = cek) :
    List.Forall₂ DeliveryOutcome.Shows outcomes (s.run crypto events).1 ∧
      (s.run crypto events).2.decryptionFailures =
        outcomes.foldl DeliveryOutcome.countFailure s.decryptionFailures := by
  induction h generalizing s with
  | nil => exact ⟨List.Forall₂.nil, rfl⟩
  | handshake _ ih =>
      subst hcek
      exact ih { s with cek := _ } rfl
  | @response _ _ outcome _ _ hstream hdelivers _ ih =>
      subst hcek
      rcases getConfig_delivers hideal hstream hdelivers with
        ⟨hshows, hnext⟩
      rcases ih
        { s with
          decryptionFailures := outcome.countFailure s.decryptionFailures }
        rfl with ⟨hrest, hcount⟩
      rw [run_response hnext]
      exact ⟨List.Forall₂.cons hshows hrest, hcount⟩

/-- Over every session of plain, encrypted, replayed, cut and forged responses
under the keys of its handshakes, each call reads the entry its response
carries, which it returns or goes on to assemble, or raises the error of its
kind, and the counter holds the refusals since the last response that was
decrypted. -/
theorem session_delivers (hideal : crypto.IdealAead)
    (events : List ReceiverEvent) (outcomes : List DeliveryOutcome)
    (h : Delivering crypto [] events outcomes) :
    List.Forall₂ DeliveryOutcome.Shows outcomes
        (ConfigReceiver.run crypto {} events).1 ∧
      (ConfigReceiver.run crypto {} events).2.decryptionFailures =
        DeliveryOutcome.failuresInARow outcomes := by
  rw [← DeliveryOutcome.foldl_countFailure]
  exact run_delivers hideal h {} rfl

end ConfigReceiver

/-!
A session under a key of ones: a response is opened, its cut body is refused, a
plain one is read, and the cut one is refused again.
-/

/-- The chunk under AES-256-GCM, for a config response on stream five. -/
def chunkSeal : Seal where
  key := List.replicate 32 1
  iv := List.replicate 12 0
  plaintext := ConfigEntry.sampleChunk.layout
  aad := aadLayout 5 OpCode.configResponse.code
  ciphertext :=
    [190, 84, 153, 189, 116, 90, 4, 184, 148, 126, 149, 66, 118, 35, 198, 70,
      178, 193, 152, 183, 130, 152, 52, 251, 204, 36, 14, 213, 14, 214, 109, 26,
      92, 187, 57, 166, 194, 241, 44, 244, 93, 57, 59, 102, 143, 184, 101, 25,
      202, 249]
  size := rfl
  marked := by decide

def sealedBody : Bytes :=
  encryptedLayout chunkSeal.iv chunkSeal.ciphertext

/-- A response on stream five, flagged as encrypted or not. -/
def deliveredFrame (flagged : Bool) (body : Bytes) : Frame where
  header :=
    { flags := if flagged then Flag.encrypted.mask else 0
      streamId := 5
      payloadLength := body.length }
  metadata := Value.nil
  body := body
  governanceBlock := none

def mixedSession : List ReceiverEvent :=
  [.handshake (some chunkSeal.key), .response (deliveredFrame true sealedBody),
    .response (deliveredFrame true (sealedBody.take 20)),
    .response (deliveredFrame false ConfigEntry.sampleChunk.layout),
    .response (deliveredFrame true (sealedBody.take 20))]

theorem session_delivers_mixed :
    (exists results,
      (ConfigReceiver.run (CryptoLib.sealing chunkSeal) {} mixedSession).1 =
        Except.ok ConfigEntry.sampleChunk.entry :: results) ∧
      (ConfigReceiver.run (CryptoLib.sealing chunkSeal) {}
        mixedSession).2.decryptionFailures = 2 := by
  have hsealed : SealedFor (CryptoLib.sealing chunkSeal) chunkSeal.key 5
      OpCode.configResponse.code ConfigEntry.sampleChunk.layout sealedBody :=
    ⟨chunkSeal.iv, rfl, by decide +kernel⟩
  have hwhole (decrypted : Bool) : Carries decrypted
      ConfigEntry.sampleChunk.layout
      (.entry decrypted ConfigEntry.sampleChunk.entry) := by
    rw [← List.append_nil ConfigEntry.sampleChunk.layout]
    exact .whole ConfigEntry.sampleChunk .absent
  have hfront : sealedBody.take 20 <+: sealedBody :=
    ⟨sealedBody.drop 20, List.take_append_drop 20 sealedBody⟩
  have hcut : Delivers (CryptoLib.sealing chunkSeal) chunkSeal.key
      (deliveredFrame true (sealedBody.take 20)) .refused :=
    .flagged (by decide) (by decide)
      (.cut hsealed hfront (by decide +kernel))
  have hdelivering : Delivering (CryptoLib.sealing chunkSeal) [] mixedSession
      [.entry true ConfigEntry.sampleChunk.entry, .refused,
        .entry false ConfigEntry.sampleChunk.entry, .refused] :=
    .handshake (.response (by decide)
      (.flagged (by decide) (by decide)
        (.opened hsealed List.prefix_rfl (hwhole true)))
      (.response (by decide) hcut
        (.response (by decide) (.plain (by decide) (hwhole false))
          (.response (by decide) hcut .nil))))
  rcases ConfigReceiver.session_delivers
    (CryptoLib.sealing_idealAead chunkSeal) _ _ hdelivering with
    ⟨hresults, hcount⟩
  refine ⟨?_, hcount⟩
  generalize (ConfigReceiver.run (CryptoLib.sealing chunkSeal) {}
    mixedSession).1 = results at hresults
  cases hresults with
  | @cons _ result _ rest hfirst _ =>
      exact ⟨rest, congrArg (· :: rest) hfirst⟩

end Client
end Hmmp
