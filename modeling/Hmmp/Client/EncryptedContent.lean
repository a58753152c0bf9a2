import Hmmp.Client.ConfigFetch

/-!
# Content that is flagged as encrypted

The flag of a frame is acted upon only by a client that holds a key.  Without a
key the body is read as it is, and what it says is returned by a fetch or
passed to the handlers of a change.
-/

namespace Hmmp
namespace Security

open Foundation
open Wire

/-- No key is no key of the cipher. -/
def CryptoLib.RejectsEmptyKey (crypto : CryptoLib) : Prop :=
  forall iv ciphertext aad,
    exists e, crypto.aesGcmDecrypt [] iv ciphertext aad = Except.error e

theorem decryptConfigBody_no_key {crypto : CryptoLib}
    (hkey : crypto.RejectsEmptyKey) {body plaintext : Bytes}
    {streamId bodyType : Nat} :
    decryptConfigBody crypto body [] streamId bodyType ≠
      Except.ok plaintext := by
  intro h
  rcases bind_eq_ok.mp h with ⟨⟨iv, ciphertext⟩, _, h⟩
  rcases bind_eq_ok.mp h with ⟨aad, _, h⟩
  rcases hkey iv ciphertext aad with ⟨e, he⟩
  simp only [he] at h
  cases h

end Security

namespace Client

open Foundation
open Wire
open Connection
open Models
open Security

/-!
# Notifications
-/

/-- The key under which the handlers of a notification are registered. -/
def notificationKey (notification : ConfigChangedNotification) : Text :=
  notification.tenant ++ text "/" ++ notification.group ++ text "/" ++
    notification.dataId

/-- The handlers of a change, by the key of the configuration. -/
abbrev ConfigChangeHandlers := Dict Text (List HandlerId)

def handlersOf (handlers : ConfigChangeHandlers)
    (notification : ConfigChangedNotification) : List HandlerId :=
  (handlers.get? (notificationKey notification)).getD []

/-- Pass a notification to the handlers registered for it; what they raise is
logged. -/
def notifyConfigChange (handlers : ConfigChangeHandlers) (body : Bytes) :
    Except PyError (List (HandlerId × ConfigChangedNotification)) := do
  let notification ← ConfigChangedNotification.fromBytes body
  pure ((handlersOf handlers notification).map fun handler =>
    (handler, notification))

/-- The handlers that are called for a frame, each with what it is given. -/
def handleConfigChanged (crypto : CryptoLib) (cek : Bytes)
    (handlers : ConfigChangeHandlers) (frame : Frame) :
    Except PyError (List (HandlerId × ConfigChangedNotification)) :=
  if frame.header.isEncrypted && !cek.isEmpty then
    match decryptConfigBody crypto frame.body cek frame.streamId
      OpCode.configChangedNotify.code with
    | Except.ok body => notifyConfigChange handlers body
    | Except.error (PyError.decryptionError _) => pure []
    | Except.error e => throw e
  else notifyConfigChange handlers frame.body

/-!
# What a fetch does after its response
-/

/-- The entry that the decrypted body of a response carries. -/
def DecryptedEntry (crypto : CryptoLib) (cek : Bytes) (response : Frame)
    (entry : ConfigEntry) : Prop :=
  exists plaintext, decryptConfigBody crypto response.body cek
      response.streamId OpCode.configResponse.code = Except.ok plaintext ∧
    ConfigEntry.fromResponseBytes plaintext = Except.ok entry

/-- The notification that the decrypted body of a frame carries. -/
def DecryptedNotification (crypto : CryptoLib) (cek : Bytes) (frame : Frame)
    (notification : ConfigChangedNotification) : Prop :=
  exists plaintext, decryptConfigBody crypto frame.body cek frame.streamId
      OpCode.configChangedNotify.code = Except.ok plaintext ∧
    ConfigChangedNotification.fromBytes plaintext = Except.ok notification

theorem flagged_with_key {frame : Frame} {cek : Bytes}
    (hflag : frame.header.isEncrypted = true) (hcek : cek ≠ []) :
    (frame.header.isEncrypted && !cek.isEmpty) = true := by
  rw [hflag, List.isEmpty_eq_false_iff.mpr hcek]
  rfl

namespace ConfigFetch

variable {crypto : CryptoLib} {cek : Bytes} {config : ClientConfig}
variable {request : ConfigEntry} {response : Frame} {s s' : ConfigFetch}

/-- The call waits, and its future holds the response. -/
def Answered (s : ConfigFetch) (response : Frame) : Prop :=
  exists streamId future, s.pc = FetchPc.waiting streamId future ∧
    s.router.future future = some (FutureState.result response)

theorem Answered.resume (h : s.Answered response) :
    ConfigFetch.step crypto cek config request s FetchEvent.resume =
      some (s.receive crypto cek response) := by
  rcases h with ⟨streamId, future, hpc, hfuture⟩
  simp only [ConfigFetch.step, hpc, hfuture]

/-- What is known of a call that has gone on with a response. -/
def Received (crypto : CryptoLib) (cek : Bytes) (response : Frame)
    (s : ConfigFetch) : Prop :=
  match s.pc with
  | FetchPc.returned entry => configEntry crypto cek response = Except.ok entry
  | FetchPc.assembling first => 2 <= first.totalChunks ∧
      forall held, s.configChunks.get? (chunkKey first) = some held ->
        held.entries.length = 1
  | FetchPc.raised _ => True
  | _ => False

theorem received_receive (s : ConfigFetch) :
    Received crypto cek response (s.receive crypto cek response) := by
  unfold receive
  cases hentry : configEntry crypto cek response with
  | error e => trivial
  | ok entry =>
      show Received crypto cek response
        (if entry.totalChunks > 1 then _ else _)
      by_cases hmany : entry.totalChunks > 1
      · rw [if_pos hmany]
        refine ⟨hmany, ?_⟩
        intro held hheld
        have hnew := Dict.get?_set s.configChunks (chunkKey entry)
          (chunkKey entry) (Dict.empty.set entry.chunkIndex entry.content)
        rw [if_pos rfl] at hnew
        have hsame := hnew.symm.trans hheld
        injection hsame with hsame
        rw [← hsame]
        rfl
      · rw [if_neg hmany]
        exact hentry

theorem Received.reroute (h : Received crypto cek response s)
    (hpc : s'.pc = s.pc) (hchunks : s'.configChunks = s.configChunks) :
    Received crypto cek response s' := by
  unfold Received at h ⊢
  rw [hpc, hchunks]
  exact h

theorem routed_keeps {frame : Frame} (h : s.routed frame = some s') :
    s'.pc = s.pc ∧ s'.configChunks = s.configChunks := by
  unfold routed at h
  cases hroute : s.router.routeFrame frame with
  | error e =>
      rw [hroute] at h
      cases h
  | ok result =>
      rw [hroute] at h
      injection h with h
      rw [← h]
      exact ⟨rfl, rfl⟩

theorem Received.pollChunks {first : ConfigEntry}
    (h : Received crypto cek response s)
    (hpc : s.pc = FetchPc.assembling first) :
    Received crypto cek response (s.pollChunks first) := by
  have hheld := h
  unfold Received at hheld
  simp only [hpc] at hheld
  rcases hheld with ⟨hmany, hsingle⟩
  unfold ConfigFetch.pollChunks
  cases hget : s.configChunks.get? (chunkKey first) with
  | none => trivial
  | some held =>
      have hone := hsingle held hget
      simp only
      rw [if_pos (by omega)]
      exact h

theorem Received.otherChunk (h : Received crypto cek response s)
    (other : ConfigEntry) :
    Received crypto cek response
      { s with configChunks := startAssembly s.configChunks other } := by
  unfold Received at h ⊢
  cases hpc : s.pc with
  | assembling first =>
      simp only [hpc] at h
      refine ⟨h.1, ?_⟩
      intro held hheld
      have hset : (startAssembly s.configChunks other).get?
          (chunkKey first) = some held := hheld
      unfold startAssembly at hset
      rw [Dict.get?_set] at hset
      split at hset
      · injection hset with hset
        rw [← hset]
        rfl
      · exact h.2 held hset
  | idle =>
      simp only [hpc] at h
  | waiting streamId future =>
      simp only [hpc] at h
  | expired streamId =>
      simp only [hpc] at h
  | returned entry =>
      simp only [hpc] at h
      exact h
  | raised e => trivial
  | cancelled =>
      simp only [hpc] at h

theorem Received.not_idle (h : Received crypto cek response s) :
    s.pc ≠ FetchPc.idle := by
  intro hpc
  unfold Received at h
  simp only [hpc] at h

theorem Received.not_waiting (h : Received crypto cek response s)
    (streamId : Nat) (future : FutureId) :
    s.pc ≠ FetchPc.waiting streamId future := by
  intro hpc
  unfold Received at h
  simp only [hpc] at h

theorem Received.not_expired (h : Received crypto cek response s)
    (streamId : Nat) : s.pc ≠ FetchPc.expired streamId := by
  intro hpc
  unfold Received at h
  simp only [hpc] at h

/-- Step lemma: after the response nothing is returned but its entry. -/
theorem Received.step {e : FetchEvent} (h : Received crypto cek response s)
    (hstep : Step crypto cek config request s e s') :
    Received crypto cek response s' := by
  unfold Step StepOf at hstep
  cases e with
  | call =>
      simp only [ConfigFetch.step] at hstep
      split at hstep
      · next hpc => exact absurd hpc h.not_idle
      · cases hstep
  | arrive k =>
      rcases Option.bind_eq_some_iff.mp hstep with ⟨frame, _, hstep⟩
      split at hstep
      · cases hstep
      · have hkeeps := routed_keeps hstep
        exact h.reroute hkeeps.1 hkeeps.2
  | other frame =>
      simp only [ConfigFetch.step] at hstep
      split at hstep
      · next hpc => exact absurd hpc (h.not_waiting _ _)
      · have hkeeps := routed_keeps hstep
        exact h.reroute hkeeps.1 hkeeps.2
  | resume =>
      simp only [ConfigFetch.step] at hstep
      split at hstep
      · next hpc => exact absurd hpc (h.not_waiting _ _)
      · cases hstep
  | timeout =>
      simp only [ConfigFetch.step] at hstep
      split at hstep
      · next hpc => exact absurd hpc (h.not_waiting _ _)
      · cases hstep
  | giveUp =>
      simp only [ConfigFetch.step] at hstep
      split at hstep
      · next hpc => exact absurd hpc (h.not_expired _)
      · cases hstep
  | poll =>
      simp only [ConfigFetch.step] at hstep
      split at hstep
      · next hpc =>
          injection hstep with hstep
          rw [← hstep]
          exact h.pollChunks hpc
      · cases hstep
  | otherChunk first =>
      injection hstep with hstep
      rw [← hstep]
      exact h.otherChunk first
  | otherRequest =>
      simp only [ConfigFetch.step] at hstep
      split at hstep
      · cases hstep
      · injection hstep with hstep
        rw [← hstep]
        exact h.reroute rfl rfl
  | otherTimeout future =>
      simp only [ConfigFetch.step] at hstep
      split at hstep
      · next hpc => exact absurd hpc (h.not_waiting _ _)
      · injection hstep with hstep
        rw [← hstep]
        exact h.reroute rfl rfl
  | otherGiveUp streamId =>
      injection hstep with hstep
      rw [← hstep]
      exact h.reroute rfl rfl

/-- Run lemma: whatever happens around it, a call that has gone on with a
response returns nothing but the entry in it. -/
theorem returned_of_receive
    (h : Reachable (Step crypto cek config request)
      (s.receive crypto cek response) s')
    {entry : ConfigEntry} (hpc : s'.pc = FetchPc.returned entry) :
    configEntry crypto cek response = Except.ok entry := by
  have hreceived : Received crypto cek response s' :=
    h.invariant (fun _ _ _ hs hstep => Received.step hs hstep)
      (received_receive s)
  unfold Received at hreceived
  simp only [hpc] at hreceived
  exact hreceived

/-- The call returns nothing but the entry decrypted from its response, and
raises if there is none. -/
def ReturnsDecrypted (crypto : CryptoLib) (cek : Bytes)
    (config : ClientConfig) (request : ConfigEntry) (s : ConfigFetch)
    (response : Frame) : Prop :=
  forall received,
    Step crypto cek config request s FetchEvent.resume received ->
      (forall s' entry,
        Reachable (Step crypto cek config request) received s' ->
          s'.pc = FetchPc.returned entry ->
            DecryptedEntry crypto cek response entry) ∧
      ((forall entry, ¬ DecryptedEntry crypto cek response entry) ->
        exists e, received.pc = FetchPc.raised e)

theorem configEntry_of_key (hflag : response.header.isEncrypted = true)
    (hcek : cek ≠ []) (entry : ConfigEntry) :
    configEntry crypto cek response = Except.ok entry <->
      DecryptedEntry crypto cek response entry := by
  unfold configEntry configBody DecryptedEntry
  rw [if_pos (flagged_with_key hflag hcek)]
  exact bind_eq_ok

theorem configEntry_no_key (crypto : CryptoLib) (response : Frame) :
    configEntry crypto [] response =
      ConfigEntry.fromResponseBytes response.body := by
  unfold configEntry configBody
  rw [if_neg (by simp)]
  rfl

theorem receive_raises {e : PyError}
    (h : configEntry crypto cek response = Except.error e) :
    (s.receive crypto cek response).pc = FetchPc.raised e := by
  unfold receive
  rw [h]

theorem receive_not_raised {entry : ConfigEntry}
    (h : configEntry crypto cek response = Except.ok entry) (e : PyError) :
    (s.receive crypto cek response).pc ≠ FetchPc.raised e := by
  unfold receive
  rw [h]
  simp only
  split
  · exact FetchPc.noConfusion
  · exact FetchPc.noConfusion

theorem returnsDecrypted_of_entries
    (hentries : forall entry,
      configEntry crypto cek response = Except.ok entry ->
        DecryptedEntry crypto cek response entry)
    (hanswered : s.Answered response) :
    ReturnsDecrypted crypto cek config request s response := by
  intro received hstep
  have hreceived : received = s.receive crypto cek response :=
    Option.some.inj (hstep.symm.trans hanswered.resume)
  subst hreceived
  constructor
  · intro s' entry hrun hpc
    exact hentries entry (returned_of_receive hrun hpc)
  · intro hnone
    cases hentry : configEntry crypto cek response with
    | ok entry => exact absurd (hentries entry hentry) (hnone entry)
    | error e => exact ⟨e, receive_raises hentry⟩

theorem returnsDecrypted_iff (hkey : crypto.RejectsEmptyKey)
    (hanswered : s.Answered response)
    (hflag : response.header.isEncrypted = true) :
    ReturnsDecrypted crypto cek config request s response <->
      cek ≠ [] ∨ forall entry,
        ConfigEntry.fromResponseBytes response.body ≠ Except.ok entry := by
  constructor
  · intro hlaw
    by_contra hneither
    push Not at hneither
    rcases hneither with ⟨rfl, entry, hparses⟩
    have hentry : configEntry crypto [] response = Except.ok entry :=
      (configEntry_no_key crypto response).trans hparses
    have hnone : forall entry, ¬ DecryptedEntry crypto [] response entry := by
      rintro entry ⟨plaintext, hplain, _⟩
      exact decryptConfigBody_no_key hkey hplain
    rcases (hlaw _ hanswered.resume).2 hnone with ⟨e, hraised⟩
    exact receive_not_raised hentry e hraised
  · intro hcase
    apply returnsDecrypted_of_entries _ hanswered
    intro entry hentry
    by_cases hcek : cek = []
    · rw [hcek, configEntry_no_key] at hentry
      exact absurd hentry (hcase.resolve_left (not_not_intro hcek) entry)
    · exact (configEntry_of_key hflag hcek entry).mp hentry

end ConfigFetch

/-!
# What a handler is given
-/

section Notifications

variable {crypto : CryptoLib} {cek : Bytes} {handlers : ConfigChangeHandlers}
variable {frame : Frame}

/-- Handlers are called with decrypted notifications only. -/
def NotifiesDecrypted (crypto : CryptoLib) (cek : Bytes)
    (handlers : ConfigChangeHandlers) (frame : Frame) : Prop :=
  forall calls,
    handleConfigChanged crypto cek handlers frame = Except.ok calls ->
      forall call, call ∈ calls ->
        DecryptedNotification crypto cek frame call.2

theorem notifyConfigChange_eq_ok {body : Bytes}
    {calls : List (HandlerId × ConfigChangedNotification)} :
    notifyConfigChange handlers body = Except.ok calls <->
      exists notification,
        ConfigChangedNotification.fromBytes body =
            Except.ok notification ∧
          calls = (handlersOf handlers notification).map
            fun handler => (handler, notification) := by
  unfold notifyConfigChange
  rw [bind_eq_ok]
  constructor
  · rintro ⟨notification, hparse, hcalls⟩
    injection hcalls with hcalls
    exact ⟨notification, hparse, hcalls.symm⟩
  · rintro ⟨notification, hparse, rfl⟩
    exact ⟨notification, hparse, rfl⟩

theorem notifiesDecrypted_of_key (hflag : frame.header.isEncrypted = true)
    (hcek : cek ≠ []) : NotifiesDecrypted crypto cek handlers frame := by
  intro calls hcalls call hcall
  unfold handleConfigChanged at hcalls
  rw [if_pos (flagged_with_key hflag hcek)] at hcalls
  split at hcalls
  · next body hbody =>
      rcases notifyConfigChange_eq_ok.mp hcalls with
        ⟨notification, hparse, rfl⟩
      rcases List.mem_map.mp hcall with ⟨handler, _, rfl⟩
      exact ⟨body, hbody, hparse⟩
  · injection hcalls with hcalls
    rw [← hcalls] at hcall
    cases hcall
  · cases hcalls

theorem handleConfigChanged_no_key (crypto : CryptoLib)
    (handlers : ConfigChangeHandlers) (frame : Frame) :
    handleConfigChanged crypto [] handlers frame =
      notifyConfigChange handlers frame.body := by
  unfold handleConfigChanged
  rw [if_neg (by simp)]

/-- Handlers are given decrypted content only exactly when a key is there, or
the body as it stands is no notification that a handler waits for. -/
theorem notifiesDecrypted_iff (hkey : crypto.RejectsEmptyKey)
    (hflag : frame.header.isEncrypted = true) :
    NotifiesDecrypted crypto cek handlers frame <->
      cek ≠ [] ∨ forall notification,
        ConfigChangedNotification.fromBytes frame.body =
          Except.ok notification ->
            handlersOf handlers notification = [] := by
  constructor
  · intro hlaw
    by_contra hneither
    push Not at hneither
    rcases hneither with ⟨rfl, notification, hparse, hsome⟩
    rcases List.exists_mem_of_ne_nil _ hsome with ⟨handler, hhandler⟩
    have hcalls : handleConfigChanged crypto [] handlers frame =
        Except.ok ((handlersOf handlers notification).map
          fun handler => (handler, notification)) := by
      rw [handleConfigChanged_no_key]
      exact notifyConfigChange_eq_ok.mpr ⟨notification, hparse, rfl⟩
    rcases hlaw _ hcalls _ (List.mem_map_of_mem hhandler) with
      ⟨plaintext, hplain, _⟩
    exact decryptConfigBody_no_key hkey hplain
  · rintro (hcek | hquiet)
    · exact notifiesDecrypted_of_key hflag hcek
    · by_cases hcek : cek = []
      · intro calls hcalls call hcall
        rw [hcek, handleConfigChanged_no_key] at hcalls
        rcases notifyConfigChange_eq_ok.mp hcalls with
          ⟨notification, hparse, rfl⟩
        rw [hquiet notification hparse] at hcall
        cases hcall
      · exact notifiesDecrypted_of_key hflag hcek

end Notifications

/-!
# Flagged content
-/

/--
When flagged content is used decrypted only: for every state of the client and
everything that happens around it, a fetch exactly when a key is there or the
body is no response as it stands, and a notification exactly when a key is
there or the body as it stands is no notification with a handler.
-/
theorem flagged_content_iff (crypto : CryptoLib)
    (hkey : crypto.RejectsEmptyKey) (cek : Bytes) :
    (forall config request s response, ConfigFetch.Answered s response ->
      response.header.isEncrypted = true ->
        (ConfigFetch.ReturnsDecrypted crypto cek config request s response <->
          cek ≠ [] ∨ forall entry,
            ConfigEntry.fromResponseBytes response.body ≠
              Except.ok entry)) ∧
    forall handlers frame, frame.header.isEncrypted = true ->
      (NotifiesDecrypted crypto cek handlers frame <->
        cek ≠ [] ∨ forall notification,
          ConfigChangedNotification.fromBytes frame.body =
            Except.ok notification ->
              handlersOf handlers notification = []) := by
  constructor
  · intro config request s response hanswered hflag
    exact ConfigFetch.returnsDecrypted_iff hkey hanswered hflag
  · intro handlers frame hflag
    exact notifiesDecrypted_iff hkey hflag

/-!
A flagged response in plain text, and a flagged notification.
-/

/-- A cipher that is asked for the size of its keys. -/
def keyedCrypto : CryptoLib where
  hmacSha256 _ _ := []
  hkdfSha256 _ _ _ _ := []
  aesGcmEncrypt _ _ plaintext _ := pure plaintext
  aesGcmDecrypt key _ ciphertext _ :=
    if key.length = 16 ∨ key.length = 24 ∨ key.length = 32 then
      pure ciphertext
    else throw "AESGCM key must be 128, 192, or 256 bits."

theorem keyedCrypto_rejectsEmptyKey : keyedCrypto.RejectsEmptyKey :=
  fun _ _ _ => ⟨_, rfl⟩

theorem flagged_content_iff_keyed :
    (forall config request s response, ConfigFetch.Answered s response ->
      response.header.isEncrypted = true ->
        (ConfigFetch.ReturnsDecrypted keyedCrypto [] config request s
            response <->
          ([] : Bytes) ≠ [] ∨ forall entry,
            ConfigEntry.fromResponseBytes response.body ≠
              Except.ok entry)) ∧
    forall handlers frame, frame.header.isEncrypted = true ->
      (NotifiesDecrypted keyedCrypto [] handlers frame <->
        ([] : Bytes) ≠ [] ∨ forall notification,
          ConfigChangedNotification.fromBytes frame.body =
            Except.ok notification ->
              handlersOf handlers notification = []) :=
  flagged_content_iff keyedCrypto keyedCrypto_rejectsEmptyKey []

/-- A response in one chunk, of one byte, that is not encrypted. -/
def plainResponse : Frame where
  header := { flags := 0x10, streamId := 1 }
  metadata := Value.map []
  body :=
    [1, 112, 1, 103, 1, 100] ++ List.replicate 16 0 ++
      [0, 1, 0, 0, 0, 0, 0, 0, 1, 65]
  governanceBlock := none

def plainEntry : ConfigEntry where
  tenant := text "p"
  group := text "g"
  dataId := text "d"
  content := [65]
  md5 := List.replicate 16 0

def answeredFetch : ConfigFetch where
  router := { futures := [FutureState.result plainResponse] }
  streamIdCounter := 1
  pc := FetchPc.waiting 1 0
  unsent := []

def plainNotice : Frame where
  header := { flags := 0x10, streamId := 0 }
  metadata := Value.map [(Value.str (text "body_type"), Value.int 0x0204)]
  body := [0, 1, 112, 0, 1, 103, 0, 1, 100] ++ List.replicate 16 0
  governanceBlock := none

def plainNotification : ConfigChangedNotification where
  tenant := text "p"
  group := text "g"
  dataId := text "d"
  newMd5 := List.replicate 16 0

def noticeHandlers : ConfigChangeHandlers :=
  Dict.empty.set (text "p/g/d") [7]

/-- Without a key both are used as they are. -/
theorem flagged_plain_content_used :
    ¬ ConfigFetch.ReturnsDecrypted keyedCrypto [] { clientId := text "c" }
        plainEntry answeredFetch plainResponse ∧
      ¬ NotifiesDecrypted keyedCrypto [] noticeHandlers plainNotice := by
  constructor
  · intro hlaw
    have hanswered : answeredFetch.Answered plainResponse :=
      ⟨1, 0, rfl, rfl⟩
    have hparses : ConfigEntry.fromResponseBytes plainResponse.body =
        Except.ok plainEntry := rfl
    rcases (ConfigFetch.returnsDecrypted_iff keyedCrypto_rejectsEmptyKey
        hanswered rfl).mp hlaw with hcek | hnone
    · exact hcek rfl
    · exact hnone plainEntry hparses
  · intro hlaw
    have hparses : ConfigChangedNotification.fromBytes plainNotice.body =
        Except.ok plainNotification := rfl
    have hhandlers : handlersOf noticeHandlers plainNotification = [7] := rfl
    rcases (notifiesDecrypted_iff keyedCrypto_rejectsEmptyKey rfl).mp
        hlaw with hcek | hquiet
    · exact hcek rfl
    · have hnone := hquiet plainNotification hparses
      rw [hhandlers] at hnone
      cases hnone

end Client
end Hmmp
