import Hmmp.Foundation.Separated
import Hmmp.Client.EncryptedContent
import Hmmp.Client.RequestBodies

/-!
# Dispatch of configuration changes

Handlers are registered under a key that joins tenant, group and data id, and a
notification is passed to what is found under its own key.  Different names can
be joined to one key, so the handlers found are the registered ones exactly
when no other registered name has the key of the notification.
-/

namespace Hmmp
namespace Client

open Foundation
open Wire
open Connection
open Models
open Security

/-- What names a configuration. -/
structure ConfigId where
  tenant : Text
  group : Text
  dataId : Text
  deriving DecidableEq

def ConfigId.key (id : ConfigId) : Text :=
  id.tenant ++ text "/" ++ id.group ++ text "/" ++ id.dataId

def notificationId (notification : ConfigChangedNotification) : ConfigId where
  tenant := notification.tenant
  group := notification.group
  dataId := notification.dataId

/-- The arguments with which a handler is registered. -/
structure Registration where
  dataId : Text
  handler : HandlerId
  group : Text := text "DEFAULT_GROUP"
  tenant : Option Text := none

def Registration.id (config : ClientConfig) (r : Registration) : ConfigId where
  tenant := callTenant config r.tenant
  group := r.group
  dataId := r.dataId

def onConfigChange (config : ClientConfig) (handlers : ConfigChangeHandlers)
    (r : Registration) : ConfigChangeHandlers :=
  let key := (r.id config).key
  let handlers :=
    if (handlers.get? key).isNone then handlers.set key [] else handlers
  handlers.set key ((handlers.get? key).getD [] ++ [r.handler])

def registered (config : ClientConfig) (registrations : List Registration) :
    ConfigChangeHandlers :=
  registrations.foldl (onConfigChange config) Dict.empty

abbrev Behaviour :=
  HandlerId -> ConfigChangedNotification -> Except PyError Unit

/-- The handlers that were called, and what was logged of them. -/
structure HandlerRun where
  called : List HandlerId := []
  logged : List PyError := []

/-- Call handlers in a row; what one raises is logged. -/
def callHandlers (behaviour : Behaviour) :
    List (HandlerId × ConfigChangedNotification) -> HandlerRun -> HandlerRun
  | [], run => run
  | (handler, notification) :: calls, run =>
      let run := { run with called := run.called ++ [handler] }
      match behaviour handler notification with
      | Except.ok () => callHandlers behaviour calls run
      | Except.error e =>
          callHandlers behaviour calls { run with logged := run.logged ++ [e] }

def dispatchConfigChanged (behaviour : Behaviour) (crypto : CryptoLib)
    (cek : Bytes) (handlers : ConfigChangeHandlers) (frame : Frame) :
    Except PyError HandlerRun := do
  let calls ← handleConfigChanged crypto cek handlers frame
  pure (callHandlers behaviour calls {})

/-!
# The loop
-/

theorem called_callHandlers (behaviour : Behaviour)
    (calls : List (HandlerId × ConfigChangedNotification)) (run : HandlerRun) :
    (callHandlers behaviour calls run).called =
      run.called ++ calls.map Prod.fst := by
  induction calls generalizing run with
  | nil => exact (List.append_nil run.called).symm
  | cons call calls ih =>
      rcases call with ⟨handler, notification⟩
      unfold callHandlers
      cases behaviour handler notification with
      | ok _ => simp [ih]
      | error e => simp [ih]

theorem called_notified (behaviour : Behaviour) (handlers : List HandlerId)
    (notification : ConfigChangedNotification) :
    (callHandlers behaviour
      (handlers.map fun handler => (handler, notification)) {}).called =
        handlers := by
  rw [called_callHandlers, List.map_map]
  exact List.map_id handlers

/-!
# Registration
-/

/-- The handlers under a key, none if the key is absent. -/
def underKey (handlers : ConfigChangeHandlers) (key : Text) : List HandlerId :=
  (handlers.get? key).getD []

theorem underKey_new (handlers : ConfigChangeHandlers) (key x : Text) :
    underKey (if (handlers.get? key).isNone then handlers.set key []
      else handlers) x = underKey handlers x := by
  cases hfound : handlers.get? key with
  | some found => rfl
  | none =>
      show underKey (handlers.set key []) x = underKey handlers x
      unfold underKey
      rw [Dict.get?_set]
      by_cases hx : x = key
      · rw [if_pos hx, hx, hfound]
        rfl
      · rw [if_neg hx]

theorem underKey_onConfigChange (config : ClientConfig)
    (handlers : ConfigChangeHandlers) (r : Registration) (key : Text) :
    underKey (onConfigChange config handlers r) key =
      if key = (r.id config).key then underKey handlers key ++ [r.handler]
      else underKey handlers key := by
  have hnew := underKey_new handlers (r.id config).key
  unfold onConfigChange
  simp only
  generalize (if (handlers.get? (r.id config).key).isNone then
    handlers.set (r.id config).key [] else handlers) = prepared at hnew ⊢
  show ((prepared.set (r.id config).key
    (underKey prepared (r.id config).key ++ [r.handler])).get? key).getD [] = _
  rw [Dict.get?_set]
  by_cases hkey : key = (r.id config).key
  · rw [if_pos hkey, if_pos hkey, Option.getD_some, hnew, ← hkey]
  · rw [if_neg hkey, if_neg hkey]
    exact hnew key

theorem underKey_foldl (config : ClientConfig) (handlers : ConfigChangeHandlers)
    (registrations : List Registration) (key : Text) :
    underKey (registrations.foldl (onConfigChange config) handlers) key =
      underKey handlers key ++
        (registrations.filter fun r =>
          decide (key = (r.id config).key)).map Registration.handler := by
  induction registrations generalizing handlers with
  | nil => exact (List.append_nil _).symm
  | cons r registrations ih =>
      rw [List.foldl_cons, ih, underKey_onConfigChange]
      by_cases hkey : key = (r.id config).key
      · rw [if_pos hkey, List.filter_cons_of_pos (by simpa using hkey),
          List.map_cons, List.append_assoc]
        rfl
      · rw [if_neg hkey, List.filter_cons_of_neg (by simpa using hkey)]

theorem handlersOf_registered (config : ClientConfig)
    (registrations : List Registration)
    (notification : ConfigChangedNotification) :
    handlersOf (registered config registrations) notification =
      (registrations.filter fun r =>
        decide ((notificationId notification).key =
          (r.id config).key)).map Registration.handler :=
  underKey_foldl config Dict.empty registrations
    (notificationId notification).key

/-!
# Keys and names
-/

theorem ConfigId.key_inj {first second : ConfigId}
    (htenant : codePointOf '/' ∉ first.tenant)
    (hgroup : codePointOf '/' ∉ first.group)
    (htenant' : codePointOf '/' ∉ second.tenant)
    (hgroup' : codePointOf '/' ∉ second.group)
    (h : first.key = second.key) : first = second := by
  rcases first with ⟨tenant, group, dataId⟩
  rcases second with ⟨tenant', group', dataId'⟩
  have hkey : tenant ++ codePointOf '/' :: (group ++ codePointOf '/' ::
      dataId) = tenant' ++ codePointOf '/' :: (group' ++ codePointOf '/' ::
        dataId') := by
    have hjoined := h
    unfold ConfigId.key at hjoined
    simp only [List.append_assoc] at hjoined
    exact hjoined
  rcases separator_split htenant htenant' hkey with ⟨rfl, hrest⟩
  rcases separator_split hgroup hgroup' hrest with ⟨rfl, rfl⟩
  rfl

theorem filter_map_eq_iff {α β : Type} (xs : List α) (f : α -> β)
    {p q : α -> Bool} (hqp : forall x, x ∈ xs -> q x = true -> p x = true) :
    (xs.filter p).map f = (xs.filter q).map f <->
      forall x, x ∈ xs -> p x = true -> q x = true := by
  constructor
  · intro h x hx hp
    have hfilter : xs.filter q = (xs.filter p).filter q := by
      rw [List.filter_filter]
      apply List.filter_congr
      intro y hy
      rw [Bool.eq_iff_iff, Bool.and_eq_true]
      exact ⟨fun hq => ⟨hq, hqp y hy hq⟩, And.left⟩
    have hlength := congrArg List.length h
    rw [List.length_map, List.length_map, hfilter] at hlength
    exact List.length_filter_eq_length_iff.mp hlength.symm x
      (List.mem_filter.mpr ⟨hx, hp⟩)
  · intro h
    have hsame : xs.filter p = xs.filter q := by
      apply List.filter_congr
      intro x hx
      rw [Bool.eq_iff_iff]
      exact ⟨h x hx, hqp x hx⟩
    rw [hsame]

/-!
# Notifications
-/

/-- The frame calls exactly the handlers registered for its own name, in the
order of their registration. -/
def CallsRegistered (config : ClientConfig) (registrations : List Registration)
    (notification : ConfigChangedNotification)
    (result : Except PyError HandlerRun) : Prop :=
  exists run, result = Except.ok run ∧
    run.called =
      (registrations.filter fun r =>
        decide (r.id config = notificationId notification)).map
          Registration.handler

theorem dispatchConfigChanged_plain (behaviour : Behaviour)
    (crypto : CryptoLib) (cek : Bytes) (handlers : ConfigChangeHandlers)
    {frame : Frame} {notification : ConfigChangedNotification}
    (hplain : frame.header.isEncrypted = false)
    (hbody : ConfigChangedNotification.fromBytes frame.body =
      Except.ok notification) :
    dispatchConfigChanged behaviour crypto cek handlers frame =
      Except.ok (callHandlers behaviour
        ((handlersOf handlers notification).map fun handler =>
          (handler, notification)) {}) := by
  have hcalls : handleConfigChanged crypto cek handlers frame =
      Except.ok ((handlersOf handlers notification).map fun handler =>
        (handler, notification)) := by
    unfold handleConfigChanged
    rw [hplain, Bool.false_and, if_neg (by decide)]
    exact notifyConfigChange_eq_ok.mpr ⟨notification, hbody, rfl⟩
  unfold dispatchConfigChanged
  rw [hcalls]
  rfl

theorem callsRegistered_iff (config : ClientConfig)
    (registrations : List Registration)
    (notification : ConfigChangedNotification) (behaviour : Behaviour)
    (handlers : List HandlerId) :
    CallsRegistered config registrations notification
        (Except.ok (callHandlers behaviour
          (handlers.map fun handler => (handler, notification)) {})) <->
      handlers =
        (registrations.filter fun r =>
          decide (r.id config = notificationId notification)).map
            Registration.handler := by
  unfold CallsRegistered
  constructor
  · rintro ⟨run, hok, hcalled⟩
    injection hok with hok
    rw [← hok, called_notified] at hcalled
    exact hcalled
  · intro hhandlers
    refine ⟨_, rfl, ?_⟩
    rw [called_notified]
    exact hhandlers

/-- A notification that is not encrypted calls exactly the handlers registered
for its name, whatever they raise, unless another registered name has the same
key; names without slashes in tenant and group have not. -/
theorem dispatchConfigChanged_iff (config : ClientConfig)
    (registrations : List Registration) (behaviour : Behaviour)
    (crypto : CryptoLib) (cek : Bytes) (frame : Frame)
    (notification : ConfigChangedNotification)
    (hplain : frame.header.isEncrypted = false)
    (hbody : ConfigChangedNotification.fromBytes frame.body =
      Except.ok notification) :
    (CallsRegistered config registrations notification
        (dispatchConfigChanged behaviour crypto cek
          (registered config registrations) frame) <->
      forall r, r ∈ registrations ->
        (r.id config).key = (notificationId notification).key ->
          r.id config = notificationId notification) ∧
    forall r : Registration, codePointOf '/' ∉ (r.id config).tenant ->
      codePointOf '/' ∉ (r.id config).group ->
        codePointOf '/' ∉ notification.tenant ->
          codePointOf '/' ∉ notification.group ->
            (r.id config).key = (notificationId notification).key ->
              r.id config = notificationId notification := by
  constructor
  · rw [dispatchConfigChanged_plain behaviour crypto cek _ hplain hbody,
      callsRegistered_iff, handlersOf_registered, filter_map_eq_iff]
    · constructor
      · intro h r hr hkey
        exact of_decide_eq_true (h r hr (decide_eq_true hkey.symm))
      · intro h r hr hkey
        exact decide_eq_true (h r hr (of_decide_eq_true hkey).symm)
    · intro r _ hid
      rw [of_decide_eq_true hid]
      exact decide_eq_true rfl
  · intro r htenant hgroup htenant' hgroup' hkey
    exact ConfigId.key_inj htenant hgroup htenant' hgroup' hkey

/-- A change of the configuration d of the group b/c of the tenant a. -/
def slashNotice : Frame where
  header := { flags := 0, streamId := 0 }
  metadata := Value.map [(Value.str (text "body_type"), Value.int 0x0204)]
  body := [0, 1, 97, 0, 3, 98, 47, 99, 0, 1, 100] ++ List.replicate 16 0
  governanceBlock := none

def slashNotification : ConfigChangedNotification where
  tenant := text "a"
  group := text "b/c"
  dataId := text "d"
  newMd5 := List.replicate 16 0

/-- A handler of the group c of the tenant a/b, which raises. -/
def slashRegistration : Registration where
  dataId := text "d"
  handler := 7
  group := text "c"
  tenant := some (text "a/b")

def namedRegistration : Registration where
  dataId := text "d"
  handler := 8
  group := text "b/c"
  tenant := some (text "a")

def raisingBehaviour : Behaviour :=
  fun _ _ => Except.error (PyError.valueError "no")

theorem dispatchConfigChanged_named :
    CallsRegistered { clientId := text "x" }
      [namedRegistration, namedRegistration] slashNotification
      (dispatchConfigChanged raisingBehaviour CryptoLib.plain []
        (registered { clientId := text "x" }
          [namedRegistration, namedRegistration]) slashNotice) := by
  have hiff := dispatchConfigChanged_iff { clientId := text "x" }
    [namedRegistration, namedRegistration] raisingBehaviour CryptoLib.plain []
    slashNotice slashNotification rfl rfl
  apply hiff.1.mpr
  decide

/-- The handler of another name is called for the change. -/
theorem dispatchConfigChanged_slash :
    (exists run, dispatchConfigChanged raisingBehaviour CryptoLib.plain []
        (registered { clientId := text "x" } [slashRegistration]) slashNotice =
          Except.ok run ∧ run.called = [7]) ∧
      ¬ CallsRegistered { clientId := text "x" } [slashRegistration]
        slashNotification
        (dispatchConfigChanged raisingBehaviour CryptoLib.plain []
          (registered { clientId := text "x" } [slashRegistration])
            slashNotice) := by
  constructor
  · exact ⟨_, rfl, rfl⟩
  · rintro ⟨run, hok, hcalled⟩
    injection hok with hok
    rw [← hok] at hcalled
    revert hcalled
    decide

end Client
end Hmmp
