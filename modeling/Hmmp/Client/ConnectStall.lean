import Hmmp.Client.Connect

/-!
# A client never gets connected

The coroutine awaits the responses of the handshake on futures that only the
read loop completes, and it starts the read loop when the handshake is over.
So no response is ever read, whatever the configuration, the server and the
order of the steps.
-/

namespace Hmmp
namespace Client

open Foundation
open Wire
open Connection
open Security

namespace Connecting

variable {env : Environment} {s s' : Connecting}

/-- The stream id is registered for the future, which is pending. -/
structure Registered (router : FrameRouter) (state : ConnectionState)
    (streamId : Nat) (future : FutureId) : Prop where
  stream : streamId ≠ 0
  authenticating : state = ConnectionState.authenticating
  entry : router.pendingRequests.get? streamId = some future
  pending : router.future future = some FutureState.pending

/-- What is known of the coroutine at each place. -/
def PcInv (router : FrameRouter) (state : ConnectionState) :
    ConnectPc -> Prop
  | ConnectPc.sending _ streamId future =>
      Registered router state streamId future
  | ConnectPc.waiting _ streamId future =>
      Registered router state streamId future
  | ConnectPc.expired _ _ => True
  | ConnectPc.idle => True
  | ConnectPc.opening => True
  | ConnectPc.sleeping => True
  | ConnectPc.returned => True
  | ConnectPc.raised _ => True
  | ConnectPc.cancelled => True

/-- Nothing reads the connection, and no future holds a response. -/
structure Unread (s : Connecting) : Prop where
  reader : s.readTask = false
  state : s.connState ≠ ConnectionState.authenticated
  results : forall id response,
    s.router.future id ≠ some (FutureState.result response)
  pc : PcInv s.router s.connState s.pc

theorem unread_start : Unread {} where
  reader := rfl
  state := ConnectionState.noConfusion
  results id response h := by cases h
  pc := trivial

/-!
# What the parts of a step keep
-/

theorem Unread.failed (hreader : s.readTask = false)
    (hstate : s.connState ≠ ConnectionState.authenticated)
    (hresults : forall id response,
      s.router.future id ≠ some (FutureState.result response))
    (e : PyError) : Unread (s.fail e) := by
  unfold Connecting.fail
  split
  · exact ⟨hreader, hstate, hresults, trivial⟩
  · exact ⟨hreader, hstate, hresults, trivial⟩

theorem Unread.fail (h : Unread s) (e : PyError) : Unread (s.fail e) :=
  Unread.failed h.reader h.state h.results e

theorem Unread.establish (h : Unread s) : Unread s.establish where
  reader := rfl
  state := ConnectionState.noConfusion
  results := h.results
  pc := trivial

theorem Unread.sendStage (h : Unread s)
    (hstate : s.connState = ConnectionState.authenticating) (stage : Stage)
    (now : Nat) : Unread (s.sendStage env stage now) := by
  unfold Connecting.sendStage
  dsimp only
  split
  · exact h.fail _
  · split
    · apply Unread.failed
      · exact h.reader
      · exact h.state
      · exact h.results
    · refine ⟨h.reader, h.state, ?_, ?_⟩
      · intro id response hresult
        rcases s.router.registerRequest_future_cases
            (nextStreamId s.streamIdCounter) id with hsame | hnew
        · exact h.results id response (hsame.symm.trans hresult)
        · cases hnew.symm.trans hresult
      · constructor
        · exact nextStreamId_ne_zero _
        · exact hstate
        · exact (s.router.registerRequest_pending _ _).trans (if_pos rfl)
        · exact s.router.registerRequest_future_new _

theorem Unread.startHandshake (h : Unread s)
    (hpc : s.pc = ConnectPc.opening) (now : Nat) :
    Unread (s.startHandshake env now) := by
  have hopen : Unread { s with
      router := registerNotifyHandlers s.router
      connState := ConnectionState.authenticating } := by
    refine ⟨h.reader, ConnectionState.noConfusion, h.results, ?_⟩
    show PcInv _ _ s.pc
    rw [hpc]
    trivial
  exact hopen.sendStage rfl _ now

theorem Unread.closeAfterSend (h : Unread s) (reason : String) :
    Unread (s.closeAfterSend env reason) := by
  have hclosed : ConnectionState.disconnected ≠
      ConnectionState.authenticated := ConnectionState.noConfusion
  unfold Connecting.closeAfterSend
  dsimp only
  split
  · exact ⟨h.reader, hclosed, h.results, trivial⟩
  · apply Unread.failed
    · exact h.reader
    · exact hclosed
    · exact h.results

theorem Unread.timeout (h : Unread s) (stage : Stage) (streamId : Nat)
    (future : FutureId) :
    Unread { s with
      router := s.router.settle future FutureState.cancelled
      pc := ConnectPc.expired stage streamId } := by
  refine ⟨h.reader, h.state, ?_, trivial⟩
  intro id response hresult
  rcases s.router.settle_future_cases future id FutureState.cancelled with
    hsame | hnew
  · exact h.results id response (hsame.symm.trans hresult)
  · cases hnew.symm.trans hresult

theorem Unread.giveUp (h : Unread s) (streamId : Nat) (e : PyError) :
    Unread ({ s with router := s.router.cancelRequest streamId }.fail e) := by
  apply Unread.failed
  · exact h.reader
  · exact h.state
  · intro id response hresult
    rcases s.router.finish_future_cases streamId FutureState.cancelled id with
      hsame | hnew
    · exact h.results id response (hsame.symm.trans hresult)
    · cases hnew.symm.trans hresult

theorem Unread.step (h : Unread s) {e : ConnectEvent}
    (hstep : Step env s e s') : Unread s' := by
  have hpcInv := h.pc
  cases e with
  | call =>
      cases hpc : s.pc <;> simp [Step, StepOf, Connecting.step, hpc] at hstep
      split at hstep
      · injection hstep with hstep
        rw [← hstep]
        exact ⟨h.reader, h.state, h.results, trivial⟩
      · injection hstep with hstep
        rw [← hstep]
        have hrunning : Unread { s with running := true } :=
          ⟨h.reader, h.state, h.results, h.pc⟩
        exact hrunning.establish
  | opened now =>
      cases hpc : s.pc <;> simp [Step, StepOf, Connecting.step, hpc] at hstep
      rw [← hstep]
      exact h.startHandshake hpc now
  | openFailed reason =>
      cases hpc : s.pc <;> simp [Step, StepOf, Connecting.step, hpc] at hstep
      rw [← hstep]
      exact h.fail _
  | sent =>
      cases hpc : s.pc <;> simp [Step, StepOf, Connecting.step, hpc] at hstep
      rw [← hstep]
      rw [hpc] at hpcInv
      exact ⟨h.reader, h.state, h.results, hpcInv⟩
  | sendFailed reason =>
      cases hpc : s.pc <;> simp [Step, StepOf, Connecting.step, hpc] at hstep
      rw [← hstep]
      exact h.closeAfterSend reason
  | serve k =>
      rcases Option.bind_eq_some_iff.mp hstep with ⟨request, _, hserved⟩
      injection hserved with hserved
      rw [← hserved]
      exact ⟨h.reader, h.state, h.results, h.pc⟩
  | read =>
      simp [Step, StepOf, Connecting.step, h.reader] at hstep
  | resume now =>
      cases hpc : s.pc <;> simp [Step, StepOf, Connecting.step, hpc] at hstep
      rw [hpc] at hpcInv
      simp [hpcInv.pending] at hstep
  | timeout =>
      cases hpc : s.pc <;> simp [Step, StepOf, Connecting.step, hpc] at hstep
      rw [← hstep]
      exact h.timeout _ _ _
  | giveUp =>
      cases hpc : s.pc <;> simp [Step, StepOf, Connecting.step, hpc] at hstep
      rw [← hstep]
      exact h.giveUp _ _
  | wake =>
      cases hpc : s.pc <;> simp [Step, StepOf, Connecting.step, hpc] at hstep
      rw [← hstep]
      exact h.establish

/-- Run lemma: nothing is ever read. -/
theorem unread_of_reachable (h : Reachable (Step env) {} s) : Unread s :=
  h.invariant (fun _ _ _ hs hstep => Unread.step hs hstep) unread_start

theorem readNext_completes (h : Unread s) {stage : Stage} {streamId : Nat}
    {future : FutureId} {frame : Frame} {rest : List Frame}
    (hpc : s.pc = ConnectPc.waiting stage streamId future)
    (hinbox : s.inbox = frame :: rest) (hstream : frame.streamId = streamId) :
    exists s', Step env { s with readTask := true } ConnectEvent.read s' ∧
      s'.router.future future = some (FutureState.result frame) := by
  have hregistered := h.pc
  rw [hpc] at hregistered
  have hzero : frame.streamId ≠ 0 := by
    rw [hstream]
    exact hregistered.stream
  refine ⟨{ s with
    readTask := true
    router := s.router.routeResponse frame
    inbox := rest }, ?_, ?_⟩
  · simp [Step, StepOf, Connecting.step, readNext, hinbox,
      hregistered.authenticating, ConnectionState.isConnected,
      FrameRouter.routeFrame_of_stream s.router hzero]
  · apply FrameRouter.finish_future_of_registered
    · rw [hstream]
      exact hregistered.entry
    · exact hregistered.pending

theorem not_connects (env : Environment) : ¬ Connects env := by
  intro h
  rcases h with ⟨s, hreachable, hstate⟩
  exact (unread_of_reachable hreachable).state hstate

/--
Whatever the configuration and the server, no order of the steps brings the
connection to AUTHENTICATED, and no awaited future is ever completed with a
response.
-/
theorem connect_starves (env : Environment) :
    ¬ Connects env ∧
      forall s, Reachable (Step env) {} s -> forall id response,
        s.router.future id ≠ some (FutureState.result response) :=
  ⟨not_connects env, fun _ h => (unread_of_reachable h).results⟩

/-!
# A server that grants everything
-/

/-- The body serves both responses: its status is zero, and read as that of a
handshake it is an empty session id and a status of zero. -/
def grant (request : FrameRequest) : Frame where
  header := { streamId := request.streamId }
  metadata := Value.map []
  body := List.replicate 46 0
  governanceBlock := none

def grantingServer : Server where
  respond := grant
  stream _ := rfl
  nonce _ _ := ⟨⟨0, List.replicate 32 0, 0, 0⟩, rfl, rfl⟩
  handshake _ _ :=
    ⟨⟨[], statusOk, Value.str [], Value.str [], Value.int 0⟩, rfl, rfl⟩

/-- A client with the default settings and a server that grants everything. -/
def grantedEnvironment : Environment where
  crypto := CryptoLib.plain
  msgpack := Msgpack.flat
  config := { clientId := text "client" }
  server := grantingServer

/-- The response to the nonce challenge arrives and waits to be read. -/
example : exists s, Reachable (Step grantedEnvironment) {} s ∧
    s.pc = ConnectPc.waiting Stage.nonce 1 0 ∧
      s.inbox.map Frame.streamId = [1] :=
  ⟨_, ⟨[ConnectEvent.call, ConnectEvent.opened 0, ConnectEvent.sent,
    ConnectEvent.serve 0], run_stepOf_iff.mpr rfl⟩, rfl, rfl⟩

theorem granted_client_starves :
    ¬ forall env : Environment, Connects env :=
  fun h => not_connects grantedEnvironment (h grantedEnvironment)

end Connecting

end Client
end Hmmp
