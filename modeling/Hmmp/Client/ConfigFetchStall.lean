import Hmmp.Client.ConfigFetch

/-!
# A chunked response is never assembled

The router hands one frame of a stream to the waiting call and drops the later
ones, and nothing but the start of an assembly writes the chunk table.  So the
table holds one chunk under every key, and the waiting loop of a call that
needs two or more never ends.
-/

namespace Hmmp
namespace Client

open Foundation
open Wire
open Connection
open Models
open Security

namespace ChunkedFetch

variable {crypto : CryptoLib} {cek : Bytes} {f : ChunkedFetch crypto cek}
variable {s s' : ConfigFetch}

/-- What is known of the call at each place. -/
def PcInv (f : ChunkedFetch crypto cek) (s : ConfigFetch) : FetchPc -> Prop
  | FetchPc.idle => True
  | FetchPc.waiting streamId future =>
      future < s.router.futures.length ∧
        (forall x, s.router.pendingRequests.get? x = some future ->
          x = streamId) ∧
        forall frame,
          s.router.future future = some (FutureState.result frame) ->
            frame ∈ f.frames
  | FetchPc.expired _ => True
  | FetchPc.assembling first => 2 <= first.totalChunks
  | FetchPc.returned _ => False
  | FetchPc.raised _ => True
  | FetchPc.cancelled => True

/-- Every key of the chunk table holds one chunk, and the call has not
returned. -/
structure Stalled (f : ChunkedFetch crypto cek) (s : ConfigFetch) : Prop where
  table : s.router.TableCreated
  single : forall key chunks, s.configChunks.get? key = some chunks ->
    chunks.entries.length = 1
  unsent : forall frame, frame ∈ s.unsent -> frame ∈ f.frames
  pc : PcInv f s s.pc

theorem stalled_start (f : ChunkedFetch crypto cek) : Stalled f f.start where
  table := f.created
  single key chunks h := by cases h
  unsent frame h := h
  pc := trivial

/-!
# Routed frames
-/

/-- Routing a frame changes the router only, by settling the future of the
stream of the frame or not at all. -/
theorem routed_cases {frame : Frame} (h : s.routed frame = some s') :
    exists router, s' = { s with router := router } ∧
      (router = s.router ∨
        router = s.router.finish frame.streamId
          (FutureState.result frame)) := by
  unfold ConfigFetch.routed at h
  cases hroute : s.router.routeFrame frame with
  | error e =>
      rw [hroute] at h
      cases h
  | ok routed =>
      rcases routed with ⟨calls, router⟩
      rw [hroute] at h
      exact ⟨router, (Option.some.inj h).symm,
        FrameRouter.routeFrame_cases hroute⟩

theorem Stalled.reroute (h : Stalled f s) {router : FrameRouter}
    (counter : Nat) (htable : router.TableCreated)
    (hgrows : s.router.futures.length <= router.futures.length)
    (hwaiting : forall streamId future, s.pc = FetchPc.waiting streamId future ->
      (forall x, router.pendingRequests.get? x = some future ->
        s.router.pendingRequests.get? x = some future) ∧
      (forall frame,
        router.future future = some (FutureState.result frame) ->
          frame ∈ f.frames)) :
    Stalled f { s with router := router, streamIdCounter := counter } := by
  refine ⟨htable, h.single, h.unsent, ?_⟩
  have hpc := h.pc
  cases hcase : s.pc with
  | waiting streamId future =>
      rw [hcase] at hpc
      rcases hpc with ⟨hlt, howned, _⟩
      rcases hwaiting streamId future hcase with ⟨hentry, hresult⟩
      exact ⟨Nat.lt_of_lt_of_le hlt hgrows,
        fun x hx => howned x (hentry x hx), hresult⟩
  | idle => trivial
  | expired streamId => trivial
  | assembling first =>
      rw [hcase] at hpc
      exact hpc
  | returned entry =>
      rw [hcase] at hpc
      exact hpc
  | raised e => trivial
  | cancelled => trivial

theorem Stalled.waiting (h : Stalled f s) {streamId : Nat}
    {future : FutureId} (hpc : s.pc = FetchPc.waiting streamId future) :
    PcInv f s (FetchPc.waiting streamId future) := by
  have hinv := h.pc
  rw [hpc] at hinv
  exact hinv

theorem Stalled.routed (h : Stalled f s) {frame : Frame}
    (hrouted : s.routed frame = some s')
    (hframe : forall streamId future, s.pc = FetchPc.waiting streamId future ->
      frame.streamId = streamId -> frame ∈ f.frames) : Stalled f s' := by
  rcases routed_cases hrouted with ⟨router, rfl, rfl | rfl⟩
  · exact h
  · have hconfined := s.router.finish_confined frame.streamId
      (FutureState.result frame)
    refine h.reroute s.streamIdCounter (hconfined.created h.table)
      hconfined.grows ?_
    intro streamId future hpc
    rcases h.waiting hpc with ⟨hlt, howned, hresult⟩
    refine ⟨fun x hx => hconfined.no_entry x future hlt hx, ?_⟩
    intro response hresponse
    by_cases hstream : frame.streamId = streamId
    · rcases s.router.finish_future_cases frame.streamId
          (FutureState.result frame) future with hsame | hnew
      · exact hresult response (hsame.symm.trans hresponse)
      · have heq := hnew.symm.trans hresponse
        injection heq with heq
        injection heq with heq
        rw [← heq]
        exact hframe streamId future hpc hstream
    · have hfree : s.router.pendingRequests.get? frame.streamId ≠
          some future := fun hentry => hstream (howned _ hentry)
      exact hresult response
        ((s.router.finish_future_of_ne _ hfree).symm.trans hresponse)

/-!
# Steps of other calls
-/

theorem Stalled.otherRequest (h : Stalled f s) (streamId : Nat) :
    Stalled f
      { s with
        router := (s.router.registerRequest streamId).2
        streamIdCounter := streamId } := by
  have hconfined := s.router.registerRequest_confined streamId
  apply h.reroute streamId (hconfined.created h.table) hconfined.grows
  intro own future hpc
  rcases h.waiting hpc with ⟨hlt, _, hresult⟩
  refine ⟨fun x hx => hconfined.no_entry x future hlt hx, ?_⟩
  intro frame hframe
  rw [s.router.registerRequest_future_old streamId hlt] at hframe
  exact hresult frame hframe

theorem Stalled.othersCancelled (h : Stalled f s) {router : FrameRouter}
    (htable : router.TableCreated)
    (hgrows : s.router.futures.length <= router.futures.length)
    (hentry : forall x id, id < s.router.futures.length ->
      router.pendingRequests.get? x = some id ->
        s.router.pendingRequests.get? x = some id)
    (hfuture : forall id, router.future id = s.router.future id ∨
      router.future id = some FutureState.cancelled) :
    Stalled f { s with router := router } := by
  refine h.reroute s.streamIdCounter htable hgrows ?_
  intro streamId future hpc
  rcases h.waiting hpc with ⟨hlt, _, hresult⟩
  refine ⟨fun x hx => hentry x future hlt hx, ?_⟩
  intro frame hframe
  rcases hfuture future with hsame | hcancelled
  · exact hresult frame (hsame.symm.trans hframe)
  · cases hcancelled.symm.trans hframe

theorem Stalled.otherTimeout (h : Stalled f s) (future : FutureId) :
    Stalled f
      { s with router := s.router.settle future FutureState.cancelled } := by
  apply h.othersCancelled
  · exact FrameRouter.settle_created future FutureState.cancelled h.table
  · exact Nat.le_of_eq (s.router.settle_futures_length future _).symm
  · intro x id _ hx
    rw [FrameRouter.settle_pendingRequests] at hx
    exact hx
  · intro id
    exact s.router.settle_future_cases future id FutureState.cancelled

theorem Stalled.otherGiveUp (h : Stalled f s) (streamId : Nat) :
    Stalled f { s with router := s.router.cancelRequest streamId } := by
  have hconfined := s.router.finish_confined streamId FutureState.cancelled
  exact h.othersCancelled (hconfined.created h.table) hconfined.grows
    hconfined.no_entry
    (s.router.finish_future_cases streamId FutureState.cancelled)

/-!
# Steps of the call
-/

theorem startAssembly_single {chunks : Dict Text Chunks}
    (h : forall key held, chunks.get? key = some held ->
      held.entries.length = 1)
    (first : ConfigEntry) (key : Text) (held : Chunks)
    (hheld : (ConfigFetch.startAssembly chunks first).get? key = some held) :
    held.entries.length = 1 := by
  unfold ConfigFetch.startAssembly at hheld
  rw [Dict.get?_set] at hheld
  split at hheld
  · injection hheld with hheld
    rw [← hheld]
    rfl
  · exact h key held hheld

theorem Stalled.sendRequest (h : Stalled f s) :
    Stalled f (s.sendRequest f.config f.request) := by
  unfold ConfigFetch.sendRequest
  split
  · exact ⟨h.table, h.single, h.unsent, trivial⟩
  · have hconfined :=
      s.router.registerRequest_confined (nextStreamId s.streamIdCounter)
    refine ⟨hconfined.created h.table, h.single, h.unsent, ?_, ?_, ?_⟩
    · show s.router.futures.length < _
      rw [FrameRouter.registerRequest_futures_length]
      exact Nat.lt_succ_self _
    · intro x hx
      by_contra hne
      have hold := (hconfined.entry x hne).symm.trans hx
      exact absurd (h.table x _ hold) (Nat.lt_irrefl _)
    · intro frame hresult
      have hnew := s.router.registerRequest_future_new
        (nextStreamId s.streamIdCounter)
      have hcontra := hnew.symm.trans hresult
      cases hcontra

theorem Stalled.receive (h : Stalled f s) {response : Frame}
    (hresponse : response ∈ f.frames) :
    Stalled f (s.receive crypto cek response) := by
  rcases List.getElem?_of_mem hresponse with ⟨i, hi⟩
  rcases f.chunk i response hi with ⟨entry, hentry, htotal, _, _⟩
  have hseveral := f.several
  unfold ConfigFetch.receive
  rw [hentry]
  simp only
  rw [if_pos (by omega)]
  refine ⟨h.table, startAssembly_single h.single entry, h.unsent, ?_⟩
  show 2 <= entry.totalChunks
  omega

/-- One chunk is never enough: the loop goes on or fails. -/
theorem Stalled.pollChunks (h : Stalled f s) {first : ConfigEntry}
    (hpc : s.pc = FetchPc.assembling first) :
    Stalled f (s.pollChunks first) := by
  have hfirst : 2 <= first.totalChunks := by
    have hinv := h.pc
    rw [hpc] at hinv
    exact hinv
  unfold ConfigFetch.pollChunks
  split
  · exact ⟨h.table, h.single, h.unsent, trivial⟩
  · rename_i chunks hchunks
    have hone := h.single _ chunks hchunks
    rw [if_pos (by omega)]
    exact h

theorem Stalled.fail (h : Stalled f s) (router : FrameRouter)
    (hrouter : router.TableCreated) {pc : FetchPc}
    (hpc : forall s, PcInv f s pc) :
    Stalled f { s with router := router, pc := pc } where
  table := hrouter
  single := h.single
  unsent := h.unsent
  pc := hpc _

theorem Stalled.resume (h : Stalled f s)
    (hstep : f.Step s FetchEvent.resume s') : Stalled f s' := by
  cases hpc : s.pc with
  | waiting streamId future =>
      rcases h.waiting hpc with ⟨_, _, hresult⟩
      simp only [ChunkedFetch.Step, ConfigFetch.Step, StepOf,
        ConfigFetch.step, hpc] at hstep
      split at hstep
      · rename_i response hresponse
        injection hstep with hstep
        rw [← hstep]
        exact h.receive (hresult response hresponse)
      · injection hstep with hstep
        rw [← hstep]
        exact h.fail s.router h.table fun _ => trivial
      · injection hstep with hstep
        rw [← hstep]
        exact h.fail s.router h.table fun _ => trivial
      · cases hstep
  | _ =>
      simp [ChunkedFetch.Step, ConfigFetch.Step, StepOf, ConfigFetch.step,
        hpc] at hstep

theorem Stalled.timeout (h : Stalled f s)
    (hstep : f.Step s FetchEvent.timeout s') : Stalled f s' := by
  cases hpc : s.pc with
  | waiting streamId future =>
      simp only [ChunkedFetch.Step, ConfigFetch.Step, StepOf,
        ConfigFetch.step, hpc] at hstep
      injection hstep with hstep
      rw [← hstep]
      exact h.fail _ (FrameRouter.settle_created future _ h.table)
        fun _ => trivial
  | _ =>
      simp [ChunkedFetch.Step, ConfigFetch.Step, StepOf, ConfigFetch.step,
        hpc] at hstep

theorem Stalled.giveUp (h : Stalled f s)
    (hstep : f.Step s FetchEvent.giveUp s') : Stalled f s' := by
  cases hpc : s.pc with
  | expired streamId =>
      simp only [ChunkedFetch.Step, ConfigFetch.Step, StepOf,
        ConfigFetch.step, hpc] at hstep
      injection hstep with hstep
      rw [← hstep]
      have hconfined :=
        s.router.finish_confined streamId FutureState.cancelled
      exact h.fail _ (hconfined.created h.table) fun _ => trivial
  | _ =>
      simp [ChunkedFetch.Step, ConfigFetch.Step, StepOf, ConfigFetch.step,
        hpc] at hstep

theorem Stalled.arrive {k : Nat} (h : Stalled f s)
    (hstep : f.Step s (FetchEvent.arrive k) s') : Stalled f s' := by
  have hk : exists frame, s.unsent[k]? = some frame ∧
      ConfigFetch.routed { s with unsent := s.unsent.eraseIdx k } frame =
        some s' := by
    rcases Option.bind_eq_some_iff.mp hstep with ⟨frame, hframe, hstep⟩
    refine ⟨frame, hframe, ?_⟩
    cases hpc : s.pc <;> simp only [hpc] at hstep
    case idle => cases hstep
    all_goals exact hstep
  rcases hk with ⟨frame, hframe, hrouted⟩
  have hmem := h.unsent frame (List.mem_of_getElem? hframe)
  have hrest : Stalled f { s with unsent := s.unsent.eraseIdx k } := by
    refine ⟨h.table, h.single, ?_, h.pc⟩
    intro other hother
    exact h.unsent other (List.mem_of_mem_eraseIdx hother)
  exact hrest.routed hrouted fun _ _ _ _ => hmem

theorem Stalled.other {frame : Frame} (h : Stalled f s)
    (hstep : f.Step s (FetchEvent.other frame) s') : Stalled f s' := by
  cases hpc : s.pc with
  | waiting streamId future =>
      simp only [ChunkedFetch.Step, ConfigFetch.Step, StepOf,
        ConfigFetch.step, hpc] at hstep
      split at hstep
      · cases hstep
      · rename_i hne
        apply h.routed hstep
        intro awaited id hawaited hstream
        rw [hpc] at hawaited
        injection hawaited with hawaited
        exact absurd (hstream.trans hawaited.symm) hne
  | _ =>
      simp only [ChunkedFetch.Step, ConfigFetch.Step, StepOf,
        ConfigFetch.step, hpc] at hstep
      apply h.routed hstep
      intro awaited id hawaited
      rw [hpc] at hawaited
      cases hawaited

/-- Step lemma: no step completes a chunked response. -/
theorem Stalled.step {e : FetchEvent} (h : Stalled f s)
    (hstep : f.Step s e s') : Stalled f s' := by
  cases e with
  | call =>
      cases hpc : s.pc with
      | idle =>
          simp only [ChunkedFetch.Step, ConfigFetch.Step, StepOf,
            ConfigFetch.step, hpc] at hstep
          injection hstep with hstep
          rw [← hstep]
          exact h.sendRequest
      | _ =>
          simp [ChunkedFetch.Step, ConfigFetch.Step, StepOf,
            ConfigFetch.step, hpc] at hstep
  | arrive k => exact h.arrive hstep
  | other frame => exact h.other hstep
  | resume => exact h.resume hstep
  | timeout => exact h.timeout hstep
  | giveUp => exact h.giveUp hstep
  | poll =>
      cases hpc : s.pc with
      | assembling first =>
          simp only [ChunkedFetch.Step, ConfigFetch.Step, StepOf,
            ConfigFetch.step, hpc] at hstep
          injection hstep with hstep
          rw [← hstep]
          exact h.pollChunks hpc
      | _ =>
          simp [ChunkedFetch.Step, ConfigFetch.Step, StepOf,
            ConfigFetch.step, hpc] at hstep
  | otherChunk first =>
      injection hstep with hstep
      rw [← hstep]
      exact ⟨h.table, startAssembly_single h.single first, h.unsent, h.pc⟩
  | otherRequest =>
      have heq : s' = { s with
          router :=
            (s.router.registerRequest (nextStreamId s.streamIdCounter)).2
          streamIdCounter := nextStreamId s.streamIdCounter } := by
        cases hpc : s.pc <;>
          simp [ChunkedFetch.Step, ConfigFetch.Step, StepOf,
            ConfigFetch.step, hpc] at hstep <;> exact hstep.symm
      rw [heq]
      exact h.otherRequest _
  | otherTimeout future =>
      have heq : s' = { s with
          router := s.router.settle future FutureState.cancelled } := by
        cases hpc : s.pc <;>
          simp [ChunkedFetch.Step, ConfigFetch.Step, StepOf,
            ConfigFetch.step, hpc] at hstep
        case waiting => exact hstep.2.symm
        all_goals exact hstep.symm
      rw [heq]
      exact h.otherTimeout future
  | otherGiveUp streamId =>
      injection hstep with hstep
      rw [← hstep]
      exact h.otherGiveUp streamId

/-- Run lemma: a call for a chunked response never returns. -/
theorem stalled_of_reachable (h : Reachable f.Step f.start s) : Stalled f s :=
  h.invariant (fun _ _ _ hs hstep => Stalled.step hs hstep) (stalled_start f)

theorem not_returned (h : Reachable f.Step f.start s) (entry : ConfigEntry) :
    s.pc ≠ FetchPc.returned entry := by
  intro hpc
  have hinv := (stalled_of_reachable h).pc
  rw [hpc] at hinv
  exact hinv

/-!
# All frames can be routed
-/

theorem drain (n : Nat) : forall s : ConfigFetch, s.unsent.length = n ->
    (forall frame, frame ∈ s.unsent -> frame.streamId ≠ 0) ->
      s.pc ≠ FetchPc.idle ->
        exists s', Reachable f.Step s s' ∧ s'.unsent = [] ∧ s'.pc = s.pc := by
  induction n with
  | zero =>
      intro s hlen _ _
      exact ⟨s, Reachable.refl _ s, List.length_eq_zero_iff.mp hlen, rfl⟩
  | succ n ih =>
      intro s hlen hstream hpc
      rcases s with ⟨router, counter, chunks, pc, unsent⟩
      cases unsent with
      | nil => cases hlen
      | cons frame rest =>
          have hframe : frame.streamId ≠ 0 := hstream frame List.mem_cons_self
          have hstep : f.Step
              ⟨router, counter, chunks, pc, frame :: rest⟩
              (FetchEvent.arrive 0)
              ⟨router.routeResponse frame, counter, chunks, pc, rest⟩ := by
            have hroute := FrameRouter.routeFrame_of_stream router hframe
            cases pc with
            | idle => exact absurd rfl hpc
            | _ =>
                simp [ChunkedFetch.Step, ConfigFetch.Step, StepOf,
                  ConfigFetch.step, ConfigFetch.routed, hroute]
          rcases ih ⟨router.routeResponse frame, counter, chunks, pc, rest⟩
              (Nat.succ.inj hlen)
              (fun other hother => hstream other (List.mem_cons_of_mem _ hother))
              hpc with ⟨s', ⟨labels, hrun⟩, hdone, hsame⟩
          exact ⟨s', ⟨_, Run.cons hstep hrun⟩, hdone, hsame⟩

theorem call_waits (f : ChunkedFetch crypto cek) :
    exists s, f.Step f.start FetchEvent.call s ∧ s.unsent = f.frames ∧
      exists streamId future, s.pc = FetchPc.waiting streamId future := by
  rcases f.encodable with ⟨bytes, hbytes⟩
  refine ⟨f.start.sendRequest f.config f.request, rfl, ?_⟩
  unfold ConfigFetch.sendRequest
  rw [hbytes]
  exact ⟨rfl, _, _, rfl⟩

theorem all_routed (f : ChunkedFetch crypto cek) :
    exists s, Reachable f.Step f.start s ∧ s.unsent = [] ∧
      exists streamId future, s.pc = FetchPc.waiting streamId future := by
  rcases call_waits f with ⟨s, hcall, hunsent, streamId, future, hpc⟩
  have hstream : forall frame, frame ∈ s.unsent -> frame.streamId ≠ 0 := by
    intro frame hframe
    rw [hunsent] at hframe
    rw [f.stream frame hframe]
    exact nextStreamId_ne_zero _
  have hbusy : s.pc ≠ FetchPc.idle := by
    rw [hpc]
    exact FetchPc.noConfusion
  rcases drain (f := f) _ s rfl hstream hbusy with
    ⟨s', ⟨labels, hrun⟩, hdone, hsame⟩
  exact ⟨s', ⟨_, Run.cons hcall hrun⟩, hdone, streamId, future,
    hsame.trans hpc⟩

theorem not_assembles (f : ChunkedFetch crypto cek) : ¬ f.Assembles := by
  intro hassembles
  rcases all_routed f with ⟨s, hs, hdone, streamId, future, hpc⟩
  have hwaits : ¬ s.pc.Failed := by
    rw [hpc]
    exact id
  rcases hassembles s hs hdone hwaits with ⟨s', entry, hs', hreturned, _⟩
  rcases hs with ⟨labels, hrun⟩
  rcases hs' with ⟨labels', hrun'⟩
  exact not_returned ⟨_, hrun.append hrun'⟩ entry hreturned

/--
The code never assembles a chunked response: whatever the number of chunks, the
order in which they are routed and the timing, the call does not return, and
this is so although all frames can reach the router while it waits.
-/
theorem chunkedFetch_stalls (crypto : CryptoLib) (cek : Bytes)
    (f : ChunkedFetch crypto cek) :
    ¬ f.Assembles ∧
      forall s entry, Reachable f.Step f.start s ->
        s.pc ≠ FetchPc.returned entry :=
  ⟨not_assembles f, fun _ entry h => not_returned h entry⟩

/-!
# A content of two chunks
-/

/-- The response frame that carries a chunk of one byte, out of two chunks. -/
def chunkFrame (index : Nat) (content : UInt8) : Frame where
  header := { streamId := 1 }
  metadata := Value.map []
  body :=
    [1, 112, 1, 103, 1, 100] ++ List.replicate 16 0 ++ [0, 2] ++
      bigEndian 2 index ++ [0, 0, 0, 0, 1, content]
  governanceBlock := none

def chunkEntry (index : Nat) (content : UInt8) : ConfigEntry where
  tenant := text "p"
  group := text "g"
  dataId := text "d"
  content := [content]
  md5 := List.replicate 16 0
  totalChunks := 2
  chunkIndex := index

def twoChunks : ChunkedFetch CryptoLib.plain [] where
  config := { clientId := text "client" }
  request :=
    { tenant := text "p"
      group := text "g"
      dataId := text "d" }
  router := {}
  streamIdCounter := 0
  frames := [chunkFrame 0 65, chunkFrame 1 66]
  contents := [[65], [66]]
  created x id h := by cases h
  encodable := ⟨[1, 112, 1, 103, 1, 100, 0], rfl⟩
  several := Nat.le_refl 2
  stream := by
    intro frame hframe
    rcases List.mem_pair.mp hframe with rfl | rfl <;> rfl
  chunk := by
    intro i frame hframe
    match i with
    | 0 =>
        injection hframe with hframe
        subst hframe
        exact ⟨chunkEntry 0 65, rfl, rfl, rfl, rfl⟩
    | 1 =>
        injection hframe with hframe
        subst hframe
        exact ⟨chunkEntry 1 66, rfl, rfl, rfl, rfl⟩
    | i + 2 => cases hframe

/-- A call for a content of two chunks does not return it. -/
theorem two_chunks_lost :
    ¬ forall (crypto : CryptoLib) (cek : Bytes) (f : ChunkedFetch crypto cek),
      f.Assembles := by
  intro h
  exact not_assembles twoChunks (h CryptoLib.plain [] twoChunks)

end ChunkedFetch

end Client
end Hmmp
