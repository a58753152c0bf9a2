import Hmmp.Client.CallResults
import Hmmp.Connection.PendingRequests

/-!
# Calls and their answers

A client and a server on one connection.  Any number of calls send their
requests, between those of the handshake and the heartbeats; the server reads
the requests in order and answers those it has read in any order, more than once
or never, and sends notices in between; frames arrive in order; callers give up
at any time, and the connection may be lost.
-/

namespace Hmmp
namespace Client

open Foundation
open Wire
open Connection
open Models
open Security

/-- The configuration of a client, and a server: the bodies by which it may
answer a request. -/
structure DialogueSetting where
  config : ClientConfig
  msgpack : Msgpack
  Serves : ReceivedRequest -> ResponseBody -> Prop

/-- The frame is a plain answer to the request in another frame, if that is one
of a call. -/
def DialogueSetting.ServedBy (env : DialogueSetting) (heard frame : Frame) :
    Prop :=
  forall request, receivedRequest heard = some request ->
    frame.header.isEncrypted = false ∧
      exists body, env.Serves request body ∧ frame.body = body.layout

/-- The requests and the frames on a connection.  Requests are in the order of
their stream ids, with the calls they belong to, if they are not the client's
own. -/
structure Dialogue where
  connected : Bool := true
  authenticated : Bool := false
  table : RequestTable
  calls : List (Option ClientCall) := []
  sent : List FrameRequest := []
  received : List Frame := []
  answered : List Nat := []
  arriving : List Frame := []
  expired : List Nat := []

inductive DialogueEvent where
  | own (request : FrameRequest)
  | authenticate
  | call (call : ClientCall)
  | read
  | answer (k : Nat)
  | notify
  | arrive
  | expire (k : Nat)
  | cancel (k : Nat)
  | lose

namespace Dialogue

def client (s : Dialogue) : AdminClient where
  authenticated := s.authenticated
  streamIdCounter := s.table.streamIdCounter
  router := s.table.router
  sent := s.sent

def sending (s : Dialogue) (call : ClientCall) (c : AdminClient) : Dialogue :=
  { s with
    table :=
      { s.table.draw with
        streamIdCounter := c.streamIdCounter
        router := c.router }
    calls := s.calls ++ [some call]
    sent := c.sent }

def drawing (s : Dialogue) (call : Option ClientCall)
    (request : FrameRequest) : Dialogue :=
  { s with
    table := s.table.draw
    calls := s.calls ++ [call]
    sent := s.sent ++
      [{ request with streamId := nextStreamId s.table.streamIdCounter }] }

def outcome (s : Dialogue) (k : Nat) : Option FutureState :=
  s.table.router.future k

def start (notifyHandlers : Dict Int HandlerId)
    (globalHandlers : List HandlerId) : Dialogue where
  table := RequestTable.new notifyHandlers globalHandlers

variable (env : DialogueSetting)

/-- A step of the client, of the server or of the connection. -/
inductive Step : Dialogue -> DialogueEvent -> Dialogue -> Prop where
  | own {s : Dialogue} {request : FrameRequest} (h : s.connected = true) :
      Step s (.own request) (s.drawing none request)
  | authenticate {s : Dialogue} (h : s.connected = true) :
      Step s .authenticate { s with authenticated := true }
  | call {s : Dialogue} {c : AdminClient} {call : ClientCall}
      (h : call.perform env.config s.client = Except.ok c) :
      Step s (.call call) (s.sending call c)
  | raised {s : Dialogue} {e : PyError} {call : ClientCall}
      (h : call.perform env.config s.client = Except.error e) :
      Step s (.call call) s
  | read {s : Dialogue} (f : EncodedFrame env.msgpack)
      (h : s.sent[s.received.length]? = some f.request) :
      Step s .read { s with received := s.received ++ [f.sent] }
  | answer {s : Dialogue} {k : Nat} {heard : Frame}
      (f : EncodedFrame env.msgpack) (hheard : s.received[k]? = some heard)
      (hstream : f.request.streamId = heard.streamId)
      (hserved : env.ServedBy heard f.sent) :
      Step s (.answer k)
        { s with
          answered := s.answered ++ [k]
          arriving := s.arriving ++ [f.sent] }
  | notify {s : Dialogue} (f : EncodedFrame env.msgpack)
      (h : f.request.streamId = 0) :
      Step s .notify { s with arriving := s.arriving ++ [f.sent] }
  | arrive {s : Dialogue} {frame : Frame} {rest : List Frame}
      {routed : List HandlerCall × FrameRouter} {table : RequestTable}
      (h : s.arriving = frame :: rest)
      (hroute : s.table.router.routeFrame frame = Except.ok routed)
      (hnext : s.table.next (.arrive frame) = some table) :
      Step s .arrive { s with table := table, arriving := rest }
  | expire {s : Dialogue} {k : Nat} {table : RequestTable}
      (hnext : s.table.next (.timeout k) = some table) :
      Step s (.expire k)
        { s with table := table, expired := s.expired ++ [k] }
  | cancel {s : Dialogue} {k : Nat} {table : RequestTable}
      (hnext : s.table.next (.cancel k) = some table) :
      Step s (.cancel k)
        { s with table := table, expired := s.expired ++ [k] }
  | lose {s : Dialogue} (n : Nat) :
      Step s .lose
        { s with
          connected := false
          authenticated := false
          arriving := s.arriving.take n }

/-!
# What holds of every dialogue
-/

/-- The frame carries an answer to request {lit}`k`. -/
structure Answers (received : List Frame) (k : Nat) (frame : Frame) :
    Prop where
  streamId : frame.streamId = k + 1
  served : exists heard, received[k]? = some heard ∧ env.ServedBy heard frame

/-- As long as no stream id is drawn twice, frames and outcomes belong to the
requests of their streams. -/
structure Sound (s : Dialogue) : Prop where
  table : s.table.Consistent
  waits : s.table.WaitsRegistered
  drawn : s.table.requests.length = s.sent.length
  few : s.sent.length <= maxStreamId
  made : s.calls.length = s.sent.length
  streams : forall (k : Nat) (request : FrameRequest),
    s.sent[k]? = some request -> request.streamId = k + 1
  own : forall (k : Nat) (call : ClientCall),
    s.calls[k]? = some (some call) -> exists opcode body,
      call.request env.config = Except.ok (opcode, body) ∧
        s.sent[k]? =
          some { opcode := opcode, body := body, streamId := k + 1 }
  heard : forall (k : Nat) (frame : Frame), s.received[k]? = some frame ->
    exists f : EncodedFrame env.msgpack,
      s.sent[k]? = some f.request ∧ frame = f.sent
  arriving : forall frame, frame ∈ s.arriving ->
    frame.streamId = 0 ∨ exists k, Answers env s.received k frame
  outcomes : forall k state, s.outcome k = some state ->
    state = FutureState.pending ∨
      (state = FutureState.cancelled ∧ k ∈ s.expired) ∨
        exists frame, state = FutureState.result frame ∧
          Answers env s.received k frame
  replied : forall k, k ∈ s.answered -> k < s.sent.length
  settled : s.connected = true -> forall k, k ∈ s.answered ->
    s.outcome k ≠ some FutureState.pending ∨
      exists frame, frame ∈ s.arriving ∧ frame.streamId = k + 1

variable {env} {s s' : Dialogue}

theorem sound_start (notifyHandlers : Dict Int HandlerId)
    (globalHandlers : List HandlerId) :
    Sound env (start notifyHandlers globalHandlers) where
  table := RequestTable.consistent_new notifyHandlers globalHandlers
  waits := RequestTable.waitsRegistered_new notifyHandlers globalHandlers
  drawn := rfl
  few := Nat.zero_le _
  made := rfl
  streams k request h := by cases h
  own k call h := by cases h
  heard k frame h := by cases h
  arriving frame h := by cases h
  outcomes k state h := by cases h
  replied k h := by cases h
  settled hopen k h := by cases h

theorem Answers.append {received : List Frame} {k : Nat} {frame : Frame}
    (h : Answers env received k frame) (more : List Frame) :
    Answers env (received ++ more) k frame where
  streamId := h.streamId
  served := by
    rcases h.served with ⟨heard, hheard, hserved⟩
    exact ⟨heard, getElem?_append_some hheard more, hserved⟩

theorem Sound.request_streamId (h : Sound env s) {k : Nat} {r : TrackedRequest}
    (hr : s.table.requests[k]? = some r) : r.streamId = k + 1 := by
  have hlt := RequestTable.index_lt hr
  have hfew := h.few
  rw [h.drawn] at hlt
  rw [(h.table.own k r hr).2, Nat.mod_eq_of_lt (Nat.lt_of_lt_of_le hlt hfew)]

/-!
# Steps of the client
-/

theorem sending_of_perform {call : ClientCall} {c : AdminClient}
    (h : call.perform env.config s.client = Except.ok c) :
    exists opcode body, call.request env.config = Except.ok (opcode, body) ∧
      s.sending call c =
        s.drawing (some call) { opcode := opcode, body := body } := by
  rcases bind_eq_ok.mp h with ⟨⟨opcode, body⟩, hrequest, hsend⟩
  have hsend : s.client.sendRequest opcode body = Except.ok c := hsend
  unfold AdminClient.sendRequest at hsend
  split at hsend
  · injection hsend with hsend
    subst hsend
    exact ⟨opcode, body, hrequest, rfl⟩
  · cases hsend

theorem Sound.draw (h : Sound env s) {call : Option ClientCall}
    {request : FrameRequest}
    (hrequest : forall made, call = some made -> exists opcode body,
      made.request env.config = Except.ok (opcode, body) ∧
        request = { opcode := opcode, body := body })
    (hfew : (s.drawing call request).sent.length <= maxStreamId) :
    Sound env (s.drawing call request) := by
  have hfew : (s.sent ++ [_]).length <= maxStreamId := hfew
  rw [List.length_append, List.length_singleton] at hfew
  have htimely : s.table.Timely TableEvent.start := by
    intro i r hr _
    rw [h.drawn]
    exact Nat.lt_of_lt_of_le hfew (Nat.le_add_left _ _)
  have hdrawn : RequestTable.TimelyStep s.table .start s.table.draw :=
    ⟨htimely, rfl⟩
  have hstream : nextStreamId s.table.streamIdCounter = s.sent.length + 1 := by
    rw [h.table.counter, h.drawn, Nat.mod_eq_of_lt hfew]
  refine ⟨h.table.draw htimely, h.waits.step h.table hdrawn, ?_, ?_, ?_, ?_,
    ?_, ?_, h.arriving, ?_, ?_, ?_⟩
  · show (s.table.requests ++ [_]).length = (s.sent ++ [_]).length
    rw [List.length_append, List.length_append, h.drawn]
    rfl
  · show (s.sent ++ [_]).length <= maxStreamId
    rw [List.length_append, List.length_singleton]
    exact hfew
  · show (s.calls ++ [_]).length = (s.sent ++ [_]).length
    rw [List.length_append, List.length_append, h.made]
    rfl
  · intro k other hother
    rcases getElem?_concat_cases hother with hold | ⟨rfl, rfl⟩
    · exact h.streams k other hold
    · exact hstream
  · intro k made hmade
    show exists opcode body, _ ∧ (s.sent ++ [_])[k]? = _
    rcases getElem?_concat_cases hmade with hold | ⟨rfl, hnew⟩
    · rcases h.own k made hold with ⟨opcode, body, hbody, hsent⟩
      exact ⟨opcode, body, hbody, getElem?_append_some hsent _⟩
    · rcases hrequest made hnew.symm with ⟨opcode, body, hbody, rfl⟩
      refine ⟨opcode, body, hbody, ?_⟩
      rw [h.made, List.getElem?_concat_length, hstream]
  · intro k frame hframe
    rcases h.heard k frame hframe with ⟨f, hsent, hsame⟩
    exact ⟨f, getElem?_append_some hsent _, hsame⟩
  · intro k state hstate
    rcases h.table.effect hdrawn k with hsame | ⟨_, hpending⟩
    · exact h.outcomes k state (hsame.symm.trans hstate)
    · left
      have hsame := hstate.symm.trans hpending
      injection hsame
  · intro k hk
    show k < (s.sent ++ [_]).length
    rw [List.length_append]
    exact Nat.lt_add_right _ (h.replied k hk)
  · intro hopen k hk
    rcases h.settled hopen k hk with hdone | hframe
    · left
      intro hpending
      rcases h.table.effect hdrawn k with hsame | ⟨hnew, _⟩
      · exact hdone (hsame.symm.trans hpending)
      · rw [h.drawn] at hnew
        exact absurd hnew (Nat.ne_of_lt (h.replied k hk))
    · exact Or.inr hframe

theorem Sound.call (h : Sound env s) {call : ClientCall} {c : AdminClient}
    (hperform : call.perform env.config s.client = Except.ok c)
    (hfew : (s.sending call c).sent.length <= maxStreamId) :
    Sound env (s.sending call c) := by
  rcases sending_of_perform hperform with ⟨opcode, body, hrequest, hsending⟩
  rw [hsending] at hfew ⊢
  apply h.draw _ hfew
  intro made hmade
  injection hmade with hmade
  subst hmade
  exact ⟨opcode, body, hrequest, rfl⟩

theorem Sound.tableStep (h : Sound env s) {e : TableEvent}
    {table : RequestTable} (hstep : RequestTable.TimelyStep s.table e table)
    (hlength : table.requests.length = s.table.requests.length)
    {arriving : List Frame}
    (harriving : forall frame, frame ∈ arriving -> frame ∈ s.arriving)
    {expired : List Nat} (hexpired : forall k, k ∈ s.expired -> k ∈ expired)
    (heffect : forall k state, s.table.Effect k (some state) e ->
      (state = FutureState.cancelled ∧ k ∈ expired) ∨
        exists frame, state = FutureState.result frame ∧
          Answers env s.received k frame)
    (hsettled : forall k frame, frame ∈ s.arriving ->
      frame.streamId = k + 1 -> frame ∈ arriving ∨
        table.router.future k ≠ some FutureState.pending) :
    Sound env
      { s with table := table, arriving := arriving, expired := expired } := by
  refine ⟨h.table.step hstep, h.waits.step h.table hstep,
    hlength.trans h.drawn, h.few, h.made, h.streams, h.own, h.heard, ?_, ?_,
    h.replied, ?_⟩
  · intro frame hframe
    exact h.arriving frame (harriving frame hframe)
  · intro k state hstate
    have hstate : table.router.future k = some state := hstate
    rcases h.table.effect hstep k with hsame | hchanged
    · rcases h.outcomes k state (hsame.symm.trans hstate) with
        hpending | ⟨hcancelled, hmem⟩ | hresult
      · exact Or.inl hpending
      · exact Or.inr (Or.inl ⟨hcancelled, hexpired k hmem⟩)
      · exact Or.inr (Or.inr hresult)
    · rw [hstate] at hchanged
      exact Or.inr (heffect k state hchanged)
  · intro hopen k hk
    rcases h.settled hopen k hk with hdone | ⟨frame, hframe, hstream⟩
    · left
      intro hpending
      apply hdone
      apply RequestTable.pending_before hstep.2 _ hpending
      rw [h.table.futures, h.drawn]
      exact h.replied k hk
    · rcases hsettled k frame hframe hstream with hleft | hdone
      · exact Or.inr ⟨frame, hleft, hstream⟩
      · exact Or.inl hdone

theorem Sound.arrive (h : Sound env s) {frame : Frame} {rest : List Frame}
    {routed : List HandlerCall × FrameRouter} {table : RequestTable}
    (harriving : s.arriving = frame :: rest)
    (hroute : s.table.router.routeFrame frame = Except.ok routed)
    (hnext : s.table.next (.arrive frame) = some table) :
    Sound env { s with table := table, arriving := rest } := by
  have hstep : RequestTable.TimelyStep s.table (.arrive frame) table :=
    ⟨trivial, hnext⟩
  have htable : table =
      { s.table with
        router := routed.2
        requests := s.table.requests.map (TrackedRequest.answer frame) } := by
    have hsame := hnext
    rw [RequestTable.next_arrive hroute] at hsame
    injection hsame with hsame
    exact hsame.symm
  apply h.tableStep hstep
  · rw [htable]
    exact List.length_map _
  · intro other hother
    rw [harriving]
    exact List.mem_cons_of_mem _ hother
  · exact fun _ hk => hk
  · rintro k state ⟨⟨r, hr, hstream⟩, hstate⟩
    injection hstate with hstate
    rw [h.request_streamId hr] at hstream
    right
    refine ⟨frame, hstate, ?_⟩
    have hmem : frame ∈ s.arriving := by
      rw [harriving]
      exact List.mem_cons_self
    rcases h.arriving frame hmem with hzero | ⟨k', hanswers⟩
    · omega
    · have hk : k' = k := by
        have hsame := hanswers.streamId
        omega
      exact hk ▸ hanswers
  · intro k other hother hstream
    rw [harriving] at hother
    rcases List.mem_cons.mp hother with rfl | hrest
    · right
      intro hpending
      -- a request that waits has an entry, by which the frame would end it
      have hlt : k < s.table.requests.length := by
        have hfuture := FrameRouter.future_lt hpending
        have hsame := (h.table.step hstep).futures
        rw [hsame, htable] at hfuture
        simpa using hfuture
      have hr := List.getElem?_eq_getElem hlt
      have hbefore := RequestTable.pending_before hnext
        (h.table.futures ▸ hlt) hpending
      have hended := h.table.ends_wait h.waits hr hbefore
        (FutureState.result other)
      have hnonzero : other.streamId ≠ 0 := by omega
      rw [FrameRouter.routeFrame_of_stream _ hnonzero] at hroute
      injection hroute with hroute
      rw [h.request_streamId hr, ← hstream] at hended
      rw [htable, ← hroute] at hpending
      have hsame := hpending.symm.trans hended
      injection hsame with hsame
      cases hsame
    · exact Or.inl hrest

theorem Sound.givenUp (h : Sound env s) {e : TableEvent}
    {table : RequestTable} {k : Nat}
    (hstep : RequestTable.TimelyStep s.table e table)
    (hlength : table.requests.length = s.table.requests.length)
    (heffect : forall id state, s.table.Effect id state e ->
      id = k ∧ state = some FutureState.cancelled) :
    Sound env
      { s with table := table, expired := s.expired ++ [k] } := by
  apply h.tableStep hstep hlength
  · exact fun _ hframe => hframe
  · exact fun _ hk => List.mem_append_left _ hk
  · intro id state hchanged
    rcases heffect id (some state) hchanged with ⟨rfl, hstate⟩
    injection hstate with hstate
    exact Or.inl ⟨hstate, List.mem_append_right _ (List.mem_singleton_self _)⟩
  · exact fun _ _ hframe _ => Or.inl hframe

theorem Sound.expire (h : Sound env s) {k : Nat} {table : RequestTable}
    (hnext : s.table.next (.timeout k) = some table) :
    Sound env
      { s with table := table, expired := s.expired ++ [k] } := by
  have hstep : RequestTable.TimelyStep s.table (.timeout k) table :=
    ⟨trivial, hnext⟩
  rcases Option.bind_eq_some_iff.mp hnext with ⟨r, hr, htable⟩
  injection htable with htable
  apply h.givenUp hstep
  · rw [← htable]
  · exact fun _ _ heffect => heffect

theorem Sound.cancel (h : Sound env s) {k : Nat} {table : RequestTable}
    (hnext : s.table.next (.cancel k) = some table) :
    Sound env
      { s with table := table, expired := s.expired ++ [k] } := by
  have htimely : s.table.Timely (.cancel k) := by
    have hfew := h.few
    rw [← h.drawn] at hfew
    exact Nat.le_add_left_of_le hfew
  have hstep : RequestTable.TimelyStep s.table (.cancel k) table :=
    ⟨htimely, hnext⟩
  rcases Option.bind_eq_some_iff.mp hnext with ⟨r, hr, htable⟩
  injection htable with htable
  apply h.givenUp hstep
  · rw [← htable]
    exact List.length_set
  · exact fun _ _ heffect => heffect

/-!
# Steps of the server
-/

theorem Sound.read (h : Sound env s) (f : EncodedFrame env.msgpack)
    (hnext : s.sent[s.received.length]? = some f.request) :
    Sound env { s with received := s.received ++ [f.sent] } := by
  refine ⟨h.table, h.waits, h.drawn, h.few, h.made, h.streams, h.own, ?_, ?_,
    ?_, h.replied, h.settled⟩
  · intro k frame hframe
    rcases getElem?_concat_cases hframe with hold | ⟨rfl, rfl⟩
    · exact h.heard k frame hold
    · exact ⟨f, hnext, rfl⟩
  · intro frame hframe
    rcases h.arriving frame hframe with hzero | ⟨k, hanswers⟩
    · exact Or.inl hzero
    · exact Or.inr ⟨k, hanswers.append [f.sent]⟩
  · intro k state hstate
    rcases h.outcomes k state hstate with
      hpending | hcancelled | ⟨frame, hresult, hanswers⟩
    · exact Or.inl hpending
    · exact Or.inr (Or.inl hcancelled)
    · exact Or.inr (Or.inr ⟨frame, hresult, hanswers.append [f.sent]⟩)

theorem Sound.sentFrame (h : Sound env s) (frame : Frame)
    (hframe : frame.streamId = 0 ∨
      exists k, Answers env s.received k frame) :
    Sound env { s with arriving := s.arriving ++ [frame] } := by
  refine ⟨h.table, h.waits, h.drawn, h.few, h.made, h.streams, h.own,
    h.heard, ?_, h.outcomes, h.replied, ?_⟩
  · intro other hother
    rcases List.mem_append.mp hother with hold | hnew
    · exact h.arriving other hold
    · rw [List.mem_singleton.mp hnew]
      exact hframe
  · intro hopen k hk
    rcases h.settled hopen k hk with hdone | ⟨other, hother, hstream⟩
    · exact Or.inl hdone
    · exact Or.inr ⟨other, List.mem_append_left _ hother, hstream⟩

theorem Sound.answer (h : Sound env s) {k : Nat} {heard : Frame}
    (f : EncodedFrame env.msgpack) (hheard : s.received[k]? = some heard)
    (hstream : f.request.streamId = heard.streamId)
    (hserved : env.ServedBy heard f.sent) :
    Sound env
      { s with
        answered := s.answered ++ [k]
        arriving := s.arriving ++ [f.sent] } := by
  rcases h.heard k heard hheard with ⟨asked, hsent, hsame⟩
  have hstream : f.sent.streamId = k + 1 := by
    rw [← h.streams k asked.request hsent]
    rw [hsame] at hstream
    exact hstream
  have hanswers : Answers env s.received k f.sent :=
    ⟨hstream, heard, hheard, hserved⟩
  have hsound := h.sentFrame f.sent (Or.inr ⟨k, hanswers⟩)
  refine ⟨h.table, h.waits, h.drawn, h.few, h.made, h.streams, h.own,
    h.heard, hsound.arriving, h.outcomes, ?_, ?_⟩
  · intro other hother
    rcases List.mem_append.mp hother with hold | hnew
    · exact h.replied other hold
    · rw [List.mem_singleton.mp hnew]
      exact (List.getElem?_eq_some_iff.mp hsent).1
  · intro hopen other hother
    rcases List.mem_append.mp hother with hold | hnew
    · exact hsound.settled hopen other hold
    · rw [List.mem_singleton.mp hnew]
      exact Or.inr ⟨f.sent,
        List.mem_append_right _ (List.mem_singleton_self _), hstream⟩

theorem Sound.lose (h : Sound env s) (n : Nat) :
    Sound env
      { s with
        connected := false
        authenticated := false
        arriving := s.arriving.take n } := by
  refine ⟨h.table, h.waits, h.drawn, h.few, h.made, h.streams, h.own,
    h.heard, ?_, h.outcomes, h.replied, ?_⟩
  · exact fun frame hframe => h.arriving frame (List.mem_of_mem_take hframe)
  · intro hopen
    cases hopen

/-!
# Runs
-/

theorem Step.sent_length {e : DialogueEvent} (hstep : Step env s e s') :
    s.sent.length <= s'.sent.length := by
  have hdrawn (call : Option ClientCall) (request : FrameRequest) :
      s.sent.length <= (s.drawing call request).sent.length := by
    show s.sent.length <= (s.sent ++ [_]).length
    rw [List.length_append]
    exact Nat.le_add_right _ _
  cases hstep with
  | own _ => exact hdrawn none _
  | call hperform =>
      rcases sending_of_perform hperform with ⟨opcode, body, _, hsending⟩
      rw [hsending]
      exact hdrawn _ _
  | _ => exact Nat.le_refl _

theorem Sound.step (h : Sound env s) {e : DialogueEvent}
    (hstep : Step env s e s') (hfew : s'.sent.length <= maxStreamId) :
    Sound env s' := by
  cases hstep with
  | own _ =>
      apply h.draw _ hfew
      intro made hmade
      cases hmade
  | authenticate _ => exact { h with }
  | call hperform => exact h.call hperform hfew
  | raised hperform => exact h
  | read f hnext => exact h.read f hnext
  | answer f hheard hstream hserved =>
      exact h.answer f hheard hstream hserved
  | notify f hzero => exact h.sentFrame f.sent (Or.inl hzero)
  | arrive harriving hroute hnext => exact h.arrive harriving hroute hnext
  | expire hnext => exact h.expire hnext
  | cancel hnext => exact h.cancel hnext
  | lose n => exact h.lose n

theorem sound_reachable {notifyHandlers : Dict Int HandlerId}
    {globalHandlers : List HandlerId}
    (h : Reachable (Step env) (start notifyHandlers globalHandlers) s)
    (hfew : s.sent.length <= maxStreamId) : Sound env s := by
  have hkeep : forall (before : Dialogue) (e : DialogueEvent)
      (after : Dialogue),
      (before.sent.length <= maxStreamId -> Sound env before) ->
        Step env before e after ->
          after.sent.length <= maxStreamId -> Sound env after := by
    intro before e after hbefore hstep hafter
    have hkept := hbefore (Nat.le_trans hstep.sent_length hafter)
    exact hkept.step hstep hafter
  have hstart : Sound env (start notifyHandlers globalHandlers) :=
    sound_start notifyHandlers globalHandlers
  exact h.invariant hkeep (fun _ => hstart) hfew

theorem Step.outcome_of_done {e : DialogueEvent} (hstep : Step env s e s')
    {k : Nat} {state : FutureState} (hstate : s.outcome k = some state)
    (hdone : state ≠ FutureState.pending) : s'.outcome k = some state := by
  cases hstep with
  | own _ =>
      exact RequestTable.next_future_of_done (e := .start) rfl hstate hdone
  | call hperform =>
      rcases sending_of_perform hperform with ⟨opcode, body, _, hsending⟩
      rw [hsending]
      exact RequestTable.next_future_of_done (e := .start) rfl hstate hdone
  | arrive _ _ hnext =>
      exact RequestTable.next_future_of_done hnext hstate hdone
  | expire hnext => exact RequestTable.next_future_of_done hnext hstate hdone
  | cancel hnext => exact RequestTable.next_future_of_done hnext hstate hdone
  | _ => exact hstate

theorem run_outcome_of_done {events : List DialogueEvent}
    (hrun : Run (Step env) s events s') {k : Nat} {state : FutureState}
    (hstate : s.outcome k = some state)
    (hdone : state ≠ FutureState.pending) : s'.outcome k = some state := by
  have hkeep : forall (before : Dialogue) (e : DialogueEvent)
      (after : Dialogue), before.outcome k = some state ->
        Step env before e after -> after.outcome k = some state := by
    intro before e after hbefore hstep
    exact hstep.outcome_of_done hbefore hdone
  exact hrun.invariant hkeep hstate

/-- The request a frame answers is the one that its call was to send. -/
theorem Sound.answers_meaning (h : Sound env s) {k : Nat} {call : ClientCall}
    (hcall : s.calls[k]? = some (some call)) (hfits : call.Fits env.config) :
    exists received, call.meaning env.config = some received ∧
      forall frame, Answers env s.received k frame ->
        frame.header.isEncrypted = false ∧
          exists body, env.Serves received body ∧
            frame.body = body.layout := by
  rcases h.own k call hcall with ⟨opcode, bytes, hrequest, hsent⟩
  rcases readRequest_request hfits hrequest with ⟨received, hmeaning, hread⟩
  refine ⟨received, hmeaning, ?_⟩
  intro frame hanswers
  rcases hanswers.served with ⟨heard, hheard, hserved⟩
  rcases h.heard k heard hheard with ⟨f, hf, hsame⟩
  rw [hsent] at hf
  injection hf with hf
  have hmetadata : f.request.metadata = Dict.empty := by rw [← hf]
  apply hserved received
  rw [hsame, receivedRequest_sent f hmetadata, ← hf]
  exact hread

/--
A call that fits its fields gets an answer to what it says.  In every run of a
client and a server with no more requests than there are stream ids, whatever
the other calls send, the call waits, or it was given up, or its future holds a
frame with a body by which the server answers the call, and the call returns
what the body says.  The future keeps the outcome.  When no frame is left on an
open connection, no call that was answered waits.
-/
theorem calls_answered (env : DialogueSetting) (libs : ResultSetting)
    (hlib : FaithfulIpLib libs.lib) (notifyHandlers : Dict Int HandlerId)
    (globalHandlers : List HandlerId) {s : Dialogue}
    (h : Reachable (Step env) (start notifyHandlers globalHandlers) s)
    (hfew : s.sent.length <= maxStreamId) {k : Nat} {call : ClientCall}
    (hcall : s.calls[k]? = some (some call)) (hfits : call.Fits env.config) :
    exists received state, call.meaning env.config = some received ∧
      s.outcome k = some state ∧
      (state = FutureState.pending ∨
        (state = FutureState.cancelled ∧ k ∈ s.expired) ∨
          exists frame body, state = FutureState.result frame ∧
            env.Serves received body ∧
              forall result, call.answerTo libs.lib body = some result ->
                call.handleResponse libs frame = Except.ok result) ∧
      (state ≠ FutureState.pending -> forall events s',
        Run (Step env) s events s' -> s'.outcome k = some state) ∧
      (s.connected = true -> s.arriving = [] -> k ∈ s.answered ->
        state ≠ FutureState.pending) := by
  have hsound := sound_reachable h hfew
  rcases hsound.answers_meaning hcall hfits with
    ⟨received, hmeaning, hanswered⟩
  have hlt : k < s.table.router.futures.length := by
    rw [hsound.table.futures, hsound.drawn, ← hsound.made]
    exact (List.getElem?_eq_some_iff.mp hcall).1
  have hstate : s.outcome k = some (s.table.router.futures.get ⟨k, hlt⟩) :=
    List.getElem?_eq_getElem hlt
  refine ⟨received, _, hmeaning, hstate, ?_, ?_, ?_⟩
  · rcases hsound.outcomes k _ hstate with
      hpending | hcancelled | ⟨frame, hresult, hanswers⟩
    · exact Or.inl hpending
    · exact Or.inr (Or.inl hcancelled)
    · rcases hanswered frame hanswers with ⟨hplain, body, hserves, hbody⟩
      refine Or.inr (Or.inr ⟨frame, body, hresult, hserves, ?_⟩)
      intro result hresponse
      rcases hsound.own k call hcall with ⟨opcode, bytes, hrequest, _⟩
      exact ClientCall.handleResponse_layout hlib hplain ⟨_, hrequest⟩ hbody
        hresponse
  · intro hdone events s' hrun
    exact run_outcome_of_done hrun hstate hdone
  · intro hopen hnone hanswer hpending
    rcases hsound.settled hopen k hanswer with hdone | ⟨frame, hframe, _⟩
    · rw [hpending] at hstate
      exact hdone hstate
    · rw [hnone] at hframe
      cases hframe

/-- A lookup on the first stream of a connection, and its answer. -/
def lookupRequest : FrameRequest :=
  { discoverRequest with streamId := 1 }

def lookupFrame : EncodedFrame Msgpack.flat where
  encoder := {}
  request := lookupRequest
  metaBytes := discoverMetadata
  encodable :=
    { streamId := by decide
      flags := by decide
      governanceBit := by decide
      governance := by decide
      packs := by rfl
      unpacks := by rfl
      metadata := by decide
      payload := by decide }

def emptySnapshot : SnapshotBody where
  serviceName := SizedText.letter 1
  topologyVersion := 7
  items := []
  few := by decide

def lookupResponse : FrameRequest where
  opcode := OpCode.discoverServiceResponse
  body := [0, 1, 97, 0, 0, 0, 0, 0, 0, 0, 7, 0, 0]
  streamId := 1
  isRequest := false

def lookupAnswer : EncodedFrame Msgpack.flat where
  encoder := {}
  request := lookupResponse
  metaBytes := discoverMetadata.set 13 0x06
  encodable :=
    { streamId := by decide
      flags := by decide
      governanceBit := by decide
      governance := by decide
      packs := by rfl
      unpacks := by rfl
      metadata := by decide
      payload := by decide }

/-- A server that answers every lookup by a service without instances. -/
def emptyService : DialogueSetting where
  config := { clientId := [] }
  msgpack := Msgpack.flat
  Serves request body := request = .discoverService (text "a") ->
    body = .snapshot emptySnapshot

def lookupEvents : List DialogueEvent :=
  [.authenticate, .call (.discoverService (text "a")), .read, .answer 0,
    .arrive]

theorem lookup_run : exists s,
    Run (Step emptyService) (start Dict.empty []) lookupEvents s ∧
      s.connected = true ∧ s.arriving = [] ∧ s.expired = [] ∧
      s.answered = [0] ∧ s.sent.length = 1 ∧
      s.calls = [some (.discoverService (text "a"))] := by
  have hserved : emptyService.ServedBy lookupFrame.sent lookupAnswer.sent := by
    intro request _
    refine ⟨by decide, .snapshot emptySnapshot, fun _ => rfl, ?_⟩
    decide +kernel
  have hcall : (ClientCall.discoverService (text "a")).request
      emptyService.config =
        Except.ok (OpCode.discoverServiceRequest, [0, 1, 97]) := by
    decide +kernel
  have hperform : (ClientCall.discoverService (text "a")).perform
      emptyService.config
      { start Dict.empty [] with authenticated := true }.client =
        Except.ok
          { authenticated := true
            streamIdCounter := 1
            router := (({} : FrameRouter).registerRequest 1).2
            sent :=
              [{ opcode := .discoverServiceRequest
                 body := [0, 1, 97]
                 streamId := 1 }] } := by
    unfold ClientCall.perform
    rw [hcall]
    rfl
  exact ⟨_, .cons (.authenticate rfl) (.cons (.call hperform)
    (.cons (.read lookupFrame rfl) (.cons (.answer lookupAnswer rfl rfl hserved)
      (.single (.arrive rfl rfl rfl))))), rfl, rfl, rfl, rfl, rfl, rfl⟩

theorem calls_answered_lookup : exists s frame,
    Run (Step emptyService) (start Dict.empty []) lookupEvents s ∧
      s.outcome 0 = some (FutureState.result frame) ∧
      (ClientCall.discoverService (text "a")).handleResponse
        { lib := plainIpLib, crypto := CryptoLib.plain } frame =
          Except.ok (.snapshot (emptySnapshot.snapshot plainIpLib)) := by
  rcases lookup_run with
    ⟨s, hrun, hopen, harriving, hexpired, hanswered, hsent, hcalls⟩
  have hfits : (ClientCall.discoverService (text "a")).Fits
      emptyService.config := by
    show utf8Length (text "a") < 65536
    decide +kernel
  have hfew : s.sent.length <= maxStreamId := by
    rw [hsent]
    decide
  have hcall : s.calls[0]? = some (some (.discoverService (text "a"))) := by
    rw [hcalls]
    rfl
  rcases calls_answered emptyService
    { lib := plainIpLib, crypto := CryptoLib.plain } plainIpLib_faithful
    Dict.empty [] ⟨lookupEvents, hrun⟩ hfew hcall hfits with
    ⟨received, state, hmeaning, hstate, hcases, _, hdone⟩
  have hmem : 0 ∈ s.answered := by
    rw [hanswered]
    exact List.mem_cons_self
  rcases hcases with
    hpending | ⟨_, hgone⟩ | ⟨frame, body, hresult, hserves, hreturns⟩
  · exact absurd hpending (hdone hopen harriving hmem)
  · rw [hexpired] at hgone
    cases hgone
  · injection hmeaning with hmeaning
    rw [hserves hmeaning.symm] at hreturns
    exact ⟨s, frame, hrun, hresult ▸ hstate, hreturns _ rfl⟩

end Dialogue

end Client
end Hmmp
