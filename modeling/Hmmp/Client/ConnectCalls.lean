import Hmmp.Client.Connect

/-!
# Sequences of connect and disconnect

The state a call of {lit}`connect` leaves behind for the calls that follow it.
The running flag is set before anything can fail and nothing resets it but
{lit}`disconnect`.  A send that fails closes the connection, and the close
callback reconnects before the failure is raised.
-/

namespace Hmmp
namespace Client

open Connection

/-- How the establishment of a connection fails: the stream is not opened, an
exchange of the handshake is refused, times out or cannot be built, or its
request cannot be sent.  In the last case come the attempts to reconnect that
fail, before one succeeds. -/
inductive Failure where
  | tcp
  | exchange (stage : Stage)
  | send (stage : Stage) (retries : List Failure)

/-- The failure leaves no stream open. -/
def Failure.Closes (autoReconnect : Bool) : Failure -> Prop
  | .tcp => True
  | .exchange _ => False
  | .send _ _ => autoReconnect = false

/-- What the environment does with an attempt to connect. -/
inductive Outcome where
  | authenticated
  | failed (failure : Failure)

inductive CallResult where
  | returned
  | raised
  deriving DecidableEq

/-- A connection the client has created, and whether its stream is open. -/
structure CreatedConnection where
  state : ConnectionState
  isOpen : Bool

/-- What happens to the client: its two calls, and between them its tasks, which
lose the connection or put another in its place. -/
inductive ClientEvent where
  | connect (outcome : Outcome)
  | disconnect
  | background (c : CreatedConnection)

/-- The connection as {lit}`connect`, the failed handshake and the successful
one leave it, and a closed one. -/
def CreatedConnection.closed : CreatedConnection :=
  { state := ConnectionState.disconnected, isOpen := false }

def CreatedConnection.halfway : CreatedConnection :=
  { state := ConnectionState.authenticating, isOpen := true }

def CreatedConnection.ready : CreatedConnection :=
  { state := ConnectionState.authenticated, isOpen := true }

/-- The client between two calls; its connection is the last one it has
created. -/
structure ConnectCalls where
  running : Bool := false
  connections : List CreatedConnection := []

namespace ConnectCalls

/-- A new connection takes the place of the client's connection. -/
def create (s : ConnectCalls) (c : CreatedConnection) : ConnectCalls :=
  { s with connections := s.connections ++ [c] }

mutual

def fail (autoReconnect : Bool) : Failure -> ConnectCalls -> ConnectCalls
  | .tcp, s => s.create .closed
  | .exchange _, s => s.create .halfway
  | .send _ retries, s =>
      -- the close callback reconnects before the failure is raised
      if s.running && autoReconnect then
        (failAll autoReconnect retries (s.create .closed)).create .ready
      else
        s.create .closed

/-- Attempts to reconnect that fail, one after another. -/
def failAll (autoReconnect : Bool) :
    List Failure -> ConnectCalls -> ConnectCalls
  | [], s => s
  | failure :: rest, s =>
      failAll autoReconnect rest (fail autoReconnect failure s)

end

def establish (autoReconnect : Bool) (s : ConnectCalls) :
    Outcome -> CallResult × ConnectCalls
  | .authenticated => (.returned, s.create .ready)
  | .failed failure => (.raised, fail autoReconnect failure s)

def connect (autoReconnect : Bool) (s : ConnectCalls) (outcome : Outcome) :
    CallResult × ConnectCalls :=
  if s.running then (.returned, s)
  else establish autoReconnect { s with running := true } outcome

/-- The client's connection is closed, whatever its state. -/
def disconnect (s : ConnectCalls) : ConnectCalls :=
  { running := false
    connections :=
      s.connections.modify (s.connections.length - 1)
        fun _ => CreatedConnection.closed }

/-!
# The law of a sequence of calls
-/

def Authenticated (s : ConnectCalls) : Prop :=
  exists c, s.connections.getLast? = some c ∧
    c.state = ConnectionState.authenticated

/-- None of the connections created after the first {lit}`n` is open. -/
def ClosedFrom (n : Nat) (s : ConnectCalls) : Prop :=
  forall c, c ∈ s.connections.drop n -> c.isOpen = false

/-- The next {lit}`connect` of the sequence creates a connection. -/
def NextAttempts (autoReconnect : Bool) :
    ConnectCalls -> List ClientEvent -> Prop
  | _, [] => True
  | s, .disconnect :: rest => NextAttempts autoReconnect s.disconnect rest
  | s, .background c :: rest => NextAttempts autoReconnect (s.create c) rest
  | s, .connect outcome :: _ =>
      s.connections.length <
        (s.connect autoReconnect outcome).2.connections.length

/--
Whenever {lit}`connect` returns the client is authenticated, and whenever it
raises no connection it has opened is open and the next {lit}`connect` attempts
a new one.
-/
def Lawful (autoReconnect : Bool) : ConnectCalls -> List ClientEvent -> Prop
  | _, [] => True
  | s, .disconnect :: rest => Lawful autoReconnect s.disconnect rest
  | s, .background c :: rest => Lawful autoReconnect (s.create c) rest
  | s, .connect outcome :: rest =>
      let (result, s') := s.connect autoReconnect outcome
      (result = .returned -> s'.Authenticated) ∧
        (result = .raised -> s'.ClosedFrom s.connections.length ∧
          NextAttempts autoReconnect s' rest) ∧
          Lawful autoReconnect s' rest

/-!
# Which sequences obey it
-/

def ConnectsNext : List ClientEvent -> Prop
  | .connect _ :: _ => True
  | .background _ :: rest => ConnectsNext rest
  | _ => False

/--
A {lit}`connect` of a running client finds its connection authenticated, and
one that raises does so by a failure that leaves no stream open and is followed
by a {lit}`disconnect`, if by any call.
-/
def Careful (autoReconnect : Bool) : (running authenticated : Bool) ->
    List ClientEvent -> Prop
  | _, _, [] => True
  | _, _, .disconnect :: rest => Careful autoReconnect false false rest
  | running, _, .background c :: rest =>
      Careful autoReconnect running
        (c.state == ConnectionState.authenticated) rest
  | true, authenticated, .connect _ :: rest =>
      authenticated = true ∧ Careful autoReconnect true authenticated rest
  | false, _, .connect .authenticated :: rest =>
      Careful autoReconnect true true rest
  | false, _, .connect (.failed failure) :: rest =>
      failure.Closes autoReconnect ∧ ¬ ConnectsNext rest ∧
        Careful autoReconnect true false rest

variable {autoReconnect : Bool} {s : ConnectCalls}

theorem create_length (s : ConnectCalls) (c : CreatedConnection) :
    (s.create c).connections.length = s.connections.length + 1 := by
  simp [create]

theorem authenticated_create_iff (s : ConnectCalls) (c : CreatedConnection) :
    (s.create c).Authenticated <->
      c.state = ConnectionState.authenticated := by
  simp [Authenticated, create]

theorem closedFrom_create (s : ConnectCalls) (c : CreatedConnection) :
    (s.create c).ClosedFrom s.connections.length <-> c.isOpen = false := by
  simp [ClosedFrom, create]

theorem not_closedFrom_create {n : Nat} {c : CreatedConnection}
    (hn : n <= s.connections.length) (hc : c.isOpen = true) :
    ¬ (s.create c).ClosedFrom n := by
  intro h
  have hmem : c ∈ (s.connections ++ [c]).drop n := by
    rw [List.drop_append_of_le_length hn]
    exact List.mem_append_right _ (List.mem_singleton_self c)
  have hfalse := h c hmem
  rw [hc] at hfalse
  cases hfalse

theorem connect_of_running (h : s.running = true) (outcome : Outcome) :
    s.connect autoReconnect outcome = (.returned, s) := by
  simp [connect, h]

theorem connect_of_not_running (h : s.running = false) (outcome : Outcome) :
    s.connect autoReconnect outcome =
      establish autoReconnect { s with running := true } outcome := by
  simp [connect, h]

mutual

theorem fail_running (autoReconnect : Bool) : forall (failure : Failure)
    (s : ConnectCalls), (fail autoReconnect failure s).running = s.running
  | .tcp, _ => rfl
  | .exchange _, _ => rfl
  | .send _ retries, s => by
      simp only [fail]
      split
      · exact failAll_running autoReconnect retries (s.create .closed)
      · rfl

theorem failAll_running (autoReconnect : Bool) : forall
    (failures : List Failure) (s : ConnectCalls),
    (failAll autoReconnect failures s).running = s.running
  | [], _ => rfl
  | failure :: rest, s => by
      rw [failAll, failAll_running autoReconnect rest,
        fail_running autoReconnect failure]

end

mutual

theorem fail_length (autoReconnect : Bool) : forall (failure : Failure)
    (s : ConnectCalls), s.connections.length <
      (fail autoReconnect failure s).connections.length
  | .tcp, s => by
      rw [fail, create_length]
      exact Nat.lt_succ_self _
  | .exchange _, s => by
      rw [fail, create_length]
      exact Nat.lt_succ_self _
  | .send _ retries, s => by
      have hretries := failAll_length autoReconnect retries (s.create .closed)
      rw [create_length] at hretries
      simp only [fail]
      split
      · rw [create_length]
        exact Nat.lt_succ_of_lt hretries
      · rw [create_length]
        exact Nat.lt_succ_self _

theorem failAll_length (autoReconnect : Bool) : forall
    (failures : List Failure) (s : ConnectCalls), s.connections.length <=
      (failAll autoReconnect failures s).connections.length
  | [], _ => Nat.le_refl _
  | failure :: rest, s => by
      rw [failAll]
      exact Nat.le_trans (Nat.le_of_lt (fail_length autoReconnect failure s))
        (failAll_length autoReconnect rest _)

end

theorem establish_length (s : ConnectCalls) (outcome : Outcome) :
    s.connections.length <
      (establish autoReconnect s outcome).2.connections.length := by
  cases outcome with
  | authenticated =>
      simp only [establish, create_length]
      exact Nat.lt_succ_self _
  | failed failure => exact fail_length autoReconnect failure s

theorem closedFrom_fail_iff (hrunning : s.running = true) (failure : Failure) :
    (fail autoReconnect failure s).ClosedFrom s.connections.length <->
      failure.Closes autoReconnect := by
  cases failure with
  | tcp => exact iff_of_true ((closedFrom_create s .closed).mpr rfl) trivial
  | exchange stage =>
      exact iff_of_false
        (not_closedFrom_create (Nat.le_refl _) rfl) id
  | send stage retries =>
      cases autoReconnect with
      | true =>
          simp only [fail, hrunning, Bool.and_self, if_true]
          have hgrown := failAll_length true retries (s.create .closed)
          rw [create_length] at hgrown
          exact iff_of_false
            (not_closedFrom_create (Nat.le_of_succ_le hgrown) rfl)
            (by simp [Failure.Closes])
      | false =>
          simp only [fail, Bool.and_false]
          exact iff_of_true ((closedFrom_create s .closed).mpr rfl) rfl

theorem not_authenticated_fail {failure : Failure}
    (h : failure.Closes autoReconnect) :
    ¬ (fail autoReconnect failure s).Authenticated := by
  cases failure with
  | tcp => simp [fail, authenticated_create_iff, CreatedConnection.closed]
  | exchange stage => exact h.elim
  | send stage retries =>
      have hoff : autoReconnect = false := h
      subst hoff
      simp [fail, authenticated_create_iff, CreatedConnection.closed]

theorem nextAttempts_of_not_running (h : s.running = false)
    (events : List ClientEvent) : NextAttempts autoReconnect s events := by
  induction events generalizing s with
  | nil => trivial
  | cons event rest ih =>
      cases event with
      | disconnect => exact ih rfl
      | background c => exact ih h
      | connect outcome =>
          rw [NextAttempts, connect_of_not_running h]
          exact establish_length { s with running := true } outcome

theorem nextAttempts_iff (hrunning : s.running = true)
    (events : List ClientEvent) :
    NextAttempts autoReconnect s events <-> ¬ ConnectsNext events := by
  induction events generalizing s with
  | nil => exact iff_of_true trivial id
  | cons event rest ih =>
      cases event with
      | disconnect =>
          exact iff_of_true (nextAttempts_of_not_running rfl rest) id
      | background c => exact ih hrunning
      | connect outcome =>
          rw [NextAttempts, connect_of_running hrunning]
          exact iff_of_false (Nat.lt_irrefl _) (fun h => h trivial)

/-!
# The exact condition
-/

/-- {lit}`authenticated` tells whether the connection of a running client is
authenticated. -/
def Tracked (s : ConnectCalls) (running authenticated : Bool) : Prop :=
  s.running = running ∧
    (running = true -> (s.Authenticated <-> authenticated = true))

theorem tracked_fail {failure : Failure} (hrunning : s.running = true)
    (h : failure.Closes autoReconnect) :
    (fail autoReconnect failure s).Tracked true false := by
  constructor
  · rw [fail_running, hrunning]
  · intro _
    exact iff_of_false (not_authenticated_fail h) Bool.false_ne_true

theorem lawful_iff_careful {running authenticated : Bool}
    (h : s.Tracked running authenticated) (events : List ClientEvent) :
    Lawful autoReconnect s events <->
      Careful autoReconnect running authenticated events := by
  induction events generalizing s running authenticated with
  | nil => exact iff_of_true trivial (by simp [Careful])
  | cons event rest ih =>
      rcases h with ⟨hrunning, hauthenticated⟩
      cases event with
      | disconnect =>
          have hidle : s.disconnect.Tracked false false :=
            ⟨rfl, fun h => nomatch h⟩
          simpa only [Lawful, Careful] using ih hidle
      | background c =>
          have htracked : (s.create c).Tracked running
              (c.state == ConnectionState.authenticated) := by
            refine ⟨hrunning, fun _ => ?_⟩
            rw [authenticated_create_iff, beq_iff_eq]
          simpa only [Lawful, Careful] using ih htracked
      | connect outcome =>
          cases running with
          | true =>
              have hsame := ih ⟨hrunning, hauthenticated⟩
              simp only [Lawful, Careful, connect_of_running hrunning,
                hauthenticated rfl, hsame]
              simp
          | false =>
              rw [Lawful, connect_of_not_running hrunning]
              cases outcome with
              | authenticated =>
                  have hready : (create { s with running := true }
                      .ready).Tracked true true :=
                    ⟨rfl, fun _ => iff_of_true
                      ((authenticated_create_iff ..).mpr rfl) rfl⟩
                  simp only [Careful, establish, ih hready]
                  constructor
                  · rintro ⟨-, -, hrest⟩
                    exact hrest
                  · intro hrest
                    exact ⟨fun _ => (hready.2 rfl).mpr rfl, nofun, hrest⟩
              | failed failure =>
                  have hfailed := fail_running autoReconnect failure
                    { s with running := true }
                  simp only [Careful, establish, true_implies,
                    nextAttempts_iff hfailed]
                  rw [closedFrom_fail_iff (s := { s with running := true }) rfl]
                  constructor
                  · rintro ⟨-, ⟨hcloses, hnext⟩, hrest⟩
                    have htracked := tracked_fail
                      (s := { s with running := true }) rfl hcloses
                    exact ⟨hcloses, hnext, (ih htracked).mp hrest⟩
                  · rintro ⟨hcloses, hnext, hrest⟩
                    have htracked := tracked_fail
                      (s := { s with running := true }) rfl hcloses
                    exact ⟨nofun, ⟨hcloses, hnext⟩,
                      (ih htracked).mpr hrest⟩

/--
Every sequence of calls obeys the law exactly when each {lit}`connect` that
raises closes what it opened and is followed by {lit}`disconnect`, and each one
of a running client finds it authenticated.
-/
theorem connect_lawful_iff (autoReconnect : Bool) (events : List ClientEvent) :
    Lawful autoReconnect {} events <->
      Careful autoReconnect false false events :=
  lawful_iff_careful ⟨rfl, fun h => absurd h Bool.false_ne_true⟩ events

/-- A refused challenge leaves its stream open. -/
theorem refused_challenge_leaves_stream_open :
    ¬ forall (autoReconnect : Bool) (events : List ClientEvent),
      Lawful autoReconnect {} events := by
  intro h
  have hrefused := h true [.connect (.failed (.exchange .nonce))]
  have hclosed := (hrefused.2.1 rfl).1
  exact absurd (hclosed .halfway (List.mem_singleton_self _)) (by decide)

end ConnectCalls

end Client
end Hmmp
