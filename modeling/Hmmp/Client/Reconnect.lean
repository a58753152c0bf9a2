import Mathlib.Algebra.Order.Field.Rat
import Mathlib.Data.Rat.Defs
import Mathlib.Tactic.Linarith
import Mathlib.Tactic.Ring

/-!
# Reconnecting with backoff

The loop of {lit}`_reconnect`: it sleeps, tries to establish a connection, and
doubles the interval up to a maximum after every failure.  Another task may stop
the client meanwhile, which the loop sees when it starts over.  Intervals are
exact numbers.
-/

namespace Hmmp
namespace Client

/-- The intervals of a client configuration. -/
structure ReconnectSettings where
  reconnectInterval : Rat := 1
  maxReconnectInterval : Rat := 60

inductive ReconnectPc where
  | sleeping
  | establishing
  /-- The loop has returned, with a connection or without. -/
  | returned (connected : Bool)
  deriving Repr, DecidableEq

structure Reconnecting where
  running : Bool := true
  interval : Rat
  pc : ReconnectPc := ReconnectPc.sleeping
  /-- The sleeps so far, the one that is under way included. -/
  waits : List Rat := []

inductive ReconnectEvent where
  | slept
  | established
  | failed
  /-- Another task sets whether the client is running. -/
  | setRunning (running : Bool)
  deriving Repr, DecidableEq

namespace Reconnecting

def loop (s : Reconnecting) : Reconnecting :=
  if s.running then
    { s with pc := ReconnectPc.sleeping, waits := s.waits ++ [s.interval] }
  else { s with pc := ReconnectPc.returned false }

/-- The loop of a client that is running when its connection is lost. -/
def start (settings : ReconnectSettings) : Reconnecting :=
  loop { interval := settings.reconnectInterval }

def next (settings : ReconnectSettings) (s : Reconnecting) :
    ReconnectEvent -> Option Reconnecting
  | .slept =>
      if s.pc = ReconnectPc.sleeping then
        some { s with pc := ReconnectPc.establishing }
      else none
  | .established =>
      if s.pc = ReconnectPc.establishing then
        some { s with pc := ReconnectPc.returned true }
      else none
  | .failed =>
      if s.pc = ReconnectPc.establishing then
        some (loop
          { s with
            interval :=
              min (s.interval * 2) settings.maxReconnectInterval })
      else none
  | .setRunning running => some { s with running := running }

def run (settings : ReconnectSettings) (s : Reconnecting)
    (events : List ReconnectEvent) : Option Reconnecting :=
  events.foldlM (next settings) s

end Reconnecting

namespace ReconnectSettings

def interval (settings : ReconnectSettings) (failures : Nat) : Rat :=
  if failures = 0 then settings.reconnectInterval
  else min (settings.reconnectInterval * 2 ^ failures)
    settings.maxReconnectInterval

theorem interval_succ {settings : ReconnectSettings}
    (hmax : 0 <= settings.maxReconnectInterval) (failures : Nat) :
    min (settings.interval failures * 2) settings.maxReconnectInterval =
      settings.interval (failures + 1) := by
  have hdouble : settings.maxReconnectInterval <=
      settings.maxReconnectInterval * 2 := by linarith
  unfold interval
  rw [if_neg (Nat.succ_ne_zero failures), pow_succ, ← mul_assoc]
  cases failures with
  | zero => rw [if_pos rfl, pow_zero, mul_one]
  | succ failures =>
      rw [if_neg (Nat.succ_ne_zero failures),
        min_mul_of_nonneg _ _ zero_le_two, min_assoc, min_eq_right hdouble]

/-- No interval is shorter than the first or the longest, whichever is the
shorter, and none is longer than both. -/
theorem interval_bounds {settings : ReconnectSettings}
    (hfirst : 0 <= settings.reconnectInterval) (failures : Nat) :
    min settings.reconnectInterval settings.maxReconnectInterval <=
        settings.interval failures ∧
      settings.interval failures <=
        max settings.reconnectInterval settings.maxReconnectInterval := by
  unfold interval
  split
  · exact ⟨min_le_left _ _, le_max_left _ _⟩
  · have hgrows : settings.reconnectInterval <=
        settings.reconnectInterval * 2 ^ failures :=
      le_mul_of_one_le_right hfirst (one_le_pow₀ one_le_two)
    exact ⟨min_le_min_right _ hgrows,
      (min_le_right _ _).trans (le_max_right _ _)⟩

end ReconnectSettings

namespace Reconnecting

variable {settings : ReconnectSettings} {s s' : Reconnecting}

/-- The sleeps that have begun after a number of failures. -/
def begun (s : Reconnecting) (failures : Nat) : Nat :=
  if s.pc = ReconnectPc.returned false then failures else failures + 1

/-- After a number of failures the sleeps are those of the schedule. -/
structure OnSchedule (settings : ReconnectSettings) (failures : Nat)
    (s : Reconnecting) : Prop where
  interval : s.interval = settings.interval failures
  waits : s.waits =
    (List.range (s.begun failures)).map settings.interval

theorem onSchedule_start (settings : ReconnectSettings) :
    OnSchedule settings 0 (start settings) :=
  ⟨rfl, rfl⟩

theorem OnSchedule.failed (hmax : 0 <= settings.maxReconnectInterval)
    {failures : Nat} (h : OnSchedule settings failures s)
    (hpc : s.pc = ReconnectPc.establishing) :
    OnSchedule settings (failures + 1) (loop
      { s with
        interval := min (s.interval * 2) settings.maxReconnectInterval }) := by
  have hinterval : min (s.interval * 2) settings.maxReconnectInterval =
      settings.interval (failures + 1) := by
    rw [h.interval, ReconnectSettings.interval_succ hmax]
  have hwaits := h.waits
  unfold begun at hwaits
  rw [hpc, if_neg nofun] at hwaits
  unfold loop
  rw [hinterval, hwaits]
  cases s.running with
  | true =>
      refine ⟨rfl, ?_⟩
      show _ ++ [_] = (List.range (failures + 1 + 1)).map _
      rw [List.range_succ (n := failures + 1), List.map_append,
        List.map_singleton]
  | false => exact ⟨rfl, rfl⟩

theorem OnSchedule.next (hmax : 0 <= settings.maxReconnectInterval)
    {failures : Nat} (h : OnSchedule settings failures s)
    {event : ReconnectEvent} (hstep : s.next settings event = some s') :
    OnSchedule settings (failures + [event].count .failed) s' := by
  cases event with
  | slept =>
      rcases Option.ite_none_right_eq_some.mp hstep with ⟨hpc, hstep⟩
      injection hstep with hstep
      subst hstep
      have hwaits := h.waits
      unfold begun at hwaits
      rw [hpc] at hwaits
      exact ⟨h.interval, hwaits⟩
  | established =>
      rcases Option.ite_none_right_eq_some.mp hstep with ⟨hpc, hstep⟩
      injection hstep with hstep
      subst hstep
      have hwaits := h.waits
      unfold begun at hwaits
      rw [hpc] at hwaits
      exact ⟨h.interval, hwaits⟩
  | failed =>
      rcases Option.ite_none_right_eq_some.mp hstep with ⟨hpc, hstep⟩
      injection hstep with hstep
      subst hstep
      exact h.failed hmax hpc
  | setRunning running =>
      injection hstep with hstep
      subst hstep
      exact ⟨h.interval, h.waits⟩

theorem OnSchedule.run (hmax : 0 <= settings.maxReconnectInterval)
    {events : List ReconnectEvent} {failures : Nat}
    (h : OnSchedule settings failures s)
    (hrun : s.run settings events = some s') :
    OnSchedule settings (failures + events.count .failed) s' := by
  induction events generalizing s failures with
  | nil =>
      injection hrun with hrun
      subst hrun
      exact h
  | cons event events ih =>
      rcases Option.bind_eq_some_iff.mp hrun with ⟨mid, hstep, hrun⟩
      have hall := ih (h.next hmax hstep) hrun
      rw [Nat.add_assoc, ← List.count_append, List.singleton_append] at hall
      exact hall

/-!
# How the loop returns
-/

theorem next_connected {event : ReconnectEvent}
    (hstep : s.next settings event = some s') :
    s'.pc = ReconnectPc.returned true <->
      s.pc = ReconnectPc.returned true ∨ event = .established := by
  cases event with
  | slept =>
      rcases Option.ite_none_right_eq_some.mp hstep with ⟨hpc, hstep⟩
      injection hstep with hstep
      simp [← hstep, hpc]
  | established =>
      rcases Option.ite_none_right_eq_some.mp hstep with ⟨_, hstep⟩
      injection hstep with hstep
      simp [← hstep]
  | failed =>
      rcases Option.ite_none_right_eq_some.mp hstep with ⟨hpc, hstep⟩
      injection hstep with hstep
      subst hstep
      unfold loop
      split
      · simp [hpc]
      · simp [hpc]
  | setRunning running =>
      injection hstep with hstep
      simp [← hstep]

theorem run_connected {events : List ReconnectEvent}
    (hrun : s.run settings events = some s') :
    s'.pc = ReconnectPc.returned true <->
      s.pc = ReconnectPc.returned true ∨
        ReconnectEvent.established ∈ events := by
  induction events generalizing s with
  | nil =>
      injection hrun with hrun
      simp [hrun]
  | cons event events ih =>
      rcases Option.bind_eq_some_iff.mp hrun with ⟨mid, hstep, hrun⟩
      rw [ih hrun, next_connected hstep, List.mem_cons, or_assoc,
        eq_comm (a := event)]

theorem next_gaveUp {event : ReconnectEvent}
    (hstep : s.next settings event = some s')
    (hpc : s'.pc = ReconnectPc.returned false) :
    s.pc = ReconnectPc.returned false ∨
      event = .failed ∧ s.running = false := by
  cases event with
  | slept =>
      rcases Option.ite_none_right_eq_some.mp hstep with ⟨_, hstep⟩
      injection hstep with hstep
      subst hstep
      cases hpc
  | established =>
      rcases Option.ite_none_right_eq_some.mp hstep with ⟨_, hstep⟩
      injection hstep with hstep
      subst hstep
      cases hpc
  | failed =>
      rcases Option.ite_none_right_eq_some.mp hstep with ⟨_, hstep⟩
      injection hstep with hstep
      subst hstep
      right
      cases hrunning : s.running with
      | true =>
          simp [loop, hrunning] at hpc
      | false => exact ⟨rfl, rfl⟩
  | setRunning running =>
      injection hstep with hstep
      subst hstep
      exact Or.inl hpc

theorem run_gaveUp {events : List ReconnectEvent}
    (hrun : s.run settings events = some s')
    (hpc : s'.pc = ReconnectPc.returned false) :
    s.pc = ReconnectPc.returned false ∨ exists before after mid,
      events = before ++ .failed :: after ∧
        s.run settings before = some mid ∧ mid.running = false := by
  induction events generalizing s with
  | nil =>
      injection hrun with hrun
      subst hrun
      exact Or.inl hpc
  | cons event events ih =>
      rcases Option.bind_eq_some_iff.mp hrun with ⟨next, hstep, hrun⟩
      rcases ih hrun with hgone | ⟨before, after, mid, rfl, hbefore, hmid⟩
      · rcases next_gaveUp hstep hgone with hgone | ⟨rfl, hrunning⟩
        · exact Or.inl hgone
        · exact Or.inr ⟨[], events, s, rfl, rfl, hrunning⟩
      · refine Or.inr ⟨event :: before, after, mid, rfl, ?_, hmid⟩
        exact Option.bind_eq_some_iff.mpr ⟨next, hstep, hbefore⟩

/-- In every run of the loop the sleeps are those of the schedule, one before
each attempt; none is shorter or longer than the configuration allows.  The loop
returns with a connection exactly if an attempt succeeds, and without one only
after an attempt that failed while the client was not running. -/
theorem reconnect_waits (settings : ReconnectSettings)
    (hmax : 0 <= settings.maxReconnectInterval)
    (hfirst : 0 <= settings.reconnectInterval)
    (events : List ReconnectEvent) (s : Reconnecting)
    (hrun : (start settings).run settings events = some s) :
    s.waits =
        (List.range (s.begun (events.count .failed))).map
          settings.interval ∧
    (forall wait, wait ∈ s.waits ->
      min settings.reconnectInterval settings.maxReconnectInterval <= wait ∧
        wait <=
          max settings.reconnectInterval settings.maxReconnectInterval) ∧
    (s.pc = ReconnectPc.returned true <->
      ReconnectEvent.established ∈ events) ∧
    (s.pc = ReconnectPc.returned false -> exists before after mid,
      events = before ++ .failed :: after ∧
        (start settings).run settings before = some mid ∧
          mid.running = false) := by
  have hschedule := (onSchedule_start settings).run hmax hrun
  rw [Nat.zero_add] at hschedule
  have hbegun : (start settings).pc = ReconnectPc.sleeping := rfl
  refine ⟨hschedule.waits, ?_, ?_, ?_⟩
  · intro wait hwait
    rw [hschedule.waits] at hwait
    rcases List.mem_map.mp hwait with ⟨failures, _, rfl⟩
    exact ReconnectSettings.interval_bounds hfirst failures
  · rw [run_connected hrun, hbegun]
    simp
  · intro hpc
    rcases run_gaveUp hrun hpc with hgone | hfailed
    · rw [hbegun] at hgone
      cases hgone
    · exact hfailed

/-- Three failures with an interval of one and a maximum of five. -/
def threeFailures : List ReconnectEvent :=
  [.slept, .failed, .slept, .failed, .slept, .failed]

theorem reconnect_waits_threeFailures :
    exists s, (start { maxReconnectInterval := 5 }).run
        { maxReconnectInterval := 5 } threeFailures = some s ∧
      s.waits = [1, 2, 4, 5] := by
  refine ⟨_, rfl, ?_⟩
  have hwaits := (reconnect_waits { maxReconnectInterval := 5 } (by decide)
    (by decide) threeFailures _ rfl).1
  rw [hwaits]
  decide +kernel

end Reconnecting

end Client
end Hmmp
