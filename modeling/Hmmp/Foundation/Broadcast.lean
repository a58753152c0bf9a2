import Hmmp.Foundation.Transition
import Mathlib.Data.List.Chain

/-!
# Broadcasts

Listeners subscribe to topics.  A message is passed to the listeners of its
topic one after another, and the next message is taken when the last listener
is done.  Listeners may subscribe at any time: one that subscribes to the topic
of the message in hand still gets it.
-/

namespace Hmmp
namespace Foundation

variable {τ ℓ μ : Type}

/-- A call of the listener at a position of the topic of a message. -/
structure ListenerCall (ℓ μ : Type) where
  position : Nat
  listener : ℓ
  message : μ

structure Broadcaster (τ ℓ μ : Type) where
  listeners : τ -> List ℓ
  /-- The message that is passed on, and the position of the listener called
  last. -/
  inHand : Option (μ × Nat) := none
  calls : List (ListenerCall ℓ μ) := []

inductive BroadcastEvent (τ ℓ μ : Type) where
  | subscribe (topic : τ) (listener : ℓ)
  | publish (message : μ)
  | returned

namespace Broadcaster

/-- A message from the listener at a position on: it is called if there is one,
else nothing is in hand. -/
def passOn (topicOf : μ -> τ) (b : Broadcaster τ ℓ μ) (message : μ)
    (position : Nat) : Broadcaster τ ℓ μ :=
  match (b.listeners (topicOf message))[position]? with
  | some listener =>
      { b with
        inHand := some (message, position)
        calls := b.calls ++
          [{ position := position, listener := listener, message := message }] }
  | none => { b with inHand := none }

def subscribe [DecidableEq τ] (b : Broadcaster τ ℓ μ) (topic : τ)
    (listener : ℓ) : Broadcaster τ ℓ μ :=
  { b with
    listeners := fun t =>
      if t = topic then b.listeners t ++ [listener] else b.listeners t }

variable [DecidableEq τ]

def next (topicOf : μ -> τ) (b : Broadcaster τ ℓ μ) :
    BroadcastEvent τ ℓ μ -> Option (Broadcaster τ ℓ μ)
  | .subscribe topic listener => some (b.subscribe topic listener)
  | .publish message =>
      match b.inHand with
      | none => some (b.passOn topicOf message 0)
      | some _ => none
  | .returned =>
      match b.inHand with
      | none => none
      | some (message, position) =>
          some (b.passOn topicOf message (position + 1))

/-- What the listener at a position of a topic has been called with. -/
def heardAt (topicOf : μ -> τ) (topic : τ) (position : Nat)
    (b : Broadcaster τ ℓ μ) : List μ :=
  (b.calls.filter fun call =>
    decide (topicOf call.message = topic ∧ call.position = position)).map
      ListenerCall.message

/-- The message in hand, if it is one of the topic. -/
def inHandOf (topicOf : μ -> τ) (topic : τ) (b : Broadcaster τ ℓ μ) : List μ :=
  match b.inHand with
  | some (message, _) => if topicOf message = topic then [message] else []
  | none => []

/-- The message in hand, if it is one of the topic and the listener at the
position has yet to be called with it. -/
def awaitedAt (topicOf : μ -> τ) (topic : τ) (position : Nat)
    (b : Broadcaster τ ℓ μ) : List μ :=
  match b.inHand with
  | some (message, called) =>
      if topicOf message = topic ∧ called < position then [message] else []
  | none => []

def published (topicOf : μ -> τ) (topic : τ) :
    List (BroadcastEvent τ ℓ μ) -> List μ
  | [] => []
  | .publish message :: events =>
      if topicOf message = topic then message :: published topicOf topic events
      else published topicOf topic events
  | _ :: events => published topicOf topic events

/-- A call is followed by one of the next listener with the same message, or by
the first one with a new message. -/
def Follows (first second : ListenerCall ℓ μ) : Prop :=
  second.position = 0 ∨
    second.message = first.message ∧ second.position = first.position + 1

/-- Every call was one of the listener at its position, the listener called
last is at the position in hand, and calls follow one another. -/
structure Sound (topicOf : μ -> τ) (b : Broadcaster τ ℓ μ) : Prop where
  called : forall call, call ∈ b.calls ->
    (b.listeners (topicOf call.message))[call.position]? = some call.listener
  inHand : forall message position, b.inHand = some (message, position) ->
    exists listener, b.calls.getLast? =
      some { position := position, listener := listener, message := message }
  chained : b.calls.IsChain Follows

/-!
# Single steps
-/

variable {topicOf : μ -> τ} {b b' : Broadcaster τ ℓ μ}

omit [DecidableEq τ] in
theorem passOn_listeners (b : Broadcaster τ ℓ μ) (message : μ)
    (position : Nat) :
    (b.passOn topicOf message position).listeners = b.listeners := by
  unfold passOn
  split <;> rfl

theorem next_cases {event : BroadcastEvent τ ℓ μ}
    (h : b.next topicOf event = some b') :
    (exists topic listener, event = .subscribe topic listener ∧
      b' = b.subscribe topic listener) ∨
    (exists message, event = .publish message ∧ b.inHand = none ∧
      b' = b.passOn topicOf message 0) ∨
    exists message position, event = .returned ∧
      b.inHand = some (message, position) ∧
      b' = b.passOn topicOf message (position + 1) := by
  cases event with
  | subscribe topic listener =>
      injection h with h
      exact Or.inl ⟨topic, listener, rfl, h.symm⟩
  | publish message =>
      cases hinHand : b.inHand with
      | none =>
          simp only [next, hinHand, Option.some.injEq] at h
          exact Or.inr (Or.inl ⟨message, rfl, rfl, h.symm⟩)
      | some held =>
          simp only [next, hinHand] at h
          cases h
  | returned =>
      cases hinHand : b.inHand with
      | none =>
          simp only [next, hinHand] at h
          cases h
      | some held =>
          rcases held with ⟨message, position⟩
          simp only [next, hinHand, Option.some.injEq] at h
          exact Or.inr (Or.inr ⟨message, position, rfl, rfl, h.symm⟩)

theorem subscribe_getElem? {topic t : τ} {listener l : ℓ} {position : Nat}
    (h : (b.listeners t)[position]? = some l) :
    ((b.subscribe topic listener).listeners t)[position]? = some l := by
  show (if t = topic then b.listeners t ++ [listener]
    else b.listeners t)[position]? = some l
  split
  · rw [List.getElem?_append_left (List.getElem?_eq_some_iff.mp h).1]
    exact h
  · exact h

theorem next_getElem? {event : BroadcastEvent τ ℓ μ} {t : τ} {l : ℓ}
    {position : Nat} (hstep : b.next topicOf event = some b')
    (h : (b.listeners t)[position]? = some l) :
    (b'.listeners t)[position]? = some l := by
  rcases next_cases hstep with ⟨topic, listener, -, rfl⟩ |
    ⟨message, -, -, rfl⟩ | ⟨message, called, -, -, rfl⟩
  · exact subscribe_getElem? h
  · rw [passOn_listeners]
    exact h
  · rw [passOn_listeners]
    exact h

theorem passOn_balance {topic : τ} {position k : Nat}
    (hk : k < (b.listeners topic).length) (message : μ) :
    heardAt topicOf topic k (b.passOn topicOf message position) ++
        awaitedAt topicOf topic k (b.passOn topicOf message position) =
      heardAt topicOf topic k b ++
        if topicOf message = topic ∧ position <= k then [message] else [] := by
  unfold passOn
  cases hfound : (b.listeners (topicOf message))[position]? with
  | none =>
      have hlate : ¬ (topicOf message = topic ∧ position <= k) := by
        rintro ⟨htopic, hposition⟩
        rw [htopic, List.getElem?_eq_none_iff] at hfound
        omega
      rw [if_neg hlate]
      rfl
  | some listener =>
      unfold heardAt awaitedAt
      simp only [List.filter_append, List.map_append, List.append_assoc]
      congr 1
      by_cases htopic : topicOf message = topic
      · rcases Nat.lt_trichotomy position k with hlt | heq | hgt
        · simp [htopic, Nat.ne_of_lt hlt, hlt, Nat.le_of_lt hlt]
        · simp [htopic, heq]
        · simp [htopic, Nat.ne_of_gt hgt, Nat.not_lt_of_gt hgt,
            Nat.not_le_of_gt hgt]
      · simp [htopic]

theorem next_balance {event : BroadcastEvent τ ℓ μ} {topic : τ} {k : Nat}
    (hk : k < (b.listeners topic).length)
    (hstep : b.next topicOf event = some b') :
    heardAt topicOf topic k b' ++ awaitedAt topicOf topic k b' =
      heardAt topicOf topic k b ++ awaitedAt topicOf topic k b ++
        published topicOf topic [event] := by
  rcases next_cases hstep with ⟨t, listener, rfl, rfl⟩ |
    ⟨message, rfl, hnone, rfl⟩ | ⟨message, called, rfl, hsome, rfl⟩
  · exact (List.append_nil _).symm
  · rw [passOn_balance hk]
    unfold awaitedAt
    simp [hnone, published]
  · rw [passOn_balance hk]
    unfold awaitedAt
    simp [hsome, published, Nat.succ_le_iff]

/-!
# Soundness
-/

omit [DecidableEq τ] in
theorem sound_passOn (h : Sound topicOf b) {message : μ} {position : Nat}
    (hfollows : forall call, call ∈ b.calls.getLast? -> forall listener,
      Follows call
        { position := position, listener := listener, message := message }) :
    Sound topicOf (b.passOn topicOf message position) := by
  unfold passOn
  cases hfound : (b.listeners (topicOf message))[position]? with
  | none =>
      refine ⟨h.called, fun _ _ hnone => ?_, h.chained⟩
      cases hnone
  | some listener =>
      refine ⟨?_, ?_, ?_⟩
      · intro call hcall
        rcases List.mem_append.mp hcall with hold | hnew
        · exact h.called call hold
        · rw [List.mem_singleton.mp hnew]
          exact hfound
      · intro m p hinHand
        injection hinHand with hinHand
        injection hinHand with hm hp
        subst hm
        subst hp
        exact ⟨listener, List.getLast?_concat⟩
      · refine h.chained.append (List.isChain_singleton _) ?_
        intro call hcall other hother
        injection hother with hother
        rw [← hother]
        exact hfollows call hcall listener

theorem sound_next (h : Sound topicOf b) {event : BroadcastEvent τ ℓ μ}
    (hstep : b.next topicOf event = some b') : Sound topicOf b' := by
  rcases next_cases hstep with ⟨topic, listener, -, rfl⟩ |
    ⟨message, -, -, rfl⟩ | ⟨message, position, -, hinHand, rfl⟩
  · exact ⟨fun call hcall => subscribe_getElem? (h.called call hcall),
      h.inHand, h.chained⟩
  · exact sound_passOn h fun _ _ _ => Or.inl rfl
  · refine sound_passOn h fun call hcall listener => Or.inr ?_
    rcases h.inHand message position hinHand with ⟨last, hlast⟩
    rw [hlast] at hcall
    injection hcall with hcall
    rw [← hcall]
    exact ⟨rfl, rfl⟩

/-!
# Runs
-/

def run (topicOf : μ -> τ) (b : Broadcaster τ ℓ μ)
    (events : List (BroadcastEvent τ ℓ μ)) : Option (Broadcaster τ ℓ μ) :=
  events.foldlM (next topicOf) b

theorem run_cons_eq_some {event : BroadcastEvent τ ℓ μ}
    {events : List (BroadcastEvent τ ℓ μ)} :
    b.run topicOf (event :: events) = some b' <->
      exists mid, b.next topicOf event = some mid ∧
        mid.run topicOf events = some b' := by
  unfold run
  rw [List.foldlM_cons]
  exact Option.bind_eq_some_iff

theorem run_append_eq_some {events others : List (BroadcastEvent τ ℓ μ)} :
    b.run topicOf (events ++ others) = some b' <->
      exists mid, b.run topicOf events = some mid ∧
        mid.run topicOf others = some b' := by
  unfold run
  rw [List.foldlM_append]
  exact Option.bind_eq_some_iff

theorem run_sound (h : Sound topicOf b)
    {events : List (BroadcastEvent τ ℓ μ)}
    (hrun : b.run topicOf events = some b') : Sound topicOf b' := by
  induction events generalizing b with
  | nil =>
      injection hrun with hrun
      exact hrun ▸ h
  | cons event events ih =>
      rcases run_cons_eq_some.mp hrun with ⟨mid, hstep, hrest⟩
      exact ih (sound_next h hstep) hrest

theorem run_getElem? {events : List (BroadcastEvent τ ℓ μ)} {t : τ} {l : ℓ}
    {position : Nat} (h : (b.listeners t)[position]? = some l)
    (hrun : b.run topicOf events = some b') :
    (b'.listeners t)[position]? = some l := by
  induction events generalizing b with
  | nil =>
      injection hrun with hrun
      exact hrun ▸ h
  | cons event events ih =>
      rcases run_cons_eq_some.mp hrun with ⟨mid, hstep, hrest⟩
      exact ih (next_getElem? hstep h) hrest

theorem published_cons (topicOf : μ -> τ) (topic : τ)
    (event : BroadcastEvent τ ℓ μ) (events : List (BroadcastEvent τ ℓ μ)) :
    published topicOf topic (event :: events) =
      published topicOf topic [event] ++ published topicOf topic events := by
  cases event with
  | subscribe t listener => rfl
  | returned => rfl
  | publish message =>
      by_cases h : topicOf message = topic
      · simp [published, h]
      · simp [published, h]

theorem run_balance {events : List (BroadcastEvent τ ℓ μ)} {topic : τ}
    {position : Nat} {l : ℓ} (h : (b.listeners topic)[position]? = some l)
    (hrun : b.run topicOf events = some b') :
    heardAt topicOf topic position b' ++ awaitedAt topicOf topic position b' =
      heardAt topicOf topic position b ++
        awaitedAt topicOf topic position b ++
          published topicOf topic events := by
  induction events generalizing b with
  | nil =>
      injection hrun with hrun
      rw [hrun]
      exact (List.append_nil _).symm
  | cons event events ih =>
      rcases run_cons_eq_some.mp hrun with ⟨mid, hstep, hrest⟩
      rw [ih (next_getElem? hstep h) hrest,
        next_balance (List.getElem?_eq_some_iff.mp h).1 hstep,
        published_cons topicOf topic event events, List.append_assoc]

theorem unsubscribed_balance (h : Sound topicOf b) (topic : τ) :
    heardAt topicOf topic (b.listeners topic).length b ++
        awaitedAt topicOf topic (b.listeners topic).length b =
      inHandOf topicOf topic b := by
  have hheard : heardAt topicOf topic (b.listeners topic).length b = [] := by
    unfold heardAt
    rw [List.map_eq_nil_iff, List.filter_eq_nil_iff]
    intro call hcall hat
    rcases of_decide_eq_true hat with ⟨htopic, hposition⟩
    have hfound := h.called call hcall
    rw [htopic, hposition, List.getElem?_length] at hfound
    cases hfound
  rw [hheard, List.nil_append]
  unfold awaitedAt inHandOf
  cases hinHand : b.inHand with
  | none => rfl
  | some held =>
      rcases held with ⟨message, position⟩
      rcases h.inHand message position hinHand with ⟨listener, hlast⟩
      have hfound := h.called _ (List.mem_of_getLast? hlast)
      have hlt := (List.getElem?_eq_some_iff.mp hfound).1
      by_cases htopic : topicOf message = topic
      · subst htopic
        simp [hlt]
      · simp [htopic]

theorem subscribe_self (b : Broadcaster τ ℓ μ) (topic : τ) (l : ℓ) :
    ((b.subscribe topic l).listeners topic)[(b.listeners topic).length]? =
      some l := by
  show (if topic = topic then b.listeners topic ++ [l]
    else b.listeners topic)[(b.listeners topic).length]? = some l
  rw [if_pos rfl, List.getElem?_concat_length]

theorem listener_since {topic : τ} {l : ℓ}
    {events : List (BroadcastEvent τ ℓ μ)}
    (hrun : b.run topicOf (.subscribe topic l :: events) = some b') :
    (b'.listeners topic)[(b.listeners topic).length]? = some l := by
  rcases run_cons_eq_some.mp hrun with ⟨mid, hstep, hrest⟩
  injection hstep with hstep
  subst hstep
  exact run_getElem? (b.subscribe_self topic l) hrest

/-- A listener hears the message of its topic that was in hand when it
subscribed and all that were published since, in their order, once each. -/
theorem heard_since (h : Sound topicOf b) {topic : τ} {l : ℓ}
    {events : List (BroadcastEvent τ ℓ μ)}
    (hrun : b.run topicOf (.subscribe topic l :: events) = some b') :
    heardAt topicOf topic (b.listeners topic).length b' ++
        awaitedAt topicOf topic (b.listeners topic).length b' =
      inHandOf topicOf topic b ++ published topicOf topic events := by
  rcases run_cons_eq_some.mp hrun with ⟨mid, hstep, hrest⟩
  injection hstep with hstep
  subst hstep
  rw [run_balance (b.subscribe_self topic l) hrest,
    ← unsubscribed_balance h topic]
  rfl

end Broadcaster

end Foundation
end Hmmp
