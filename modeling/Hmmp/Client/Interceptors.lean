import Hmmp.Wire.Frame
import Hmmp.Wire.Governance

/-!
# Frame interceptors

A composite interceptor is a chain of interceptors, some of which may be
composites again.  However they are nested, a frame goes through the leaves from
left to right: each sees what the one before it has made of the frame, a
reported error stops none of them, and an exception stops all that follow.
-/

namespace Hmmp
namespace Client

open Foundation
open Wire

structure GovernanceFrameInterceptor where
  traceId : Option Bytes := none
  spanId : Option Bytes := none
  trafficTag : Option Text := none
  circuitBreakerOpenServices : List Text := []

/-- The body of a response begins with one of these codes. -/
inductive CircuitBreakerStatus where
  | open_
  | instanceDegraded

def CircuitBreakerStatus.code : CircuitBreakerStatus -> UInt8
  | open_ => 0x85
  | instanceDegraded => 0x86

namespace GovernanceFrameInterceptor

/-- The frame is sent as it is, whatever context has been set. -/
def onBeforeSend (_ : GovernanceFrameInterceptor) (frameData : Bytes)
    (_ : OpCode) : Bytes :=
  frameData

/-- The governance block of a frame, if there is one that can be parsed; what
parsing raises is logged. -/
def governanceOf (frame : Frame) : Option GovernanceBlock :=
  match frame.governanceBlock with
  | none => none
  | some [] => none
  | some block =>
      match parseGovernanceBlock block with
      | Except.ok gov => some gov
      | Except.error _ => none

/-- What the interceptor does with a parsed block: it is only logged. -/
def processGovernanceBlock (g : GovernanceFrameInterceptor)
    (_ : GovernanceBlock) : GovernanceFrameInterceptor :=
  g

/-- Whether the frame signals an open breaker, and the interceptor after it. -/
def onAfterReceive (g : GovernanceFrameInterceptor) (frame : Frame) :
    Bool × GovernanceFrameInterceptor :=
  let isGovernanceError :=
    match frame.body with
    | [] => false
    | status :: _ =>
        if status = CircuitBreakerStatus.open_.code then true
        else if status = CircuitBreakerStatus.instanceDegraded.code then false
        else false
  match governanceOf frame with
  | some gov => (isGovernanceError, g.processGovernanceBlock gov)
  | none => (isGovernanceError, g)

def isCircuitBreakerOpen (g : GovernanceFrameInterceptor)
    (serviceKey : Text) : Bool :=
  g.circuitBreakerOpenServices.contains serviceKey

end GovernanceFrameInterceptor

/-- An interceptor of a class the caller has written. -/
structure CustomInterceptor where
  onBeforeSend : Bytes -> OpCode -> Except PyError Bytes
  onAfterReceive : Frame -> Except PyError Bool

/-- Interceptors, each with its identity. -/
inductive FrameInterceptor where
  | governance (id : Nat) (g : GovernanceFrameInterceptor)
  | custom (id : Nat) (c : CustomInterceptor)
  | composite (id : Nat) (interceptors : List FrameInterceptor)

/-- The interceptors that were called, and what the call returned. -/
structure Reception where
  called : List Nat
  result : Except PyError Bool

namespace FrameInterceptor

def identity : FrameInterceptor -> Nat
  | governance id _ => id
  | custom id _ => id
  | composite id _ => id

mutual

def onBeforeSend (frameData : Bytes) (opcode : OpCode) :
    FrameInterceptor -> Except PyError Bytes
  | governance _ g => pure (g.onBeforeSend frameData opcode)
  | custom _ c => c.onBeforeSend frameData opcode
  | composite _ interceptors => sendThrough frameData opcode interceptors

/-- Each interceptor gets what the one before it returned. -/
def sendThrough (frameData : Bytes) (opcode : OpCode) :
    List FrameInterceptor -> Except PyError Bytes
  | [] => pure frameData
  | interceptor :: rest => do
      let frameData ← interceptor.onBeforeSend frameData opcode
      sendThrough frameData opcode rest

end

mutual

def onAfterReceive (frame : Frame) : FrameInterceptor -> Reception
  | governance id g =>
      { called := [id], result := Except.ok (g.onAfterReceive frame).1 }
  | custom id c => { called := [id], result := c.onAfterReceive frame }
  | composite _ interceptors => receiveThrough frame false interceptors

/-- Every interceptor is called, unless one raises. -/
def receiveThrough (frame : Frame) (isError : Bool) :
    List FrameInterceptor -> Reception
  | [] => { called := [], result := Except.ok isError }
  | interceptor :: rest =>
      let first := interceptor.onAfterReceive frame
      match first.result with
      | Except.error e => { called := first.called, result := Except.error e }
      | Except.ok reported =>
          let others := receiveThrough frame (isError || reported) rest
          { called := first.called ++ others.called
            result := others.result }

end

/-- Add an interceptor at the end of a composite one's chain. -/
def addInterceptor (interceptors : List FrameInterceptor)
    (interceptor : FrameInterceptor) : List FrameInterceptor :=
  interceptors ++ [interceptor]

/-- Remove the first occurrence of an interceptor from a chain. -/
def removeInterceptor (id : Nat) :
    List FrameInterceptor -> Except PyError (List FrameInterceptor)
  | [] => throw (PyError.valueError "list.remove(x): x not in list")
  | interceptor :: rest =>
      if interceptor.identity = id then pure rest
      else do
        let rest ← removeInterceptor id rest
        pure (interceptor :: rest)

/-!
# Leaves
-/

mutual

/-- The interceptors of a tree that are no composites, from left to right. -/
def leaves : FrameInterceptor -> List FrameInterceptor
  | composite _ interceptors => leavesOf interceptors
  | leaf => [leaf]

def leavesOf : List FrameInterceptor -> List FrameInterceptor
  | [] => []
  | interceptor :: rest => interceptor.leaves ++ leavesOf rest

end

/-- What a call of the interceptor returns or raises. -/
def answer (frame : Frame) (interceptor : FrameInterceptor) :
    Except PyError Bool :=
  (interceptor.onAfterReceive frame).result

theorem sendThrough_append (frameData : Bytes) (opcode : OpCode)
    (first second : List FrameInterceptor) :
    sendThrough frameData opcode (first ++ second) =
      sendThrough frameData opcode first >>= fun data =>
        sendThrough data opcode second := by
  induction first generalizing frameData with
  | nil => simp [sendThrough]
  | cons interceptor first ih =>
      simp only [List.cons_append, sendThrough, bind_assoc, ih]

theorem sendThrough_single (frameData : Bytes) (opcode : OpCode)
    (interceptor : FrameInterceptor) :
    sendThrough frameData opcode [interceptor] =
      interceptor.onBeforeSend frameData opcode := by
  simp [sendThrough]

theorem receiveThrough_append (frame : Frame) (isError : Bool)
    (first second : List FrameInterceptor) :
    receiveThrough frame isError (first ++ second) =
      match (receiveThrough frame isError first).result with
      | Except.error _ => receiveThrough frame isError first
      | Except.ok reported =>
          { called := (receiveThrough frame isError first).called ++
              (receiveThrough frame reported second).called
            result := (receiveThrough frame reported second).result } := by
  induction first generalizing isError with
  | nil => simp [receiveThrough]
  | cons interceptor first ih =>
      simp only [List.cons_append, receiveThrough]
      cases (interceptor.onAfterReceive frame).result with
      | error e => rfl
      | ok reported =>
          simp only [ih]
          cases hfirst :
              (receiveThrough frame (isError || reported) first).result with
          | error e => simp only [hfirst]
          | ok others => simp only [List.append_assoc]

theorem receiveThrough_single (frame : Frame) (isError : Bool)
    (interceptor : FrameInterceptor) :
    receiveThrough frame isError [interceptor] =
      { called := (interceptor.onAfterReceive frame).called
        result :=
          (interceptor.onAfterReceive frame).result.map (isError || ·) } := by
  simp only [receiveThrough]
  cases hresult : (interceptor.onAfterReceive frame).result with
  | error e => rfl
  | ok reported => simp [Except.map]

theorem receiveThrough_reported (frame : Frame) (isError : Bool)
    (interceptors : List FrameInterceptor) :
    receiveThrough frame isError interceptors =
      { called := (receiveThrough frame false interceptors).called
        result := (receiveThrough frame false interceptors).result.map
          (isError || ·) } := by
  induction interceptors generalizing isError with
  | nil => simp [receiveThrough, Except.map]
  | cons interceptor rest ih =>
      simp only [receiveThrough]
      cases (interceptor.onAfterReceive frame).result with
      | error e => rfl
      | ok reported =>
          simp only [Bool.false_or]
          rw [ih (isError || reported), ih reported]
          cases (receiveThrough frame false rest).result with
          | error e => rfl
          | ok others => simp [Except.map, Bool.or_assoc]

/-!
# Flat chains
-/

mutual

theorem onBeforeSend_leaves (frameData : Bytes) (opcode : OpCode) :
    forall interceptor : FrameInterceptor,
      interceptor.onBeforeSend frameData opcode =
        sendThrough frameData opcode interceptor.leaves
  | governance id g => by
      rw [leaves, sendThrough_single]
      intro _ _ h
      cases h
  | custom id c => by
      rw [leaves, sendThrough_single]
      intro _ _ h
      cases h
  | composite id interceptors => by
      rw [onBeforeSend, leaves]
      exact sendThrough_leaves frameData opcode interceptors

theorem sendThrough_leaves (frameData : Bytes) (opcode : OpCode) :
    forall interceptors : List FrameInterceptor,
      sendThrough frameData opcode interceptors =
        sendThrough frameData opcode (leavesOf interceptors)
  | [] => rfl
  | interceptor :: rest => by
      rw [leavesOf, sendThrough_append, sendThrough,
        onBeforeSend_leaves frameData opcode interceptor]
      congr 1
      funext data
      exact sendThrough_leaves data opcode rest

end

mutual

/-- An interceptor treats a frame received as its leaves do one by one. -/
theorem onAfterReceive_leaves (frame : Frame) :
    forall interceptor : FrameInterceptor,
      interceptor.onAfterReceive frame =
        receiveThrough frame false interceptor.leaves
  | governance id g => by
      rw [leaves, receiveThrough_single]
      · simp [onAfterReceive, Except.map]
      · intro _ _ h
        cases h
  | custom id c => by
      rw [leaves, receiveThrough_single]
      · cases hresult : c.onAfterReceive frame with
        | error e => simp [onAfterReceive, Except.map, hresult]
        | ok reported => simp [onAfterReceive, Except.map, hresult]
      · intro _ _ h
        cases h
  | composite id interceptors => by
      rw [onAfterReceive, leaves]
      exact receiveThrough_leaves frame false interceptors

theorem receiveThrough_leaves (frame : Frame) (isError : Bool) :
    forall interceptors : List FrameInterceptor,
      receiveThrough frame isError interceptors =
        receiveThrough frame isError (leavesOf interceptors)
  | [] => rfl
  | interceptor :: rest => by
      rw [leavesOf, receiveThrough_append, receiveThrough,
        receiveThrough_reported frame isError interceptor.leaves,
        onAfterReceive_leaves frame interceptor]
      cases (receiveThrough frame false interceptor.leaves).result with
      | error e => rfl
      | ok reported =>
          simp only [Except.map]
          rw [receiveThrough_leaves frame (isError || reported) rest]

end

mutual

theorem leaves_called (frame : Frame) :
    forall interceptor : FrameInterceptor,
      forall leaf, leaf ∈ interceptor.leaves ->
        (leaf.onAfterReceive frame).called = [leaf.identity]
  | governance id g => by
      intro leaf hleaf
      simp only [leaves, List.mem_singleton] at hleaf
      subst hleaf
      rfl
  | custom id c => by
      intro leaf hleaf
      simp only [leaves, List.mem_singleton] at hleaf
      subst hleaf
      rfl
  | composite id interceptors => by
      rw [leaves]
      exact leavesOf_called frame interceptors

theorem leavesOf_called (frame : Frame) :
    forall interceptors : List FrameInterceptor,
      forall leaf, leaf ∈ leavesOf interceptors ->
        (leaf.onAfterReceive frame).called = [leaf.identity]
  | [] => by
      intro leaf hleaf
      cases hleaf
  | interceptor :: rest => by
      intro leaf hleaf
      rcases List.mem_append.mp hleaf with hfirst | hrest
      · exact leaves_called frame interceptor leaf hfirst
      · exact leavesOf_called frame rest leaf hrest

end

theorem sendThrough_eq_foldlM (frameData : Bytes) (opcode : OpCode)
    (interceptors : List FrameInterceptor) :
    sendThrough frameData opcode interceptors =
      interceptors.foldlM
        (fun data interceptor => interceptor.onBeforeSend data opcode)
        frameData := by
  induction interceptors generalizing frameData with
  | nil => rfl
  | cons interceptor rest ih => simp only [sendThrough, List.foldlM_cons, ih]

/-- The interceptors of a chain that a frame reaches: those up to the first
whose call raises. -/
def reached (frame : Frame) : List FrameInterceptor -> List FrameInterceptor
  | [] => []
  | interceptor :: rest =>
      if (interceptor.answer frame).isOk then interceptor :: reached frame rest
      else [interceptor]

theorem receiveThrough_called {frame : Frame}
    {interceptors : List FrameInterceptor}
    (h : forall leaf, leaf ∈ interceptors ->
      (leaf.onAfterReceive frame).called = [leaf.identity]) :
    (receiveThrough frame false interceptors).called =
      (reached frame interceptors).map identity := by
  induction interceptors with
  | nil => rfl
  | cons interceptor rest ih =>
      rcases List.forall_mem_cons.mp h with ⟨hfirst, hrest⟩
      unfold reached answer
      simp only [receiveThrough, hfirst]
      cases hresult : (interceptor.onAfterReceive frame).result with
      | error e => simp [Except.isOk, Except.toBool]
      | ok reported =>
          simp only [Except.isOk, Except.toBool, if_true, List.map_cons]
          rw [receiveThrough_reported, ih hrest]
          rfl

theorem receiveThrough_result (frame : Frame)
    (interceptors : List FrameInterceptor) :
    (receiveThrough frame false interceptors).result =
      (interceptors.mapM (answer frame)).map (List.any · id) := by
  induction interceptors with
  | nil => rfl
  | cons interceptor rest ih =>
      rw [List.mapM_cons]
      unfold answer
      simp only [receiveThrough]
      cases (interceptor.onAfterReceive frame).result with
      | error e => rfl
      | ok reported =>
          simp only [Bool.false_or]
          rw [receiveThrough_reported, ih]
          unfold answer
          cases rest.mapM fun other => (other.onAfterReceive frame).result with
          | error e => rfl
          | ok others => rfl

theorem leavesOf_append (first second : List FrameInterceptor) :
    leavesOf (first ++ second) = leavesOf first ++ leavesOf second := by
  induction first with
  | nil => rfl
  | cons interceptor rest ih =>
      rw [List.cons_append, leavesOf, leavesOf, ih, List.append_assoc]

theorem first_or_absent (id : Nat) (interceptors : List FrameInterceptor) :
    (exists before interceptor after,
      interceptors = before ++ interceptor :: after ∧
      interceptor.identity = id ∧
      forall other, other ∈ before -> other.identity ≠ id) ∨
    forall other, other ∈ interceptors -> other.identity ≠ id := by
  induction interceptors with
  | nil =>
      right
      intro other hother
      cases hother
  | cons interceptor rest ih =>
      by_cases hid : interceptor.identity = id
      · left
        refine ⟨[], interceptor, rest, rfl, hid, fun other hother => ?_⟩
        cases hother
      · rcases ih with ⟨before, found, after, hsplit, hfound, hnone⟩ | habsent
        · left
          refine ⟨interceptor :: before, found, after, ?_, hfound, ?_⟩
          · rw [hsplit, List.cons_append]
          · exact List.forall_mem_cons.mpr ⟨hid, hnone⟩
        · right
          exact List.forall_mem_cons.mpr ⟨hid, habsent⟩

/-- The first interceptor of the identity is the one removed. -/
theorem removeInterceptor_first {id : Nat} {before : List FrameInterceptor}
    (h : forall other, other ∈ before -> other.identity ≠ id)
    {interceptor : FrameInterceptor} (hid : interceptor.identity = id)
    (after : List FrameInterceptor) :
    removeInterceptor id (before ++ interceptor :: after) =
      Except.ok (before ++ after) := by
  induction before with
  | nil => simp [removeInterceptor, hid, pure, Except.pure]
  | cons other before ih =>
      rcases List.forall_mem_cons.mp h with ⟨hother, hbefore⟩
      simp [removeInterceptor, hother, ih hbefore, bind, Except.bind, pure,
        Except.pure]

theorem removeInterceptor_absent {id : Nat}
    {interceptors : List FrameInterceptor}
    (h : forall other, other ∈ interceptors -> other.identity ≠ id) :
    removeInterceptor id interceptors =
      Except.error (PyError.valueError "list.remove(x): x not in list") := by
  induction interceptors with
  | nil => rfl
  | cons other rest ih =>
      rcases List.forall_mem_cons.mp h with ⟨hother, hrest⟩
      simp [removeInterceptor, hother, ih hrest, bind, Except.bind]

end FrameInterceptor

/-- What a governance interceptor makes of a frame does not depend on the
governance block. -/
theorem GovernanceFrameInterceptor.onAfterReceive_fst
    (g : GovernanceFrameInterceptor) (frame : Frame) :
    (g.onAfterReceive frame).1 = true <->
      exists rest, frame.body = CircuitBreakerStatus.open_.code :: rest := by
  unfold onAfterReceive
  cases governanceOf frame with
  | none => cases frame.body <;> simp
  | some gov => cases frame.body <;> simp

namespace FrameInterceptor

/-!
# Chains of governance interceptors
-/

/-- Interceptors of the library that are no composites. -/
def IsGovernance (interceptor : FrameInterceptor) : Prop :=
  exists id g, interceptor = governance id g

theorem sendThrough_governance (frameData : Bytes) (opcode : OpCode)
    {interceptors : List FrameInterceptor}
    (h : forall leaf, leaf ∈ interceptors -> leaf.IsGovernance) :
    sendThrough frameData opcode interceptors = Except.ok frameData := by
  induction interceptors with
  | nil => rfl
  | cons interceptor rest ih =>
      rcases List.forall_mem_cons.mp h with ⟨⟨id, g, hfirst⟩, hrest⟩
      subst hfirst
      exact ih hrest

theorem mapM_answer_governance (frame : Frame)
    {interceptors : List FrameInterceptor}
    (h : forall leaf, leaf ∈ interceptors -> leaf.IsGovernance) :
    interceptors.mapM (answer frame) =
      Except.ok (List.replicate interceptors.length
        (frame.body.head? == some CircuitBreakerStatus.open_.code)) := by
  induction interceptors with
  | nil => rfl
  | cons interceptor rest ih =>
      rcases List.forall_mem_cons.mp h with ⟨⟨id, g, hfirst⟩, hrest⟩
      subst hfirst
      have hreport : (g.onAfterReceive frame).1 =
          (frame.body.head? == some CircuitBreakerStatus.open_.code) := by
        rw [Bool.eq_iff_iff, g.onAfterReceive_fst]
        cases frame.body <;> simp
      rw [List.mapM_cons, ih hrest]
      simp only [answer, onAfterReceive, hreport]
      rfl

/-- However composites are nested in a chain, a frame that is sent goes through
the leaves from left to right; a frame received reaches the leaves from left to
right up to the first that raises, and is reported when a leaf reports it.
Governance interceptors send every frame as it is and report those whose body
begins with the code of an open breaker.  Removing an interceptor takes its
first occurrence out and keeps the order of the others. -/
theorem chain_flattened (interceptors : List FrameInterceptor) :
    (forall frameData opcode,
      sendThrough frameData opcode interceptors =
        (leavesOf interceptors).foldlM
          (fun data leaf => leaf.onBeforeSend data opcode) frameData) ∧
    (forall frame,
      (receiveThrough frame false interceptors).called =
        (reached frame (leavesOf interceptors)).map identity ∧
      (receiveThrough frame false interceptors).result =
        ((leavesOf interceptors).mapM (answer frame)).map (List.any · id)) ∧
    ((forall leaf, leaf ∈ leavesOf interceptors -> leaf.IsGovernance) ->
      (forall frameData opcode,
        sendThrough frameData opcode interceptors = Except.ok frameData) ∧
      forall frame, (receiveThrough frame false interceptors).result =
        Except.ok (decide (leavesOf interceptors ≠ [] ∧
          frame.body.head? = some CircuitBreakerStatus.open_.code))) ∧
    (forall interceptor,
      leavesOf (addInterceptor interceptors interceptor) =
        leavesOf interceptors ++ interceptor.leaves) ∧
    (forall id rest, removeInterceptor id interceptors = Except.ok rest <->
      exists before interceptor after,
        interceptors = before ++ interceptor :: after ∧
        interceptor.identity = id ∧
        (forall other, other ∈ before -> other.identity ≠ id) ∧
        rest = before ++ after) := by
  refine ⟨?_, ?_, ?_, ?_, ?_⟩
  · intro frameData opcode
    rw [sendThrough_leaves, sendThrough_eq_foldlM]
  · intro frame
    rw [receiveThrough_leaves]
    exact ⟨receiveThrough_called (leavesOf_called frame interceptors),
      receiveThrough_result frame (leavesOf interceptors)⟩
  · intro hgovernance
    refine ⟨fun frameData opcode => ?_, fun frame => ?_⟩
    · rw [sendThrough_leaves, sendThrough_governance _ _ hgovernance]
    · rw [receiveThrough_leaves, receiveThrough_result,
        mapM_answer_governance frame hgovernance]
      simp only [Except.map]
      congr 1
      rw [Bool.eq_iff_iff, List.any_eq_true, decide_eq_true_iff]
      simp [List.mem_replicate]
  · intro interceptor
    rw [addInterceptor, leavesOf_append, leavesOf, leavesOf, List.append_nil]
  · intro id rest
    constructor
    · intro h
      rcases first_or_absent id interceptors with
        ⟨before, interceptor, after, hsplit, hid, hbefore⟩ | habsent
      · refine ⟨before, interceptor, after, hsplit, hid, hbefore, ?_⟩
        rw [hsplit, removeInterceptor_first hbefore hid after] at h
        injection h with h
        exact h.symm
      · rw [removeInterceptor_absent habsent] at h
        cases h
    · rintro ⟨before, interceptor, after, hsplit, hid, hbefore, hrest⟩
      rw [hsplit, hrest]
      exact removeInterceptor_first hbefore hid after

end FrameInterceptor

end Client
end Hmmp
