import Mathlib.Data.List.GetD
import Hmmp.Resilience.WeightedSelection

/-!
# Traffic color routing

A color tag narrows a snapshot down to the instances that carry it, or to none
and then to all.  With a load balancer the choice among these keeps to the
healthy ones; without one it is any of them.
-/

namespace Hmmp
namespace Resilience

open Foundation
open Models

/-- Split a text at the first separator, if there is one. -/
def splitFirst (separator : CodePoint) : Text -> Option (Text × Text)
  | [] => none
  | c :: rest =>
      if c = separator then some ([], rest)
      else
        (splitFirst separator rest).map fun parts => (c :: parts.1, parts.2)

def equalsSign : CodePoint := codePointOf '='

theorem splitFirst_append {separator : CodePoint} {front : Text}
    (h : separator ∉ front) (back : Text) :
    splitFirst separator (front ++ separator :: back) =
      some (front, back) := by
  induction front with
  | nil => exact if_pos rfl
  | cons c front ih =>
      have hc : c ≠ separator := fun heq => h (heq ▸ List.mem_cons_self)
      have hfront := ih fun hmem => h (List.mem_cons_of_mem c hmem)
      rw [List.cons_append, splitFirst, if_neg hc, hfront]
      rfl

structure TrafficColorRouter where
  colorTag : Option Text := none

/-- The metadata of the instance has the value under the key. -/
def HasColor (key value : Text) (i : Instance) : Prop :=
  i.metadata.get? key = some value

instance (key value : Text) (i : Instance) :
    Decidable (HasColor key value i) :=
  inferInstanceAs (Decidable (i.metadata.get? key = some value))

namespace TrafficColorRouter

/-- The instances of a color, or all of them if none has it. -/
def candidates (key value : Text) (instances : List Instance) :
    List Instance :=
  match instances.filter fun i => decide (HasColor key value i) with
  | [] => instances
  | matched => matched

def filterInstances (r : TrafficColorRouter)
    (snapshot : ServiceSnapshot Rat) : List Instance :=
  match r.colorTag with
  | none => snapshot.instances
  | some tag =>
      -- An empty tag has no separator either.
      match splitFirst equalsSign tag with
      | none => snapshot.instances
      | some (key, value) => candidates key value snapshot.instances

def route (r : TrafficColorRouter) (draw : RandomDraw) (balanced : Bool)
    (snapshot : ServiceSnapshot Rat) : Option Instance :=
  match r.filterInstances snapshot with
  | [] => none
  | first :: rest =>
      if balanced then select draw (first :: rest)
      else some (draw.choose first rest)

def ofColor (key value : Text) : TrafficColorRouter where
  colorTag := some (key ++ equalsSign :: value)

theorem filterInstances_ofColor {key : Text} (hkey : equalsSign ∉ key)
    (value : Text) (snapshot : ServiceSnapshot Rat) :
    (ofColor key value).filterInstances snapshot =
      candidates key value snapshot.instances := by
  unfold filterInstances ofColor
  simp only [splitFirst_append hkey value]

/-!
# What a color asks for
-/

/-- A healthy instance of the color, else one of the color, and a healthy one
if none has the color. -/
structure ColorLaw (key value : Text) (instances : List Instance)
    (routed : Option Instance) : Prop where
  healthyColor : (exists j, j ∈ instances ∧ HasColor key value j ∧
      j.healthy = true) ->
    exists i, routed = some i ∧ i ∈ instances ∧ HasColor key value i ∧
      i.healthy = true
  color : (exists j, j ∈ instances ∧ HasColor key value j) ->
    (forall j, j ∈ instances -> HasColor key value j -> j.healthy = false) ->
      exists i, routed = some i ∧ i ∈ instances ∧ HasColor key value i
  healthy : (forall j, j ∈ instances -> ¬ HasColor key value j) ->
    (exists j, j ∈ instances ∧ j.healthy = true) ->
      exists i, routed = some i ∧ i ∈ instances ∧ i.healthy = true

variable {key value : Text} {instances : List Instance} {i : Instance}

theorem mem_candidates_iff :
    i ∈ candidates key value instances <->
      i ∈ instances ∧ (HasColor key value i ∨
        forall j, j ∈ instances -> ¬ HasColor key value j) := by
  unfold candidates
  cases hmatched :
    instances.filter fun i => decide (HasColor key value i) with
  | nil =>
      have hnone : forall j, j ∈ instances -> ¬ HasColor key value j := by
        intro j hj hcolor
        have hfalse := List.filter_eq_nil_iff.mp hmatched j hj
        exact hfalse (decide_eq_true hcolor)
      simp only
      exact ⟨fun hi => ⟨hi, Or.inr hnone⟩, And.left⟩
  | cons first rest =>
      have hmem : forall j, j ∈ first :: rest <->
          j ∈ instances ∧ HasColor key value j := by
        intro j
        rw [← hmatched, List.mem_filter, decide_eq_true_iff]
      have hfirst := (hmem first).mp List.mem_cons_self
      simp only
      rw [hmem i]
      constructor
      · rintro ⟨hi, hcolor⟩
        exact ⟨hi, Or.inl hcolor⟩
      · rintro ⟨hi, hcolor | hnone⟩
        · exact ⟨hi, hcolor⟩
        · exact absurd hfirst.2 (hnone first hfirst.1)

theorem colorLaw_of_candidate (hi : i ∈ candidates key value instances)
    (hhealthy : (exists j, j ∈ candidates key value instances ∧
      j.healthy = true) -> i.healthy = true) :
    ColorLaw key value instances (some i) := by
  rcases mem_candidates_iff.mp hi with ⟨hmem, hcase⟩
  constructor
  · rintro ⟨j, hj, hcolor, hjhealthy⟩
    have hcandidate := mem_candidates_iff.mpr ⟨hj, Or.inl hcolor⟩
    refine ⟨i, rfl, hmem, ?_, hhealthy ⟨j, hcandidate, hjhealthy⟩⟩
    exact hcase.resolve_right fun hnone => hnone j hj hcolor
  · rintro ⟨j, hj, hcolor⟩ _
    exact ⟨i, rfl, hmem,
      hcase.resolve_right fun hnone => hnone j hj hcolor⟩
  · rintro hnone ⟨j, hj, hjhealthy⟩
    have hcandidate := mem_candidates_iff.mpr ⟨hj, Or.inr hnone⟩
    exact ⟨i, rfl, hmem, hhealthy ⟨j, hcandidate, hjhealthy⟩⟩

theorem healthy_of_colorLaw (h : ColorLaw key value instances (some i))
    (hsome : exists j, j ∈ candidates key value instances ∧
      j.healthy = true) : i.healthy = true := by
  rcases hsome with ⟨j, hj, hjhealthy⟩
  rcases mem_candidates_iff.mp hj with ⟨hmem, hcolor | hnone⟩
  · rcases h.healthyColor ⟨j, hmem, hcolor, hjhealthy⟩ with
      ⟨i', heq, _, _, hhealthy⟩
    injection heq with heq
    rw [heq]
    exact hhealthy
  · rcases h.healthy hnone ⟨j, hmem, hjhealthy⟩ with ⟨i', heq, _, hhealthy⟩
    injection heq with heq
    rw [heq]
    exact hhealthy

theorem colorLaw_nil (key value : Text) : ColorLaw key value [] none := by
  constructor
  · rintro ⟨j, hj, _⟩
    cases hj
  · rintro ⟨j, hj, _⟩
    cases hj
  · rintro _ ⟨j, hj, _⟩
    cases hj

/-!
# Draws
-/

theorem choose_mem (draw : RandomDraw) (first : Instance)
    (rest : List Instance) : draw.choose first rest ∈ first :: rest := by
  unfold RandomDraw.choose
  have hlt : draw.choice % (rest.length + 1) < (first :: rest).length :=
    Nat.mod_lt _ (Nat.succ_pos _)
  rw [List.getD_eq_getElem _ _ hlt]
  exact List.getElem_mem hlt

theorem exists_choose {first : Instance} {rest : List Instance}
    (h : i ∈ first :: rest) :
    exists draw : RandomDraw, draw.choose first rest = i := by
  rcases List.getElem_of_mem h with ⟨n, hn, hget⟩
  refine ⟨{ middleDraw with choice := n }, ?_⟩
  unfold RandomDraw.choose
  have hmod : n % (rest.length + 1) = n := Nat.mod_eq_of_lt hn
  simp only [hmod]
  rw [List.getD_eq_getElem _ _ hn, hget]

theorem select_healthy {draw : RandomDraw} (h : select draw instances = some i)
    (hsome : exists j, j ∈ instances ∧ j.healthy = true) :
    i.healthy = true := by
  rcases hsome with ⟨j, hj, hhealthy⟩
  cases (select_eq_some_iff draw instances i).mp h with
  | only =>
      rw [← List.mem_singleton.mp hj]
      exact hhealthy
  | sick hsick =>
      exact absurd hhealthy (List.filter_eq_nil_iff.mp hsick j hj)
  | weighted hmany hpoints =>
      rcases hpoints with ⟨before, after, hsplit, _⟩
      have hmem : i ∈ instances.filter (·.healthy) := by
        rw [hsplit]
        exact List.mem_append_right _ List.mem_cons_self
      exact (List.mem_filter.mp hmem).2

/-- All candidates are in the same state of health. -/
def Uniform (key value : Text) (instances : List Instance) : Prop :=
  (forall i, i ∈ candidates key value instances -> i.healthy = true) ∨
    forall i, i ∈ candidates key value instances -> i.healthy = false

theorem eq_nil_of_candidates
    (h : candidates key value instances = []) : instances = [] := by
  unfold candidates at h
  split at h
  · exact h
  · next hne => exact absurd h hne

theorem route_cases {key : Text} (hkey : equalsSign ∉ key) (value : Text)
    (draw : RandomDraw) (balanced : Bool) (snapshot : ServiceSnapshot Rat) :
    (snapshot.instances = [] ∧
      (ofColor key value).route draw balanced snapshot = none) ∨
    exists first rest,
      candidates key value snapshot.instances = first :: rest ∧
        (ofColor key value).route draw balanced snapshot =
          if balanced then select draw (first :: rest)
          else some (draw.choose first rest) := by
  unfold route
  rw [filterInstances_ofColor hkey]
  cases hcandidates : candidates key value snapshot.instances with
  | nil => exact Or.inl ⟨eq_nil_of_candidates hcandidates, rfl⟩
  | cons first rest => exact Or.inr ⟨first, rest, rfl, rfl⟩

theorem route_balanced {key : Text} (hkey : equalsSign ∉ key) (value : Text)
    (draw : RandomDraw) (snapshot : ServiceSnapshot Rat) :
    ColorLaw key value snapshot.instances
      ((ofColor key value).route draw true snapshot) := by
  rcases route_cases hkey value draw true snapshot with
    ⟨hempty, hroute⟩ | ⟨first, rest, hcandidates, hroute⟩
  · rw [hempty, hroute]
    exact colorLaw_nil key value
  · rcases select_isSome draw (List.cons_ne_nil first rest) with
      ⟨i, hselected⟩
    rw [hroute, if_pos rfl, hselected]
    apply colorLaw_of_candidate
    · rw [hcandidates]
      exact select_mem hselected
    · rw [hcandidates]
      exact select_healthy hselected

theorem route_uniform {key : Text} (hkey : equalsSign ∉ key) {value : Text}
    {snapshot : ServiceSnapshot Rat}
    (huniform : Uniform key value snapshot.instances) (draw : RandomDraw) :
    ColorLaw key value snapshot.instances
      ((ofColor key value).route draw false snapshot) := by
  rcases route_cases hkey value draw false snapshot with
    ⟨hempty, hroute⟩ | ⟨first, rest, hcandidates, hroute⟩
  · rw [hempty, hroute]
    exact colorLaw_nil key value
  · have hchosen : draw.choose first rest ∈
        candidates key value snapshot.instances := by
      rw [hcandidates]
      exact choose_mem draw first rest
    rw [hroute, if_neg Bool.false_ne_true]
    apply colorLaw_of_candidate hchosen
    rintro ⟨j, hj, hhealthy⟩
    rcases huniform with hall | hnone
    · exact hall _ hchosen
    · rw [hnone j hj] at hhealthy
      cases hhealthy

/-- A choice among candidates of both kinds breaks the law at some draw. -/
theorem exists_draw_of_mixed {key : Text} (hkey : equalsSign ∉ key)
    {value : Text} {snapshot : ServiceSnapshot Rat}
    (hmixed : ¬ Uniform key value snapshot.instances) :
    exists draw, ¬ ColorLaw key value snapshot.instances
      ((ofColor key value).route draw false snapshot) := by
  unfold Uniform at hmixed
  push Not at hmixed
  rcases hmixed with ⟨⟨i, hi, hsick⟩, j, hj, hhealthy⟩
  have hhealthy : j.healthy = true := Bool.eq_true_of_not_eq_false hhealthy
  rcases route_cases hkey value middleDraw false snapshot with
    ⟨hempty, _⟩ | ⟨first, rest, hcandidates, _⟩
  · rw [hempty] at hi
    cases (mem_candidates_iff.mp hi).1
  · have hmem : i ∈ first :: rest := hcandidates ▸ hi
    rcases exists_choose hmem with ⟨draw, hdraw⟩
    refine ⟨draw, ?_⟩
    intro hlaw
    have hroute : (ofColor key value).route draw false snapshot =
        some i := by
      unfold route
      rw [filterInstances_ofColor hkey, hcandidates]
      exact congrArg some hdraw
    rw [hroute] at hlaw
    exact hsick (healthy_of_colorLaw hlaw ⟨j, hj, hhealthy⟩)

/--
Routing to a color meets its law, whatever is drawn, exactly with a load
balancer, or if the candidates are all healthy or all unhealthy.
-/
theorem route_colorLaw_iff (key value : Text) (hkey : equalsSign ∉ key)
    (balanced : Bool) (snapshot : ServiceSnapshot Rat) :
    (forall draw, ColorLaw key value snapshot.instances
      ((ofColor key value).route draw balanced snapshot)) <->
        balanced = true ∨ Uniform key value snapshot.instances := by
  constructor
  · intro hlaw
    by_contra hneither
    push Not at hneither
    rcases hneither with ⟨hbalanced, hmixed⟩
    have hbalanced : balanced = false := Bool.eq_false_of_not_eq_true hbalanced
    subst hbalanced
    rcases exists_draw_of_mixed hkey hmixed with ⟨draw, hdraw⟩
    exact hdraw (hlaw draw)
  · rintro hcase draw
    cases balanced with
    | true => exact route_balanced hkey value draw snapshot
    | false =>
        have huniform := hcase.resolve_left Bool.false_ne_true
        exact route_uniform hkey huniform draw

/-!
Two instances of one color, the first of which is not healthy.
-/

def grayInstance (port : Nat) (healthy : Bool) : Instance where
  serviceName := []
  ip := []
  port := port
  weight := 1
  healthy := healthy
  metadata := Dict.empty.set (text "env") (text "gray")

def graySnapshot : ServiceSnapshot Rat where
  serviceName := []
  topologyVersion := 1
  instances := [grayInstance 1 false, grayInstance 2 true]

theorem route_colorLaw_iff_gray :
    (forall draw, ColorLaw (text "env") (text "gray") graySnapshot.instances
      ((ofColor (text "env") (text "gray")).route draw false
        graySnapshot)) <->
        false = true ∨
          Uniform (text "env") (text "gray") graySnapshot.instances :=
  route_colorLaw_iff (text "env") (text "gray") (by decide) false graySnapshot

/-- Without a load balancer the unhealthy one of them is routed to. -/
theorem route_unhealthy_gray :
    ¬ ColorLaw (text "env") (text "gray") graySnapshot.instances
      ((ofColor (text "env") (text "gray")).route middleDraw false
        graySnapshot) := by
  have hroute : (ofColor (text "env") (text "gray")).route middleDraw false
      graySnapshot = some (grayInstance 1 false) := rfl
  intro hlaw
  rw [hroute] at hlaw
  rcases hlaw.healthyColor ⟨grayInstance 2 true, by simp [graySnapshot],
      rfl, rfl⟩ with ⟨i, heq, _, _, hhealthy⟩
  injection heq with heq
  rw [← heq] at hhealthy
  cases hhealthy

end TrafficColorRouter

end Resilience
end Hmmp
