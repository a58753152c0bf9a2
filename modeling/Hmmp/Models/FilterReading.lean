import Hmmp.Models.FilterLayout

/-!
# Reading filter expressions

The trees that the constructors build, with every value in its field, are
exactly what the reader of the grammar returns.  The reader goes no deeper than
there are bytes, and needs no more.
-/

namespace Hmmp
namespace Models

open Foundation
open Wire

namespace FilterExpression

/-- The string has an encoding of at most {lit}`n` bytes. -/
def EncodedWithin (s : Text) (n : Nat) : Prop :=
  exists encoded, encodeUtf8 s = some encoded ∧ encoded.length <= n

/-- The trees of the constructors. -/
inductive Built : FilterExpression -> Prop
  | leaf {key operand : Text} {operator : Nat} (hkey : EncodedWithin key 255)
      (hoperator : operator < 256) (hoperand : EncodedWithin operand 65535) :
      Built (leaf key operator operand)
  | and_ {children : List FilterExpression} (hcount : children.length <= 255)
      (hchildren : forall child, child ∈ children -> Built child) :
      Built (and_ children)
  | or_ {children : List FilterExpression} (hcount : children.length <= 255)
      (hchildren : forall child, child ∈ children -> Built child) :
      Built (or_ children)
  | not_ {child : FilterExpression} (hchild : Built child) :
      Built (not_ child)

def readTree (bs : Bytes) : Option (FilterExpression × Bytes) :=
  (layout bs.length).decode bs

/-!
# Trees that fit
-/

def Encodable (strings : List Text) : Prop :=
  forall s, s ∈ strings -> ¬ Unencodable s

theorem encodedWithin_iff {s : Text} {n : Nat} :
    EncodedWithin s n <-> ¬ Unencodable s ∧ utf8Length s <= n := by
  unfold EncodedWithin Unencodable utf8Length
  cases encodeUtf8 s with
  | none => simp
  | some encoded => simp

@[simp] theorem kind_of_code (x : FilterNodeType) :
    kind x.code = some x := by
  cases x <;> rfl

theorem childrenFit_iff {children : List FilterExpression} :
    ChildrenFit children <-> forall child, child ∈ children -> child.Fits := by
  induction children with
  | nil => simp [ChildrenFit]
  | cons child children ih => simp [ChildrenFit, ih]

theorem childrenStrings_eq (children : List FilterExpression) :
    childrenStrings children = children.flatMap strings := by
  induction children with
  | nil => simp [childrenStrings]
  | cons child children ih => simp [childrenStrings, ih]

theorem encodable_childrenStrings {children : List FilterExpression} :
    Encodable (childrenStrings children) <->
      forall child, child ∈ children -> Encodable child.strings := by
  rw [childrenStrings_eq]
  constructor
  · intro h child hchild s hs
    exact h s (List.mem_flatMap.mpr ⟨child, hchild, hs⟩)
  · intro h s hs
    rcases List.mem_flatMap.mp hs with ⟨child, hchild, hs⟩
    exact h child hchild s hs

theorem Built.fits {e : FilterExpression} (h : e.Built) :
    e.Fits ∧ Encodable e.strings := by
  induction h with
  | @leaf key operand operator hkey hoperator hoperand =>
      rw [encodedWithin_iff] at hkey hoperand
      unfold FilterExpression.leaf Fits strings
      rw [kind_of_code]
      refine ⟨⟨rfl, ?_, ⟨?_, ?_⟩, ?_⟩, ?_⟩
      · omega
      · omega
      · omega
      · omega
      · intro s hs
        rcases List.mem_pair.mp hs with rfl | rfl
        · exact hkey.1
        · exact hoperand.1
  | and_ hcount hchildren ih =>
      unfold FilterExpression.and_ Fits strings
      rw [kind_of_code]
      refine ⟨⟨⟨rfl, rfl, rfl⟩, by omega, ?_⟩, ?_⟩
      · exact childrenFit_iff.mpr fun child hmem => (ih child hmem).1
      · exact encodable_childrenStrings.mpr fun child hmem => (ih child hmem).2
  | or_ hcount hchildren ih =>
      unfold FilterExpression.or_ Fits strings
      rw [kind_of_code]
      refine ⟨⟨⟨rfl, rfl, rfl⟩, by omega, ?_⟩, ?_⟩
      · exact childrenFit_iff.mpr fun child hmem => (ih child hmem).1
      · exact encodable_childrenStrings.mpr fun child hmem => (ih child hmem).2
  | not_ hchild ih =>
      unfold FilterExpression.not_ Fits strings
      rw [kind_of_code]
      refine ⟨⟨⟨rfl, rfl, rfl⟩, ?_⟩, ?_⟩
      · unfold OnlyFits
        exact ih.1
      · show Encodable (firstStrings _)
        unfold firstStrings
        exact ih.2

mutual

theorem built_of_fits : (e : FilterExpression) -> e.Fits ->
    Encodable e.strings -> e.Built
  | node nodeType key operator operand children, hfits, hstrings => by
      unfold Fits at hfits
      unfold strings at hstrings
      cases hkind : kind nodeType with
      | none =>
          rw [hkind] at hfits
          exact absurd hfits not_false
      | some x =>
          have hcode := kind_code hkind
          subst hcode
          rw [kind_of_code] at hfits hstrings
          cases x with
          | leaf =>
              rcases hfits with ⟨rfl, hkey, hoperator, hoperand⟩
              rcases Int.eq_ofNat_of_zero_le hoperator.1 with ⟨code, rfl⟩
              refine Built.leaf (encodedWithin_iff.mpr ⟨?_, by omega⟩)
                (by omega) (encodedWithin_iff.mpr ⟨?_, by omega⟩)
              · exact hstrings key (by simp)
              · exact hstrings operand (by simp)
          | and_ =>
              rcases hfits with ⟨⟨rfl, rfl, rfl⟩, hcount, hchildren⟩
              exact Built.and_ (by omega)
                (childrenBuilt children hchildren hstrings)
          | or_ =>
              rcases hfits with ⟨⟨rfl, rfl, rfl⟩, hcount, hchildren⟩
              exact Built.or_ (by omega)
                (childrenBuilt children hchildren hstrings)
          | not_ =>
              rcases hfits with ⟨⟨rfl, rfl, rfl⟩, hchildren⟩
              rcases onlyBuilt children hchildren hstrings with
                ⟨child, rfl, hchild⟩
              exact Built.not_ hchild

theorem childrenBuilt : (children : List FilterExpression) ->
    ChildrenFit children -> Encodable (childrenStrings children) ->
      forall child, child ∈ children -> child.Built
  | [], _, _ => fun _ hmem => by cases hmem
  | first :: children, hfits, hstrings => by
      unfold ChildrenFit at hfits
      have hencodable := encodable_childrenStrings.mp hstrings
      have hfirst := built_of_fits first hfits.1
        (hencodable first List.mem_cons_self)
      have hrest := childrenBuilt children hfits.2
        (encodable_childrenStrings.mpr fun child hmem =>
          hencodable child (List.mem_cons_of_mem first hmem))
      intro child hmem
      rcases List.mem_cons.mp hmem with rfl | hmem
      · exact hfirst
      · exact hrest child hmem

theorem onlyBuilt : (children : List FilterExpression) ->
    OnlyFits children -> Encodable (firstStrings children) ->
      exists child, children = [child] ∧ child.Built
  | [], hfits, _ => by
      unfold OnlyFits at hfits
      exact absurd hfits not_false
  | [child], hfits, hstrings => by
      unfold OnlyFits at hfits
      unfold firstStrings at hstrings
      exact ⟨child, rfl, built_of_fits child hfits hstrings⟩
  | _ :: _ :: _, hfits, _ => by
      unfold OnlyFits at hfits
      exact absurd hfits not_false

end

/-!
# How deep the reader goes
-/

theorem combinatorLayout_encode_some {sub : Codec FilterExpression}
    {tag : Nat} {nodeType operator : Int} {key operand : Text}
    {children : List FilterExpression} {bs : Bytes}
    (h : (combinatorLayout sub tag).encode
      (node nodeType key operator operand children) = some bs) :
    exists items, sub.encodeAll children = some items := by
  rcases Option.bind_eq_some_iff.mp h with ⟨children', hback, hencode⟩
  simp only [Option.ite_none_right_eq_some, Option.some.injEq] at hback
  rcases (Codec.counted_encode_eq_some _ _).mp hencode with
    ⟨count, items, _, hitems, _⟩
  rw [← hback.2] at hitems
  exact ⟨items, hitems⟩

theorem notLayout_encode_some {sub : Codec FilterExpression}
    {nodeType operator : Int} {key operand : Text}
    {children : List FilterExpression} {bs : Bytes}
    (h : (notLayout sub).encode
      (node nodeType key operator operand children) = some bs) :
    exists child, children = [child] ∧ sub.encode child = some bs := by
  rcases Option.bind_eq_some_iff.mp h with ⟨child, hback, hencode⟩
  rcases children with _ | ⟨first, _ | ⟨second, rest⟩⟩
  · cases hback
  · simp only [Option.ite_none_right_eq_some, Option.some.injEq] at hback
    rw [← hback.2] at hencode
    exact ⟨first, rfl, hencode⟩
  · cases hback

theorem childrenDepth_le_of_encodeAll {bound : Nat}
    (hdepth : forall e bs, (layout bound).encode e = some bs ->
      e.depth <= bound)
    {children : List FilterExpression} {items : Bytes}
    (h : (layout bound).encodeAll children = some items) :
    childrenDepth children <= bound := by
  induction children generalizing items with
  | nil =>
      unfold childrenDepth
      exact Nat.zero_le bound
  | cons child children ih =>
      rcases (Codec.encodeAll_cons_eq_some _).mp h with
        ⟨front, back, hfront, hback, _⟩
      unfold childrenDepth
      exact Nat.max_le.mpr ⟨hdepth child front hfront, ih hback⟩

theorem depth_le_of_encode (bound : Nat) (e : FilterExpression) (bs : Bytes)
    (h : (layout bound).encode e = some bs) : e.depth <= bound := by
  induction bound generalizing e bs with
  | zero => cases h
  | succ bound ih =>
      rcases e with ⟨nodeType, key, operator, operand, children⟩
      cases hkind : kind nodeType with
      | none =>
          have hunread := layout_encode_of_kind_none
            (e := node nodeType key operator operand children) hkind
            (bound + 1)
          rw [hunread] at h
          cases h
      | some x =>
          have hcode := kind_code hkind
          subst hcode
          rw [layout_encode_tagged] at h
          rcases emissions_eq_some.mp h with
            ⟨tag, payload, _, hpayload, _⟩
          unfold depth
          rw [kind_of_code]
          cases x with
          | leaf => exact Nat.le_add_left 1 bound
          | and_ =>
              rcases combinatorLayout_encode_some hpayload with
                ⟨items, hitems⟩
              exact Nat.succ_le_succ (childrenDepth_le_of_encodeAll ih hitems)
          | or_ =>
              rcases combinatorLayout_encode_some hpayload with
                ⟨items, hitems⟩
              exact Nat.succ_le_succ (childrenDepth_le_of_encodeAll ih hitems)
          | not_ =>
              rcases notLayout_encode_some hpayload with
                ⟨child, rfl, hchild⟩
              have hdepth := ih child payload hchild
              show firstDepth [child] + 1 <= bound + 1
              unfold firstDepth
              exact Nat.succ_le_succ hdepth

/-!
# What the reader returns
-/

theorem Built.toBytes_eq_ok {e : FilterExpression} (h : e.Built) :
    exists bs, e.toBytes = Except.ok bs ∧ e.depth <= bs.length ∧
      forall bound, e.depth <= bound ->
        (layout bound).encode e = some bs := by
  rcases h.fits with ⟨hfits, hstrings⟩
  have hframing := write_framing e e.depth (Nat.le_refl _)
  rcases hframing with ⟨out, hemits, hframed, hsize⟩
  cases out with
  | none =>
      rcases hframed.raises.mp rfl with ⟨s, hs, hunencodable⟩
      exact absurd hunencodable (hstrings s hs)
  | some bs =>
      refine ⟨bs, hemits.getvalue_eq_ok.mpr rfl, ?_, ?_⟩
      · rw [hsize bs rfl]
        exact depth_le_size e
      · intro bound hbound
        rcases write_framing e bound hbound with ⟨out', hemits', hframed', _⟩
        rw [hframed'.fit hfits]
        exact hemits'.unique hemits

theorem built_of_encode {bound : Nat} {e : FilterExpression} {bs : Bytes}
    (h : (layout bound).encode e = some bs) :
    e.Built ∧ e.toBytes = Except.ok bs := by
  rcases write_framing e bound (depth_le_of_encode bound e bs h) with
    ⟨out, hemits, hframed, _⟩
  have hfits : e.Fits := by
    by_contra hnot
    rw [hframed.unfit hnot] at h
    cases h
  have hout : out = some bs := by
    rw [← hframed.fit hfits, h]
  subst hout
  refine ⟨built_of_fits e hfits ?_, hemits.getvalue_eq_ok.mpr rfl⟩
  intro s hs hunencodable
  have hnone := hframed.raises.mpr ⟨s, hs, hunencodable⟩
  cases hnone

/-- The reader returns the built tree whose bytes are in front. -/
theorem readTree_eq_some {bs rest : Bytes} {e : FilterExpression} :
    readTree bs = some (e, rest) <->
      e.Built ∧ exists front, e.toBytes = Except.ok front ∧
        bs = front ++ rest := by
  unfold readTree
  rw [(layout bs.length).decode_iff]
  constructor
  · rintro ⟨front, hencode, hbs⟩
    rcases built_of_encode hencode with ⟨hbuilt, hbytes⟩
    exact ⟨hbuilt, front, hbytes, hbs⟩
  · rintro ⟨hbuilt, front, hbytes, rfl⟩
    rcases hbuilt.toBytes_eq_ok with ⟨front', hbytes', hdepth, hencode⟩
    rw [hbytes] at hbytes'
    injection hbytes' with hsame
    subst hsame
    refine ⟨front, hencode _ ?_, rfl⟩
    rw [List.length_append]
    omega

end FilterExpression

/-- A tree of the constructors with every value in its field. -/
structure BuiltExpression where
  tree : FilterExpression
  built : tree.Built

namespace BuiltExpression

theorem ext_tree {t t' : BuiltExpression} (h : t.tree = t'.tree) :
    t = t' := by
  rcases t with ⟨tree, built⟩
  rcases t' with ⟨tree', built'⟩
  cases h
  rfl

/--
Built trees are uniquely decodable: the reader returns a tree and whatever
follows its bytes, and if the bytes of one tree begin with those of another,
the trees are the same.
-/
theorem uniquely_decodable :
    (forall (t : BuiltExpression), exists bs,
      t.tree.toBytes = Except.ok bs ∧
        forall trailing, FilterExpression.readTree (bs ++ trailing) =
          some (t.tree, trailing)) ∧
      forall (t t' : BuiltExpression) (bs bs' : Bytes),
        t.tree.toBytes = Except.ok bs -> t'.tree.toBytes = Except.ok bs' ->
          bs <+: bs' -> t = t' ∧ bs = bs' := by
  constructor
  · intro t
    rcases t.built.toBytes_eq_ok with ⟨bs, hbytes, _, _⟩
    refine ⟨bs, hbytes, fun trailing => ?_⟩
    exact FilterExpression.readTree_eq_some.mpr ⟨t.built, bs, hbytes, rfl⟩
  · intro t t' bs bs' hbytes hbytes' hprefix
    rcases hprefix with ⟨trailing, hbs'⟩
    -- both trees are read from the longer bytes
    have hread := FilterExpression.readTree_eq_some.mpr
      ⟨t.built, bs, hbytes, hbs'.symm⟩
    have hread' := FilterExpression.readTree_eq_some.mpr
      ⟨t'.built, bs', hbytes', (List.append_nil bs').symm⟩
    rw [hread] at hread'
    injection hread' with hpair
    injection hpair with htree htrailing
    refine ⟨ext_tree htree, ?_⟩
    rw [← hbs', htrailing, List.append_nil]

/-- Either a region is not the one given, or a version is. -/
def otherRegion : BuiltExpression where
  tree := .or_
    [.not_ (.leaf (text "region") 0 (text "eu")),
      .and_ [.leaf (text "v") 255 (text "2")]]
  built := by
    have hregion : FilterExpression.Built
        (.leaf (text "region") (0 : Nat) (text "eu")) :=
      .leaf ⟨_, rfl, by decide⟩ (by decide) ⟨_, rfl, by decide⟩
    have hversion : FilterExpression.Built
        (.leaf (text "v") (255 : Nat) (text "2")) :=
      .leaf ⟨_, rfl, by decide⟩ (by decide) ⟨_, rfl, by decide⟩
    refine .or_ (by decide) ?_
    intro child hchild
    simp only [List.mem_cons, List.not_mem_nil, or_false] at hchild
    rcases hchild with rfl | rfl
    · exact .not_ hregion
    · refine .and_ (by decide) ?_
      intro child hchild
      rw [List.mem_singleton.mp hchild]
      exact hversion

theorem uniquely_decodable_otherRegion :
    exists bs, otherRegion.tree.toBytes = Except.ok bs ∧
      FilterExpression.readTree (bs ++ [7]) = some (otherRegion.tree, [7]) := by
  rcases uniquely_decodable.1 otherRegion with ⟨bs, hbytes, hread⟩
  exact ⟨bs, hbytes, hread [7]⟩

end BuiltExpression

end Models
end Hmmp
