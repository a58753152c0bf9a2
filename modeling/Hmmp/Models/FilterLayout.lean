import Hmmp.Models.Filter
import Hmmp.Wire.Framing

/-!
# The layout of filter expressions

The reader of the grammar of filter expressions, and when the written bytes of
a tree are in this grammar.
-/

namespace Hmmp
namespace Models

open Foundation
open Wire

namespace FilterExpression

/-!
# The grammar
-/

/-- A predicate: key, operator and operand. -/
def leafLayout : Codec FilterExpression :=
  ((stringLayout 1).seq ((Codec.uint 1).seq (stringLayout 2))).imap
    (fun p => some (leaf p.1 p.2.1 p.2.2))
    (fun e =>
      match e with
      | node nodeType key operator operand [] =>
          if nodeType = FilterNodeType.leaf.code ∧ 0 <= operator then
            some (key, operator.toNat, operand)
          else none
      | _ => none)
    (by
      intro fields e
      rcases fields with ⟨key, operator, operand⟩
      rcases e with ⟨nodeType, key', operator', operand', children⟩
      cases children with
      | nil =>
          simp only [leaf, Option.some.injEq, node.injEq, and_true,
            Option.ite_none_right_eq_some, Prod.mk.injEq]
          constructor
          · intro h
            rcases h with ⟨rfl, rfl, rfl, rfl⟩
            exact ⟨⟨rfl, Int.natCast_nonneg operator⟩, rfl,
              Int.toNat_natCast operator, rfl⟩
          · intro h
            rcases h with ⟨⟨rfl, hoperator⟩, rfl, rfl, rfl⟩
            exact ⟨rfl, rfl, Int.toNat_of_nonneg hoperator, rfl⟩
      | cons child children => simp [leaf])

/-- The children of a combinator behind their count. -/
def combinatorLayout (sub : Codec FilterExpression) (tag : Nat) :
    Codec FilterExpression :=
  (Codec.counted (Codec.uint 1) sub).imap
    (fun children => some (node tag [] 0 [] children))
    (fun e =>
      match e with
      | node nodeType key operator operand children =>
          if nodeType = tag ∧ key = [] ∧ operator = 0 ∧ operand = [] then
            some children
          else none)
    (by
      intro children e
      rcases e with ⟨nodeType, key, operator, operand, children'⟩
      simp only [Option.some.injEq, node.injEq,
        Option.ite_none_right_eq_some]
      constructor
      · intro h
        rcases h with ⟨rfl, rfl, rfl, rfl, rfl⟩
        exact ⟨⟨rfl, rfl, rfl, rfl⟩, rfl⟩
      · intro h
        rcases h with ⟨⟨rfl, rfl, rfl, rfl⟩, rfl⟩
        exact ⟨rfl, rfl, rfl, rfl, rfl⟩)

def notLayout (sub : Codec FilterExpression) : Codec FilterExpression :=
  sub.imap (fun child => some (not_ child))
    (fun e =>
      match e with
      | node nodeType key operator operand [child] =>
          if nodeType = FilterNodeType.not_.code ∧ key = [] ∧ operator = 0 ∧
              operand = [] then
            some child
          else none
      | _ => none)
    (by
      intro child e
      rcases e with ⟨nodeType, key, operator, operand, children⟩
      rcases children with _ | ⟨first, _ | ⟨second, rest⟩⟩
      · simp [not_]
      · simp only [not_, Option.some.injEq, node.injEq, List.cons.injEq,
          and_true, Option.ite_none_right_eq_some]
        constructor
        · intro h
          rcases h with ⟨rfl, rfl, rfl, rfl, rfl⟩
          exact ⟨⟨rfl, rfl, rfl, rfl⟩, rfl⟩
        · intro h
          rcases h with ⟨⟨rfl, rfl, rfl, rfl⟩, rfl⟩
          exact ⟨rfl, rfl, rfl, rfl, rfl⟩
      · simp [not_])

def payloadLayout (sub : Codec FilterExpression) (tag : Nat) :
    Codec FilterExpression :=
  if tag = FilterNodeType.leaf.code then leafLayout
  else if tag = FilterNodeType.and_.code ∨
      tag = FilterNodeType.or_.code then
    combinatorLayout sub tag
  else if tag = FilterNodeType.not_.code then notLayout sub
  else Codec.fail

/-- Trees whose nesting is at most the given bound. -/
def layout : Nat -> Codec FilterExpression
  | 0 => Codec.fail
  | bound + 1 =>
      ((Codec.uint 1).bind (payloadLayout (layout bound))).imap
        (fun p => if p.2.nodeType = p.1 then some p.2 else none)
        (fun e =>
          if 0 <= e.nodeType then some (e.nodeType.toNat, e) else none)
        (by
          intro tagged e'
          rcases tagged with ⟨tag, e⟩
          simp only [Option.ite_none_right_eq_some, Option.some.injEq,
            Prod.mk.injEq]
          constructor
          · intro h
            rcases h with ⟨htag, rfl⟩
            rw [htag]
            exact ⟨Int.natCast_nonneg tag, Int.toNat_natCast tag, rfl⟩
          · intro h
            rcases h with ⟨hnonneg, rfl, rfl⟩
            exact ⟨(Int.toNat_of_nonneg hnonneg).symm, rfl⟩)

/-!
# What is written of a tree
-/

def kind (nodeType : Int) : Option FilterNodeType :=
  if nodeType = FilterNodeType.leaf.code then some FilterNodeType.leaf
  else if nodeType = FilterNodeType.and_.code then some FilterNodeType.and_
  else if nodeType = FilterNodeType.or_.code then some FilterNodeType.or_
  else if nodeType = FilterNodeType.not_.code then some FilterNodeType.not_
  else none

mutual

def depth : FilterExpression -> Nat
  | node nodeType _ _ _ children =>
      match kind nodeType with
      | some FilterNodeType.and_ => childrenDepth children + 1
      | some FilterNodeType.or_ => childrenDepth children + 1
      | some FilterNodeType.not_ => firstDepth children + 1
      | _ => 1

def childrenDepth : List FilterExpression -> Nat
  | [] => 0
  | child :: children => max child.depth (childrenDepth children)

def firstDepth : List FilterExpression -> Nat
  | [] => 0
  | child :: _ => child.depth

end

mutual

def size : FilterExpression -> Nat
  | node nodeType key _ operand children =>
      match kind nodeType with
      | some FilterNodeType.leaf => utf8Length key + utf8Length operand + 5
      | some FilterNodeType.and_ => childrenSize children + 2
      | some FilterNodeType.or_ => childrenSize children + 2
      | some FilterNodeType.not_ => firstSize children + 1
      | none => 1

def childrenSize : List FilterExpression -> Nat
  | [] => 0
  | child :: children => child.size + childrenSize children

def firstSize : List FilterExpression -> Nat
  | [] => 0
  | child :: _ => child.size

end

mutual

def strings : FilterExpression -> List Text
  | node nodeType key _ operand children =>
      match kind nodeType with
      | some FilterNodeType.leaf => [key, operand]
      | some FilterNodeType.and_ => childrenStrings children
      | some FilterNodeType.or_ => childrenStrings children
      | some FilterNodeType.not_ => firstStrings children
      | none => []

def childrenStrings : List FilterExpression -> List Text
  | [] => []
  | child :: children => child.strings ++ childrenStrings children

def firstStrings : List FilterExpression -> List Text
  | [] => []
  | child :: _ => child.strings

end

mutual

/-- The tree is one of the grammar, and its strings, operators and counts fit
their fields. -/
def Fits : FilterExpression -> Prop
  | node nodeType key operator operand children =>
      match kind nodeType with
      | some FilterNodeType.leaf =>
          children = [] ∧ utf8Length key < 256 ∧
            (0 <= operator ∧ operator < 256) ∧ utf8Length operand < 65536
      | some FilterNodeType.and_ =>
          (key = [] ∧ operator = 0 ∧ operand = []) ∧
            children.length < 256 ∧ ChildrenFit children
      | some FilterNodeType.or_ =>
          (key = [] ∧ operator = 0 ∧ operand = []) ∧
            children.length < 256 ∧ ChildrenFit children
      | some FilterNodeType.not_ =>
          (key = [] ∧ operator = 0 ∧ operand = []) ∧ OnlyFits children
      | none => False

def ChildrenFit : List FilterExpression -> Prop
  | [] => True
  | child :: children => child.Fits ∧ ChildrenFit children

def OnlyFits : List FilterExpression -> Prop
  | [] => False
  | [child] => child.Fits
  | _ :: _ :: _ => False

end

/-!
# What the layout makes of it
-/

theorem kind_code {nodeType : Int} {x : FilterNodeType}
    (h : kind nodeType = some x) : nodeType = x.code := by
  unfold kind at h
  split at h
  · injection h with h
    subst h
    assumption
  · split at h
    · injection h with h
      subst h
      assumption
    · split at h
      · injection h with h
        subst h
        assumption
      · split at h
        · injection h with h
          subst h
          assumption
        · cases h

theorem write_eq (nodeType : Int) (key : Text) (operator : Int)
    (operand : Text) (children : List FilterExpression) :
    (node nodeType key operator operand children).write = (do
      BinaryWriter.writeU8 nodeType
      match kind nodeType with
      | some FilterNodeType.leaf => do
          BinaryWriter.writeStringU8 key
          BinaryWriter.writeU8 operator
          BinaryWriter.writeStringU16 operand
      | some FilterNodeType.and_ => do
          BinaryWriter.writeU8 children.length
          writeChildren children
      | some FilterNodeType.or_ => do
          BinaryWriter.writeU8 children.length
          writeChildren children
      | some FilterNodeType.not_ => writeFirst children
      | none => pure ()) := by
  unfold write kind
  by_cases hleaf : nodeType = FilterNodeType.leaf.code
  · simp [hleaf]
  · by_cases hand : nodeType = FilterNodeType.and_.code
    · simp [hand, FilterNodeType.code]
    · by_cases hor : nodeType = FilterNodeType.or_.code
      · simp [hor, FilterNodeType.code]
      · by_cases hnot : nodeType = FilterNodeType.not_.code
        · simp [hnot, FilterNodeType.code]
        · simp only [if_neg hleaf, if_neg hand, if_neg hor, if_neg hnot,
            if_neg (not_or.mpr ⟨hand, hor⟩)]

theorem layout_encode (bound : Nat) (e : FilterExpression) :
    (layout (bound + 1)).encode e =
      if 0 <= e.nodeType then
        emissions ((Codec.uint 1).encode e.nodeType.toNat)
          ((payloadLayout (layout bound) e.nodeType.toNat).encode e)
      else none := by
  by_cases h : 0 <= e.nodeType
  · simp only [layout, Codec.imap, if_pos h, Option.bind_some]
    rfl
  · simp only [layout, Codec.imap, if_neg h, Option.bind_none]

theorem layout_encode_of_kind_none {e : FilterExpression}
    (h : kind e.nodeType = none) (bound : Nat) :
    (layout bound).encode e = none := by
  cases bound with
  | zero => rfl
  | succ bound =>
      rw [layout_encode]
      split
      · rename_i hnonneg
        have htag := Int.toNat_of_nonneg hnonneg
        have hpayload : payloadLayout (layout bound) e.nodeType.toNat =
            Codec.fail := by
          unfold payloadLayout
          unfold kind at h
          generalize e.nodeType.toNat = tag at htag
          rw [← htag] at h
          simp only [Int.natCast_inj] at h
          grind
        rw [hpayload]
        exact emissions_eq_none.mpr (Or.inr rfl)
      · rfl

theorem layout_encode_tagged (bound : Nat) (x : FilterNodeType)
    (key : Text) (operator : Int) (operand : Text)
    (children : List FilterExpression) :
    (layout (bound + 1)).encode (node x.code key operator operand children) =
      emissions (some [UInt8.ofNat x.code])
        ((payloadLayout (layout bound) x.code).encode
          (node x.code key operator operand children)) := by
  rw [layout_encode]
  cases x <;> rfl

theorem leafLayout_encode (key : Text) (operator : Int) (operand : Text) :
    leafLayout.encode
        (node FilterNodeType.leaf.code key operator operand []) =
      emissions ((stringLayout 1).encode key)
        (emissions
          (if 0 <= operator then (Codec.uint 1).encode operator.toNat
            else none)
          ((stringLayout 2).encode operand)) := by
  by_cases h : 0 <= operator
  · simp only [leafLayout, Codec.imap, h, and_self, if_true, Option.bind_some]
    rfl
  · simp only [leafLayout, Codec.imap, h, and_false, if_false,
      Option.bind_none]
    exact (emissions_eq_none.mpr
      (Or.inr (emissions_eq_none.mpr (Or.inl rfl)))).symm

theorem leaf_framing (bound : Nat) (key : Text) (operator : Int)
    (operand : Text) (children : List FilterExpression) :
    SizedFraming
      (do
        BinaryWriter.writeU8 FilterNodeType.leaf.code
        BinaryWriter.writeStringU8 key
        BinaryWriter.writeU8 operator
        BinaryWriter.writeStringU16 operand)
      ((layout (bound + 1)).encode
        (node FilterNodeType.leaf.code key operator operand children))
      [key, operand]
      (children = [] ∧ utf8Length key < 256 ∧
        (0 <= operator ∧ operator < 256) ∧ utf8Length operand < 65536)
      (utf8Length key + utf8Length operand + 5) := by
  have hbody := (SizedFraming.fixed 1 FilterNodeType.leaf.code).bind
    ((SizedFraming.string 1 key).bind
      ((SizedFraming.integer 1 operator).bind (SizedFraming.string 2 operand)))
  rw [layout_encode_tagged]
  cases children with
  | nil =>
      have hencode := leafLayout_encode key operator operand
      have hpayload : payloadLayout (layout bound) FilterNodeType.leaf.code =
          leafLayout := rfl
      rw [hpayload, hencode]
      refine hbody.congr ?_ (by omega)
      simp
  | cons child children =>
      have hnot : ¬ (child :: children = [] ∧ utf8Length key < 256 ∧
          (0 <= operator ∧ operator < 256) ∧
            utf8Length operand < 65536) := by
        simp
      exact (hbody.spoiled hnot).congr Iff.rfl (by omega)

theorem combinator_framing (x : FilterNodeType) (bound : Nat) (key : Text)
    (operator : Int) (operand : Text) (children : List FilterExpression)
    (hx : payloadLayout (layout bound) x.code =
      combinatorLayout (layout bound) x.code)
    (hchildren : SizedFraming (writeChildren children)
      ((layout bound).encodeAll children) (childrenStrings children)
      (ChildrenFit children) (childrenSize children)) :
    SizedFraming
      (do
        BinaryWriter.writeU8 x.code
        BinaryWriter.writeU8 children.length
        writeChildren children)
      ((layout (bound + 1)).encode
        (node x.code key operator operand children))
      (childrenStrings children)
      ((key = [] ∧ operator = 0 ∧ operand = []) ∧ children.length < 256 ∧
        ChildrenFit children)
      (childrenSize children + 2) := by
  have hbody := (SizedFraming.fixed 1 x.code).bind
    ((SizedFraming.count 1 children.length).bind hchildren)
  rw [layout_encode_tagged, hx]
  by_cases hplain : key = [] ∧ operator = 0 ∧ operand = []
  · have hencode : (combinatorLayout (layout bound) x.code).encode
        (node x.code key operator operand children) =
          (Codec.counted (Codec.uint 1) (layout bound)).encode children := by
      simp only [combinatorLayout, Codec.imap, hplain, and_self, if_true,
        Option.bind_some]
    rw [hencode, counted_encode]
    have htag : [UInt8.ofNat x.code] =
        bigEndian 1 ((x.code : Int) % (256 ^ 1 : Nat)).toNat := by
      cases x <;> rfl
    rw [htag]
    refine hbody.congr ?_ (by omega)
    simp [hplain]
  · have hencode : (combinatorLayout (layout bound) x.code).encode
        (node x.code key operator operand children) = none := by
      simp only [combinatorLayout, Codec.imap, hplain, and_false, if_false,
        Option.bind_none]
    rw [hencode]
    have hnot : ¬ ((key = [] ∧ operator = 0 ∧ operand = []) ∧
        children.length < 256 ∧ ChildrenFit children) :=
      fun h => hplain h.1
    exact (hbody.spoiled hnot).congr Iff.rfl (by omega)

theorem not_framing (bound : Nat) (key : Text) (operator : Int)
    (operand : Text) (children : List FilterExpression)
    (hchildren : forall child, children.head? = some child ->
      SizedFraming child.write ((layout bound).encode child) child.strings
        child.Fits child.size) :
    SizedFraming
      (do
        BinaryWriter.writeU8 FilterNodeType.not_.code
        writeFirst children)
      ((layout (bound + 1)).encode
        (node FilterNodeType.not_.code key operator operand children))
      (firstStrings children)
      ((key = [] ∧ operator = 0 ∧ operand = []) ∧ OnlyFits children)
      (firstSize children + 1) := by
  have htag := SizedFraming.fixed 1 FilterNodeType.not_.code
  rw [layout_encode_tagged]
  rcases children with _ | ⟨child, _ | ⟨second, rest⟩⟩
  · have hnot : ¬ ((key = [] ∧ operator = 0 ∧ operand = []) ∧
        OnlyFits []) := fun h => h.2
    exact ((htag.bind SizedFraming.pure).spoiled hnot).congr Iff.rfl rfl
  · have hbody := htag.bind (hchildren child rfl).embed
    by_cases hplain : key = [] ∧ operator = 0 ∧ operand = []
    · have hencode : (payloadLayout (layout bound)
          FilterNodeType.not_.code).encode
            (node FilterNodeType.not_.code key operator operand [child]) =
          (layout bound).encode child := by
        have hpayload : payloadLayout (layout bound)
            FilterNodeType.not_.code = notLayout (layout bound) := rfl
        simp only [hpayload, notLayout, Codec.imap, hplain, and_self, if_true,
          Option.bind_some]
      rw [hencode]
      refine hbody.congr ?_ (Nat.add_comm _ _)
      simp [hplain, OnlyFits]
    · have hencode : (payloadLayout (layout bound)
          FilterNodeType.not_.code).encode
            (node FilterNodeType.not_.code key operator operand [child]) =
          none := by
        have hpayload : payloadLayout (layout bound)
            FilterNodeType.not_.code = notLayout (layout bound) := rfl
        simp only [hpayload, notLayout, Codec.imap, hplain, and_false,
          if_false, Option.bind_none]
      rw [hencode]
      have hnot : ¬ ((key = [] ∧ operator = 0 ∧ operand = []) ∧
          OnlyFits [child]) := fun h => hplain h.1
      exact (hbody.spoiled hnot).congr Iff.rfl (Nat.add_comm _ _)
  · have hbody := htag.bind (hchildren child rfl).embed
    have hnot : ¬ ((key = [] ∧ operator = 0 ∧ operand = []) ∧
        OnlyFits (child :: second :: rest)) := fun h => h.2
    exact (hbody.spoiled hnot).congr Iff.rfl (Nat.add_comm _ _)

mutual

/-- A reader that goes as deep as the tree reads it back exactly when it
fits. -/
theorem write_framing : (e : FilterExpression) -> (bound : Nat) ->
    e.depth <= bound ->
      SizedFraming e.write ((layout bound).encode e) e.strings e.Fits e.size
  | node nodeType key operator operand children, bound, h => by
      rw [write_eq]
      unfold depth at h
      unfold strings Fits size
      cases hkind : kind nodeType with
      | none =>
          have hunread := layout_encode_of_kind_none
            (e := node nodeType key operator operand children) hkind bound
          rw [hunread]
          exact (((SizedFraming.fixed 1 nodeType).bind
            SizedFraming.pure).spoiled not_false).congr Iff.rfl rfl
      | some x =>
          have hcode := kind_code hkind
          subst hcode
          rw [hkind] at h
          cases bound with
          | zero => cases x <;> simp at h
          | succ bound =>
              cases x with
              | leaf => exact leaf_framing bound key operator operand children
              | and_ =>
                  exact combinator_framing FilterNodeType.and_ bound key
                    operator operand children rfl
                    (children_framing children bound (Nat.le_of_succ_le_succ h))
              | or_ =>
                  exact combinator_framing FilterNodeType.or_ bound key
                    operator operand children rfl
                    (children_framing children bound (Nat.le_of_succ_le_succ h))
              | not_ =>
                  exact not_framing bound key operator operand children
                    (first_framing children bound (Nat.le_of_succ_le_succ h))

theorem children_framing : (children : List FilterExpression) ->
    (bound : Nat) -> childrenDepth children <= bound ->
      SizedFraming (writeChildren children)
        ((layout bound).encodeAll children) (childrenStrings children)
        (ChildrenFit children) (childrenSize children)
  | [], _, _ => by
      unfold writeChildren childrenStrings ChildrenFit childrenSize
      exact SizedFraming.pure
  | child :: children, bound, h => by
      unfold childrenDepth at h
      have hchild := write_framing child bound (Nat.max_le.mp h).1
      have hrest := children_framing children bound (Nat.max_le.mp h).2
      have hboth := hchild.embed.bind hrest
      rw [bind_assoc] at hboth
      unfold writeChildren childrenStrings ChildrenFit childrenSize
      exact hboth

theorem first_framing : (children : List FilterExpression) ->
    (bound : Nat) -> firstDepth children <= bound ->
      forall child, children.head? = some child ->
        SizedFraming child.write ((layout bound).encode child) child.strings
          child.Fits child.size
  | [], _, _ => fun _ hchild => by cases hchild
  | child :: _, bound, h => by
      intro first hfirst
      injection hfirst with hfirst
      subst hfirst
      unfold firstDepth at h
      exact write_framing child bound h

end

mutual

theorem depth_le_size : (e : FilterExpression) -> e.depth <= e.size
  | node nodeType key operator operand children => by
      have hchildren := childrenDepth_le_size children
      have hfirst := firstDepth_le_size children
      unfold depth size
      rcases kind nodeType with _ | (_ | _ | _ | _) <;> simp only <;> omega

theorem childrenDepth_le_size : (children : List FilterExpression) ->
    childrenDepth children <= childrenSize children
  | [] => by
      unfold childrenDepth childrenSize
      exact Nat.le_refl 0
  | child :: children => by
      have hchild := depth_le_size child
      have hrest := childrenDepth_le_size children
      unfold childrenDepth childrenSize
      omega

theorem firstDepth_le_size : (children : List FilterExpression) ->
    firstDepth children <= firstSize children
  | [] => by
      unfold firstDepth firstSize
      exact Nat.le_refl 0
  | child :: _ => by
      unfold firstDepth firstSize
      exact depth_le_size child

end

end FilterExpression

end Models
end Hmmp
