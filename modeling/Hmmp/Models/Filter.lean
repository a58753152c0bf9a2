import Hmmp.Wire.Binary
import Hmmp.Wire.Constants

/-!
# Filter expressions

The predicate trees of filtered service discovery, with every field of the
record they are kept in, and the bytes they are sent as.
-/

namespace Hmmp
namespace Models

open Foundation
open Wire

inductive FilterExpression where
  | node (nodeType : Int) (key : Text) (operator : Int) (operand : Text)
      (children : List FilterExpression)

namespace FilterExpression

def nodeType : FilterExpression -> Int
  | node nodeType _ _ _ _ => nodeType

def leaf (key : Text) (operator : Int) (operand : Text) : FilterExpression :=
  node FilterNodeType.leaf.code key operator operand []

def and_ (children : List FilterExpression) : FilterExpression :=
  node FilterNodeType.and_.code [] 0 [] children

def or_ (children : List FilterExpression) : FilterExpression :=
  node FilterNodeType.or_.code [] 0 [] children

def not_ (child : FilterExpression) : FilterExpression :=
  node FilterNodeType.not_.code [] 0 [] [child]

mutual

/-- The writes of a tree: its tag and what the tag calls for. -/
def write : FilterExpression -> Writing Unit
  | node nodeType key operator operand children => do
      BinaryWriter.writeU8 nodeType
      if nodeType = FilterNodeType.leaf.code then do
        BinaryWriter.writeStringU8 key
        BinaryWriter.writeU8 operator
        BinaryWriter.writeStringU16 operand
      else if nodeType = FilterNodeType.and_.code ∨
          nodeType = FilterNodeType.or_.code then do
        BinaryWriter.writeU8 children.length
        writeChildren children
      else if nodeType = FilterNodeType.not_.code then
        writeFirst children
      else pure ()

def writeChildren : List FilterExpression -> Writing Unit
  | [] => pure ()
  | child :: children => do
      BinaryWriter.writeBytes (← BinaryWriter.getvalue child.write)
      writeChildren children

/-- Write the bytes of the first child, if there is one. -/
def writeFirst : List FilterExpression -> Writing Unit
  | [] => pure ()
  | child :: _ => do
      BinaryWriter.writeBytes (← BinaryWriter.getvalue child.write)

end

def toBytes (e : FilterExpression) : Except PyError Bytes :=
  BinaryWriter.getvalue e.write

end FilterExpression

end Models
end Hmmp
