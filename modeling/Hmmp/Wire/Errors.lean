import Mathlib.Tactic.Common

/-!
# Exceptions

The exceptions the modelled functions raise, with their messages.  An exception
that the language or a library raises with a text of its own keeps its class
only.
-/

namespace Hmmp
namespace Wire

inductive PyError where
  | eofError (message : String)
  | valueError (message : String)
  | attributeError
  | typeError
  | keyError
  | unicodeEncodeError
  | unicodeDecodeError
  | structError
  | packError
  | incompleteReadError
  | protocolError (message : String)
  | connectionError (message : String)
  | connectionClosedError (message : String)
  | handshakeError (message : String) (statusCode : Option Nat)
  | handshakeTimeoutError (message : String)
  | nonceError (message : String) (statusCode : Option Nat)
  | timeoutError (message : String)
  | decryptionError (message : String)
  deriving Repr, DecidableEq

/-- Upper-case hexadecimal digits, filled with zeros up to a width. -/
def upperHex (width n : Nat) : String :=
  let digits := (Nat.toDigits 16 n).map Char.toUpper
  String.ofList (List.replicate (width - digits.length) '0' ++ digits)

end Wire
end Hmmp
