import ViperChain.Bytes

/-!
CBOR values as `ciborium::value::Value` has them. Parsing and printing are the
library's; the payload decoders of the chain only walk the value tree.
-/

namespace ViperChain

inductive Value where
  | integer (number : Int)
  | bytes (content : Bytes)
  | float (bits : Nat)
  | text (content : Text)
  | bool (value : Bool)
  | null
  | tag (number : Nat) (content : Value)
  | array (items : List Value)
  | map (entries : List (Value × Value))

namespace Value

def asMap? : Value → Option (List (Value × Value))
  | map entries => some entries
  | _ => none

def asInteger? : Value → Option Int
  | integer number => some number
  | _ => none

def asBytes? : Value → Option Bytes
  | bytes content => some content
  | _ => none

def asText? : Value → Option Text
  | text content => some content
  | _ => none

def asBool? : Value → Option Bool
  | bool value => some value
  | _ => none

def asArray? : Value → Option (List Value)
  | array items => some items
  | _ => none

/-- `uN::try_from(integer)`: the number when it is in `0 .. 2^width`. -/
def asUint? (width : Nat) (value : Value) : Option Nat :=
  match value with
  | integer number => if 0 ≤ number ∧ number < 2 ^ width then some number.toNat else none
  | _ => none

def asBytes32? : Value → Option Bytes32
  | bytes content => Bytes32.ofBytes? content
  | _ => none

end Value

end ViperChain
