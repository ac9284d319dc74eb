import Mathlib

/-!
Byte strings. `[u8; 32]` values carry their length and are ordered lexicographically, as
Rust orders arrays.
-/

namespace ViperChain

abbrev Byte := Fin 256

abbrev Bytes := List Byte

instance neZeroByte : NeZero 256 := ⟨by decide⟩

@[ext] structure Bytes32 where
  data : Bytes
  length_eq : data.length = 32
deriving DecidableEq

namespace Bytes32

theorem data_injective : Function.Injective Bytes32.data :=
  fun _ _ same => Bytes32.ext same

instance : LinearOrder Bytes32 := LinearOrder.lift' Bytes32.data data_injective

instance transCmp : Std.TransCmp (compare : Bytes32 → Bytes32 → Ordering) := inferInstance

instance : Std.LawfulEqOrd Bytes32 := ⟨compare_eq_iff_eq.mp⟩

def fill (byte : Byte) : Bytes32 := ⟨List.replicate 32 byte, by simp⟩

def ofBytes? (bytes : Bytes) : Option Bytes32 :=
  if exact : bytes.length = 32 then some ⟨bytes, exact⟩ else none

instance : Inhabited Bytes32 := ⟨fill 0⟩

end Bytes32

abbrev Address := Bytes32

/-- The UTF-8 bytes of a Rust `String`. -/
abbrev Text := Bytes

/-- The low `width` bytes of a number, most significant first. -/
def toBeBytes : Nat → Nat → Bytes
  | 0, _ => []
  | width + 1, number => toBeBytes width (number / 256) ++ [Fin.ofNat 256 number]

@[simp] theorem toBeBytes_length (width number : Nat) : (toBeBytes width number).length = width := by
  induction width generalizing number with
  | zero => rfl
  | succ width ih => simp [toBeBytes, ih]

/-- The low `width` bytes of a number, least significant first. -/
def toLeBytes (width number : Nat) : Bytes := (toBeBytes width number).reverse

def ascii (text : String) : Bytes := text.toList.map fun char => Fin.ofNat 256 char.toNat

/-- `uN::from_be_bytes`. -/
def ofBeBytes (bytes : Bytes) : Nat := bytes.foldl (fun total byte => total * 256 + byte.val) 0

theorem ofBeBytes_append_singleton (bytes : Bytes) (last : Byte) :
    ofBeBytes (bytes ++ [last]) = ofBeBytes bytes * 256 + last.val := by
  simp [ofBeBytes, List.foldl_append]

@[simp] theorem ofBeBytes_toBeBytes (width number : Nat) :
    ofBeBytes (toBeBytes width number) = number % 256 ^ width := by
  induction width generalizing number with
  | zero => simp [toBeBytes, ofBeBytes, Nat.mod_one]
  | succ width ih =>
      rw [toBeBytes, ofBeBytes_append_singleton, ih, Nat.pow_succ, Nat.mul_comm (256 ^ width) 256,
        Nat.mod_mul]
      simp only [Fin.ofNat]
      omega

theorem toBeBytes_injective {width left right : Nat} (fitsLeft : left < 256 ^ width)
    (fitsRight : right < 256 ^ width) (same : toBeBytes width left = toBeBytes width right) :
    left = right := by
  have numbers := congrArg ofBeBytes same
  rwa [ofBeBytes_toBeBytes, ofBeBytes_toBeBytes, Nat.mod_eq_of_lt fitsLeft,
    Nat.mod_eq_of_lt fitsRight] at numbers

def Bytes32.ofNat (number : Nat) : Bytes32 := ⟨toBeBytes 32 number, toBeBytes_length _ _⟩

theorem Bytes32.ofNat_injOn {left right : Nat} (fitsLeft : left < 256 ^ 32)
    (fitsRight : right < 256 ^ 32) (same : ofNat left = ofNat right) : left = right := by
  simp only [ofNat, Bytes32.mk.injEq] at same
  exact toBeBytes_injective fitsLeft fitsRight same

def u16Max : Nat := 2 ^ 16 - 1

def u32Max : Nat := 2 ^ 32 - 1

def u64Max : Nat := 2 ^ 64 - 1

def u128Max : Nat := 2 ^ 128 - 1

def satAdd64 (left right : Nat) : Nat := min (left + right) u64Max

def satMul64 (left right : Nat) : Nat := min (left * right) u64Max

def satAdd128 (left right : Nat) : Nat := min (left + right) u128Max

def satMul128 (left right : Nat) : Nat := min (left * right) u128Max

end ViperChain
