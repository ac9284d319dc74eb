import Mathlib.Data.Nat.Digits.Lemmas
import Mathlib.Data.List.Basic

/-!
Digits in texts: bytes in hexadecimal, and numbers in decimal with leading zeros.
-/

namespace TextDigits

section Hex

def hexDigit (digit : Fin 16) : Char := Nat.digitChar digit.val

def hexValue (char : Char) : Option (Fin 16) :=
  (List.finRange 16).find? fun digit => hexDigit digit = char ∨ (hexDigit digit).toUpper = char

theorem hexValue_hexDigit (digit : Fin 16) : hexValue (hexDigit digit) = some digit := by
  revert digit
  decide

theorem hexDigit_ne_x (digit : Fin 16) : hexDigit digit ≠ 'x' := by
  revert digit
  decide

def highHalf (byte : Fin 256) : Fin 16 := ⟨byte.val / 16, by omega⟩

def lowHalf (byte : Fin 256) : Fin 16 := ⟨byte.val % 16, by omega⟩

def ofHalves (high low : Fin 16) : Fin 256 := ⟨16 * high.val + low.val, by omega⟩

theorem ofHalves_halves (byte : Fin 256) : ofHalves (highHalf byte) (lowHalf byte) = byte := by
  apply Fin.ext
  simp only [ofHalves, highHalf, lowHalf]
  omega

def hexChars : List (Fin 256) → List Char
  | [] => []
  | byte :: rest => hexDigit (highHalf byte) :: hexDigit (lowHalf byte) :: hexChars rest

def readHexChars : List Char → Option (List (Fin 256))
  | [] => some []
  | [_] => none
  | high :: low :: rest => do
      let high ← hexValue high
      let low ← hexValue low
      let rest ← readHexChars rest
      return ofHalves high low :: rest

theorem readHexChars_hexChars (bytes : List (Fin 256)) :
    readHexChars (hexChars bytes) = some bytes := by
  induction bytes with
  | nil => rfl
  | cons byte rest ih => simp [hexChars, readHexChars, hexValue_hexDigit, ih, ofHalves_halves]

/-- `str::trim_start_matches("0x")`. -/
def trimHexMark : List Char → List Char
  | '0' :: 'x' :: rest => trimHexMark rest
  | text => text

theorem trimHexMark_hexChars (bytes : List (Fin 256)) :
    trimHexMark (hexChars bytes) = hexChars bytes := by
  cases bytes with
  | nil => rfl
  | cons byte rest =>
      rw [hexChars, trimHexMark]
      intro tail marked
      exact hexDigit_ne_x _ (List.cons.inj (List.cons.inj marked).2).1

def hexEncode (bytes : List (Fin 256)) : String := String.ofList (hexChars bytes)

/-- `hex::decode` of the text without its marks. -/
def hexDecode (text : String) : Option (List (Fin 256)) :=
  readHexChars (trimHexMark text.toList)

@[simp] theorem hexDecode_hexEncode (bytes : List (Fin 256)) :
    hexDecode (hexEncode bytes) = some bytes := by
  rw [hexDecode, hexEncode, String.toList_ofList, trimHexMark_hexChars, readHexChars_hexChars]

end Hex

section Decimal

def paddedDigits (width number : Nat) : List Nat :=
  Nat.digits 10 number ++ List.replicate (width - (Nat.digits 10 number).length) 0

def decimal (width number : Nat) : List Char :=
  (paddedDigits width number).reverse.map Nat.digitChar

theorem ofDigits_paddedDigits (width number : Nat) :
    Nat.ofDigits 10 (paddedDigits width number) = number := by
  rw [paddedDigits, Nat.ofDigits_append_replicate_zero, Nat.ofDigits_digits]

theorem paddedDigits_lt {width number digit : Nat} (member : digit ∈ paddedDigits width number) :
    digit < 10 := by
  rcases List.mem_append.mp member with ordinary | padding
  · exact Nat.digits_lt_base (by decide) ordinary
  · rw [(List.mem_replicate.mp padding).2]
    decide

theorem toNat_digitChar : ∀ digit < 10, (Nat.digitChar digit).toNat - 48 = digit := by decide

theorem map_toNat_decimal (width number : Nat) :
    (decimal width number).map (fun char => char.toNat - 48) = (paddedDigits width number).reverse := by
  rw [decimal, List.map_map]
  refine (List.map_congr_left fun digit member => ?_).trans (List.map_id _)
  exact toNat_digitChar digit (paddedDigits_lt (List.mem_reverse.mp member))

theorem decimal_injective (width : Nat) : Function.Injective (decimal width) := by
  intro left right same
  have digits : (paddedDigits width left).reverse = (paddedDigits width right).reverse := by
    rw [← map_toNat_decimal, same, map_toNat_decimal]
  rw [← ofDigits_paddedDigits width left, List.reverse_injective digits, ofDigits_paddedDigits]

theorem length_decimal {width number : Nat} (fits : number < 10 ^ width) :
    (decimal width number).length = width := by
  have short := (Nat.digits_length_le_iff (by decide : 1 < 10) number).mpr fits
  simp only [decimal, paddedDigits, List.length_map, List.length_reverse, List.length_append,
    List.length_replicate]
  omega

end Decimal

end TextDigits
