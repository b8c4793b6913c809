import Mathlib.Data.List.Basic
import Mathlib.Tactic.Ring

/-!
# The Lua and Wireshark primitives the dissector calls

The packet-capture dissector is Lua 5.2 run by Wireshark. It reads its buffer
through `TvbRange` and `ByteArray` values and does its arithmetic with the
`bit32` library. A buffer here is the list of its bytes; an access that
Wireshark rejects with a Lua error (a range past the end, an index out of
bounds) is `none`, and the error aborts the whole dissection.
-/

namespace Pinecone.Dissector

/-- The bytes of a `Tvb`, `TvbRange` or `ByteArray`. -/
abbrev Bytes := List UInt8

@[simp] theorem toNat_ofNat_byte (n : Nat) : (UInt8.ofNat n).toNat = n % 256 := rfl

/-! ## `bit32`

Every `bit32` function first reduces its operands modulo `2^32`, and every
result lies in `[0, 2^32)`. -/

/-- `bit32.lshift(x, disp)` for a displacement below 32. -/
def lshift (x disp : Nat) : Nat := ((x % 2 ^ 32) <<< disp) % 2 ^ 32

/-- `bit32.bor(x, y)`. -/
def bor (x y : Nat) : Nat := (x % 2 ^ 32) ||| (y % 2 ^ 32)

/-- `bit32.band(x, y)`. -/
def band (x y : Nat) : Nat := (x % 2 ^ 32) &&& (y % 2 ^ 32)

/-- Masking a byte with `0x7f` keeps its low seven bits. -/
theorem band_low_seven {b : Nat} (byte : b < 256) : band b 0x7f = b % 128 := by
  have masked := Nat.and_pow_two_sub_one_eq_mod b 7
  simp only [band, Nat.mod_eq_of_lt (show b < 2 ^ 32 by omega)]
  exact masked

/-- A byte has its continuation bit `0x80` clear exactly when it is below 128. -/
theorem band_high_bit_eq_zero {b : Nat} (byte : b < 256) : band b 0x80 = 0 ↔ b < 128 := by
  have bit : (b &&& 2 ^ 7) = 0 ↔ b.testBit 7 = false := by
    constructor
    · intro isZero
      have := congrArg (Nat.testBit · 7) isZero
      simpa only [Nat.testBit_and, Nat.testBit_two_pow_self, Bool.and_true,
        Nat.zero_testBit] using this
    · intro clear
      apply Nat.eq_of_testBit_eq
      intro index
      simp only [Nat.testBit_and, Nat.testBit_two_pow, Nat.zero_testBit]
      by_cases seven : 7 = index
      · subst seven
        simp [clear]
      · simp [seven]
  simp only [band, Nat.mod_eq_of_lt (show b < 2 ^ 32 by omega)]
  rw [show (0x80 % 2 ^ 32 : Nat) = 2 ^ 7 from rfl, bit, Nat.testBit_to_div_mod]
  simp
  omega

/-- One accumulation step of a varint reader: shift the 32-bit accumulator by
seven bits and or in the low group of the next byte. Reduced modulo `2^32`,
this is the exact base-128 step. -/
theorem bor_lshift_band {acc b : Nat} (fits : acc < 2 ^ 32) (byte : b < 256) :
    bor (lshift acc 7) (band b 0x7f) = (acc * 128 + b % 128) % 2 ^ 32 := by
  have shifted : lshift acc 7 = 2 ^ 7 * (acc % 2 ^ 25) := by
    simp only [lshift, Nat.mod_eq_of_lt fits, Nat.shiftLeft_eq]
    omega
  have group : b % 128 < 2 ^ 7 := by omega
  rw [shifted, band_low_seven byte, bor, Nat.mod_eq_of_lt (by omega : 2 ^ 7 * (acc % 2 ^ 25) < 2 ^ 32),
    Nat.mod_eq_of_lt (by omega : b % 128 < 2 ^ 32), ← Nat.mul_add_lt_is_or group]
  omega

/-! ## Buffers -/

/-- `range(offset, length)` on a `Tvb` or `TvbRange`, and
`ByteArray:subset(offset, length)`. -/
def sub (range : Bytes) (offset length : Nat) : Option Bytes :=
  if offset + length ≤ range.length then some ((range.drop offset).take length) else none

/-- `range(offset)`: the bytes from `offset` to the end. -/
def suffix (range : Bytes) (offset : Nat) : Option Bytes :=
  if offset ≤ range.length then some (range.drop offset) else none

/-- `TvbRange:uint()`: the big-endian value of a range of one to four bytes. -/
def uint (range : Bytes) : Option Nat :=
  if 1 ≤ range.length ∧ range.length ≤ 4 then
    some (range.foldl (fun value byte => value * 256 + byte.toNat) 0)
  else none

/-- The big-endian two-byte field the Go codec writes for a length. -/
def be16 (value : Nat) : Bytes := [UInt8.ofNat (value / 256), UInt8.ofNat (value % 256)]

@[simp] theorem length_be16 (value : Nat) : (be16 value).length = 2 := rfl

/-- Reading `length` bytes at `offset` from `front ++ middle ++ back` gives `middle`. -/
theorem sub_middle (front middle back : Bytes) :
    sub (front ++ middle ++ back) front.length middle.length = some middle := by
  simp [sub, List.drop_append_of_le_length, List.take_append_of_le_length]

theorem suffix_middle (front back : Bytes) :
    suffix (front ++ back) front.length = some back := by
  simp [suffix]

/-- A two-byte length field reads back as the length it holds. -/
theorem uint_be16 {value : Nat} (fits : value < 2 ^ 16) : uint (be16 value) = some value := by
  simp only [uint, be16, List.length_cons, List.length_nil, List.foldl, toNat_ofNat_byte]
  norm_num
  omega

end Pinecone.Dissector
