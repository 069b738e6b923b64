/-
  Hexadecimal digits as bytes of a text, in either letter case, and bytes written as two of
  them. Names nothing of the server.

  * `value_digit`, `exists_digit`: the digits are the bytes that have a value.
  * `decode_flatMap`: a text of such pairs, all in one case, decodes to the bytes.
-/
import RtspServer.Lib.ByteString

namespace Hex

open ByteString

/-- The digit of a number below 16. -/
def digit (upper : Bool) (n : Nat) : UInt8 :=
  if n < 10 then UInt8.ofNat (48 + n) else UInt8.ofNat ((if upper then 65 else 97) + (n - 10))

/-- What a digit stands for. -/
def value (c : UInt8) : Option Nat :=
  if 48 ≤ c ∧ c ≤ 57 then some (c.toNat - 48)
  else if 65 ≤ c ∧ c ≤ 70 then some (c.toNat - 65 + 10)
  else if 97 ≤ c ∧ c ≤ 102 then some (c.toNat - 97 + 10)
  else none

/-- A byte as two digits, each in its own letter case. -/
def pair (high low : Bool) (b : UInt8) : Bytes :=
  [digit high (b.toNat / 16), digit low (b.toNat % 16)]

/-- A text of pairs read back, `none` when it is not one. -/
def decode : Bytes → Option Bytes
  | [] => some []
  | [_] => none
  | a :: b :: s =>
      match value a, value b, decode s with
      | some hi, some lo, some bytes => some (UInt8.ofNat (16 * hi + lo) :: bytes)
      | _, _, _ => none

theorem value_digit (upper : Bool) {n : Nat} (h : n < 16) : value (digit upper n) = some n := by
  revert n
  cases upper <;> decide

theorem value_lt {c : UInt8} {n : Nat} (h : value c = some n) : n < 16 := by
  unfold value at h
  simp only [UInt8.le_iff_toNat_le, UInt8.reduceToNat] at h
  split at h
  · cases h; omega
  split at h
  · cases h; omega
  split at h
  · cases h; omega
  · cases h

theorem exists_digit {c : UInt8} {n : Nat} (h : value c = some n) :
    ∃ upper, c = digit upper n := by
  unfold value at h
  simp only [UInt8.le_iff_toNat_le, UInt8.reduceToNat] at h
  split at h
  · cases h
    exact ⟨false, UInt8.toNat_inj.mp (by unfold digit; rw [if_pos (by omega)]; simp; omega)⟩
  split at h
  · cases h
    exact ⟨true, UInt8.toNat_inj.mp (by unfold digit; rw [if_neg (by omega)]; simp; omega)⟩
  split at h
  · cases h
    exact ⟨false, UInt8.toNat_inj.mp (by unfold digit; rw [if_neg (by omega)]; simp; omega)⟩
  · cases h

theorem ofNat_halves (b : UInt8) : UInt8.ofNat (16 * (b.toNat / 16) + b.toNat % 16) = b := by
  rw [Nat.div_add_mod, UInt8.ofNat_toNat]

theorem decode_pair (high low : Bool) (b : UInt8) (s : Bytes) :
    decode (pair high low b ++ s) = (decode s).map (b :: ·) := by
  have hhigh : value (digit high (b.toNat / 16)) = some (b.toNat / 16) :=
    value_digit high (by have := b.toNat_lt; omega)
  have hlow : value (digit low (b.toNat % 16)) = some (b.toNat % 16) :=
    value_digit low (by omega)
  rw [pair, List.cons_append, List.cons_append, List.nil_append, decode, hhigh, hlow]
  cases decode s with
  | none => rfl
  | some bytes => simp only [ofNat_halves, Option.map_some]

theorem isSome_value {c : UInt8} {high low : Bool} {b : UInt8} (h : c ∈ pair high low b) :
    (value c).isSome = true := by
  have hb := b.toNat_lt
  rcases List.mem_pair.mp h with rfl | rfl
  · rw [value_digit high (by omega)]
    rfl
  · rw [value_digit low (by omega)]
    rfl

theorem decode_flatMap (upper : Bool) (bs : Bytes) :
    decode (bs.flatMap (pair upper upper)) = some bs := by
  induction bs with
  | nil => rfl
  | cons b bs ih => rw [List.flatMap_cons, decode_pair, ih, Option.map_some]

end Hex
