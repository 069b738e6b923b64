/-
  Standard base64 with padding. Names nothing of the server.

  `decode` is strict: it takes groups of four characters, padding only in the last one, and no
  bits that the padding stands for. `decode_encode`: what was encoded is decoded again.
-/
import RtspServer.Lib.ByteString

namespace Base64

open ByteString

def alphabet : Bytes :=
  ascii "ABCDEFGHIJKLMNOPQRSTUVWXYZabcdefghijklmnopqrstuvwxyz0123456789+/"

/-- `=`. -/
def pad : UInt8 := 61

/-- The character of six bits. -/
def sextet (n : Nat) : UInt8 := alphabet.getD n 0

/-- What a character stands for. -/
def value (c : UInt8) : Option Nat :=
  if 65 ≤ c ∧ c ≤ 90 then some (c.toNat - 65)
  else if 97 ≤ c ∧ c ≤ 122 then some (c.toNat - 97 + 26)
  else if 48 ≤ c ∧ c ≤ 57 then some (c.toNat - 48 + 52)
  else if c = 43 then some 62
  else if c = 47 then some 63
  else none

def encode : Bytes → Bytes
  | [] => []
  | [x] => [sextet (x.toNat / 4), sextet (x.toNat % 4 * 16), pad, pad]
  | [x, y] =>
      [sextet (x.toNat / 4), sextet (x.toNat % 4 * 16 + y.toNat / 16), sextet (y.toNat % 16 * 4),
        pad]
  | x :: y :: z :: s =>
      sextet (x.toNat / 4) :: sextet (x.toNat % 4 * 16 + y.toNat / 16) ::
        sextet (y.toNat % 16 * 4 + z.toNat / 64) :: sextet (z.toNat % 64) :: encode s

def decode : Bytes → Option Bytes
  | [] => some []
  | a :: b :: c :: d :: s =>
      match value a, value b, value c, value d with
      | some i, some j, some k, some l =>
          (decode s).map fun bytes =>
            UInt8.ofNat (i * 4 + j / 16) :: UInt8.ofNat (j % 16 * 16 + k / 4) ::
              UInt8.ofNat (k % 4 * 64 + l) :: bytes
      | some i, some j, some k, none =>
          if d = pad ∧ s = [] ∧ k % 4 = 0 then
            some [UInt8.ofNat (i * 4 + j / 16), UInt8.ofNat (j % 16 * 16 + k / 4)]
          else none
      | some i, some j, none, _ =>
          if c = pad ∧ d = pad ∧ s = [] ∧ j % 16 = 0 then some [UInt8.ofNat (i * 4 + j / 16)]
          else none
      | _, _, _, _ => none
  | _ => none

theorem value_sextet {n : Nat} (h : n < 64) : value (sextet n) = some n := by
  revert n
  decide +kernel

theorem value_pad : value pad = none := by decide

/-- Eight bits put together again. -/
theorem ofNat_parts {b : UInt8} {n : Nat} (h : n = b.toNat) : UInt8.ofNat n = b := by
  rw [h, UInt8.ofNat_toNat]

theorem decode_encode (s : Bytes) : decode (encode s) = some s := by
  match s with
  | [] => rfl
  | [x] =>
      have := x.toNat_lt
      rw [encode, decode, value_sextet (by omega), value_sextet (by omega), value_pad]
      dsimp only
      rw [if_pos ⟨rfl, rfl, rfl, by omega⟩, ofNat_parts (b := x) (by omega)]
  | [x, y] =>
      have := x.toNat_lt
      have := y.toNat_lt
      rw [encode, decode, value_sextet (by omega), value_sextet (by omega), value_sextet (by omega),
        value_pad]
      dsimp only
      rw [if_pos ⟨rfl, rfl, by omega⟩, ofNat_parts (b := x) (by omega),
        ofNat_parts (b := y) (by omega)]
  | x :: y :: z :: s =>
      have := x.toNat_lt
      have := y.toNat_lt
      have := z.toNat_lt
      rw [encode, decode, value_sextet (by omega), value_sextet (by omega), value_sextet (by omega),
        value_sextet (by omega), decode_encode s]
      dsimp only [Option.map_some]
      rw [ofNat_parts (b := x) (by omega), ofNat_parts (b := y) (by omega),
        ofNat_parts (b := z) (by omega)]

/-- The bytes of an encoded text. -/
def isChar (c : UInt8) : Bool := (value c).isSome || c == pad

theorem isChar_sextet {n : Nat} (h : n < 64) : isChar (sextet n) = true := by
  rw [isChar, value_sextet h]
  rfl

theorem isChar_encode {s : Bytes} {c : UInt8} (h : c ∈ encode s) : isChar c = true := by
  match s with
  | [] => cases h
  | [x] =>
      have := x.toNat_lt
      simp only [encode, List.mem_cons, List.not_mem_nil, or_false] at h
      rcases h with rfl | rfl | rfl | rfl
      · exact isChar_sextet (by omega)
      · exact isChar_sextet (by omega)
      · rfl
      · rfl
  | [x, y] =>
      have := x.toNat_lt
      have := y.toNat_lt
      simp only [encode, List.mem_cons, List.not_mem_nil, or_false] at h
      rcases h with rfl | rfl | rfl | rfl
      · exact isChar_sextet (by omega)
      · exact isChar_sextet (by omega)
      · exact isChar_sextet (by omega)
      · rfl
  | x :: y :: z :: s =>
      have := x.toNat_lt
      have := y.toNat_lt
      have := z.toNat_lt
      simp only [encode, List.mem_cons] at h
      rcases h with rfl | rfl | rfl | rfl | h
      · exact isChar_sextet (by omega)
      · exact isChar_sextet (by omega)
      · exact isChar_sextet (by omega)
      · exact isChar_sextet (by omega)
      · exact isChar_encode h

end Base64
