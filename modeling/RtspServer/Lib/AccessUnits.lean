/-
  RTP payloads of RFC 3640: the length of the AU headers in bits, the AU headers, filled up to a
  whole byte, and the access units. Names nothing of the server.

  A reader takes the header fields out bit by bit, with the lengths that the format parameters
  give (`decode`). `decode_hbr`: what it finds in a payload with one header of 13 and 3 bits.
-/
import RtspServer.Lib.ByteString
import Mathlib.Tactic.Ring

namespace AccessUnits

open ByteString

/-- The lengths of the header fields in bits: `sizelength`, `indexlength`, `indexdeltalength`. -/
structure HeaderFormat where
  sizeLength : Nat
  indexLength : Nat
  indexDeltaLength : Nat
  deriving DecidableEq

structure AuHeader where
  size : Nat
  index : Nat
  deriving DecidableEq

/-- The bits of a byte, the most significant one first. -/
def byteBits (b : UInt8) : List Bool := (List.range 8).map fun i => b.toNat.testBit (7 - i)

def bits (s : Bytes) : List Bool := s.flatMap byteBits

/-- The number that bits stand for. -/
def number (bs : List Bool) : Nat := bs.foldl (fun n b => 2 * n + b.toNat) 0

/-- AU headers to the end of the bits. The first one has an index, the others the distance from
    the one before. -/
def readHeaders (f : HeaderFormat) : Nat → Nat → List Bool → Option (List AuHeader)
  | _, _, [] => some []
  | 0, _, _ => none
  | fuel + 1, indexLength, bs =>
      if bs.length < f.sizeLength + indexLength then none
      else
        let header : AuHeader :=
          { size := number (bs.take f.sizeLength)
            index := number ((bs.drop f.sizeLength).take indexLength) }
        (readHeaders f fuel f.indexDeltaLength (bs.drop (f.sizeLength + indexLength))).map
          (header :: ·)

/-- The AU headers of a payload and what follows them. -/
def decode (f : HeaderFormat) : Bytes → Option (List AuHeader × Bytes)
  | a :: b :: s =>
      let length := 256 * a.toNat + b.toNat
      let octets := (length + 7) / 8
      if s.length < octets then none
      else
        (readHeaders f length f.indexLength ((bits (s.take octets)).take length)).map fun headers =>
          (headers, s.drop octets)
  | _ => none

theorem readHeaders_succ {f : HeaderFormat} {fuel indexLength : Nat} {bs : List Bool}
    (h : bs ≠ []) :
    readHeaders f (fuel + 1) indexLength bs =
      if bs.length < f.sizeLength + indexLength then none
      else (readHeaders f fuel f.indexDeltaLength (bs.drop (f.sizeLength + indexLength))).map
        (⟨number (bs.take f.sizeLength),
          number ((bs.drop f.sizeLength).take indexLength)⟩ :: ·) := by
  cases bs with
  | nil => exact absurd rfl h
  | cons b bs => rfl

theorem foldl_number (n : Nat) (bs : List Bool) :
    bs.foldl (fun n b => 2 * n + b.toNat) n = n * 2 ^ bs.length + number bs := by
  induction bs generalizing n with
  | nil => simp [number]
  | cons b bs ih =>
      rw [number, List.foldl_cons, List.foldl_cons, ih, ih, List.length_cons, pow_succ]
      ring

theorem number_append (bs cs : List Bool) :
    number (bs ++ cs) = number bs * 2 ^ cs.length + number cs := by
  rw [number, List.foldl_append, foldl_number]
  rfl

/-- The bits of a byte, and its first five and last three. -/
theorem number_byteBits (b : UInt8) :
    number (byteBits b) = b.toNat ∧ number ((byteBits b).take 5) = b.toNat / 8 ∧
      number ((byteBits b).drop 5) = b.toNat % 8 := by
  have h : ∀ n, n < 256 → number (byteBits (UInt8.ofNat n)) = n ∧
      number ((byteBits (UInt8.ofNat n)).take 5) = n / 8 ∧
      number ((byteBits (UInt8.ofNat n)).drop 5) = n % 8 := by decide +kernel
  have hb := h b.toNat b.toNat_lt
  rwa [UInt8.ofNat_toNat] at hb

/-- Two bytes of headers in the format of AAC-hbr. -/
theorem decode_hbr (x y : UInt8) (data : Bytes) :
    decode ⟨13, 3, 3⟩ (0 :: 16 :: x :: y :: data) =
      some ([⟨32 * x.toNat + y.toNat / 8, y.toNat % 8⟩], data) := by
  have hlen : ∀ b, (byteBits b).length = 8 := fun b => by simp [byteBits]
  obtain ⟨hx, -, -⟩ := number_byteBits x
  obtain ⟨-, hhigh, hlow⟩ := number_byteBits y
  have hbits : bits [x, y] = byteBits x ++ byteBits y := by simp [bits]
  have hall : (byteBits x ++ byteBits y).take 16 = byteBits x ++ byteBits y :=
    List.take_of_length_le (by simp [hlen])
  have hsize : number ((byteBits x ++ byteBits y).take 13) = 32 * x.toNat + y.toNat / 8 := by
    have hfive : ((byteBits y).take (13 - 8)).length = 5 := by rw [List.length_take, hlen]; rfl
    rw [List.take_append, List.take_of_length_le (by simp [hlen]), hlen, number_append, hfive, hx,
      hhigh]
    omega
  have hindex : number (((byteBits x ++ byteBits y).drop 13).take 3) = y.toNat % 8 := by
    rw [List.drop_append, List.drop_eq_nil_of_le (by simp [hlen]), List.nil_append, hlen,
      List.take_of_length_le (by simp [hlen]), hlow]
  have hone : readHeaders ⟨13, 3, 3⟩ 16 3 (byteBits x ++ byteBits y) =
      some [⟨32 * x.toNat + y.toNat / 8, y.toNat % 8⟩] := by
    have hnone : (byteBits x ++ byteBits y).drop (13 + 3) = [] :=
      List.drop_eq_nil_of_le (by simp [hlen])
    rw [readHeaders_succ (by simp [← List.length_eq_zero_iff, hlen]), if_neg (by simp [hlen]),
      hnone, hsize, hindex, readHeaders]
    rfl
  have hpair : (x :: y :: data).take 2 = [x, y] := rfl
  have hshort : ¬ (x :: y :: data).length < 2 := by simp
  rw [decode]
  simp only [UInt8.reduceToNat, Nat.mul_zero, Nat.zero_add, Nat.reduceAdd, Nat.reduceDiv, hpair,
    hbits, hall, hone, if_neg hshort, Option.map_some]
  rfl

end AccessUnits
