/-
  Model of `rtp/RTPSender.cpp`, interleaved sending: the frame header and the packet are handed to
  the socket as two vectors, and the vectors are advanced over what each call took.

  The socket is a parameter: `sendmsg k iov` is what the call number `k` returns when it is
  offered `iov`, the number of bytes taken or an error, which is not positive. The lock is left
  out; nothing else is modelled that it would keep away.

  `sendTCPInterleaved_exact`: however the socket cuts the frame, the bytes it takes are a
  beginning of the frame that `pushTCPFrame` builds, and all of it if and only if the call says so.
-/
import RtspServer.Server.Session

namespace RtspServer

open ByteString

namespace RTPSender

/-- The loop of `sendTCPInterleaved`: the entries from `msg_iov` on, the count of bytes still to
    be sent, and what the socket has taken. -/
structure Sending where
  iov : List Bytes
  remaining : Nat
  written : Bytes

/-- The inner loop: the vectors without their first `n` bytes. -/
def advance : Nat → List Bytes → List Bytes
  | 0, iov => iov
  | _ + 1, [] => []
  | n + 1, v :: rest =>
      if v.length ≤ n + 1 then advance (n + 1 - v.length) rest else v.drop (n + 1) :: rest

/-- Subtraction of `size_t` values, modulo `2^64`. -/
def sizeSub (a b : Nat) : Nat := (a + 18446744073709551616 - b) % 18446744073709551616

theorem sizeSub_eq {a b : Nat} (h : b ≤ a) (ha : a < 18446744073709551616) :
    sizeSub a b = a - b := by
  unfold sizeSub
  omega

/-- The loop, `none` when the fuel runs out. -/
def sendLoop (sendmsg : Nat → List Bytes → Int) : Nat → Nat → Sending → Option (Bool × Bytes)
  | 0, _, s => if s.remaining = 0 then some (true, s.written) else none
  | fuel + 1, k, s =>
      if s.remaining = 0 then some (true, s.written)
      else
        let n := sendmsg k s.iov
        if n ≤ 0 then some (false, s.written)
        else
          sendLoop sendmsg fuel (k + 1)
            { iov := advance n.toNat s.iov
              remaining := sizeSub s.remaining n.toNat
              written := s.written ++ s.iov.flatten.take n.toNat }

/-- `hdr`: `$`, the channel and the length. -/
def header (rtpChannel : UInt8) (data : Bytes) : Bytes :=
  [36, rtpChannel, UInt8.ofNat (data.length >>> 8), UInt8.ofNat data.length]

/-- What the call returns, and what it wrote. Every call of the socket that does not fail takes a
    byte, so the length of the frame is enough fuel. -/
def sendTCPInterleaved (sendmsg : Nat → List Bytes → Int) (rtpChannel : UInt8) (data : Bytes) :
    Option (Bool × Bytes) :=
  if 0xFFFF < data.length then some (false, [])
  else
    sendLoop sendmsg (4 + data.length) 0
      { iov := [header rtpChannel data, data], remaining := 4 + data.length, written := [] }

/-- A call takes at most what it is offered. -/
def TakesOffered (sendmsg : Nat → List Bytes → Int) : Prop :=
  ∀ k iov, sendmsg k iov ≤ iov.flatten.length

theorem flatten_advance (n : Nat) (iov : List Bytes) :
    (advance n iov).flatten = iov.flatten.drop n := by
  induction iov generalizing n with
  | nil => cases n <;> simp [advance]
  | cons v rest ih =>
      cases n with
      | zero => rfl
      | succ n =>
          rw [advance, List.flatten_cons, List.drop_append]
          split
          · next hle => rw [ih, List.drop_eq_nil_of_le hle, List.nil_append]
          · next hlt =>
              rw [List.flatten_cons, Nat.sub_eq_zero_of_le (by omega), List.drop_zero]

/-- What was written and what the vectors hold are the frame. -/
structure Sound (frame : Bytes) (s : Sending) : Prop where
  frame : s.written ++ s.iov.flatten = frame
  remaining : s.remaining = s.iov.flatten.length
  fits : s.remaining < 18446744073709551616

/-- A call that takes `n` of the bytes it is offered. -/
theorem Sound.advance {frame : Bytes} {s : Sending} (h : Sound frame s) {n : Nat}
    (hn : n ≤ s.iov.flatten.length) :
    Sound frame
      { iov := advance n s.iov
        remaining := sizeSub s.remaining n
        written := s.written ++ s.iov.flatten.take n } := by
  have hsub : sizeSub s.remaining n = s.remaining - n :=
    sizeSub_eq (by rw [h.remaining]; exact hn) h.fits
  refine ⟨?_, ?_, ?_⟩
  · rw [flatten_advance, List.append_assoc, List.take_append_drop]
    exact h.frame
  · rw [flatten_advance, List.length_drop, hsub, h.remaining]
  · have := h.fits
    dsimp only
    omega

/-- All of the frame is written when nothing is left. -/
theorem Sound.written_eq_iff {frame : Bytes} {s : Sending} (h : Sound frame s) :
    s.written = frame ↔ s.remaining = 0 := by
  have hlen := congrArg List.length h.frame
  rw [List.length_append, ← h.remaining] at hlen
  constructor
  · intro hall
    rw [hall] at hlen
    omega
  · intro hzero
    have hnil : s.iov.flatten = [] := List.length_eq_zero_iff.mp (h.remaining.symm.trans hzero)
    rw [← h.frame, hnil, List.append_nil]

/-- The call returned, with a beginning of the frame written, and `true` for all of it. -/
def Exact (frame : Bytes) (result : Option (Bool × Bytes)) : Prop :=
  ∃ ok written, result = some (ok, written) ∧ written <+: frame ∧ (ok = true ↔ written = frame)

/-- The loop stops: `true` when nothing is left, and `false` for an error before that. -/
theorem Sound.exact {frame : Bytes} {s : Sending} (h : Sound frame s) {ok : Bool}
    (hok : ok = true ↔ s.remaining = 0) : Exact frame (some (ok, s.written)) :=
  ⟨ok, s.written, rfl, ⟨_, h.frame⟩, hok.trans h.written_eq_iff.symm⟩

theorem exact_sendLoop {sendmsg : Nat → List Bytes → Int} (htakes : TakesOffered sendmsg)
    {frame : Bytes} {fuel k : Nat} {s : Sending} (h : Sound frame s) (hfuel : s.remaining ≤ fuel) :
    Exact frame (sendLoop sendmsg fuel k s) := by
  induction fuel generalizing k s with
  | zero =>
      have hzero : s.remaining = 0 := by omega
      rw [sendLoop, if_pos hzero]
      exact h.exact (iff_of_true rfl hzero)
  | succ fuel ih =>
      rw [sendLoop]
      split
      · next hzero => exact h.exact (iff_of_true rfl hzero)
      · next hpos =>
          dsimp only
          split
          · exact h.exact (iff_of_false Bool.false_ne_true hpos)
          · next hn =>
              have hle : (sendmsg k s.iov).toNat ≤ s.iov.flatten.length := by
                have := htakes k s.iov
                omega
              have hsound := h.advance hle
              refine ih hsound ?_
              rw [hsound.remaining, flatten_advance, List.length_drop, ← h.remaining]
              omega

/-- The header and the packet are the frame of `pushTCPFrame`. -/
theorem header_append (channel : Int) {data : Bytes} (h : data.length ≤ 65535) :
    header (Session.toByte channel) data ++ data = Session.tcpFrame channel data := by
  have hlen : (UInt16.ofNat data.length).toNat = data.length := by
    rw [UInt16.toNat_ofNat', Nat.mod_eq_of_lt (by omega)]
  have hhigh : UInt8.ofNat (data.length >>> 8) = (UInt16.ofNat data.length >>> 8).toUInt8 := by
    apply UInt8.toNat_inj.mp
    rw [UInt8.toNat_ofNat', UInt16.toNat_toUInt8, UInt16.toNat_shiftRight, hlen]
    rfl
  have hlow : UInt8.ofNat data.length = (UInt16.ofNat data.length &&& 0xFF).toUInt8 := by
    apply UInt8.toNat_inj.mp
    rw [UInt8.toNat_ofNat', UInt16.toNat_toUInt8, UInt16.toNat_and, hlen,
      show (0xFF : UInt16).toNat = 2 ^ 8 - 1 from rfl, Nat.and_two_pow_sub_one_eq_mod]
    omega
  rw [header, hhigh, hlow]
  rfl

/-- `$`, the channel, the length with its high byte first, and the packet. -/
theorem header_length (rtpChannel : UInt8) {data : Bytes} (h : data.length ≤ 65535) :
    ∃ hi lo : UInt8, header rtpChannel data = [36, rtpChannel, hi, lo] ∧
      256 * hi.toNat + lo.toNat = data.length := by
  refine ⟨_, _, rfl, ?_⟩
  rw [UInt8.toNat_ofNat', UInt8.toNat_ofNat', Nat.shiftRight_eq_div_pow]
  omega

/-- **Scatter-gather sending is exact**: for every packet that fits the length field, on every
    channel and whatever the calls of the socket take, `sendTCPInterleaved` returns, the bytes
    that were taken are a beginning of `$`, the channel, the length and the packet, which is the
    frame that `pushTCPFrame` builds, and it returns true if and only if they are all of it. A
    longer packet is refused with nothing written. -/
theorem sendTCPInterleaved_exact {sendmsg : Nat → List Bytes → Int}
    (htakes : TakesOffered sendmsg) (channel : Int) (data : Bytes) :
    (data.length ≤ 65535 →
      Exact (Session.tcpFrame channel data)
        (sendTCPInterleaved sendmsg (Session.toByte channel) data) ∧
      ∃ hi lo : UInt8, 256 * hi.toNat + lo.toNat = data.length ∧
        Session.tcpFrame channel data = [36, Session.toByte channel, hi, lo] ++ data) ∧
    (65535 < data.length →
      sendTCPInterleaved sendmsg (Session.toByte channel) data = some (false, [])) := by
  refine ⟨fun hfits => ⟨?_, ?_⟩, fun hlong => if_pos hlong⟩
  · rw [sendTCPInterleaved, if_neg (by omega)]
    refine exact_sendLoop htakes ⟨?_, ?_, ?_⟩ (le_refl _)
    · rw [List.nil_append, List.flatten_cons, List.flatten_cons, List.flatten_nil, List.append_nil]
      exact header_append channel hfits
    · simp [header]
      omega
    · dsimp only
      omega
  · obtain ⟨hi, lo, hheader, hlength⟩ := header_length (Session.toByte channel) hfits
    exact ⟨hi, lo, hlength, by rw [← header_append channel hfits, hheader]⟩

/-- A socket that takes three bytes of the header, then the last one with the packet. -/
def splitsHeader : Nat → List Bytes → Int := fun k iov => min (3 + 4 * k) iov.flatten.length

theorem sendTCPInterleaved_exact_split :
    Exact (Session.tcpFrame 2 [1, 2, 3]) (sendTCPInterleaved splitsHeader 2 [1, 2, 3]) ∧
      sendTCPInterleaved splitsHeader 2 [1, 2, 3] = some (true, [36, 2, 0, 3, 1, 2, 3]) :=
  ⟨((sendTCPInterleaved_exact (fun _ _ => Int.min_le_right _ _) 2 [1, 2, 3]).1 (by decide)).1,
    by decide⟩

end RTPSender

end RtspServer
