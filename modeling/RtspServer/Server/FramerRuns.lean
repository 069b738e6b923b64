/-
  Runs of the parse loop of `onReadable`.

  Termination. A turn that does not leave the loop takes `cutSize` bytes behind the '$' frames,
  and that number is the header size plus the declared length modulo `2^64`. It is 0 exactly
  when the two add up to `2^64`, which a peer brings about with a negative or huge
  Content-Length. Then the buffer is the same before and after the turn, so the loop does not
  end. `parseLoop_terminates_iff` says that this is the only way: the loop ends, and every turn
  takes a byte, exactly when no message that it comes to has such a length.

  Chunks. The loop is an `Incremental` decoder whose units are the '$' frames and the messages.
  Every decision looks at a complete header or a complete frame only, so it is `Stable`, and
  the requests and the last buffer do not depend on how the bytes arrive (`feed_chunks_eq`).
  This needs the declared lengths not to overflow, since otherwise the loop may not end.
-/
import RtspServer.Server.Framer
import Mathlib.Data.List.ReduceOption

namespace RtspServer.Framer

open ByteString Decimal StringUtils

/-! ## One turn -/

/-- Bytes taken off for the message at the start of `buf`, with a header of `n` bytes. -/
def cutSize (buf : Bytes) (n : Nat) : Nat := (n + declaredLength (headerLines buf)) % 2 ^ 64

theorem cutMessage_some {buf full rest : Bytes} (h : cutMessage buf = some (full, rest)) :
    ∃ n, headerSize buf = some n ∧ cutSize buf n ≤ buf.length ∧
      full = buf.take (cutSize buf n) ∧ rest = buf.drop (cutSize buf n) := by
  rw [cutMessage_eq] at h
  split at h
  · cases h
  · next n hn =>
      split at h
      · cases h
      · next hle =>
          cases h
          exact ⟨n, hn, Nat.le_of_not_lt hle, rfl, rfl⟩

theorem cutMessage_of_le {buf : Bytes} {n : Nat} (hn : headerSize buf = some n)
    (hle : cutSize buf n ≤ buf.length) :
    cutMessage buf = some (buf.take (cutSize buf n), buf.drop (cutSize buf n)) := by
  rw [cutMessage_eq, hn]
  exact if_neg (Nat.not_lt.mpr hle)

/-- What a turn that goes on has done: it came to a message `m` and cut it. -/
theorem parseIter_again {buf buf' : Bytes} {req : Option RTSPRequest}
    (h : parseIter buf = .again buf' req) :
    ∃ m n, skipInterleaved buf = .message m ∧ headerSize m = some n ∧
      cutSize m n ≤ m.length ∧ buf' = m.drop (cutSize m n) ∧
      req = RTSPRequest.parse (m.take (cutSize m n)) := by
  unfold parseIter at h
  split at h
  · cases h
  · next m hm =>
      split at h
      · cases h
      · split at h
        · cases h
        · next full rest hcut =>
            obtain ⟨n, hn, hle, hfull, hrest⟩ := cutMessage_some hcut
            cases h
            exact ⟨m, n, hm, hn, hle, hrest, by rw [hfull]⟩

theorem parseIter_of_cut {buf m : Bytes} {n : Nat} (hm : skipInterleaved buf = .message m)
    (hn : headerSize m = some n) (hle : cutSize m n ≤ m.length) :
    parseIter buf = .again (m.drop (cutSize m n)) (RTSPRequest.parse (m.take (cutSize m n))) := by
  have hne : m ≠ [] := by
    intro h
    rw [h, headerSize_nil] at hn
    cases hn
  unfold parseIter
  rw [hm]
  dsimp only
  rw [if_neg hne, cutMessage_of_le hn hle]

/-! ## Termination -/

/-- A turn that does not leave the loop. -/
def Turns (buf buf' : Bytes) : Prop := ∃ req, parseIter buf = .again buf' req

/-- The buffers the loop comes through, the first one included. -/
def LoopReaches : Bytes → Bytes → Prop := Relation.ReflTransGen Turns

def LoopTerminates (buf : Bytes) : Prop := ∃ fuel, (parseLoop fuel buf []).isSome

def EveryTurnConsumes (buf : Bytes) : Prop :=
  ∀ b b', LoopReaches buf b → Turns b b' → b'.length < b.length

/-- The header size and the declared length of the message at the start of `m` add up to
    exactly `2^64`. -/
def ZeroCut (m : Bytes) : Prop :=
  ∃ n, headerSize m = some n ∧ n + declaredLength (headerLines m) = 2 ^ 64

/-- No message that the loop comes to, behind its '$' frames, is a `ZeroCut`. -/
def NoZeroCut (buf : Bytes) : Prop :=
  ∀ b m, LoopReaches buf b → skipInterleaved b = .message m → ¬ ZeroCut m

theorem turns_drop {b b' : Bytes} (h : Turns b b') : ∃ k, b' = b.drop k := by
  obtain ⟨req, hreq⟩ := h
  obtain ⟨m, n, hm, _, _, rfl, _⟩ := parseIter_again hreq
  obtain ⟨_, k, rfl⟩ := skip_message hm
  exact ⟨k + cutSize (b.drop k) n, by rw [List.drop_drop]⟩

theorem loopReaches_drop {buf b : Bytes} (h : LoopReaches buf b) : ∃ k, b = buf.drop k := by
  induction h with
  | refl => exact ⟨0, rfl⟩
  | tail _ hstep ih =>
      obtain ⟨k, rfl⟩ := ih
      obtain ⟨j, rfl⟩ := turns_drop hstep
      exact ⟨k + j, by rw [List.drop_drop]⟩

theorem message_length_le {buf b m : Bytes} (hb : LoopReaches buf b)
    (hm : skipInterleaved b = .message m) : m.length ≤ b.length ∧ b.length ≤ buf.length := by
  obtain ⟨k, rfl⟩ := loopReaches_drop hb
  obtain ⟨_, j, rfl⟩ := skip_message hm
  simp only [List.length_drop]
  omega

theorem cutSize_eq_zero_iff {m : Bytes} {n : Nat} (hlen : m.length < 2 ^ 64)
    (hn : headerSize m = some n) : cutSize m n = 0 ↔ ZeroCut m := by
  have hle := headerSize_le hn
  have hlt := declaredLength_lt (headerLines m)
  unfold cutSize ZeroCut
  constructor
  · intro h0
    exact ⟨n, hn, by omega⟩
  · rintro ⟨k, hk, hsum⟩
    rw [hn] at hk
    cases hk
    rw [hsum, Nat.mod_self]

/-- A zero cut gives the same buffer back: the turn can be taken again and again. -/
theorem turns_self_of_zeroCut {m : Bytes} (hhead : m.head? ≠ some dollar)
    (hlen : m.length < 2 ^ 64) (hz : ZeroCut m) : Turns m m := by
  obtain ⟨n, hn, _⟩ := id hz
  have h0 : cutSize m n = 0 := (cutSize_eq_zero_iff hlen hn).mpr hz
  refine ⟨RTSPRequest.parse (m.take (cutSize m n)), ?_⟩
  have h := parseIter_of_cut (skip_of_head hhead) hn (by omega)
  rw [h0] at h ⊢
  exact h

/-- Requests already in `out` are only carried along. -/
theorem parseLoop_out (fuel : Nat) (buf : Bytes) (out : List RTSPRequest) :
    parseLoop fuel buf out = (parseLoop fuel buf []).map fun p => (p.1, out ++ p.2) := by
  induction fuel generalizing buf out with
  | zero => rfl
  | succ fuel ih =>
      rw [parseLoop, parseLoop]
      cases parseIter buf with
      | leave b => simp
      | again b req =>
          dsimp only
          rw [ih b (out ++ req.toList), ih b ([] ++ req.toList)]
          cases parseLoop fuel b [] with
          | none => rfl
          | some p => simp

theorem parseLoop_isSome (fuel : Nat) (buf : Bytes) (out : List RTSPRequest) :
    (parseLoop fuel buf out).isSome = (parseLoop fuel buf []).isSome := by
  rw [parseLoop_out]
  simp

/-- A loop that ends from `b` ends from what a turn makes of `b`. -/
theorem terminates_turn {b b' : Bytes} (ht : LoopTerminates b) (h : Turns b b') :
    LoopTerminates b' := by
  obtain ⟨fuel, hf⟩ := ht
  obtain ⟨req, hreq⟩ := h
  cases fuel with
  | zero => cases hf
  | succ fuel =>
      rw [parseLoop, hreq, parseLoop_isSome] at hf
      exact ⟨fuel, hf⟩

theorem terminates_reaches {buf b : Bytes} (ht : LoopTerminates buf) (h : LoopReaches buf b) :
    LoopTerminates b := by
  induction h with
  | refl => exact ht
  | tail _ hstep ih => exact terminates_turn ih hstep

/-- A turn that gives the buffer back is taken for ever. -/
theorem not_terminates_of_self {b : Bytes} (h : Turns b b) : ¬ LoopTerminates b := by
  rintro ⟨fuel, hf⟩
  obtain ⟨req, hreq⟩ := h
  induction fuel with
  | zero => cases hf
  | succ fuel ih =>
      rw [parseLoop, hreq, parseLoop_isSome] at hf
      exact ih hf

theorem terminates_of_consumes {buf : Bytes} (h : EveryTurnConsumes buf) :
    (parseLoop (buf.length + 1) buf []).isSome := by
  have key : ∀ fuel b, b.length < fuel → LoopReaches buf b → (parseLoop fuel b []).isSome := by
    intro fuel
    induction fuel with
    | zero => intro b hlt; omega
    | succ fuel ih =>
        intro b hlt hb
        rw [parseLoop]
        cases hi : parseIter b with
        | leave b' => rfl
        | again b' req =>
            have hturn : Turns b b' := ⟨req, hi⟩
            have := h b b' hb hturn
            dsimp only
            rw [parseLoop_isSome]
            exact ih b' (by omega) (hb.tail hturn)
  exact key _ buf (by omega) .refl

theorem consumes_of_noZeroCut {buf : Bytes} (hlen : buf.length < 2 ^ 64) (h : NoZeroCut buf) :
    EveryTurnConsumes buf := by
  rintro b b' hb ⟨req, hreq⟩
  obtain ⟨m, n, hm, hn, hle, rfl, _⟩ := parseIter_again hreq
  have hml := message_length_le hb hm
  have h0 : cutSize m n ≠ 0 := fun h0 =>
    h _ m hb hm ((cutSize_eq_zero_iff (by omega) hn).mp h0)
  have := (headerSize_le hn).1
  simp only [List.length_drop]
  omega

/-- **When the parse loop ends.** For every content of `recv_buf_` within the limit: the loop
    ends, and every turn takes a byte off the buffer, exactly when no message it comes to has a
    declared length that makes header and body end at `2^64`. -/
theorem parseLoop_terminates_iff (buf : Bytes) (hmax : buf.length ≤ kMaxRecvBuf) :
    (LoopTerminates buf ↔ NoZeroCut buf) ∧ (EveryTurnConsumes buf ↔ NoZeroCut buf) := by
  have hlen : buf.length < 2 ^ 64 := by unfold kMaxRecvBuf at hmax; omega
  -- a zero cut on the way is a turn from the message to itself
  have hself : ∀ b m, LoopReaches buf b → skipInterleaved b = .message m → ZeroCut m →
      Turns m m ∧ Turns b m := by
    intro b m hb hm hz
    have hle := message_length_le hb hm
    have hml : m.length < 2 ^ 64 := by omega
    obtain ⟨n, hn, _⟩ := id hz
    have h0 : cutSize m n = 0 := (cutSize_eq_zero_iff hml hn).mpr hz
    have hb' := parseIter_of_cut hm hn (by omega)
    rw [h0] at hb'
    exact ⟨turns_self_of_zeroCut (skip_message hm).1 hml hz, _, hb'⟩
  refine ⟨⟨?_, ?_⟩, ⟨?_, ?_⟩⟩
  · intro ht b m hb hm hz
    obtain ⟨hmm, hbm⟩ := hself b m hb hm hz
    exact not_terminates_of_self hmm (terminates_turn (terminates_reaches ht hb) hbm)
  · intro h
    exact ⟨_, terminates_of_consumes (consumes_of_noZeroCut hlen h)⟩
  · intro hc b m hb hm hz
    obtain ⟨hmm, hbm⟩ := hself b m hb hm hz
    exact Nat.lt_irrefl _ (hc m m (hb.tail hbm) hmm)
  · exact consumes_of_noZeroCut hlen

/-- An OPTIONS with a body of 4 bytes, and the start of the next message. -/
def bodyBuffer : Bytes := ascii "OPTIONS * RTSP/1.0\r\nContent-Length: 4\r\n\r\nbodyPLAY"

theorem parseLoop_terminates_iff_options :
    bodyBuffer.length ≤ kMaxRecvBuf ∧ LoopTerminates bodyBuffer ∧ NoZeroCut bodyBuffer ∧
      EveryTurnConsumes bodyBuffer := by
  obtain ⟨hloop, hturns⟩ := parseLoop_terminates_iff bodyBuffer (by decide)
  have hends : LoopTerminates bodyBuffer := ⟨2, by decide +kernel⟩
  have hno := hloop.mp hends
  exact ⟨by decide, hends, hno, hturns.mpr hno⟩

/-- A header of 43 bytes with a Content-Length of -43, which `std::stoul` reads as
    `2^64 - 43`. -/
def hangingBuffer : Bytes := ascii "OPTIONS * RTSP/1.0\r\nContent-Length: -43\r\n\r\n"

/-- The loop does not end on `hangingBuffer`: its turn takes no byte. -/
theorem hangingBuffer_hangs :
    hangingBuffer.length ≤ kMaxRecvBuf ∧ ¬ LoopTerminates hangingBuffer ∧
      ¬ EveryTurnConsumes hangingBuffer := by
  have hlen : hangingBuffer.length = 43 := by decide +kernel
  have hturn : Turns hangingBuffer hangingBuffer :=
    turns_self_of_zeroCut (by decide +kernel) (by rw [hlen]; decide)
      ⟨43, by decide +kernel, by decide +kernel⟩
  refine ⟨by rw [hlen]; decide, not_terminates_of_self hturn, ?_⟩
  intro hc
  exact Nat.lt_irrefl _ (hc _ _ .refl hturn)

/-! ## Fuel -/

theorem parseLoop_succ {fuel : Nat} {buf : Bytes} {out : List RTSPRequest}
    {p : Bytes × List RTSPRequest} (h : parseLoop fuel buf out = some p) :
    parseLoop (fuel + 1) buf out = some p := by
  induction fuel generalizing buf out with
  | zero => cases h
  | succ fuel ih =>
      rw [parseLoop] at h ⊢
      cases hi : parseIter buf with
      | leave b => rw [hi] at h; exact h
      | again b req => rw [hi] at h; exact ih h

theorem parseLoop_mono {fuel k : Nat} {buf : Bytes} {out : List RTSPRequest}
    {p : Bytes × List RTSPRequest} (h : parseLoop fuel buf out = some p) :
    parseLoop (fuel + k) buf out = some p := by
  induction k with
  | zero => exact h
  | succ k ih => exact parseLoop_succ ih

/-- A turn that takes no byte gives the buffer back, so a loop that ends has none. -/
theorem consumes_of_terminates {buf : Bytes} (ht : LoopTerminates buf) : EveryTurnConsumes buf := by
  intro b b' hb hturn
  obtain ⟨k, hk⟩ := turns_drop hturn
  by_contra hlt
  have hself : b' = b := by
    rw [hk] at hlt ⊢
    simp only [List.length_drop, not_lt] at hlt
    rcases Nat.eq_zero_or_pos k with h0 | h0
    · rw [h0, List.drop_zero]
    · have hnil : b = [] := List.length_eq_zero_iff.mp (by omega)
      rw [hnil, List.drop_nil]
  rw [hself] at hturn
  exact not_terminates_of_self hturn (terminates_reaches ht hb)

/-- **The fuel of `onReadable` is enough**: if the loop ends with any fuel, it ends with one
    more than the buffer length, and with the same result. -/
theorem parseLoop_fuel {fuel : Nat} {buf : Bytes} {p : Bytes × List RTSPRequest}
    (h : parseLoop fuel buf [] = some p) : parseLoop (buf.length + 1) buf [] = some p := by
  have hterm : LoopTerminates buf := ⟨fuel, by rw [h]; rfl⟩
  obtain ⟨q, hq⟩ := Option.isSome_iff_exists.mp (terminates_of_consumes (consumes_of_terminates hterm))
  have h1 := parseLoop_mono (k := buf.length + 1) h
  have h2 := parseLoop_mono (k := fuel) hq
  rw [Nat.add_comm, h2] at h1
  rw [hq, h1]

/-! ## The loop as an incremental decoder -/

/-- The unit at the start of `buf`: a '$' frame, which is dropped, or a message. -/
def nextUnit (buf : Bytes) : Option (Option RTSPRequest × Nat) :=
  if buf.head? = some dollar then
    if buf.length < 4 ∨ buf.length < frameSize buf then none else some (none, frameSize buf)
  else
    match headerSize buf with
    | none => none
    | some n =>
        if buf.length < cutSize buf n then none
        else some (RTSPRequest.parse (buf.take (cutSize buf n)), cutSize buf n)

theorem nextUnit_frame {buf : Bytes} (hd : buf.head? = some dollar) :
    nextUnit buf =
      if buf.length < 4 ∨ buf.length < frameSize buf then none else some (none, frameSize buf) := by
  unfold nextUnit; rw [if_pos hd]

theorem nextUnit_message {buf : Bytes} (hd : buf.head? ≠ some dollar) :
    nextUnit buf =
      match headerSize buf with
      | none => none
      | some n =>
          if buf.length < cutSize buf n then none
          else some (RTSPRequest.parse (buf.take (cutSize buf n)), cutSize buf n) := by
  unfold nextUnit; rw [if_neg hd]

/-- What a unit is: a whole frame, or a message with its whole header and its whole body. -/
theorem nextUnit_some {buf : Bytes} {u : Option RTSPRequest} {k : Nat}
    (h : nextUnit buf = some (u, k)) :
    (buf.head? = some dollar ∧ 4 ≤ buf.length ∧ frameSize buf ≤ buf.length ∧ u = none ∧
      k = frameSize buf) ∨
    (buf.head? ≠ some dollar ∧ ∃ n, headerSize buf = some n ∧ cutSize buf n ≤ buf.length ∧
      u = RTSPRequest.parse (buf.take (cutSize buf n)) ∧ k = cutSize buf n) := by
  by_cases hd : buf.head? = some dollar
  · rw [nextUnit_frame hd] at h
    split at h
    · cases h
    · next hlen => cases h; exact .inl ⟨hd, by omega, by omega, rfl, rfl⟩
  · rw [nextUnit_message hd] at h
    split at h
    · cases h
    · next n hn =>
        split at h
        · cases h
        · next hlen => cases h; exact .inr ⟨hd, n, hn, by omega, rfl, rfl⟩

theorem head_append {buf t : Bytes} (h : buf ≠ []) : (buf ++ t).head? = buf.head? := by
  cases buf with
  | nil => exact absurd rfl h
  | cons c s => rfl

theorem frameSize_append {buf t : Bytes} (h : 4 ≤ buf.length) :
    frameSize (buf ++ t) = frameSize buf := by
  have hget : ∀ i, i < 4 → (buf ++ t).getD i 0 = buf.getD i 0 := by
    intro i hi
    rw [List.getD_eq_getElem?_getD, List.getD_eq_getElem?_getD,
      List.getElem?_append_left (by omega)]
  unfold frameSize
  rw [hget 2 (by omega), hget 3 (by omega)]

theorem nextUnit_stable : Incremental.Stable nextUnit := by
  intro buf u k h
  rcases nextUnit_some h with ⟨hd, h4, hf, rfl, rfl⟩ | ⟨hd, n, hn, hle, rfl, rfl⟩
  · have hne : buf ≠ [] := by rintro rfl; simp at h4
    refine ⟨hf, fun t => ?_⟩
    rw [nextUnit_frame (by rw [head_append hne]; exact hd), frameSize_append h4,
      if_neg (by simp only [List.length_append]; omega)]
  · have hne : buf ≠ [] := by rintro rfl; rw [headerSize_nil] at hn; cases hn
    refine ⟨hle, fun t => ?_⟩
    have hcut : cutSize (buf ++ t) n = cutSize buf n := by
      unfold cutSize; rw [headerLines_append hn]
    rw [nextUnit_message (by rw [head_append hne]; exact hd), headerSize_append hn]
    dsimp only
    rw [hcut, if_neg (by simp only [List.length_append]; omega),
      List.take_append_of_le_length hle]

theorem parseIter_of_stop {buf : Bytes} (h : nextUnit buf = none) : parseIter buf = .leave buf := by
  by_cases hd : buf.head? = some dollar
  · rw [nextUnit_frame hd] at h
    split at h
    · next hlen =>
        have hskip : skipInterleaved buf = .parseDone buf := by
          rw [skipInterleaved_eq, if_pos hd]
          rcases hlen with h4 | hf
          · rw [if_pos h4]
          · rw [if_pos hf, ite_self]
        unfold parseIter
        rw [hskip]
    · cases h
  · have hcut : cutMessage buf = none := by
      rw [cutMessage_eq]
      rw [nextUnit_message hd] at h
      cases hn : headerSize buf with
      | none => rfl
      | some n =>
          rw [hn] at h
          rcases Nat.lt_or_ge buf.length (cutSize buf n) with hlt | hge
          · exact if_pos hlt
          · exact absurd ((if_neg (Nat.not_lt.mpr hge)).symm.trans h) (Option.some_ne_none _)
    unfold parseIter
    rw [skip_of_head hd]
    dsimp only
    rw [hcut]
    exact ite_self _

/-- The loop computes what the decoder decodes. The induction is on the decoding; a '$' frame
    does not end a turn, a message does. -/
theorem parseLoop_of_drains {buf r : Bytes} {us : List (Option RTSPRequest)}
    (h : Incremental.Drains nextUnit buf us r) :
    ∃ fuel, parseLoop fuel buf [] = some (r, us.reduceOption) := by
  induction h with
  | stop hn => exact ⟨1, by rw [parseLoop, parseIter_of_stop hn]; rfl⟩
  | @unit b u k us r hn _ ih =>
      obtain ⟨fuel, hfuel⟩ := ih
      rcases nextUnit_some hn with ⟨hd, h4, hf, rfl, rfl⟩ | ⟨hd, n, hsize, hle, rfl, rfl⟩
      · have hiter : parseIter b = parseIter (b.drop (frameSize b)) := by
          have hskip : skipInterleaved b = skipInterleaved (b.drop (frameSize b)) := by
            rw [skipInterleaved_eq, if_pos hd, if_neg (by omega), if_neg (by omega)]
          unfold parseIter
          rw [hskip]
        cases fuel with
        | zero => cases hfuel
        | succ fuel =>
            refine ⟨fuel + 1, ?_⟩
            rw [parseLoop] at hfuel ⊢
            rw [hiter, List.reduceOption_cons_of_none]
            exact hfuel
      · refine ⟨fuel + 1, ?_⟩
        rw [parseLoop, parseIter_of_cut (skip_of_head hd) hsize hle]
        dsimp only
        rw [parseLoop_out, hfuel]
        cases RTSPRequest.parse (b.take (cutSize b n)) with
        | none => rfl
        | some req => rfl

/-! ## Calls -/

/-- The bytes a call appends to `recv_buf_`. -/
def received (rs : List Recv) : Bytes :=
  rs.flatMap fun
    | .data bytes => bytes
    | _ => []

/-- Successive calls of `onReadable`, with the requests of all of them. -/
def feed : List (List Recv) → Bytes → ReadOutcome
  | [], buf => .returnsTrue buf []
  | rs :: calls, buf =>
      match onReadable rs buf with
      | .returnsFalse => .returnsFalse
      | .hangs => .hangs
      | .returnsTrue buf out =>
          match feed calls buf with
          | .returnsTrue buf' out' => .returnsTrue buf' (out ++ out')
          | other => other

/-- No message of the stream has a declared length that overflows `size_t` when the header
    size is added. The messages of the stream are those the decoder comes to. -/
def NoOverflow (stream : Bytes) : Prop :=
  ∀ b, Incremental.Reaches nextUnit stream b → b.head? ≠ some dollar →
    ∀ n, headerSize b = some n → n + declaredLength (headerLines b) < 2 ^ 64

theorem recvLoop_some {rs : List Recv} {buf buf' : Bytes} (h : recvLoop rs buf = some buf') :
    buf' = buf ++ received rs := by
  induction rs generalizing buf with
  | nil => cases h; simp [received]
  | cons r rs ih =>
      cases r with
      | data bytes =>
          rw [recvLoop] at h
          split at h
          · cases h
          · rw [ih h]
            simp [received]
      | eof => cases h
      | eintr => exact ih h
      | error => cases h

/-- Units on the way of a stream without overflow take at least one byte. -/
theorem nextUnit_pos {stream b : Bytes} (hno : NoOverflow stream)
    (hb : Incremental.Reaches nextUnit stream b) {u : Option RTSPRequest} {k : Nat}
    (h : nextUnit b = some (u, k)) : 0 < k ∧ k ≤ b.length := by
  rcases nextUnit_some h with ⟨_, _, hf, _, rfl⟩ | ⟨hd, n, hn, hle, _, rfl⟩
  · have := frameSize_pos b
    omega
  · have hlt := hno b hb hd n hn
    have h4 := (headerSize_le hn).1
    unfold cutSize at hle ⊢
    rw [Nat.mod_eq_of_lt hlt] at hle ⊢
    omega

theorem feed_of_drains {calls : List (List Recv)} {buf r : Bytes}
    {us : List (Option RTSPRequest)}
    (h : Incremental.DrainsChunks nextUnit buf (calls.map received) us r)
    (hok : feed calls buf ≠ .returnsFalse) : feed calls buf = .returnsTrue r us.reduceOption := by
  induction calls generalizing buf us with
  | nil => cases h; rfl
  | cons rs calls ih =>
      cases h with
      | cons hd ht =>
          obtain ⟨fuel, hfuel⟩ := parseLoop_of_drains hd
          have hloop := parseLoop_fuel hfuel
          rw [feed] at hok ⊢
          cases hrecv : recvLoop rs buf with
          | none => simp only [onReadable, hrecv, ne_eq, not_true_eq_false] at hok
          | some buf' =>
              rw [recvLoop_some hrecv] at hrecv
              simp only [onReadable, hrecv, hloop] at hok ⊢
              have hrest : feed calls _ ≠ .returnsFalse := fun hf => by
                rw [hf] at hok
                exact hok rfl
              rw [ih ht hrest]
              simp only [List.reduceOption_append]

/-- **Framing does not depend on how TCP splits the bytes.** Two sequences of calls of
    `onReadable` that append the same bytes, none of them returning false (no read error, no
    buffer beyond `kMaxRecvBuf`), give the same requests and leave the same buffer, and every
    call ends. The stream must not hold a message whose declared length overflows. -/
theorem feed_chunks_eq (calls₁ calls₂ : List (List Recv))
    (hstream : calls₁.flatMap received = calls₂.flatMap received)
    (hno : NoOverflow (calls₁.flatMap received))
    (hok₁ : feed calls₁ [] ≠ .returnsFalse) (hok₂ : feed calls₂ [] ≠ .returnsFalse) :
    ∃ buf out, feed calls₁ [] = .returnsTrue buf out ∧ feed calls₂ [] = .returnsTrue buf out := by
  have hpos : ∀ b, Incremental.Reaches nextUnit (calls₁.flatMap received) b → ∀ u k,
      nextUnit b = some (u, k) → 0 < k ∧ k ≤ b.length := fun b hb u k h => nextUnit_pos hno hb h
  obtain ⟨us, r, hdrain⟩ := Incremental.exists_drain _ hpos
  have hd := Incremental.drains_of_drain hdrain
  have hempty : nextUnit [] = none := rfl
  have h₁ := Incremental.drains_chunks nextUnit_stable (calls₁.map received) hempty
    (by rw [List.nil_append, ← List.flatMap_def]; exact hd)
  have h₂ := Incremental.drains_chunks nextUnit_stable (calls₂.map received) hempty
    (by rw [List.nil_append, ← List.flatMap_def, ← hstream]; exact hd)
  exact ⟨r, us.reduceOption, feed_of_drains h₁ hok₁, feed_of_drains h₂ hok₂⟩

/-- An interleaved frame of one byte. -/
def rtcpFrame : Bytes := [36, 1, 0, 1, 200]

def optionsRequest : Bytes := ascii "OPTIONS * RTSP/1.0\r\nCSeq: 1\r\n\r\n"

theorem noOverflow_options : NoOverflow (rtcpFrame ++ optionsRequest) := by
  have h0 : (nextUnit (rtcpFrame ++ optionsRequest)).map (·.2) = some 5 := by decide +kernel
  have h1 : (nextUnit optionsRequest).map (·.2) = some 31 := by decide +kernel
  intro b hb hd n hn
  rcases hb.head_cases with rfl | ⟨u, k, hk, hb⟩
  · exact absurd rfl hd
  rw [hk] at h0
  cases h0
  rcases Incremental.Reaches.head_cases (b := optionsRequest) hb with rfl | ⟨u', k', hk', hb'⟩
  · have h2 : headerSize optionsRequest = some 31 := by decide +kernel
    have h3 : declaredLength (headerLines optionsRequest) = 0 := by decide +kernel
    rw [h2] at hn
    cases hn
    rw [h3]
    decide
  rw [hk'] at h1
  cases h1
  rw [show optionsRequest.drop 31 = [] by decide +kernel] at hb'
  rcases hb'.head_cases with rfl | ⟨_, _, hnone, _⟩
  · rw [headerSize_nil] at hn; cases hn
  · cases hnone

/-- The frame and the request in one call, and cut inside the frame and inside the request. -/
theorem feed_chunks_eq_options :
    ∃ buf out, feed [[.data (rtcpFrame ++ optionsRequest)]] [] = .returnsTrue buf out ∧
      feed [[.data (rtcpFrame.take 2), .eintr], [.data (rtcpFrame.drop 2 ++ optionsRequest.take 9)],
        [.data (optionsRequest.drop 9)]] [] = .returnsTrue buf out :=
  feed_chunks_eq _ _ (by decide +kernel)
    (by rw [show [[Recv.data (rtcpFrame ++ optionsRequest)]].flatMap received =
          rtcpFrame ++ optionsRequest by simp [received]]
        exact noOverflow_options)
    (by decide +kernel) (by decide +kernel)

end RtspServer.Framer
