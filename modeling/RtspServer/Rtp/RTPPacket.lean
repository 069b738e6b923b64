/-
  Model of `rtp/RTPPacket.cpp` and `rtp/H264Packetizer.cpp`: the bytes of an RTP packet, and the
  cutting of a NAL unit into RTP payloads.

  `parse_build`: reading a packet back as RFC 3550 says (`parse`) gives its fields.
  `depacketize_packetize`: reading the payloads of a NAL unit back as RFC 6184 says
  (`depacketize`) gives the NAL unit, for every NAL unit with a type from 1 to 23.
  `packetize_invertible`: so, and the payloads have the form and the number that it says.
-/
import RtspServer.Lib.ByteString
import Mathlib.Data.UInt

namespace RtspServer

open ByteString

/-! ## RTP packets -/

namespace RTPPacket

def build (payload : Bytes) (payloadType : UInt8) (seq : UInt16) (timestamp ssrc : UInt32)
    (marker : Bool) : Bytes :=
  [0x80, (if marker then 0x80 else 0x00) ||| (payloadType &&& 0x7F),
    (seq >>> 8).toUInt8, seq.toUInt8,
    (timestamp >>> 24).toUInt8, (timestamp >>> 16).toUInt8, (timestamp >>> 8).toUInt8,
    timestamp.toUInt8,
    (ssrc >>> 24).toUInt8, (ssrc >>> 16).toUInt8, (ssrc >>> 8).toUInt8, ssrc.toUInt8] ++ payload

/-- The fields of a packet as a receiver reads them. -/
structure Fields where
  marker : Bool
  payloadType : Nat
  seq : UInt16
  timestamp : UInt32
  ssrc : UInt32
  payload : Bytes
  deriving DecidableEq

/-- The number a big-endian byte string stands for. -/
def bigEndian (bs : Bytes) : Nat := bs.foldl (fun n b => 256 * n + b.toNat) 0

/-- A packet with the fixed header of RFC 3550: version 2, no padding, no extension, no
    contributing sources. -/
def parse : Bytes → Option Fields
  | b0 :: b1 :: q1 :: q0 :: t3 :: t2 :: t1 :: t0 :: r3 :: r2 :: r1 :: r0 :: payload =>
      if b0 = 0x80 then
        some { marker := 128 ≤ b1.toNat
               payloadType := b1.toNat % 128
               seq := UInt16.ofNat (bigEndian [q1, q0])
               timestamp := UInt32.ofNat (bigEndian [t3, t2, t1, t0])
               ssrc := UInt32.ofNat (bigEndian [r3, r2, r1, r0])
               payload := payload }
      else none
  | _ => none

theorem bigEndian_seq (x : UInt16) :
    UInt16.ofNat (bigEndian [(x >>> 8).toUInt8, x.toUInt8]) = x := by
  apply UInt16.toNat_inj.mp
  have := x.toNat_lt
  simp only [bigEndian, List.foldl_cons, List.foldl_nil, UInt16.toNat_ofNat', UInt16.toNat_toUInt8,
    UInt16.toNat_shiftRight, UInt16.reduceToNat, Nat.shiftRight_eq_div_pow, Nat.reduceMod,
    Nat.reducePow]
  omega

theorem bigEndian_clock (x : UInt32) : UInt32.ofNat (bigEndian
    [(x >>> 24).toUInt8, (x >>> 16).toUInt8, (x >>> 8).toUInt8, x.toUInt8]) = x := by
  apply UInt32.toNat_inj.mp
  have := x.toNat_lt
  simp only [bigEndian, List.foldl_cons, List.foldl_nil, UInt32.toNat_ofNat', UInt32.toNat_toUInt8,
    UInt32.toNat_shiftRight, UInt32.reduceToNat, Nat.shiftRight_eq_div_pow, Nat.reduceMod,
    Nat.reducePow]
  omega

/-- A fact about one byte, checked on all of them. -/
theorem forall_byte {P : UInt8 → Prop} (h : ∀ n : Fin 256, P (UInt8.ofNat n)) (b : UInt8) : P b := by
  have := h ⟨b.toNat, b.toNat_lt⟩
  simpa using this

theorem markerByte (marker : Bool) (pt : UInt8) :
    decide (128 ≤ ((if marker then 0x80 else 0x00) ||| (pt &&& 0x7F) : UInt8).toNat) = marker ∧
      ((if marker then 0x80 else 0x00) ||| (pt &&& 0x7F) : UInt8).toNat % 128 =
        pt.toNat % 128 := by
  revert pt
  apply forall_byte
  cases marker <;> decide +kernel

/-- A receiver reads what was put in. -/
theorem parse_build (payload : Bytes) (pt : UInt8) (seq : UInt16) (timestamp ssrc : UInt32)
    (marker : Bool) : parse (build payload pt seq timestamp ssrc marker) =
      some { marker := marker, payloadType := pt.toNat % 128, seq := seq, timestamp := timestamp
             ssrc := ssrc, payload := payload } := by
  obtain ⟨hmarker, hpt⟩ := markerByte marker pt
  unfold build
  simp only [List.cons_append, List.nil_append, parse, if_true, bigEndian_seq, bigEndian_clock,
    hmarker, hpt]

end RTPPacket

/-! ## The packetizer -/

namespace H264Packetizer

structure Packet where
  payload : Bytes
  marker : Bool
  deriving DecidableEq

/-- The loop over the fragments of a NAL unit, its header byte taken off. Each round takes
    `size` bytes or the rest. -/
def fragments (fuInd nalType : UInt8) (size : Nat) : Nat → Bool → Bytes → List Packet
  | 0, _, _ => []
  | fuel + 1, first, data =>
      if data = [] then []
      else
        let chunk := min data.length size
        let last := chunk = data.length
        let fuHeader := (nalType ||| if first then 0x80 else 0) ||| if last then 0x40 else 0
        { payload := fuInd :: fuHeader :: data.take chunk, marker := last } ::
          fragments fuInd nalType size fuel false (data.drop chunk)

/-- `mtu - 2u` in `size_t`: the room that the two FU bytes leave. -/
def fragmentSize (mtu : Nat) : Nat := (mtu + 2 ^ 64 - 2) % 2 ^ 64

/-- The loop of `packetize` takes at least one byte in every round when the limit is at least 3,
    so the length of the data is enough fuel. -/
def packetize (nal : Bytes) (mtu : Nat) : List Packet :=
  match nal with
  | [] => []
  | header :: data =>
      if nal.length ≤ mtu then [{ payload := nal, marker := true }]
      else
        fragments ((header &&& 0x60) ||| 28) (header &&& 0x1F) (fragmentSize mtu)
          data.length true data

/-! ## The receiver -/

/-- What the payload of a packet is to a receiver. A fragment comes with the header of its NAL
    unit. -/
inductive Payload where
  | single (nal : Bytes)
  | first (header : UInt8) (data : Bytes)
  | middle (header : UInt8) (data : Bytes)
  | last (header : UInt8) (data : Bytes)
  deriving DecidableEq

/-- A fragment by its start and its end bit; RFC 6184 forbids both in one fragment. -/
def fragmentOf (header : UInt8) (data : Bytes) : Bool → Bool → Option Payload
  | true, true => none
  | true, false => some (.first header data)
  | false, false => some (.middle header data)
  | false, true => some (.last header data)

/-- A single NAL unit packet or an FU-A. -/
def readPayload : Bytes → Option Payload
  | [] => none
  | [b] => if 1 ≤ b.toNat % 32 ∧ b.toNat % 32 ≤ 23 then some (.single [b]) else none
  | b :: fu :: data =>
      if 1 ≤ b.toNat % 32 ∧ b.toNat % 32 ≤ 23 then some (.single (b :: fu :: data))
      else if b.toNat % 32 = 28 then
        fragmentOf ((b &&& 0xE0) ||| (fu &&& 0x1F)) data (128 ≤ fu.toNat) (fu.toNat / 64 % 2 = 1)
      else none

/-- The NAL units of a list of payloads that arrived in order; `held` is the unit whose
    fragments are being collected. -/
def depacketize (held : Option Bytes) : List Bytes → Option (List Bytes)
  | [] => if held = none then some [] else none
  | payload :: rest =>
      match readPayload payload, held with
      | some (.single nal), none => (nal :: ·) <$> depacketize none rest
      | some (.first header data), none => depacketize (some (header :: data)) rest
      | some (.middle header data), some unit =>
          if unit.head? = some header then depacketize (some (unit ++ data)) rest else none
      | some (.last header data), some unit =>
          if unit.head? = some header then ((unit ++ data) :: ·) <$> depacketize none rest
          else none
      | _, _ => none

/-- What H.264 says of every NAL unit: `forbidden_zero_bit` is 0 and the type is 1 to 23. -/
def GoodHeader (b : UInt8) : Prop := b.toNat < 128 ∧ 1 ≤ b.toNat % 32 ∧ b.toNat % 32 ≤ 23

def GoodNal : Bytes → Prop
  | [] => False
  | b :: _ => GoodHeader b

instance (b : UInt8) : Decidable (GoodHeader b) := by
  unfold GoodHeader
  infer_instance

instance : DecidablePred GoodNal
  | [] => inferInstanceAs (Decidable False)
  | b :: _ => inferInstanceAs (Decidable (GoodHeader b))

theorem readPayload_single (nal : Bytes) (h : GoodNal nal) :
    readPayload nal = some (.single nal) := by
  match nal, h with
  | [_], h => exact if_pos h.2
  | _ :: _ :: _, h => exact if_pos h.2

/-- The FU bytes of a good header read back: the type of the indicator, the NAL header, and the
    two flags. -/
theorem fuBytes (first last : Bool) (b : UInt8) (h : GoodHeader b) :
    ((b &&& 0x60) ||| 28 : UInt8).toNat % 32 = 28 ∧
      (((b &&& 0x60) ||| 28) &&& 0xE0) ||| ((((b &&& 0x1F) ||| if first then 0x80 else 0) |||
        if last then 0x40 else 0) &&& 0x1F) = b ∧
      decide (128 ≤ (((b &&& 0x1F) ||| if first then 0x80 else 0) |||
        if last then 0x40 else 0 : UInt8).toNat) = first ∧
      decide ((((b &&& 0x1F) ||| if first then 0x80 else 0) |||
        if last then 0x40 else 0 : UInt8).toNat / 64 % 2 = 1) = last := by
  revert b
  apply RTPPacket.forall_byte
  cases first <;> cases last <;> decide +kernel

theorem readPayload_fragment (b : UInt8) (h : GoodHeader b) (first last : Bool) (data : Bytes) :
    readPayload (((b &&& 0x60) ||| 28) :: (((b &&& 0x1F) ||| if first then 0x80 else 0) |||
      if last then 0x40 else 0) :: data) = fragmentOf b data first last := by
  obtain ⟨htype, hheader, hfirst, hlast⟩ := fuBytes first last b h
  unfold readPayload
  dsimp only
  rw [if_neg (by omega), if_pos htype, hheader, hfirst, hlast]

theorem depacketize_single {p nal : Bytes} (rest : List Bytes)
    (h : readPayload p = some (.single nal)) :
    depacketize none (p :: rest) = (nal :: ·) <$> depacketize none rest := by
  simp only [depacketize, h]

theorem depacketize_first {p data : Bytes} {b : UInt8} (rest : List Bytes)
    (h : readPayload p = some (.first b data)) :
    depacketize none (p :: rest) = depacketize (some (b :: data)) rest := by
  simp only [depacketize, h]

theorem depacketize_middle {p data : Bytes} {b : UInt8} (unit : Bytes) (rest : List Bytes)
    (h : readPayload p = some (.middle b data)) :
    depacketize (some (b :: unit)) (p :: rest) =
      depacketize (some (b :: (unit ++ data))) rest := by
  simp only [depacketize, h, List.head?_cons, if_true, List.cons_append]

theorem depacketize_last {p data : Bytes} {b : UInt8} (unit : Bytes) (rest : List Bytes)
    (h : readPayload p = some (.last b data)) :
    depacketize (some (b :: unit)) (p :: rest) =
      ((b :: (unit ++ data)) :: ·) <$> depacketize none rest := by
  simp only [depacketize, h, List.head?_cons, if_true, List.cons_append]

/-- One round of the loop. -/
theorem fragments_round (ind ty : UInt8) (size fuel : Nat) (first : Bool) (data : Bytes)
    (hdata : data ≠ []) :
    fragments ind ty size (fuel + 1) first data =
      { payload := ind :: ((ty ||| if first then 0x80 else 0) |||
          if decide (data.length ≤ size) then 0x40 else 0) :: data.take size
        marker := data.length ≤ size } ::
        fragments ind ty size fuel false (data.drop size) := by
  rw [fragments, if_neg hdata]
  by_cases hlast : data.length ≤ size
  · rw [Nat.min_eq_left hlast, List.take_of_length_le hlast, List.drop_of_length_le hlast]
    simp [hlast]
  · rw [Nat.min_eq_right (by omega)]
    have : size ≠ data.length := by omega
    simp [hlast, this]

theorem fragments_nil (ind ty : UInt8) (size fuel : Nat) (first : Bool) :
    fragments ind ty size fuel first [] = [] := by
  cases fuel <;> rfl

/-- The fragments after the first one complete the unit. -/
theorem depacketize_fragments (b : UInt8) (h : GoodHeader b) (size : Nat) (hsize : 0 < size)
    (rest : List Bytes) (fuel : Nat) (unit data : Bytes) (hfuel : data.length ≤ fuel)
    (hdata : data ≠ []) :
    depacketize (some (b :: unit)) ((fragments ((b &&& 0x60) ||| 28) (b &&& 0x1F) size fuel false
      data).map (·.payload) ++ rest) = ((b :: (unit ++ data)) :: ·) <$> depacketize none rest := by
  induction fuel generalizing unit data with
  | zero =>
      have : data = [] := List.eq_nil_of_length_eq_zero (by omega)
      exact absurd this hdata
  | succ fuel ih =>
      have hpos : 0 < data.length := List.length_pos_iff.mpr hdata
      have hread := readPayload_fragment b h false (decide (data.length ≤ size)) (data.take size)
      rw [fragments_round _ _ _ _ _ _ hdata, List.map_cons, List.cons_append]
      by_cases hlast : data.length ≤ size
      · -- nothing is left for the next round
        rw [depacketize_last unit _ (hread.trans (by rw [decide_eq_true hlast]; rfl)),
          List.drop_of_length_le hlast, fragments_nil, List.take_of_length_le hlast]
        rfl
      · have hrest : data.drop size ≠ [] := by
          rw [Ne, List.drop_eq_nil_iff]
          exact hlast
        rw [depacketize_middle unit _ (hread.trans (by rw [decide_eq_false hlast]; rfl)),
          ih _ _ (by rw [List.length_drop]; omega) hrest, List.append_assoc,
          List.take_append_drop]

/-- A receiver gets the NAL unit back and goes on behind it. -/
theorem depacketize_packetize (nal : Bytes) (h : GoodNal nal) (mtu : Nat) (hmtu : 3 ≤ mtu)
    (hsize : mtu < 2 ^ 64) (rest : List Bytes) :
    depacketize none ((packetize nal mtu).map (·.payload) ++ rest) =
      (nal :: ·) <$> depacketize none rest := by
  match nal, h with
  | b :: data, h =>
      have hroom : fragmentSize mtu = mtu - 2 := by
        unfold fragmentSize
        omega
      unfold packetize
      dsimp only
      by_cases hfits : (b :: data).length ≤ mtu
      · rw [if_pos hfits]
        exact depacketize_single rest (readPayload_single _ h)
      · rw [if_neg hfits, hroom]
        rw [List.length_cons] at hfits
        -- the NAL unit is longer than the limit, so the first fragment is not the last one
        have hlong : ¬ data.length ≤ mtu - 2 := by omega
        have hdata : data ≠ [] := by
          rintro rfl
          exact hlong (Nat.zero_le _)
        obtain ⟨fuel, hfuel⟩ : ∃ fuel, data.length = fuel + 1 := ⟨data.length - 1, by omega⟩
        have hread := readPayload_fragment b h true (decide (data.length ≤ mtu - 2))
          (data.take (mtu - 2))
        rw [hfuel, fragments_round _ _ _ _ _ _ hdata, List.map_cons, List.cons_append,
          depacketize_first _ (hread.trans (by rw [decide_eq_false hlong]; rfl)),
          depacketize_fragments b h (mtu - 2) (by omega) rest fuel _ _
            (by rw [List.length_drop]; omega)
            (by rw [Ne, List.drop_eq_nil_iff]; exact hlong), List.take_append_drop]

/-- Every payload fits the limit. -/
theorem length_fragments (ind ty : UInt8) (size fuel : Nat) (first : Bool) (data : Bytes) :
    ∀ p ∈ fragments ind ty size fuel first data, p.payload.length ≤ size + 2 := by
  induction fuel generalizing first data with
  | zero => exact fun p hp => nomatch hp
  | succ fuel ih =>
      intro p hp
      by_cases hdata : data = []
      · rw [hdata, fragments_nil] at hp
        exact nomatch hp
      · rw [fragments_round _ _ _ _ _ _ hdata] at hp
        obtain hp | hp := List.mem_cons.mp hp
        · rw [hp]
          simp only [List.length_cons, List.length_take]
          omega
        · exact ih _ _ p hp

theorem length_packetize (nal : Bytes) (mtu : Nat) (hmtu : 2 ≤ mtu) (hsize : mtu < 2 ^ 64) :
    ∀ p ∈ packetize nal mtu, p.payload.length ≤ mtu := by
  intro p hp
  have hroom : fragmentSize mtu + 2 = mtu := by
    unfold fragmentSize
    omega
  match nal with
  | [] => exact nomatch hp
  | b :: data =>
      unfold packetize at hp
      dsimp only at hp
      split at hp
      · rw [List.mem_singleton] at hp
        rwa [hp]
      · rw [← hroom]
        exact length_fragments _ _ _ _ _ _ p hp

/-! ## The fragments one by one -/

/-- The S bit of an FU header. -/
def startBit (fu : UInt8) : Bool := 128 ≤ fu.toNat

/-- The E bit of an FU header. -/
def endBit (fu : UInt8) : Bool := fu.toNat / 64 % 2 = 1

/-- The loop is over after as many rounds as there are bytes: more rounds change nothing. -/
theorem fragments_fuel (ind ty : UInt8) {size : Nat} (hsize : 0 < size) {fuel fuel' : Nat}
    (first : Bool) {data : Bytes} (h : data.length ≤ fuel) (h' : data.length ≤ fuel') :
    fragments ind ty size fuel first data = fragments ind ty size fuel' first data := by
  induction fuel generalizing fuel' first data with
  | zero =>
      obtain rfl : data = [] := List.eq_nil_of_length_eq_zero (by omega)
      rw [fragments_nil, fragments_nil]
  | succ fuel ih =>
      by_cases hdata : data = []
      · rw [hdata, fragments_nil, fragments_nil]
      · have hpos : 0 < data.length := List.length_pos_iff.mpr hdata
        obtain ⟨fuel', rfl⟩ : ∃ n, fuel' = n + 1 := ⟨fuel' - 1, by omega⟩
        have hdrop : (data.drop size).length < data.length := by
          rw [List.length_drop]
          exact Nat.sub_lt hpos hsize
        rw [fragments_round _ _ _ _ _ _ hdata, fragments_round _ _ _ _ _ _ hdata,
          @ih fuel' false _ (by omega) (by omega)]

/-- The fragment at an index: its bytes, and the two flags. -/
theorem fragments_get (ind ty : UInt8) (size fuel : Nat) (first : Bool) (data : Bytes) (i : Nat)
    {p : Packet}
    (h : (fragments ind ty size fuel first data)[i]? = some p) :
    i * size < data.length ∧
      p = { payload := ind :: ((ty ||| if first && i == 0 then 0x80 else 0) |||
              if decide (data.length ≤ (i + 1) * size) then 0x40 else 0) ::
                (data.drop (i * size)).take size
            marker := data.length ≤ (i + 1) * size } := by
  induction fuel generalizing first data i with
  | zero => cases h
  | succ fuel ih =>
      by_cases hdata : data = []
      · rw [hdata, fragments_nil] at h
        cases h
      · rw [fragments_round _ _ _ _ _ _ hdata] at h
        cases i with
        | zero =>
            obtain rfl := Option.some.inj h
            have hpos : 0 < data.length := List.length_pos_iff.mpr hdata
            simp [hpos]
        | succ i =>
            rw [List.getElem?_cons_succ] at h
            obtain ⟨hlt, hp⟩ := ih _ _ i h
            have hmul : (i + 1) * size = i * size + size := Nat.succ_mul i size
            have hmul' : (i + 1 + 1) * size = (i + 1) * size + size := Nat.succ_mul (i + 1) size
            rw [List.length_drop] at hlt hp
            have hlast : (data.length - size ≤ (i + 1) * size) =
                (data.length ≤ (i + 1 + 1) * size) := by
              apply propext
              omega
            refine ⟨by omega, hp.trans ?_⟩
            rw [List.drop_drop, Nat.add_comm size, ← hmul]
            simp only [hlast, Bool.false_and, Bool.false_eq_true, if_false,
              Nat.add_one_ne_zero, beq_iff_eq, Bool.and_eq_true, and_false]

theorem length_fragments_eq (ind ty : UInt8) {size : Nat} (hsize : 0 < size) (fuel : Nat)
    (first : Bool) (data : Bytes) (hfuel : data.length ≤ fuel) :
    (fragments ind ty size fuel first data).length = (data.length + size - 1) / size := by
  have hnil : (([] : Bytes).length + size - 1) / size = 0 := by
    rw [List.length_nil, Nat.zero_add]
    exact Nat.div_eq_of_lt (Nat.sub_lt hsize Nat.one_pos)
  induction fuel generalizing first data with
  | zero =>
      obtain rfl : data = [] := List.eq_nil_of_length_eq_zero (by omega)
      rw [fragments_nil, hnil]
      rfl
  | succ fuel ih =>
      by_cases hdata : data = []
      · rw [hdata, fragments_nil, hnil]
        rfl
      · have hpos : 0 < data.length := List.length_pos_iff.mpr hdata
        rw [fragments_round _ _ _ _ _ _ hdata, List.length_cons,
          ih _ _ (by rw [List.length_drop]; omega), List.length_drop]
        by_cases hlast : data.length ≤ size
        · have hone : (data.length + size - 1) / size = 1 :=
            Nat.div_eq_of_lt_le (by omega) (by omega)
          rw [hone, Nat.sub_eq_zero_of_le hlast, Nat.zero_add,
            Nat.div_eq_of_lt (Nat.sub_lt hsize Nat.one_pos)]
        · rw [show data.length + size - 1 = data.length - size + size - 1 + size by omega,
            Nat.add_div_right _ hsize]

/-- The bodies of the fragments are the data. -/
theorem bodies_fragments (ind ty : UInt8) {size : Nat} (hsize : 0 < size) (fuel : Nat)
    (first : Bool) (data : Bytes) (hfuel : data.length ≤ fuel) :
    ((fragments ind ty size fuel first data).map (·.payload.drop 2)).flatten = data := by
  induction fuel generalizing first data with
  | zero =>
      obtain rfl : data = [] := List.eq_nil_of_length_eq_zero (by omega)
      rfl
  | succ fuel ih =>
      by_cases hdata : data = []
      · rw [hdata, fragments_nil]
        rfl
      · have hpos : 0 < data.length := List.length_pos_iff.mpr hdata
        rw [fragments_round _ _ _ _ _ _ hdata, List.map_cons, List.flatten_cons,
          ih _ _ (by rw [List.length_drop]; omega)]
        exact List.take_append_drop size data

/-- The payloads of a NAL unit above the limit, as RFC 6184 describes FU-A packets. -/
structure FuA (nal : Bytes) (mtu : Nat) (packets : List Packet) : Prop where
  /-- as few packets as the limit allows, and not one alone -/
  count : packets.length = (nal.length - 1 + (mtu - 2) - 1) / (mtu - 2) ∧ 2 ≤ packets.length
  /-- the indicator has the NRI of the NAL unit, the FU header its type, S on the first packet
      and E on the last one only -/
  fragment : ∀ i p, packets[i]? = some p → ∃ header ∈ nal.head?, ∃ fu body,
    p.payload = ((header &&& 0x60) ||| 28) :: fu :: body ∧ body ≠ [] ∧
      fu.toNat % 32 = header.toNat % 32 ∧ (startBit fu ↔ i = 0) ∧
      (endBit fu ↔ i + 1 = packets.length) ∧ ¬ (startBit fu ∧ endBit fu) ∧
      (p.marker ↔ i + 1 = packets.length)
  bodies : (packets.map (·.payload.drop 2)).flatten = nal.tail

theorem fuHeader_spec (first last : Bool) (b : UInt8) :
    (((b &&& 0x1F) ||| if first then 0x80 else 0) ||| if last then 0x40 else 0 : UInt8).toNat % 32 =
        b.toNat % 32 ∧
      startBit (((b &&& 0x1F) ||| if first then 0x80 else 0) ||| if last then 0x40 else 0) =
        first ∧
      endBit (((b &&& 0x1F) ||| if first then 0x80 else 0) ||| if last then 0x40 else 0) = last := by
  revert b
  apply RTPPacket.forall_byte
  cases first <;> cases last <;> decide +kernel

/-- A NAL unit above the limit is cut as RFC 6184 says. -/
theorem fuA_packetize {nal : Bytes} {mtu : Nat} (hmtu : 3 ≤ mtu) (hsize : mtu < 2 ^ 64)
    (hlong : mtu < nal.length) : FuA nal mtu (packetize nal mtu) := by
  cases nal with
  | nil => cases hlong
  | cons b data =>
      rw [List.length_cons] at hlong
      have hroom : fragmentSize mtu = mtu - 2 := by
        unfold fragmentSize
        omega
      have hpos : 0 < mtu - 2 := by omega
      have heq : packetize (b :: data) mtu = fragments ((b &&& 0x60) ||| 28) (b &&& 0x1F)
          (mtu - 2) data.length true data := by
        rw [packetize, List.length_cons, if_neg (by omega), hroom]
      have hcount := length_fragments_eq ((b &&& 0x60) ||| 28) (b &&& 0x1F) hpos data.length true
        data (Nat.le_refl _)
      rw [heq]
      -- the data does not fit one packet
      have htwo : 2 ≤ (data.length + (mtu - 2) - 1) / (mtu - 2) :=
        (Nat.le_div_iff_mul_le hpos).mpr (by omega)
      refine ⟨⟨hcount, by rw [hcount]; exact htwo⟩, fun i p hp => ?_,
        bodies_fragments _ _ hpos _ true data (Nat.le_refl _)⟩
      obtain ⟨hlt, rfl⟩ := fragments_get _ _ _ _ _ _ i hp
      obtain ⟨htype, hstart, hend⟩ := fuHeader_spec (true && i == 0)
        (decide (data.length ≤ (i + 1) * (mtu - 2))) b
      have hlast : data.length ≤ (i + 1) * (mtu - 2) ↔ i + 1 = (fragments ((b &&& 0x60) ||| 28)
          (b &&& 0x1F) (mtu - 2) data.length true data).length := by
        rw [hcount]
        have hi : i < (data.length + (mtu - 2) - 1) / (mtu - 2) := by
          rw [← hcount]
          exact (List.getElem?_eq_some_iff.mp hp).1
        have hdiv : (data.length + (mtu - 2) - 1) / (mtu - 2) ≤ i + 1 ↔
            data.length ≤ (i + 1) * (mtu - 2) := by
          rw [Nat.div_le_iff_le_mul_add_pred hpos, Nat.mul_comm]
          omega
        omega
      refine ⟨b, rfl, _, _, rfl, ?_, htype, ?_, ?_, ?_, ?_⟩
      · rw [Ne, List.take_eq_nil_iff, List.drop_eq_nil_iff]
        omega
      · rw [hstart]
        simp
      · rw [hend, ← hlast]
        simp
      · rw [hstart, hend]
        rintro ⟨h0, hall⟩
        have h0 : i = 0 := by simpa using h0
        have hall := hlast.mp (by simpa using hall)
        rw [h0, hcount] at hall
        omega
      · rw [← hlast]
        simp

/-- **Packetizing is inverted by RFC 6184 reassembly and respects the limit**, for every NAL
    unit of a type from 1 to 23 and every limit from 3 on that a `size_t` holds: one verbatim
    payload when the NAL unit fits, FU-A packets otherwise, and no further round of the loop
    would add a packet. -/
theorem packetize_invertible (nal : Bytes) (mtu : Nat) (hnal : GoodNal nal) (hmtu : 3 ≤ mtu)
    (hsize : mtu < 2 ^ 64) :
    depacketize none ((packetize nal mtu).map (·.payload)) = some [nal] ∧
      (∀ p ∈ packetize nal mtu, 1 ≤ p.payload.length ∧ p.payload.length ≤ mtu) ∧
      (nal.length ≤ mtu → packetize nal mtu = [{ payload := nal, marker := true }]) ∧
      (mtu < nal.length → FuA nal mtu (packetize nal mtu) ∧
        ∀ header data fuel, nal = header :: data → data.length ≤ fuel →
          fragments ((header &&& 0x60) ||| 28) (header &&& 0x1F) (fragmentSize mtu) fuel true data =
            packetize nal mtu) := by
  have hsingle : nal.length ≤ mtu → packetize nal mtu = [{ payload := nal, marker := true }] := by
    intro hfits
    cases nal with
    | nil => cases hnal
    | cons b data => rw [packetize, if_pos hfits]
  refine ⟨?_, fun p hp => ⟨?_, length_packetize nal mtu (by omega) hsize p hp⟩, hsingle,
    fun hlong => ⟨fuA_packetize hmtu hsize hlong, ?_⟩⟩
  · have h := depacketize_packetize nal hnal mtu hmtu hsize []
    rw [List.append_nil] at h
    exact h
  · rcases Nat.lt_or_ge mtu nal.length with hlong | hfits
    · obtain ⟨i, hi⟩ := List.mem_iff_getElem?.mp hp
      obtain ⟨_, _, _, _, hpayload, -⟩ := (fuA_packetize hmtu hsize hlong).fragment i p hi
      rw [hpayload]
      simp only [List.length_cons]
      omega
    · rw [hsingle hfits, List.mem_singleton] at hp
      rw [hp]
      exact List.length_pos_iff.mpr (by rintro rfl; cases hnal)
  · rintro header data fuel rfl hfuel
    have hpos : 0 < fragmentSize mtu := by
      unfold fragmentSize
      omega
    rw [packetize, if_neg (by omega)]
    exact fragments_fuel _ _ hpos true hfuel (Nat.le_refl _)

/-- Four bytes behind the header, one in each packet. -/
theorem packetize_invertible_smallest :
    (packetize [0x65, 1, 2, 3, 4] 3).map (·.payload) =
        [[0x7C, 0x85, 1], [0x7C, 5, 2], [0x7C, 5, 3], [0x7C, 0x45, 4]] ∧
      depacketize none ((packetize [0x65, 1, 2, 3, 4] 3).map (·.payload)) =
        some [[0x65, 1, 2, 3, 4]] :=
  ⟨by decide, (packetize_invertible [0x65, 1, 2, 3, 4] 3 (by decide) (by decide) (by decide)).1⟩

end H264Packetizer

end RtspServer
