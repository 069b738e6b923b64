/-
  A client of the RTSP connection, as RFC 2326 section 10.12 has it, on the responses and the
  interleaved frames that a session pushes to `outbox_`: at a `$` it takes the channel, the length
  and that many bytes, otherwise one response up to its blank line and as many bytes as its
  Content-Length says.

  `decodable_iff`: the client gets back exactly the packets and the responses that were pushed if
  and only if no packet is longer than the 16-bit length can say. `pushTCPFrame` narrows the size
  of the packet without looking, where `sendTCPInterleaved` returns.
-/
import RtspServer.Server.FramerBoundary
import RtspServer.Server.SendPath

namespace RtspServer

open ByteString Decimal StringUtils Lines Session

/-! ## The client -/

/-- The body length in the header lines of a response. -/
def contentLength (lines : List Bytes) : Nat :=
  match Framer.lastField (ascii "content-length") lines with
  | none => 0
  | some v => if IsDecimal v then digitsVal v else 0

/-- What a client takes off the connection. -/
inductive Item where
  | packet (channel : UInt8) (rtp : Bytes)
  | response (text : Bytes)
  deriving DecidableEq

/-- The item at the start of the bytes, and its size. -/
def clientUnit : Bytes → Option (Item × Nat)
  | 36 :: channel :: l1 :: l0 :: rest =>
      let len := RTPPacket.bigEndian [l1, l0]
      if len ≤ rest.length then some (.packet channel (rest.take len), len + 4) else none
  | 36 :: _ => none
  | bytes =>
      match Framer.headerSize bytes with
      | none => none
      | some n =>
          let len := n + contentLength (Framer.headerLines bytes)
          if len ≤ bytes.length then some (.response (bytes.take len), len) else none

/-- The buffer that was pushed to `outbox_`. -/
def Event.buffer : Event → Option Bytes
  | .response resp => some resp.toString
  | .interleaved _ frame => some frame
  | _ => none

/-- What the buffer is for: behind the four bytes of the framing stands the packet. -/
def Event.item : Event → Option Item
  | .response resp => some (.response resp.toString)
  | .interleaved _ frame => some (.packet (frame.getD 1 0) (frame.drop 4))
  | _ => none

/-- The client gets back what was pushed, in order, with nothing left over. -/
def Decodable (log : List Event) : Prop :=
  Incremental.Drains clientUnit (log.filterMap Event.buffer).flatten (log.filterMap Event.item) []

/-! ## Responses -/

namespace RTSPResponse

/-- The headers that the server sets. -/
def headerNames : List Bytes :=
  [ascii "CSeq", ascii "Public", ascii "Date", ascii "Content-Type", ascii "Content-Base",
    ascii "Content-Length", ascii "Transport", ascii "Session", ascii "Range", ascii "RTP-Info"]

/-- A header of a response with a body of `n` bytes. -/
structure HeaderOk (n : Nat) (h : Bytes × Bytes) : Prop where
  name : h.1 ∈ headerNames
  value : Free crlf h.2
  length : h.1 = ascii "Content-Length" → h.2 = natDigits n

/-- No line of the response is broken, and a Content-Length is `n`. -/
structure Announces (n : Nat) (r : RTSPResponse) : Prop where
  reason : Free crlf r.reason
  headers : ∀ h ∈ r.headers, HeaderOk n h

/-- No line of the response is broken, and a Content-Length is that of the body. -/
def Legible (r : RTSPResponse) : Prop := Announces r.body.length r

/-- The line of a header. -/
def headerLine (h : Bytes × Bytes) : Bytes := h.1 ++ ascii ": " ++ h.2

/-- The Content-Length that `toString` adds. -/
def addedLength (r : RTSPResponse) : List Bytes :=
  if r.body ≠ [] ∧ r.headers.lookup (ascii "Content-Length") = none then
    [ascii "Content-Length: " ++ natDigits r.body.length]
  else []

theorem not_mem_natDigits (n : Nat) : 13 ∉ natDigits n := by
  intro h
  have := isDigit_natDigits h
  exact absurd this (by decide)

theorem not_mem_toDec (n : Int) : 13 ∉ toDec n := by
  intro h
  have := isNumeral_toDec h
  exact absurd this (by decide)

theorem free_headerLine {n : Nat} {h : Bytes × Bytes} (hok : HeaderOk n h) :
    headerLine h ≠ [] ∧ Free crlf (headerLine h) := by
  have hname : ∀ k ∈ headerNames, 13 ∉ k ++ ascii ": " := by decide
  refine ⟨?_, hok.value.prepend (hname h.1 hok.name)⟩
  simp [headerLine, show ascii ": " = [58, 32] by decide]

/-- The header of a response. -/
def block (r : RTSPResponse) (h : r.Legible) : Block crlf :=
  { first := ascii "RTSP/1.0 " ++ toDec r.status ++ ascii " " ++ r.reason
    lines := ascii "Server: RTSP-Server/1.0" :: (r.headers.map headerLine ++ r.addedLength)
    first_free := by
      refine h.reason.prepend ?_
      simp only [List.mem_append, not_or]
      exact ⟨⟨by decide, not_mem_toDec _⟩, by decide⟩
    lines_free := by
      intro l hl
      rcases List.mem_cons.mp hl with rfl | hl
      · exact ⟨by decide, free_of_not_mem (by decide)⟩
      rcases List.mem_append.mp hl with hl | hl
      · obtain ⟨p, hp, rfl⟩ := List.mem_map.mp hl
        exact free_headerLine (h.headers p hp)
      · unfold addedLength at hl
        split at hl
        · rw [List.mem_singleton.mp hl]
          exact ⟨List.append_ne_nil_of_left_ne_nil (by decide) _,
            (free_of_not_mem (not_mem_natDigits _)).prepend (by decide)⟩
        · cases hl }

/-- The text of a response is its header followed by its body. -/
theorem toString_eq (r : RTSPResponse) (h : r.Legible) :
    r.toString = (r.block h).text ++ r.body := by
  have hserver : ascii "Server: RTSP-Server/1.0\r\n" = ascii "Server: RTSP-Server/1.0" ++ crlf := by
    decide
  have hcrlf : ascii "\r\n" = crlf := by decide
  have hadded : (if r.body ≠ [] ∧ r.headers.lookup (ascii "Content-Length") = none then
      ascii "Content-Length: " ++ natDigits r.body.length ++ crlf else []) =
      joinLines crlf r.addedLength := by
    unfold addedLength joinLines
    split <;> simp
  have hlines : r.headers.flatMap (fun h => h.1 ++ ascii ": " ++ h.2 ++ crlf) =
      joinLines crlf (r.headers.map headerLine) := by
    rw [joinLines, List.flatMap_map]
    rfl
  unfold toString
  rw [hserver, hcrlf, hadded, hlines]
  simp only [block, Block.text, joinLines, List.flatMap_cons, List.flatMap_append,
    List.append_assoc]

/-! ### The body length -/

/-- A client reads a Content-Length in the line of a header exactly when it is one. -/
theorem fieldOf_headerLine {h : Bytes × Bytes} (hname : h.1 ∈ headerNames) :
    Framer.fieldOf (ascii "content-length") (headerLine h) =
      if h.1 = ascii "Content-Length" then some (trim (32 :: h.2)) else none := by
  have hfree : ∀ k ∈ headerNames, Free (ascii ":") k ∧
      (toLower (trim k) = ascii "content-length" ↔ k = ascii "Content-Length") := by
    decide +kernel
  obtain ⟨hcolon, hlower⟩ := hfree h.1 hname
  have hfind : find (headerLine h) (ascii ":") 0 = some h.1.length := by
    rw [find_zero, headerLine, List.append_assoc]
    exact hcolon.indexOf_eq (32 :: h.2)
  have hline : headerLine h = h.1 ++ 58 :: 32 :: h.2 := by
    rw [headerLine, List.append_assoc]
    rfl
  unfold Framer.fieldOf
  rw [hfind]
  dsimp only
  rw [hline, List.take_left, List.drop_append, List.drop_eq_nil_of_le (by omega),
    Nat.add_sub_cancel_left]
  simp only [hlower]
  rfl

theorem fieldOf_addedLength (n : Nat) :
    Framer.fieldOf (ascii "content-length") (ascii "Content-Length: " ++ natDigits n) =
      some (natDigits n) := by
  have hname : ascii "Content-Length" ∈ headerNames := by decide
  have h := fieldOf_headerLine (h := (ascii "Content-Length", natDigits n)) hname
  rw [if_pos rfl, trim_blank (trimmed_of_decimal (isDecimal_natDigits n))] at h
  exact h

/-- The values of the lines that a client reads as a Content-Length. -/
def lengthFields (r : RTSPResponse) (h : r.Legible) : List Bytes :=
  (r.block h).lines.filterMap (Framer.fieldOf (ascii "content-length"))

/-- They are all the length of the body. -/
theorem eq_of_mem_lengthFields {r : RTSPResponse} {h : r.Legible} {v : Bytes}
    (hv : v ∈ r.lengthFields h) : v = natDigits r.body.length := by
  obtain ⟨l, hl, hlv⟩ := List.mem_filterMap.mp hv
  rcases List.mem_cons.mp hl with rfl | hl
  · have hserver : Framer.fieldOf (ascii "content-length") (ascii "Server: RTSP-Server/1.0") =
        none := by decide +kernel
    rw [hserver] at hlv
    cases hlv
  rcases List.mem_append.mp hl with hl | hl
  · obtain ⟨p, hp, rfl⟩ := List.mem_map.mp hl
    obtain ⟨hname, -, hlen⟩ := h.headers p hp
    rw [fieldOf_headerLine hname] at hlv
    split at hlv
    · next heq =>
        rw [hlen heq, trim_blank (trimmed_of_decimal (isDecimal_natDigits _))] at hlv
        exact (Option.some.inj hlv).symm
    · cases hlv
  · unfold addedLength at hl
    split at hl
    · rw [List.mem_singleton.mp hl, fieldOf_addedLength] at hlv
      exact (Option.some.inj hlv).symm
    · cases hl

/-- There is one unless the body is empty: the one that was set, or the one that is added. -/
theorem lengthFields_ne_nil {r : RTSPResponse} (h : r.Legible) (hbody : r.body ≠ []) :
    r.lengthFields h ≠ [] := by
  intro hnil
  rw [lengthFields, List.filterMap_eq_nil_iff] at hnil
  cases hlookup : r.headers.lookup (ascii "Content-Length") with
  | none =>
      have hadded : r.addedLength = [ascii "Content-Length: " ++ natDigits r.body.length] := by
        rw [addedLength, if_pos ⟨hbody, hlookup⟩]
      have hline := hnil (ascii "Content-Length: " ++ natDigits r.body.length) (by
        simp [block, hadded])
      rw [fieldOf_addedLength] at hline
      cases hline
  | some v =>
      obtain ⟨l₁, l₂, heq, -⟩ := List.lookup_eq_some_iff.mp hlookup
      have hmem : (ascii "Content-Length", v) ∈ r.headers := by
        rw [heq]
        exact List.mem_append_right l₁ List.mem_cons_self
      have hline := hnil (headerLine (ascii "Content-Length", v)) (by
        refine List.mem_cons_of_mem _ (List.mem_append_left _ ?_)
        exact List.mem_map_of_mem hmem)
      rw [fieldOf_headerLine (h.headers _ hmem).name, if_pos rfl] at hline
      cases hline

/-- The body length that a client reads is the one of the body. -/
theorem contentLength_block (r : RTSPResponse) (h : r.Legible) :
    contentLength (r.block h).lines = r.body.length := by
  unfold contentLength Framer.lastField
  cases hlast : (r.lengthFields h).getLast? with
  | none =>
      have hbody : r.body = [] := by
        by_contra hne
        exact lengthFields_ne_nil h hne (List.getLast?_eq_none_iff.mp hlast)
      rw [lengthFields] at hlast
      rw [hlast, hbody]
      rfl
  | some v =>
      have hv := eq_of_mem_lengthFields (List.mem_of_getLast? hlast)
      rw [lengthFields] at hlast
      rw [hlast]
      dsimp only
      rw [hv, if_pos (isDecimal_natDigits _), digitsVal_natDigits]

/-- A client takes a response off the connection, whatever follows it. -/
theorem clientUnit_toString (r : RTSPResponse) (h : r.Legible) (rest : Bytes) :
    clientUnit (r.toString ++ rest) = some (.response r.toString, r.toString.length) := by
  have htext : r.toString ++ rest = (r.block h).text ++ (r.body ++ rest) := by
    rw [toString_eq r h, List.append_assoc]
  have hlen : (r.block h).text.length + contentLength (r.block h).lines = r.toString.length := by
    rw [contentLength_block, toString_eq r h, List.length_append]
  have hsize : Framer.headerSize (r.toString ++ rest) = some (r.block h).text.length := by
    rw [htext]
    exact Framer.headerSize_block (r.block h) _
  have hlines : Framer.headerLines (r.toString ++ rest) = (r.block h).lines := by
    rw [htext]
    exact Framer.headerLines_block (r.block h) _
  have hfirst : ∃ t, r.toString ++ rest = 82 :: t := ⟨_, rfl⟩
  obtain ⟨t, ht⟩ := hfirst
  have hstep : clientUnit (r.toString ++ rest) =
      match Framer.headerSize (r.toString ++ rest) with
      | none => none
      | some n =>
          let len := n + contentLength (Framer.headerLines (r.toString ++ rest))
          if len ≤ (r.toString ++ rest).length then
            some (.response ((r.toString ++ rest).take len), len) else none := by
    rw [ht]
    rfl
  rw [hstep, hsize, hlines]
  dsimp only
  rw [hlen, if_pos (by rw [List.length_append]; omega), List.take_left]

/-! ### What the factories build -/

theorem mem_setHeader {key value : Bytes} {hs : List (Bytes × Bytes)} {h : Bytes × Bytes}
    (hmem : h ∈ setHeader key value hs) : h = (key, value) ∨ h ∈ hs := by
  induction hs with
  | nil => exact .inl (List.mem_singleton.mp hmem)
  | cons p hs ih =>
      obtain ⟨k, v⟩ := p
      rw [setHeader] at hmem
      split at hmem
      · rcases List.mem_cons.mp hmem with h | h
        · exact .inl h
        · exact .inr (List.mem_cons_of_mem _ h)
      · split at hmem
        · exact List.mem_cons.mp hmem
        · rcases List.mem_cons.mp hmem with h | h
          · exact .inr (h ▸ List.mem_cons_self)
          · exact (ih h).imp_right (List.mem_cons_of_mem _)

/-- A header other than Content-Length, with a value that is one line. -/
theorem Announces.set {n : Nat} {r : RTSPResponse} (h : Announces n r) {key : String}
    (hkey : ascii key ∈ headerNames ∧ ascii key ≠ ascii "Content-Length") {value : Bytes}
    (hvalue : Free crlf value) : Announces n (r.set key value) := by
  refine ⟨h.reason, fun p hp => ?_⟩
  rcases mem_setHeader hp with rfl | hp
  · exact ⟨hkey.1, hvalue, fun heq => absurd heq hkey.2⟩
  · exact h.headers p hp

theorem free_toDec (n : Int) : Free crlf (toDec n) := free_of_not_mem (not_mem_toDec n)

/-- The response before the other headers are set. -/
theorem announces_start (n : Nat) (cseq status : Int) {reason : Bytes} (h : Free crlf reason) :
    Announces n ({ empty with status := status, reason := reason }.set "CSeq" (toDec cseq)) := by
  have hempty : Announces n { empty with status := status, reason := reason } :=
    ⟨h, fun _ hp => nomatch hp⟩
  exact hempty.set (by decide) (free_toDec cseq)

variable {date : Bytes} (hdate : Free crlf date) (cseq : Int)

theorem announces_ok (n : Nat) : Announces n (empty.set "CSeq" (toDec cseq)) :=
  announces_start n cseq 200 (free_of_not_mem (show 13 ∉ ascii "OK" by decide))

include hdate

theorem legible_options {methods : Bytes} (h : Free crlf methods) :
    (options date cseq methods).Legible :=
  ((announces_ok cseq 0).set (by decide) h).set (by decide) hdate

theorem legible_setup {id transport : Bytes} (hid : 13 ∉ id) (h : Free crlf transport) :
    (setup date cseq id transport).Legible := by
  have htimeout : Free crlf (id ++ ascii ";timeout=60") :=
    Free.prepend (free_of_not_mem (by decide)) hid
  exact (((announces_ok cseq 0).set (by decide) h).set (by decide) htimeout).set (by decide) hdate

theorem legible_play {id range info : Bytes} (hid : 13 ∉ id) (hrange : Free crlf range)
    (hinfo : Free crlf info) : (play date cseq id range info).Legible := by
  have hstart : Announces 0 (((empty.set "CSeq" (toDec cseq)).set "Session" id).set "Date" date) :=
    ((announces_ok cseq 0).set (by decide) (free_of_not_mem hid)).set (by decide) hdate
  unfold play
  dsimp only
  repeat' split
  · exact hstart
  · exact hstart.set (by decide) hrange
  · exact hstart.set (by decide) hinfo
  · exact (hstart.set (by decide) hrange).set (by decide) hinfo

theorem legible_ok {id : Bytes} (hid : 13 ∉ id) : (ok date cseq id).Legible := by
  have hstart : Announces 0 ((empty.set "CSeq" (toDec cseq)).set "Date" date) :=
    (announces_ok cseq 0).set (by decide) hdate
  unfold ok
  dsimp only
  split
  · exact hstart
  · exact hstart.set (by decide) (free_of_not_mem hid)

theorem legible_error (status : Int) {reason : Bytes} (h : Free crlf reason) :
    (error date cseq status reason).Legible :=
  (announces_start 0 cseq status h).set (by decide) hdate

/-- The description is the body and its length the Content-Length, whatever it holds. -/
theorem legible_describe (sdp : Bytes) {baseUrl : Bytes} (h : Free crlf baseUrl) :
    (describe date cseq sdp baseUrl).Legible := by
  have htype : Free crlf (ascii "application/sdp") := free_of_not_mem (by decide)
  have hname : ascii "Content-Length" ∈ headerNames := by decide
  have hstart : Announces sdp.length ((((empty.set "CSeq" (toDec cseq)).set "Date" date).set
      "Content-Type" (ascii "application/sdp")).set "Content-Base" baseUrl) :=
    (((announces_ok cseq sdp.length).set (by decide) hdate).set (by decide) htype).set (by decide) h
  refine ⟨hstart.reason, fun p hp => ?_⟩
  rcases mem_setHeader hp with rfl | hp
  · exact ⟨hname, free_of_not_mem (not_mem_natDigits _), fun _ => rfl⟩
  · exact hstart.headers p hp

end RTSPResponse

/-! ## Frames -/

/-- The length of the framing is the size of the packet in 16 bits. -/
theorem bigEndian_narrowed (n : Nat) :
    RTPPacket.bigEndian [(UInt16.ofNat n >>> 8).toUInt8, (UInt16.ofNat n &&& 0xFF).toUInt8] =
      n % 65536 := by
  have hmod : UInt16.ofNat n = UInt16.ofNat (n % 65536) := by
    rw [← UInt16.toNat_inj]
    simp
  rw [hmod]
  exact bigEndian_length (n % 65536) (Nat.mod_lt _ (by decide))

/-- A client takes as many bytes as the length says. -/
theorem clientUnit_tcpFrame (channel : Int) (rtp rest : Bytes) :
    clientUnit (tcpFrame channel rtp ++ rest) =
      some (.packet (toByte channel) (rtp.take (rtp.length % 65536)), rtp.length % 65536 + 4) := by
  have hle : rtp.length % 65536 ≤ rtp.length := Nat.mod_le _ _
  unfold tcpFrame
  simp only [List.cons_append]
  rw [clientUnit, bigEndian_narrowed, if_pos (by rw [List.length_append]; omega),
    List.take_append_of_le_length hle]

/-! ## Logs -/

/-- What the session pushes to `outbox_` is a legible response or the frame of a packet. -/
def Event.Framed : Event → Prop
  | .response resp => resp.Legible
  | .interleaved _ frame => ∃ channel rtp, frame = tcpFrame channel rtp
  | _ => True

/-- A packet that is pushed to `outbox_` has a size that 16 bits can say. -/
def Event.Fits : Event → Prop
  | .interleaved _ frame => (frame.drop 4).length ≤ 0xFFFF
  | _ => True

/-- An event that pushes a buffer: the client takes it off whole if and only if it fits. -/
theorem clientUnit_buffer {e : Event} {b : Bytes} (hframed : e.Framed) (hb : e.buffer = some b)
    (rest : Bytes) :
    ∃ item, e.item = some item ∧
      (e.Fits → clientUnit (b ++ rest) = some (item, b.length)) ∧
      (¬ e.Fits → ∃ item' n, clientUnit (b ++ rest) = some (item', n) ∧ item' ≠ item) := by
  cases e with
  | response resp =>
      obtain rfl := Option.some.inj hb
      exact ⟨_, rfl, fun _ => resp.clientUnit_toString hframed rest, fun h => absurd trivial h⟩
  | interleaved track frame =>
      obtain rfl := Option.some.inj hb
      obtain ⟨channel, rtp, rfl⟩ := hframed
      refine ⟨_, rfl, fun hfits => ?_, fun hno => ?_⟩
      · have hfits : rtp.length ≤ 0xFFFF := hfits
        rw [clientUnit_tcpFrame, Nat.mod_eq_of_lt (by omega), List.take_length]
        rfl
      · have hno : ¬ rtp.length ≤ 0xFFFF := hno
        refine ⟨_, _, clientUnit_tcpFrame channel rtp rest, fun heq => ?_⟩
        have hrtp : rtp.take (rtp.length % 65536) = rtp := (Item.packet.inj heq).2
        have hlen := congrArg List.length hrtp
        rw [List.length_take] at hlen
        omega
  | _ => cases hb

theorem item_of_buffer_none {e : Event} (h : e.buffer = none) : e.item = none := by
  cases e <;> first | rfl | cases h

theorem fits_of_buffer_none {e : Event} (h : e.buffer = none) : e.Fits := by
  cases e <;> trivial

/-- What a client gets back is what was pushed, if and only if every packet fits. The induction is
    on the log: at the first packet that does not fit the client gets another one. -/
theorem decodable_iff {log : List Event} (hframed : ∀ e ∈ log, e.Framed) :
    Decodable log ↔ ∀ e ∈ log, e.Fits := by
  induction log with
  | nil => exact ⟨fun _ => List.forall_mem_nil _, fun _ => .stop rfl⟩
  | cons e log ih =>
      obtain ⟨hhead, htail⟩ := List.forall_mem_cons.mp hframed
      have ih := ih htail
      rw [List.forall_mem_cons, ← ih]
      unfold Decodable
      cases hb : e.buffer with
      | none =>
          rw [List.filterMap_cons_none hb, List.filterMap_cons_none (item_of_buffer_none hb)]
          exact ⟨fun h => ⟨fits_of_buffer_none hb, h⟩, fun h => h.2⟩
      | some b =>
          obtain ⟨item, hitem, hwhole, hbroken⟩ :=
            clientUnit_buffer hhead hb (log.filterMap Event.buffer).flatten
          rw [List.filterMap_cons_some hb, List.filterMap_cons_some hitem, List.flatten_cons]
          by_cases hfits : e.Fits
          · have hunit := hwhole hfits
            constructor
            · intro h
              cases h with
              | unit hn ht =>
                  obtain ⟨-, rfl⟩ := Prod.mk.inj (Option.some.inj (hunit.symm.trans hn))
                  rw [List.drop_left] at ht
                  exact ⟨hfits, ht⟩
            · intro ⟨_, h⟩
              refine .unit hunit ?_
              rw [List.drop_left]
              exact h
          · obtain ⟨item', n, hunit, hne⟩ := hbroken hfits
            refine ⟨fun h => ?_, fun h => absurd h.1 hfits⟩
            cases h with
            | unit hn _ =>
                exact absurd (Prod.mk.inj (Option.some.inj (hunit.symm.trans hn))).1 hne

end RtspServer
