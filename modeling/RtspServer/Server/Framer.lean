/-
  Model of the receive path, `RTSPSession::onReadable`: the `recv` loop that fills `recv_buf_`
  and the loop that takes '$' frames and RTSP messages off its front.

  Sizes are `size_t`: `body_start + body_len` is computed modulo `2^64`, and `body_len` comes
  from the peer (`std::stoul`). So one turn of the parse loop may take nothing off the buffer,
  and the loop need not end. `parseLoop` takes fuel and answers `none` when it is used up;
  `parseLoop_fuel` shows that one more than the buffer length is enough whenever any fuel is,
  so `onReadable` reports a turn that never ends as `hangs`.

  The header of a message is a `Lines.Block`. `bodyLen_block` gives the length the framer reads
  in terms of the header lines: the first line that starts with `Content-Length:`, else the
  first that starts with `content-length:`.
-/
import RtspServer.Rtsp.Request
import RtspServer.Lib.Incremental

namespace RtspServer.Framer

open ByteString Decimal StringUtils

def kMaxRecvBuf : Nat := 16 * 1024

def dollar : UInt8 := '$'.toUInt8

/-! ## Taking units off the buffer -/

/-- What the inner loop over '$' frames ends with: an incomplete frame (`goto parse_done`), or
    a buffer that does not start with `$`. -/
inductive Skipped where
  | parseDone (buf : Bytes)
  | message (buf : Bytes)
  deriving DecidableEq

/-- `4u + plen`, the size of the interleaved frame at the start of `buf`. -/
def frameSize (buf : Bytes) : Nat := 4 + (256 * (buf.getD 2 0).toNat + (buf.getD 3 0).toNat)

/-- The inner loop. Every turn takes at least four bytes, so the length is enough fuel. -/
def skipLoop : Nat → Bytes → Skipped
  | 0, buf => .message buf
  | fuel + 1, buf =>
      if buf.head? = some dollar then
        if buf.length < 4 then .parseDone buf
        else if buf.length < frameSize buf then .parseDone buf
        else skipLoop fuel (buf.drop (frameSize buf))
      else .message buf

def skipInterleaved (buf : Bytes) : Skipped := skipLoop buf.length buf

def hnames : List Bytes := [ascii "\r\nContent-Length:", ascii "\r\ncontent-length:"]

/-- The value of the header found at `cl`, 0 when `std::stoul` throws. -/
def bodyLenAt (headerBlock : Bytes) (cl : Nat) : Nat :=
  -- `find(':', cl) + 1`, which is 0 when nothing is found
  let vs := match find headerBlock (ascii ":") cl with
    | some c => c + 1
    | none => 0
  match find headerBlock crlf vs with
  | none => 0
  | some ve => (stoul (trim (substr headerBlock vs (ve - vs)))).getD 0

/-- `body_len`: the first of the two spellings that occurs decides. -/
def bodyLen (headerBlock : Bytes) : List Bytes → Nat
  | [] => 0
  | hname :: rest =>
      match find headerBlock hname 0 with
      | some cl => bodyLenAt headerBlock cl
      | none => bodyLen headerBlock rest

/-- The message at the start of `buf` as `full` and what is left, `none` when more bytes are
    needed. -/
def cutMessage (buf : Bytes) : Option (Bytes × Bytes) :=
  match find buf (crlf ++ crlf) 0 with
  | none => none
  | some endPos =>
      let bodyStart := endPos + 4
      let total := (bodyStart + bodyLen (substr buf 0 bodyStart) hnames) % 2 ^ 64
      if buf.length < total then none else some (buf.take total, buf.drop total)

/-- One turn of the outer loop: it leaves, or it has cut a message and goes on. -/
inductive Iteration where
  | leave (buf : Bytes)
  | again (buf : Bytes) (req : Option RTSPRequest)
  deriving DecidableEq

def parseIter (buf : Bytes) : Iteration :=
  match skipInterleaved buf with
  | .parseDone buf => .leave buf
  | .message buf =>
      if buf = [] then .leave buf
      else
        match cutMessage buf with
        | none => .leave buf
        | some (full, rest) => .again rest (RTSPRequest.parse full)

/-- The outer loop with the requests put in `out` so far. -/
def parseLoop : Nat → Bytes → List RTSPRequest → Option (Bytes × List RTSPRequest)
  | 0, _, _ => none
  | fuel + 1, buf, out =>
      match parseIter buf with
      | .leave buf => some (buf, out)
      | .again buf req => parseLoop fuel buf (out ++ req.toList)

/-! ## The call -/

/-- One result of `recv`. The list of results of a call ends where `recv` answers `EAGAIN`. -/
inductive Recv where
  | data (bytes : Bytes)
  | eof
  | eintr
  | error

/-- The `recv` loop: the buffer to parse, `none` for `return false`. -/
def recvLoop : List Recv → Bytes → Option Bytes
  | [], buf => some buf
  | .data bytes :: rs, buf =>
      if kMaxRecvBuf < (buf ++ bytes).length then none else recvLoop rs (buf ++ bytes)
  | .eof :: _, _ => none
  | .eintr :: rs, buf => recvLoop rs buf
  | .error :: _, _ => none

/-- What a call of `onReadable` comes to. -/
inductive ReadOutcome where
  | returnsFalse
  | hangs
  | returnsTrue (buf : Bytes) (out : List RTSPRequest)
  deriving DecidableEq

def onReadable (rs : List Recv) (buf : Bytes) : ReadOutcome :=
  match recvLoop rs buf with
  | none => .returnsFalse
  | some buf =>
      match parseLoop (buf.length + 1) buf [] with
      | none => .hangs
      | some (buf, out) => .returnsTrue buf out

/-! ## The inner loop -/

theorem frameSize_pos (buf : Bytes) : 4 ≤ frameSize buf := by
  unfold frameSize; omega

theorem skipLoop_fuel :
    ∀ {f g : Nat} {buf : Bytes}, buf.length ≤ f → buf.length ≤ g → skipLoop f buf = skipLoop g buf
  | 0, 0, _, _, _ => rfl
  | 0, g + 1, buf, hf, _ => by
      rw [List.length_eq_zero_iff.mp (Nat.le_zero.mp hf)]; rfl
  | f + 1, 0, buf, _, hg => by
      rw [List.length_eq_zero_iff.mp (Nat.le_zero.mp hg)]; rfl
  | f + 1, g + 1, buf, hf, hg => by
      have hpos := frameSize_pos buf
      rw [skipLoop, skipLoop]
      split
      · split
        · rfl
        · split
          · rfl
          · exact skipLoop_fuel (by simp only [List.length_drop]; omega)
              (by simp only [List.length_drop]; omega)
      · rfl

theorem skipInterleaved_eq (buf : Bytes) :
    skipInterleaved buf =
      if buf.head? = some dollar then
        if buf.length < 4 then .parseDone buf
        else if buf.length < frameSize buf then .parseDone buf
        else skipInterleaved (buf.drop (frameSize buf))
      else .message buf := by
  have hpos := frameSize_pos buf
  rw [show skipInterleaved buf = skipLoop (buf.length + 1) buf from
    skipLoop_fuel (Nat.le_refl _) (by omega), skipLoop]
  split
  · split
    · rfl
    · split
      · rfl
      · exact skipLoop_fuel (by simp only [List.length_drop]; omega) (Nat.le_refl _)
  · rfl

/-- Induction along the inner loop: it stops, or it takes one frame off. -/
theorem skip_induction {P : Bytes → Prop}
    (hstop : ∀ buf, (buf.head? = some dollar → buf.length < 4 ∨ buf.length < frameSize buf) → P buf)
    (hframe : ∀ buf, buf.head? = some dollar → 4 ≤ buf.length → frameSize buf ≤ buf.length →
      P (buf.drop (frameSize buf)) → P buf) (buf : Bytes) : P buf := by
  induction hn : buf.length using Nat.strong_induction_on generalizing buf with
  | _ n ih =>
      by_cases hd : buf.head? = some dollar ∧ 4 ≤ buf.length ∧ frameSize buf ≤ buf.length
      · have hpos := frameSize_pos buf
        exact hframe buf hd.1 hd.2.1 hd.2.2
          (ih _ (by simp only [List.length_drop]; omega) _ rfl)
      · refine hstop buf fun h => ?_
        by_contra hc
        exact hd ⟨h, by omega, by omega⟩

/-- After the '$' frames the buffer does not start with `$`, and it is a suffix. -/
theorem skip_message {buf m : Bytes} (h : skipInterleaved buf = .message m) :
    m.head? ≠ some dollar ∧ ∃ n, m = buf.drop n := by
  induction buf using skip_induction with
  | hstop buf hstop =>
      rw [skipInterleaved_eq] at h
      split at h
      · next hd =>
          rcases hstop hd with h4 | hf
          · rw [if_pos h4] at h; cases h
          · split at h <;> cases h
      · next hd => cases h; exact ⟨hd, 0, rfl⟩
  | hframe buf hd h4 hf ih =>
      rw [skipInterleaved_eq, if_pos hd, if_neg (by omega), if_neg (by omega)] at h
      obtain ⟨h1, n, h2⟩ := ih h
      exact ⟨h1, frameSize buf + n, by rw [h2, List.drop_drop]⟩

theorem skip_of_head {buf : Bytes} (h : buf.head? ≠ some dollar) :
    skipInterleaved buf = .message buf := by
  rw [skipInterleaved_eq, if_neg h]

/-! ## The declared length, by header lines -/

def contentLength : Bytes := ascii "Content-Length"

def contentLengthLower : Bytes := ascii "content-length"

/-- The text behind `name:` in the first line that starts with it. -/
def fieldText (name : Bytes) (lines : List Bytes) : Option Bytes :=
  (lines.find? fun l => decide (name ++ ascii ":" <+: l)).map (·.drop (name.length + 1))

/-- The length a header declares to the framer: the first `Content-Length:` line, else the
    first `content-length:` line, as `std::stoul` reads it; 0 when it throws or there is none. -/
def declaredLength (lines : List Bytes) : Nat :=
  match fieldText contentLength lines with
  | some v => (stoul (trim v)).getD 0
  | none =>
      match fieldText contentLengthLower lines with
      | some v => (stoul (trim v)).getD 0
      | none => 0

theorem declaredLength_lt (lines : List Bytes) : declaredLength lines < 2 ^ 64 := by
  have h : ∀ v : Bytes, (stoul v).getD 0 < 2 ^ 64 := by
    intro v
    cases hv : stoul v with
    | none => simp
    | some n => simpa using stoul_lt hv
  unfold declaredLength
  split
  · exact h _
  · split
    · exact h _
    · decide

/-- The framer's search for one spelling, by header lines. `name` must avoid CR and `:`. -/
theorem find_field (b : Lines.Block crlf) (name : Bytes) (hcr : (13 : UInt8) ∉ name)
    (hcolon : Lines.Free (ascii ":") (crlf ++ name)) :
    match fieldText name b.lines with
    | none => find b.text (crlf ++ (name ++ ascii ":")) 0 = none
    | some v => ∃ cl, find b.text (crlf ++ (name ++ ascii ":")) 0 = some cl ∧
        bodyLenAt b.text cl = (stoul (trim v)).getD 0 := by
  have hkey : (13 : UInt8) ∉ name ++ ascii ":" := by
    simp only [List.mem_append, not_or]
    exact ⟨hcr, by decide⟩
  have hlast : ascii ":" = [58] := by decide
  have hsearch := Lines.indexOf_field RTSPRequest.crlf_noOverlap hkey (by simp [hlast])
    b.lines b.first b.first_free b.lines_free
  unfold fieldText
  cases hfind : b.lines.find? (fun l => decide (name ++ ascii ":" <+: l)) with
  | none =>
      rw [hfind] at hsearch
      rw [Option.map_none, find_zero]
      exact hsearch
  | some l =>
      rw [hfind] at hsearch
      obtain ⟨cl, r, hcl, hdrop⟩ := hsearch
      change b.text.drop cl = crlf ++ (l ++ (crlf ++ r)) at hdrop
      refine ⟨cl, by rw [find_zero]; exact hcl, ?_⟩
      obtain ⟨v, hv⟩ : name ++ ascii ":" <+: l := by simpa using List.find?_some hfind
      have hvdrop : l.drop (name.length + 1) = v := by
        rw [← hv, show name.length + 1 = (name ++ ascii ":").length by
          simp [List.length_append, hlast], List.drop_left]
      have hfree : Lines.Free crlf v := by
        have := (b.lines_free l (List.mem_of_find?_eq_some hfind)).2
        rw [← hv] at this
        exact this.of_append
      -- the colon after `cl` is the one of the key, and the next CRLF ends the line
      have hcol : find b.text (ascii ":") cl = some (cl + (crlf ++ name).length) := by
        unfold find
        rw [hdrop, ← hv]
        have := hcolon.indexOf_eq (v ++ (crlf ++ r))
        simp only [List.append_assoc] at this ⊢
        rw [this]
        simp
      have hrest : b.text.drop (cl + (crlf ++ name).length + 1) = v ++ (crlf ++ r) := by
        have hlen : cl + (crlf ++ name).length + 1 =
            cl + (crlf ++ (name ++ ascii ":")).length := by
          simp [hlast]; omega
        have htext : crlf ++ (l ++ (crlf ++ r)) =
            (crlf ++ (name ++ ascii ":")) ++ (v ++ (crlf ++ r)) := by
          rw [← hv]; simp only [List.append_assoc]
        rw [hlen, ← List.drop_drop, hdrop, htext, List.drop_left]
      have hend : find b.text crlf (cl + (crlf ++ name).length + 1) =
          some (cl + (crlf ++ name).length + 1 + v.length) := by
        unfold find
        rw [hrest, hfree.indexOf_eq]
        rfl
      unfold bodyLenAt
      simp only [hcol, hend, substr, hrest, Nat.add_sub_cancel_left, List.take_left', hvdrop]

/-- **The length the framer reads off a header block is the declared one.** -/
theorem bodyLen_block (b : Lines.Block crlf) : bodyLen b.text hnames = declaredLength b.lines := by
  have h1 := find_field b contentLength (by decide) (by decide)
  have h2 := find_field b contentLengthLower (by decide) (by decide)
  have e1 : ascii "\r\nContent-Length:" = crlf ++ (contentLength ++ ascii ":") := by decide
  have e2 : ascii "\r\ncontent-length:" = crlf ++ (contentLengthLower ++ ascii ":") := by decide
  unfold hnames declaredLength
  rw [e1, e2, bodyLen]
  cases hf1 : fieldText contentLength b.lines with
  | some v =>
      rw [hf1] at h1
      obtain ⟨cl, hcl, hlen⟩ := h1
      rw [hcl]
      exact hlen
  | none =>
      rw [hf1] at h1
      rw [h1, bodyLen]
      cases hf2 : fieldText contentLengthLower b.lines with
      | some v =>
          rw [hf2] at h2
          obtain ⟨cl, hcl, hlen⟩ := h2
          rw [hcl]
          exact hlen
      | none =>
          rw [hf2] at h2
          rw [h2]
          rfl

/-! ## Cutting a message -/

/-- The header lines of the message at the start of `buf`. -/
def headerLines (buf : Bytes) : List Bytes :=
  match RTSPRequest.nextLine buf with
  | none => []
  | some (_, tail) => (Lines.linesUntilBlank crlf tail.length tail).1

theorem headerLines_block (b : Lines.Block crlf) (rest : Bytes) :
    headerLines (b.text ++ rest) = b.lines := by
  obtain ⟨tail, hfirst, hlines⟩ := b.read_lines RTSPRequest.crlf_noOverlap rest
  unfold headerLines RTSPRequest.nextLine
  rw [hfirst]
  dsimp only
  rw [hlines]

/-- Where the header block at the start of `buf` ends, `none` when it is not complete. -/
def headerSize (buf : Bytes) : Option Nat := (find buf (crlf ++ crlf) 0).map (· + 4)

theorem headerSize_block (b : Lines.Block crlf) (rest : Bytes) :
    headerSize (b.text ++ rest) = some b.text.length := by
  obtain ⟨e, he, hlen⟩ := b.indexOf_blank RTSPRequest.crlf_noOverlap rest
  unfold headerSize
  rw [find_zero, he, ← hlen]
  rfl

/-- A complete header block is a `Block` at the start of the buffer. -/
theorem exists_block_of_headerSize {buf : Bytes} {n : Nat} (h : headerSize buf = some n) :
    ∃ (b : Lines.Block crlf) (rest : Bytes), buf = b.text ++ rest ∧ b.text.length = n := by
  obtain ⟨e, he, rfl⟩ := Option.map_eq_some_iff.mp h
  rw [find_zero] at he
  obtain ⟨b, rest, hb, hlen⟩ := Lines.exists_block RTSPRequest.crlf_noOverlap he
  exact ⟨b, rest, hb, by rw [← hlen]; rfl⟩

/-- `cutMessage` by the header: its size plus the declared length, in `size_t`. -/
theorem cutMessage_eq (buf : Bytes) :
    cutMessage buf =
      match headerSize buf with
      | none => none
      | some n =>
          if buf.length < (n + declaredLength (headerLines buf)) % 2 ^ 64 then none
          else some (buf.take ((n + declaredLength (headerLines buf)) % 2 ^ 64),
            buf.drop ((n + declaredLength (headerLines buf)) % 2 ^ 64)) := by
  cases hn : headerSize buf with
  | none =>
      unfold cutMessage
      rw [Option.map_eq_none_iff.mp hn]
  | some n =>
      obtain ⟨b, rest, rfl, rfl⟩ := exists_block_of_headerSize hn
      obtain ⟨e, he, hlen⟩ := b.indexOf_blank RTSPRequest.crlf_noOverlap rest
      have hsub : substr (b.text ++ rest) 0 b.text.length = b.text := by
        unfold substr
        rw [List.drop_zero, List.take_left]
      have hstart : e + 4 = b.text.length := hlen
      unfold cutMessage
      rw [find_zero, he]
      dsimp only
      rw [hstart, hsub, bodyLen_block, headerLines_block]

theorem headerSize_append {buf : Bytes} {n : Nat} (h : headerSize buf = some n) (t : Bytes) :
    headerSize (buf ++ t) = some n := by
  obtain ⟨b, rest, rfl, rfl⟩ := exists_block_of_headerSize h
  rw [List.append_assoc]
  exact headerSize_block b _

theorem headerLines_append {buf : Bytes} {n : Nat} (h : headerSize buf = some n) (t : Bytes) :
    headerLines (buf ++ t) = headerLines buf := by
  obtain ⟨b, rest, rfl, rfl⟩ := exists_block_of_headerSize h
  rw [List.append_assoc, headerLines_block, headerLines_block]

theorem headerSize_le {buf : Bytes} {n : Nat} (h : headerSize buf = some n) :
    4 ≤ n ∧ n ≤ buf.length := by
  obtain ⟨e, he, rfl⟩ := Option.map_eq_some_iff.mp h
  rw [find_zero] at he
  obtain ⟨_, hlen, _⟩ := indexOf_some he
  simp only [crlf, List.length_append, List.length_cons, List.length_nil] at hlen
  omega

theorem headerSize_nil : headerSize [] = none := by decide

end RtspServer.Framer
