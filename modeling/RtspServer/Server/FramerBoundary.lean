/-
  Message boundaries: the framer of `onReadable` and `RTSPRequest::parse` each find the body
  length, by different code. The framer takes the first line that starts with one of two
  spellings; the parser lower-cases and trims the names and lets the last line win.

  `boundary_iff` says exactly when the two agree on an accepted message: when the bytes taken
  off `recv_buf_` are the header block followed by the body of the request, and a decimal
  content-length is the length of that body. The condition, `LengthsAgree`, is about the
  header lines only. `smuggledRequest` is a message on which they differ: one spelling that the
  framer does not know, and the body is read as the next request.
-/
import RtspServer.Server.FramerRuns

namespace RtspServer.Framer

open ByteString Decimal StringUtils

/-! ## The header map, by lines -/

/-- The value of a line whose name, lower-cased and trimmed, is `name`. -/
def fieldOf (name line : Bytes) : Option Bytes :=
  match find line (ascii ":") 0 with
  | none => none
  | some colon =>
      if toLower (trim (line.take colon)) = name then some (trim (line.drop (colon + 1))) else none

/-- The value of the last line with that name: what the header map holds. -/
def lastField (name : Bytes) (lines : List Bytes) : Option Bytes :=
  (lines.filterMap (fieldOf name)).getLast?

theorem lookup_addHeader (headers : HeaderMap) (name line : Bytes) :
    (RTSPRequest.addHeader headers line).lookup name =
      (fieldOf name line).or (headers.lookup name) := by
  unfold RTSPRequest.addHeader fieldOf
  cases find line (ascii ":") 0 with
  | none => rfl
  | some colon =>
      dsimp only
      by_cases hname : toLower (trim (line.take colon)) = name
      · rw [if_pos hname, ← hname, AList.lookup_insert]
        rfl
      · rw [if_neg hname, AList.lookup_insert_ne (Ne.symm hname)]
        rfl

theorem lookup_foldl (lines : List Bytes) (headers : HeaderMap) (name : Bytes) :
    (lines.foldl RTSPRequest.addHeader headers).lookup name =
      (lastField name lines).or (headers.lookup name) := by
  induction lines generalizing headers with
  | nil => rfl
  | cons l ls ih =>
      rw [List.foldl_cons, ih, lookup_addHeader]
      unfold lastField
      rw [List.filterMap_cons]
      cases fieldOf name l with
      | none => rfl
      | some v =>
          cases hls : ls.filterMap (fieldOf name) with
          | nil => rfl
          | cons w ws => simp [List.getLast?_cons]

theorem lookup_headers (lines : List Bytes) (name : Bytes) :
    (lines.foldl RTSPRequest.addHeader ∅).lookup name = lastField name lines := by
  rw [lookup_foldl, AList.lookup_empty, Option.or_none]

/-- A line that starts with `name:` is a field with that name, lower-cased. -/
theorem fieldOf_of_prefix {name line : Bytes} (hfree : Lines.Free (ascii ":") name)
    (hp : name ++ ascii ":" <+: line) :
    fieldOf (toLower (trim name)) line = some (trim (line.drop (name.length + 1))) := by
  obtain ⟨v, rfl⟩ := hp
  have hfind : find (name ++ ascii ":" ++ v) (ascii ":") 0 = some name.length := by
    rw [find_zero, List.append_assoc]
    exact hfree.indexOf_eq v
  unfold fieldOf
  rw [hfind]
  dsimp only
  rw [List.append_assoc, List.take_left, if_pos rfl]

theorem fieldText_none {name : Bytes} {lines : List Bytes}
    (hfree : Lines.Free (ascii ":") name)
    (h : lastField (toLower (trim name)) lines = none) : fieldText name lines = none := by
  unfold lastField at h
  rw [List.getLast?_eq_none_iff, List.filterMap_eq_nil_iff] at h
  unfold fieldText
  rw [Option.map_eq_none_iff, List.find?_eq_none]
  intro l hl hp
  have := fieldOf_of_prefix hfree (of_decide_eq_true hp)
  rw [h l hl] at this
  cases this

/-- Without a content-length line in any spelling the framer reads 0. -/
theorem declaredLength_of_none {lines : List Bytes}
    (h : lastField (ascii "content-length") lines = none) : declaredLength lines = 0 := by
  have e1 : toLower (trim contentLength) = ascii "content-length" := by decide +kernel
  have e2 : toLower (trim contentLengthLower) = ascii "content-length" := by decide +kernel
  have h1 : fieldText contentLength lines = none :=
    fieldText_none (by decide) (by rw [e1]; exact h)
  have h2 : fieldText contentLengthLower lines = none :=
    fieldText_none (by decide) (by rw [e2]; exact h)
  unfold declaredLength
  rw [h1, h2]

/-! ## When the two agree -/

/-- The bytes taken off are the header block of `m` and the body of the request, and a decimal
    content-length is the length of that body. `rest` is what is left of `recv_buf_`. -/
def BoundaryAgrees (m rest : Bytes) (req : RTSPRequest) : Prop :=
  (∃ n, headerSize m = some n ∧ m = m.take n ++ (req.body ++ rest)) ∧
  (IsDecimal (req.header (ascii "Content-Length")) →
    req.body.length = digitsVal (req.header (ascii "Content-Length")))

/-- The last content-length value `v` is compatible with the framer's length `f`, with a
    header of `n` bytes. A decimal value must be that number. Any other value must be read as
    that number too, unless the framer expects no body, or the value is read as one so large
    that adding `n` overflows (the parser then takes the whole rest as the body). -/
def ValueAgrees (n f : Nat) (v : Bytes) : Prop :=
  if IsDecimal v then digitsVal v = f
  else f = 0 ∨ ∃ k, stoul v = some k ∧ (k = f ∨ 2 ^ 64 ≤ n + k)

/-- The header of `m` has one meaning: no overflow in the framer, and the last content-length
    line in any spelling is compatible with the line the framer looks at. -/
def LengthsAgree (m : Bytes) : Prop :=
  ∃ n, headerSize m = some n ∧ n + declaredLength (headerLines m) < 2 ^ 64 ∧
    ∀ v, lastField (ascii "content-length") (headerLines m) = some v →
      ValueAgrees n (declaredLength (headerLines m)) v

/-- The parser takes the whole of `body` exactly when the value it reads is compatible. -/
theorem take_body_iff {n k : Nat} {body : Bytes} (hn : n + body.length < 2 ^ 64)
    (hk : k < 2 ^ 64) :
    (if (n + k) % 2 ^ 64 ≤ n + body.length then body.take k else []) = body ↔
      body.length = 0 ∨ k = body.length ∨ 2 ^ 64 ≤ n + k := by
  have htake : body.take k = body ↔ body.length ≤ k := List.take_eq_self_iff body
  have hnil : [] = body ↔ body.length = 0 := by
    rw [List.length_eq_zero_iff, eq_comm]
  rcases Nat.lt_or_ge (n + k) (2 ^ 64) with hlt | hge
  · rw [Nat.mod_eq_of_lt hlt]
    split
    · rw [htake]; omega
    · rw [hnil]; omega
  · have hmod : (n + k) % 2 ^ 64 = n + k - 2 ^ 64 := by omega
    rw [hmod, if_pos (by omega), htake]
    omega

/-- `readBody` behind a header of `n` bytes: it returns all of `body` and a decimal value is its
    length, exactly when the value is compatible. -/
theorem readBody_iff {n : Nat} {body v : Bytes} {headers : HeaderMap}
    (hv : headers.lookup (ascii "content-length") = some v) (hn : n + body.length < 2 ^ 64) :
    (RTSPRequest.readBody (n + body.length) body headers = body ∧
      (IsDecimal v → (RTSPRequest.readBody (n + body.length) body headers).length = digitsVal v)) ↔
      ValueAgrees n body.length v := by
  have hread : RTSPRequest.readBody (n + body.length) body headers =
      match stoul v with
      | none => []
      | some k => if (n + k) % 2 ^ 64 ≤ n + body.length then body.take k else [] := by
    unfold RTSPRequest.readBody
    rw [hv]
    dsimp only
    cases stoul v with
    | none => rfl
    | some k =>
        dsimp only
        rw [Nat.add_sub_cancel]
  by_cases hdec : IsDecimal v
  · unfold ValueAgrees
    rw [if_pos hdec]
    constructor
    · rintro ⟨hall, hlen⟩
      rw [← hlen hdec, hall]
    · intro hd
      have hst : stoul v = some body.length := by
        rw [stoul_decimal hdec, hd, if_neg (by omega)]
      have hall : RTSPRequest.readBody (n + body.length) body headers = body := by
        rw [hread, hst]
        exact (take_body_iff hn (by omega)).mpr (.inr (.inl rfl))
      exact ⟨hall, fun _ => by rw [hall, hd]⟩
  · unfold ValueAgrees
    rw [if_neg hdec, hread]
    cases hst : stoul v with
    | none => simp [hdec, List.length_eq_zero_iff, eq_comm]
    | some k =>
        dsimp only
        rw [take_body_iff hn (stoul_lt hst)]
        simp [hdec]

/-- **When framer and parser agree on a message.** For every buffer content: if a turn of the
    loop comes to `m` (behind its '$' frames), cuts a message off it and the parser accepts it,
    then the bytes taken off are the header block followed by the body of the request, and a
    decimal content-length is the length of that body, exactly when the header lines of `m` give
    both the same length. -/
theorem boundary_iff {buf m rest : Bytes} {req : RTSPRequest}
    (hm : skipInterleaved buf = .message m) (h : parseIter buf = .again rest (some req)) :
    BoundaryAgrees m rest req ↔ LengthsAgree m := by
  obtain ⟨m', n, hm', hn, hle, hrest, hparse⟩ := parseIter_again h
  rw [hm] at hm'
  cases hm'
  obtain ⟨b, tail, rfl, rfl⟩ := exists_block_of_headerSize hn
  set f := declaredLength (headerLines (b.text ++ tail)) with hf
  have hcut : cutSize (b.text ++ tail) b.text.length = (b.text.length + f) % 2 ^ 64 := rfl
  rcases Nat.lt_or_ge (b.text.length + f) (2 ^ 64) with hlt | hge
  · -- no overflow: the message is the block and the next `f` bytes
    rw [Nat.mod_eq_of_lt hlt] at hcut
    rw [hcut] at hle hrest hparse
    have hfl : (tail.take f).length = f := by
      rw [List.length_append] at hle
      simp only [List.length_take]
      omega
    rw [List.take_length_add_append, RTSPRequest.parse_block] at hparse
    obtain ⟨l, hl, hreq⟩ := Option.map_eq_some_iff.mp hparse.symm
    rw [List.drop_length_add_append] at hrest
    have hsize : (b.text ++ tail.take f).length = b.text.length + (tail.take f).length :=
      List.length_append
    have hbody : req.body = RTSPRequest.readBody (b.text.length + (tail.take f).length)
        (tail.take f) (b.lines.foldl RTSPRequest.addHeader ∅) := by
      rw [← hreq, ← hsize]
    have hheader : req.header (ascii "Content-Length") =
        (lastField (ascii "content-length") b.lines).getD [] := by
      have hlow : toLower (ascii "Content-Length") = ascii "content-length" := by decide +kernel
      unfold RTSPRequest.header
      rw [← hreq, hlow, lookup_headers]
    have hbytes : (∃ n, headerSize (b.text ++ tail) = some n ∧
        b.text ++ tail = (b.text ++ tail).take n ++ (req.body ++ rest)) ↔
        req.body = tail.take f := by
      constructor
      · rintro ⟨k, hk, htext⟩
        rw [headerSize_block] at hk
        cases hk
        rw [List.take_left, hrest] at htext
        have htail := List.append_cancel_left htext
        conv at htail => lhs; rw [← List.take_append_drop f tail]
        exact (List.append_cancel_right htail).symm
      · intro hb
        refine ⟨_, headerSize_block b tail, ?_⟩
        rw [List.take_left, hb, hrest, List.take_append_drop]
    have hnf : b.text.length + (tail.take f).length < 2 ^ 64 := by rw [hfl]; exact hlt
    unfold BoundaryAgrees LengthsAgree
    rw [hbytes, headerSize_block, headerLines_block, hheader]
    rw [headerLines_block] at hf
    have hlookup := lookup_headers b.lines (ascii "content-length")
    cases hlast : lastField (ascii "content-length") b.lines with
    | none =>
        have hf0 : f = 0 := by rw [hf, declaredLength_of_none hlast]
        rw [hlast] at hlookup
        have hnil : req.body = [] := by
          rw [hbody]; unfold RTSPRequest.readBody; rw [hlookup]
        refine iff_of_true ⟨by rw [hnil, hf0]; rfl, fun hdec => absurd rfl hdec.1⟩ ?_
        exact ⟨_, rfl, by rw [← hf]; exact hlt, by simp⟩
    | some v =>
        rw [hlast] at hlookup
        have key := readBody_iff hlookup hnf
        rw [← hbody, hfl] at key
        rw [Option.getD_some, key, hf]
        constructor
        · intro hv
          exact ⟨_, rfl, by rw [← hf]; exact hlt, fun w hw => by cases hw; exact hv⟩
        · rintro ⟨k, hk, _, hv⟩
          cases hk
          exact hv v rfl
  · -- overflow: fewer bytes are taken off than the header has
    refine iff_of_false ?_ ?_
    · rintro ⟨⟨k, hk, htext⟩, _⟩
      rw [headerSize_block] at hk
      cases hk
      have hlen := congrArg List.length htext
      have hflt := declaredLength_lt (headerLines (b.text ++ tail))
      have hpos := (headerSize_le hn).1
      rw [← hf] at hflt
      rw [hrest, hcut] at hlen
      rw [hcut] at hle
      simp only [List.length_append, List.length_take, List.length_drop] at hlen hle
      have hmod := Nat.mod_lt (b.text.length + f) (show 0 < 2 ^ 64 by decide)
      rcases Nat.lt_or_ge b.text.length (2 ^ 64) with hb | hb
      · have : (b.text.length + f) % 2 ^ 64 = b.text.length + f - 2 ^ 64 := by omega
        omega
      · omega
    · rintro ⟨k, hk, hsum, _⟩
      rw [headerSize_block] at hk
      cases hk
      omega

/-- A request with a body of three bytes, and the bytes of the next request behind it. -/
def bodyRequest : Bytes := ascii "OPTIONS * RTSP/1.0\r\nContent-Length: 3\r\n\r\nabcPAUSE"

theorem boundary_iff_bodyRequest :
    ∃ req, parseIter bodyRequest = .again (ascii "PAUSE") (some req) ∧
      (BoundaryAgrees bodyRequest (ascii "PAUSE") req ↔ LengthsAgree bodyRequest) :=
  have hm : skipInterleaved bodyRequest = .message bodyRequest := by decide +kernel
  have hiter : parseIter bodyRequest = .again (ascii "PAUSE") (some
      { method := ascii "OPTIONS"
        url := ascii "*"
        version := ascii "RTSP/1.0"
        headers := AList.insert (ascii "content-length") (ascii "3") ∅
        body := ascii "abc" }) := by decide +kernel
  ⟨_, hiter, boundary_iff hm hiter⟩

/-- A request whose body is itself a request, with a spelling of Content-Length that the framer
    does not search for. -/
def smuggledRequest : Bytes :=
  ascii "OPTIONS * RTSP/1.0\r\nContent-length: 20\r\n\r\nPAUSE * RTSP/1.0\r\n\r\n"

/-- The body of `smuggledRequest` is left in the buffer and read as the next request, while the
    accepted request has a content-length of 20 and an empty body. -/
theorem smuggledRequest_disagrees :
    ∃ req, parseIter smuggledRequest = .again (ascii "PAUSE * RTSP/1.0\r\n\r\n") (some req) ∧
      ¬ BoundaryAgrees smuggledRequest (ascii "PAUSE * RTSP/1.0\r\n\r\n") req := by
  refine ⟨{ method := ascii "OPTIONS"
            url := ascii "*"
            version := ascii "RTSP/1.0"
            headers := AList.insert (ascii "content-length") (ascii "20") ∅
            body := [] }, by decide +kernel, ?_⟩
  rintro ⟨_, hlen⟩
  exact absurd (hlen (by decide +kernel)) (by decide +kernel)

end RtspServer.Framer
