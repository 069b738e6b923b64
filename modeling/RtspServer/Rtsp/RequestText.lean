/-
  Requests as a client writes them: a request line of three words with one space between, a line
  `name: value` for each header, a blank line and the body.

  `parse_text`: on such a text `RTSPRequest::parse` gives back the method, the URL, the version
  and the body, and `header` finds the value of each header under its name in any letter case,
  and nothing under another name. Names and values may hold lone CR and LF bytes inside, values
  also colons, and the body any bytes.
-/
import RtspServer.Rtsp.Request

namespace RtspServer

open ByteString Decimal StringUtils Lines

/-- A request as it is written, the headers in the order of their lines. -/
structure WrittenRequest where
  method : Bytes
  url : Bytes
  version : Bytes
  headers : List (Bytes × Bytes)
  body : Bytes

/-- A part of the request line: no space and no CRLF in it, no white space at its ends. -/
structure Word (s : Bytes) : Prop where
  no_space : ' '.toUInt8 ∉ s
  no_crlf : ¬ crlf <:+: s
  trimmed : Trimmed s

structure HeaderName (s : Bytes) : Prop where
  nonempty : s ≠ []
  no_colon : ':'.toUInt8 ∉ s
  no_crlf : ¬ crlf <:+: s
  trimmed : Trimmed s

structure HeaderValue (s : Bytes) : Prop where
  no_crlf : ¬ crlf <:+: s
  trimmed : Trimmed s

namespace WrittenRequest

/-- The first line, without its CRLF. -/
def firstLine (w : WrittenRequest) : Bytes :=
  w.method ++ ' '.toUInt8 :: (w.url ++ ' '.toUInt8 :: w.version)

/-- The line of a header, without its CRLF. -/
def headerLine (h : Bytes × Bytes) : Bytes := h.1 ++ ':'.toUInt8 :: ' '.toUInt8 :: h.2

/-- The whole text. -/
def text (w : WrittenRequest) : Bytes :=
  w.firstLine ++ crlf ++ w.headers.flatMap (fun h => headerLine h ++ crlf) ++ crlf ++ w.body

/-- Which requests are written. -/
structure WellFormed (w : WrittenRequest) : Prop where
  method : Word w.method
  url : Word w.url
  version : Word w.version
  version_rtsp : ascii "RTSP/" <+: w.version
  names : ∀ h ∈ w.headers, HeaderName h.1
  values : ∀ h ∈ w.headers, HeaderValue h.2
  distinct : (w.headers.map fun h => toLower h.1).Nodup
  length_some : ∀ h ∈ w.headers, toLower h.1 = ascii "content-length" →
    IsDecimal h.2 ∧ digitsVal h.2 = w.body.length
  length_none : (∀ h ∈ w.headers, toLower h.1 ≠ ascii "content-length") → w.body = []

/-! ## Lines -/

theorem free_of_no_crlf {s : Bytes} (h : ¬ crlf <:+: s) : Free crlf s :=
  free_of_not_infix RTSPRequest.crlf_noOverlap h

/-- A byte that the line end does not have in front. -/
theorem free_cons {c : UInt8} {s : Bytes} (hc : 13 ≠ c) (h : Free crlf s) : Free crlf (c :: s) :=
  h.prepend (a := [c]) (by rw [List.mem_singleton]; exact hc)

theorem free_firstLine {w : WrittenRequest} (h : w.WellFormed) : Free crlf w.firstLine := by
  have hversion := free_cons (c := ' '.toUInt8) (by decide) (free_of_no_crlf h.version.no_crlf)
  have hurl := (free_of_no_crlf h.url.no_crlf).append hversion (by decide)
  exact (free_of_no_crlf h.method.no_crlf).append (free_cons (by decide) hurl) (by decide)

theorem free_headerLine {h : Bytes × Bytes} (hname : HeaderName h.1) (hvalue : HeaderValue h.2) :
    headerLine h ≠ [] ∧ Free crlf (headerLine h) := by
  refine ⟨List.append_ne_nil_of_left_ne_nil hname.nonempty _, ?_⟩
  have hvalue := free_cons (c := ' '.toUInt8) (by decide) (free_of_no_crlf hvalue.no_crlf)
  exact (free_of_no_crlf hname.no_crlf).append (free_cons (by decide) hvalue) (by decide)

/-- The header block of the text. -/
def block (w : WrittenRequest) (h : w.WellFormed) : Block crlf :=
  { first := w.firstLine
    lines := w.headers.map headerLine
    first_free := free_firstLine h
    lines_free := by
      intro l hl
      obtain ⟨p, hp, rfl⟩ := List.mem_map.mp hl
      exact free_headerLine (h.names p hp) (h.values p hp) }

theorem text_eq (w : WrittenRequest) (h : w.WellFormed) :
    w.text = (w.block h).text ++ w.body := by
  unfold text block Block.text joinLines
  simp only [List.flatMap_map, List.append_assoc]

/-! ## Reading them -/

theorem requestLine_firstLine {w : WrittenRequest} (h : w.WellFormed) :
    RTSPRequest.requestLine w.firstLine = some (w.method, w.url, w.version) := by
  have hsplit : split w.firstLine ' '.toUInt8 = [w.method, w.url, w.version] := by
    have hwords : ∀ l ∈ [w.method, w.url, w.version], ' '.toUInt8 ∉ l := by
      simp only [List.mem_cons, List.not_mem_nil, or_false, forall_eq_or_imp, forall_eq]
      exact ⟨h.method.no_space, h.url.no_space, h.version.no_space⟩
    have hjoin := List.splitOn_intercalate ' '.toUInt8 hwords (by simp)
    rw [← hjoin]
    simp [split, firstLine, List.intercalate, List.intersperse]
  have hfind : find w.version (ascii "RTSP/") 0 = some 0 := by
    rw [find_zero]
    exact indexOf_of_prefix h.version_rtsp
  unfold RTSPRequest.requestLine
  rw [hsplit]
  dsimp only
  rw [trim_of_trimmed h.method.trimmed, trim_of_trimmed h.url.trimmed,
    trim_of_trimmed h.version.trimmed, hfind, if_neg (fun h => h rfl)]

theorem addHeader_headerLine (m : HeaderMap) {h : Bytes × Bytes} (hname : HeaderName h.1)
    (hvalue : HeaderValue h.2) :
    RTSPRequest.addHeader m (headerLine h) = m.insert (toLower h.1) h.2 := by
  have hcolon : Free (ascii ":") h.1 := free_of_not_mem hname.no_colon
  have hfind : find (headerLine h) (ascii ":") 0 = some h.1.length := by
    rw [find_zero]
    exact hcolon.indexOf_eq (' '.toUInt8 :: h.2)
  have hvalue' : (headerLine h).drop (h.1.length + 1) = 32 :: h.2 := by
    rw [headerLine, ← List.drop_drop, List.drop_left]
    rfl
  unfold RTSPRequest.addHeader
  rw [hfind]
  dsimp only
  rw [hvalue', headerLine, List.take_left, trim_of_trimmed hname.trimmed,
    trim_blank hvalue.trimmed]

/-- The map that the header loop builds. -/
def headerMap (headers : List (Bytes × Bytes)) (m : HeaderMap) : HeaderMap :=
  headers.foldl (fun m h => m.insert (toLower h.1) h.2) m

theorem headerMap_cons (p : Bytes × Bytes) (headers : List (Bytes × Bytes)) (m : HeaderMap) :
    headerMap (p :: headers) m = headerMap headers (m.insert (toLower p.1) p.2) := rfl

theorem foldl_addHeader {headers : List (Bytes × Bytes)}
    (hnames : ∀ h ∈ headers, HeaderName h.1) (hvalues : ∀ h ∈ headers, HeaderValue h.2)
    (m : HeaderMap) :
    (headers.map headerLine).foldl RTSPRequest.addHeader m = headerMap headers m := by
  induction headers generalizing m with
  | nil => rfl
  | cons h headers ih =>
      rw [List.map_cons, List.foldl_cons,
        addHeader_headerLine m (hnames h List.mem_cons_self) (hvalues h List.mem_cons_self)]
      exact ih (fun h hh => hnames h (List.mem_cons_of_mem _ hh))
        (fun h hh => hvalues h (List.mem_cons_of_mem _ hh)) _

/-- Under a name that no header has the map is what it was. -/
theorem lookup_headerMap_of_ne {headers : List (Bytes × Bytes)} {key : Bytes}
    (h : ∀ p ∈ headers, toLower p.1 ≠ key) (m : HeaderMap) :
    (headerMap headers m).lookup key = m.lookup key := by
  induction headers generalizing m with
  | nil => rfl
  | cons p headers ih =>
      rw [headerMap_cons, ih fun q hq => h q (List.mem_cons_of_mem _ hq)]
      exact AList.lookup_insert_ne (Ne.symm (h p List.mem_cons_self))

theorem lookup_headerMap {headers : List (Bytes × Bytes)}
    (hdistinct : (headers.map fun h => toLower h.1).Nodup) {p : Bytes × Bytes}
    (hp : p ∈ headers) (m : HeaderMap) :
    (headerMap headers m).lookup (toLower p.1) = some p.2 := by
  induction headers generalizing m with
  | nil => cases hp
  | cons q headers ih =>
      rw [List.map_cons, List.nodup_cons] at hdistinct
      rw [headerMap_cons]
      rcases List.mem_cons.mp hp with rfl | hp
      · -- no later line has the name
        have hlater : ∀ r ∈ headers, toLower r.1 ≠ toLower p.1 :=
          fun r hr heq => hdistinct.1 (List.mem_map.mpr ⟨r, hr, heq⟩)
        rw [lookup_headerMap_of_ne hlater, AList.lookup_insert]
      · exact ih hdistinct.2 hp _

/-- The body is what stands behind the blank line. -/
theorem readBody_text {w : WrittenRequest} (h : w.WellFormed) (hsize : w.text.length < 2 ^ 64) :
    RTSPRequest.readBody w.text.length w.body (headerMap w.headers ∅) = w.body := by
  have hlen : w.body.length ≤ w.text.length := by
    rw [text, List.length_append]
    omega
  unfold RTSPRequest.readBody
  by_cases hsome : ∃ p ∈ w.headers, toLower p.1 = ascii "content-length"
  · obtain ⟨p, hp, hkey⟩ := hsome
    obtain ⟨hdec, hval⟩ := h.length_some p hp hkey
    have hbody : w.body.length < 2 ^ 64 := by omega
    have hstoul : stoul p.2 = some w.body.length := by
      rw [stoul_decimal hdec, hval, if_neg (Nat.not_le_of_lt hbody)]
    rw [← hkey, lookup_headerMap h.distinct hp]
    dsimp only
    rw [hstoul]
    dsimp only
    rw [Nat.sub_add_cancel hlen, if_pos (Nat.mod_le _ _), List.take_length]
  · have hnone : ∀ p ∈ w.headers, toLower p.1 ≠ ascii "content-length" :=
      fun p hp hkey => hsome ⟨p, hp, hkey⟩
    rw [lookup_headerMap_of_ne hnone, AList.lookup_empty, h.length_none hnone]

end WrittenRequest

open WrittenRequest in
/-- Parsing undoes writing. The size of a string is below 2^64. -/
theorem RTSPRequest.parse_text (w : WrittenRequest) (h : w.WellFormed)
    (hsize : w.text.length < 2 ^ 64) :
    ∃ req, RTSPRequest.parse w.text = some req ∧ req.method = w.method ∧ req.url = w.url ∧
      req.version = w.version ∧ req.body = w.body ∧
      (∀ p ∈ w.headers, ∀ n, toLower n = toLower p.1 → req.header n = p.2) ∧
      ∀ n, (∀ p ∈ w.headers, toLower n ≠ toLower p.1) → req.header n = [] := by
  have hparse := RTSPRequest.parse_block (w.block h) w.body
  rw [← text_eq] at hparse
  have hlines : (w.block h).lines.foldl RTSPRequest.addHeader ∅ = headerMap w.headers ∅ :=
    foldl_addHeader h.names h.values ∅
  have hfirst : RTSPRequest.requestLine (w.block h).first = some (w.method, w.url, w.version) :=
    requestLine_firstLine h
  rw [hlines, hfirst] at hparse
  refine ⟨_, hparse, rfl, rfl, rfl, readBody_text h hsize, fun p hp n hn => ?_, fun n hn => ?_⟩
  · rw [header, hn, lookup_headerMap h.distinct hp]
    rfl
  · rw [header, lookup_headerMap_of_ne (fun p hp heq => hn p hp heq.symm), AList.lookup_empty]
    rfl

/-- A request with a body that holds a blank line, and a value with colons and a lone CR. -/
def writtenParameter : WrittenRequest :=
  { method := ascii "SET_PARAMETER"
    url := ascii "rtsp://host/film.mp4"
    version := ascii "RTSP/1.0"
    headers := [(ascii "CSeq", ascii "7"), (ascii "X-Time", ascii "12:30:\r00"),
      (ascii "CONTENT-length", ascii "04")]
    body := crlf ++ crlf }

theorem wellFormed_writtenParameter : writtenParameter.WellFormed where
  method := ⟨by decide +kernel, by decide +kernel, by decide +kernel⟩
  url := ⟨by decide +kernel, by decide +kernel, by decide +kernel⟩
  version := ⟨by decide +kernel, by decide +kernel, by decide +kernel⟩
  version_rtsp := by decide +kernel
  names := by
    rintro h (_ | ⟨_, _ | ⟨_, _ | ⟨_, ⟨⟩⟩⟩⟩) <;>
      exact ⟨by decide +kernel, by decide +kernel, by decide +kernel, by decide +kernel⟩
  values := by
    rintro h (_ | ⟨_, _ | ⟨_, _ | ⟨_, ⟨⟩⟩⟩⟩) <;> exact ⟨by decide +kernel, by decide +kernel⟩
  distinct := by decide +kernel
  length_some := by decide +kernel
  length_none := by decide +kernel

theorem RTSPRequest.parse_text_parameter :
    ∃ req, RTSPRequest.parse writtenParameter.text = some req ∧ req.body = crlf ++ crlf ∧
      req.header (ascii "x-TIME") = ascii "12:30:\r00" ∧ req.header (ascii "Session") = [] := by
  obtain ⟨req, hparse, _, _, _, hbody, hsome, hnone⟩ :=
    parse_text writtenParameter wellFormed_writtenParameter (by decide)
  exact ⟨req, hparse, hbody, hsome (ascii "X-Time", ascii "12:30:\r00") (by decide) _ (by decide),
    hnone _ (by decide)⟩

end RtspServer
