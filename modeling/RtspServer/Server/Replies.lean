/-
  What the handlers answer, and what a client reads of it.

  `replies_handleRequest`: all that a request makes a session push to `outbox_` are responses of
  the factories, and all that comes from outside into their headers is the URL of the request,
  the session id and the date. The URL of a request that was parsed is one line (`free_url`).

  `responses_read`: a client that reads the header up to the first blank line and then as many
  bytes as the Content-Length says gets back the status, the reason, the headers and the body of
  each response, and stops where the response ends.
-/
import RtspServer.Server.ClientStream
import RtspServer.Server.SessionMoves

namespace RtspServer

open ByteString Decimal StringUtils Lines Session IMediaSource

variable {M : Type}

/-! ## Requests -/

/-- A text without line breaks behind one that is `Free`. -/
theorem Free.append_plain {a t : Bytes} (ha : Free crlf a) (ht : 13 ∉ t ∧ 10 ∉ t) :
    Free crlf (a ++ t) := by
  cases t with
  | nil => rwa [List.append_nil]
  | cons d b =>
      refine Free.append ha (free_of_not_mem ht.1) fun hd => ?_
      rcases List.mem_cons.mp hd with rfl | hd
      · exact ht.1 List.mem_cons_self
      · rw [List.mem_singleton.mp hd] at ht
        exact ht.2 List.mem_cons_self

theorem plain_natDigits (n : Nat) : 13 ∉ natDigits n ∧ 10 ∉ natDigits n :=
  ⟨fun h => absurd (isDigit_natDigits h) (by decide),
    fun h => absurd (isDigit_natDigits h) (by decide)⟩

theorem trim_within (l : Bytes) : trim l <:+: l := by
  have hfront : l.dropWhile isSpace <:+ l := List.dropWhile_suffix _
  have hback : ((l.dropWhile isSpace).reverse.dropWhile isSpace).reverse <+: l.dropWhile isSpace := by
    rw [← List.reverse_suffix, List.reverse_reverse]
    exact List.dropWhile_suffix _
  exact hback.isInfix.trans hfront.isInfix

theorem split_within {l m : Bytes} {d : UInt8} (h : m ∈ split l d) : m <:+: l := by
  have key : ∀ ls : List Bytes, m ∈ ls → m <:+: [d].intercalate ls := by
    intro ls
    induction ls with
    | nil => exact fun h => nomatch h
    | cons l ls ih =>
        intro h
        cases ls with
        | nil =>
            rw [List.mem_singleton.mp h, List.intercalate_singleton]
        | cons l' zs =>
            rw [List.intercalate_cons_cons]
            rcases List.mem_cons.mp h with rfl | h
            · exact ⟨[], [d] ++ [d].intercalate (l' :: zs), by simp⟩
            · exact (ih h).trans (List.suffix_append _ _).isInfix
  rw [split] at h
  have hjoin := key _ h
  rwa [List.intercalate_splitOn] at hjoin

/-- The URL of a request that was parsed is one line. -/
theorem free_url {raw : Bytes} {req : RTSPRequest} (h : RTSPRequest.parse raw = some req) :
    Free crlf req.url := by
  unfold RTSPRequest.parse at h
  split at h
  · cases h
  · next first rest hline =>
      split at h
      · cases h
      · next method url version hreq =>
          obtain rfl := Option.some.inj h
          obtain ⟨i, hi, hpair⟩ := Option.map_eq_some_iff.mp hline
          obtain ⟨rfl, -⟩ := Prod.mk.inj hpair
          refine Free.within RTSPRequest.crlf_noOverlap (free_take hi).1 ?_
          unfold RTSPRequest.requestLine at hreq
          split at hreq
          · next method' url' version' rest' hsplit =>
              split at hreq
              · cases hreq
              · obtain ⟨-, rfl, -⟩ := Prod.mk.inj (Option.some.inj hreq)
                exact (trim_within url').trans (split_within (by rw [hsplit]; simp))
          · cases hreq

theorem free_trackUrl {url : Bytes} (h : Free crlf url) (name : String)
    (hname : 13 ∉ ascii name ∧ 10 ∉ ascii name) : Free crlf (trackUrl url name) := by
  unfold trackUrl
  split
  · exact Free.append_plain (Free.append_plain h (by decide)) hname
  · exact Free.append_plain h hname

theorem free_rtpInfoEntry {url : Bytes} (h : Free crlf url) (seq : UInt16) (rtptime : UInt32) :
    Free crlf (rtpInfoEntry url seq rtptime) := by
  have hurl : Free crlf (ascii "url=" ++ url) := h.prepend (by decide)
  unfold rtpInfoEntry
  exact Free.append_plain (Free.append_plain (Free.append_plain (Free.append_plain hurl
    (by decide)) (plain_natDigits _)) (by decide)) (plain_natDigits _)

theorem not_mem_nptRange (secs : Rat) : 13 ∉ nptRange secs := by
  have hfixed : 13 ∉ toFixed3 secs := fun h => absurd (isNumeral_toFixed3 h) (by decide)
  have hhead : 13 ∉ ascii "npt=" := by decide
  have htail : 13 ∉ ascii "-" := by decide
  simp only [nptRange, List.mem_append, not_or]
  exact ⟨⟨hhead, hfixed⟩, htail⟩

theorem not_mem_tcpTransport (c : Int × Int) : 13 ∉ tcpTransport c := by
  have hhead : 13 ∉ ascii "RTP/AVP/TCP;unicast;interleaved=" := by decide
  have hdash : 13 ∉ ascii "-" := by decide
  simp only [tcpTransport, List.mem_append, not_or]
  exact ⟨⟨⟨hhead, RTSPResponse.not_mem_toDec _⟩, hdash⟩, RTSPResponse.not_mem_toDec _⟩

theorem not_mem_udpTransport (clientPort serverPort : UInt16) :
    13 ∉ udpTransport clientPort serverPort := by
  have hhead : 13 ∉ ascii "RTP/AVP;unicast;client_port=" := by decide
  have hserver : 13 ∉ ascii ";server_port=" := by decide
  have hdash : 13 ∉ ascii "-" := by decide
  simp only [udpTransport, List.mem_append, not_or]
  exact ⟨⟨⟨⟨⟨⟨⟨hhead, (plain_natDigits _).1⟩, hdash⟩, (plain_natDigits _).1⟩, hserver⟩,
    (plain_natDigits _).1⟩, hdash⟩, (plain_natDigits _).1⟩

/-! ## What the handlers build -/

namespace RTSPResponse

/-- The responses of the handlers. `pause` is the answer to PAUSE with the position. -/
inductive Built (date : Bytes) : RTSPResponse → Prop where
  | options (cseq : Int) {methods : Bytes} (h : 13 ∉ methods) :
      Built date (options date cseq methods)
  | describe (cseq : Int) (sdp : Bytes) {baseUrl : Bytes} (h : Free crlf baseUrl) :
      Built date (describe date cseq sdp baseUrl)
  | setup (cseq : Int) {id transport : Bytes} (hid : 13 ∉ id) (h : 13 ∉ transport) :
      Built date (setup date cseq id transport)
  | play (cseq : Int) {id range info : Bytes} (hid : 13 ∉ id) (hrange : 13 ∉ range)
      (hinfo : Free crlf info) : Built date (play date cseq id range info)
  | ok (cseq : Int) {id : Bytes} (hid : 13 ∉ id) : Built date (ok date cseq id)
  | pause (cseq : Int) {id range : Bytes} (hid : 13 ∉ id) (hrange : 13 ∉ range) :
      Built date ((ok date cseq id).set "Range" range)
  | error (cseq status : Int) {reason : Bytes} (h : 13 ∉ reason) :
      Built date (error date cseq status reason)

theorem Built.legible {date : Bytes} {r : RTSPResponse} (h : Built date r) (hdate : 13 ∉ date) :
    r.Legible := by
  have hdate : Free crlf date := free_of_not_mem hdate
  cases h with
  | options cseq h => exact legible_options hdate cseq (free_of_not_mem h)
  | describe cseq sdp h => exact legible_describe hdate cseq sdp h
  | setup cseq hid h => exact legible_setup hdate cseq hid (free_of_not_mem h)
  | play cseq hid hrange hinfo => exact legible_play hdate cseq hid (free_of_not_mem hrange) hinfo
  | ok cseq hid => exact legible_ok hdate cseq hid
  | pause cseq hid hrange =>
      exact Announces.set (legible_ok hdate cseq hid) (by decide) (free_of_not_mem hrange)
  | error cseq status h => exact legible_error hdate cseq status (free_of_not_mem h)

/-- `toString` adds no header to them: the only one with a body has its length. -/
theorem Built.addedLength {date : Bytes} {r : RTSPResponse} (h : Built date r) :
    r.addedLength = [] := by
  have hempty : ∀ r : RTSPResponse, r.body = [] → r.addedLength = [] :=
    fun r hr => if_neg fun h => h.1 hr
  cases h with
  | @describe cseq sdp baseUrl h =>
      have hlength : (RTSPResponse.describe date cseq sdp baseUrl).headers.lookup
          (ascii "Content-Length") = some (natDigits sdp.length) := lookup_setHeader _ _ _
      refine if_neg fun hadd => ?_
      rw [hlength] at hadd
      cases hadd.2
  | play =>
      refine hempty _ ?_
      unfold RTSPResponse.play
      dsimp only
      split <;> split <;> rfl
  | ok =>
      refine hempty _ ?_
      unfold RTSPResponse.ok
      dsimp only
      split <;> rfl
  | pause =>
      refine hempty _ ?_
      unfold RTSPResponse.ok
      dsimp only
      split <;> rfl
  | options => exact hempty _ rfl
  | setup => exact hempty _ rfl
  | error => exact hempty _ rfl

end RTSPResponse

/-- The session answers what its handlers build, and repositions the source. -/
structure Replies (env : Env M) (s s' : Session M) : Prop where
  sessionId : s'.sessionId = s.sessionId
  log : ∃ l, s'.log = s.log ++ l ∧
    ∀ e ∈ l, e = .sought ∨ ∃ resp, e = .response resp ∧ RTSPResponse.Built env.timestamp resp

theorem Replies.of_same {env : Env M} {s s' : Session M} (hid : s'.sessionId = s.sessionId)
    (hlog : s'.log = s.log) : Replies env s s' :=
  ⟨hid, [], by rw [hlog, List.append_nil], fun _ he => nomatch he⟩

theorem Replies.trans {env : Env M} {s t u : Session M} (h : Replies env s t)
    (h' : Replies env t u) : Replies env s u := by
  obtain ⟨l, hl, hok⟩ := h.log
  obtain ⟨l', hl', hok'⟩ := h'.log
  exact ⟨h'.sessionId.trans h.sessionId, l ++ l', by rw [hl', hl, List.append_assoc],
    List.forall_mem_append.mpr ⟨hok, hok'⟩⟩

theorem Replies.respond {env : Env M} {s s' : Session M} (h : Replies env s s')
    {resp : RTSPResponse} (hresp : RTSPResponse.Built env.timestamp resp) :
    Replies env s (s'.sendResponse resp) :=
  h.trans ⟨rfl, [.response resp], rfl, fun _ he => .inr ⟨resp, List.mem_singleton.mp he, hresp⟩⟩

section

variable {env : Env M} {req : RTSPRequest}

theorem Replies.sendError {s s' : Session M} (h : Replies env s s') (cseq code : Int)
    {reason : String} (hreason : 13 ∉ ascii reason) :
    Replies env s (s'.sendError env cseq code reason) :=
  h.respond (.error cseq code hreason)

theorem replies_openMedia (url : Bytes) (cseq : Int) (s : Session M) :
    Replies env s (openMedia env url cseq s).2 := by
  have hrefl : Replies env s s := .of_same rfl rfl
  unfold openMedia
  dsimp only
  repeat' split
  · exact hrefl.sendError cseq 404 (by decide)
  · exact hrefl.sendError cseq 403 (by decide)
  · exact hrefl.sendError cseq 404 (by decide)
  · exact (hrefl.sendError cseq 415 (by decide)).trans (.of_same rfl rfl)
  · exact .of_same rfl rfl

theorem replies_setupDone {s : Session M} (hid : 13 ∉ s.sessionId) (track : Track)
    {transport : Bytes} (htransport : 13 ∉ transport) :
    Replies env s (s.setupDone env req track transport) := by
  have hvideo : Replies env s (if track = .video then { s with state := .ready } else s) := by
    split <;> exact .of_same rfl rfl
  refine hvideo.respond (.setup req.cseq ?_ htransport)
  rw [hvideo.sessionId]
  exact hid

theorem replies_setupTcp (hdr : Bytes) (track : Track) {s : Session M} (hid : 13 ∉ s.sessionId) :
    Replies env s (sessionOf (setupTcp env req hdr track s)) := by
  have hset : ∀ c, Replies env s ({ s with useTcp := true }.setChannels track c) := by
    intro c
    cases track <;> exact .of_same rfl rfl
  have hready : ∀ s' : Session M, Replies env s' (s'.setReady track) := by
    intro s'
    cases track <;> exact .of_same rfl rfl
  unfold setupTcp
  dsimp only
  split
  · exact hset _
  · next c _ =>
      have h := (hset c).trans (hready _)
      refine h.trans (replies_setupDone ?_ track (not_mem_tcpTransport c))
      rw [h.sessionId]
      exact hid

theorem replies_setupUdp (hdr : Bytes) (track : Track) {s : Session M} (hid : 13 ∉ s.sessionId) :
    Replies env s (sessionOf (setupUdp env req hdr track s)) := by
  have hudp : Replies env s { s with useTcp := false } := .of_same rfl rfl
  have hset : ∀ sender, Replies env s ({ s with useTcp := false }.setSender track sender) := by
    intro sender
    cases track <;> exact .of_same rfl rfl
  have hready : ∀ s' : Session M, Replies env s' (s'.setReady track) := by
    intro s'
    cases track <;> exact .of_same rfl rfl
  unfold setupUdp
  dsimp only
  repeat' split
  · exact hudp.sendError req.cseq 461 (by decide)
  · exact hudp
  · exact (hset _).sendError req.cseq 500 (by decide)
  · have h : ∀ sender, Replies env s
        (({ s with useTcp := false }.setSender track sender).setReady track) := fun sender
      => (hset sender).trans (hready _)
    refine (h _).trans (replies_setupDone ?_ track (not_mem_udpTransport _ _))
    rw [(h _).sessionId]
    exact hid

theorem replies_playDone {s : Session M} (hid : 13 ∉ s.sessionId) {range info : Bytes}
    (hrange : 13 ∉ range) (hinfo : Free crlf info) :
    Replies env s (s.playDone env req range info) := by
  have hplaying : Replies env s { s with state := .playing } := .of_same rfl rfl
  exact hplaying.respond (.play req.cseq hid hrange hinfo)

theorem replies_handlePause {s : Session M} (hid : 13 ∉ s.sessionId) :
    Replies env s (s.handlePause env req) := by
  have hrefl : Replies env s s := .of_same rfl rfl
  unfold handlePause
  dsimp only
  split
  · exact hrefl.sendError req.cseq 455 (by decide)
  · have hpaused : Replies env s { s with pauseStart := env.now, state := .paused } := .of_same rfl rfl
    refine hpaused.respond ?_
    split
    · exact .pause req.cseq hid (not_mem_nptRange _)
    · exact .ok req.cseq hid

variable [IMediaSource M]

theorem replies_handleDescribe (hurl : Free crlf req.url) (s : Session M) :
    Replies env s (s.handleDescribe env req) := by
  have hnone : Replies env s { s with mediaSource := none } := .of_same rfl rfl
  have hopen := hnone.trans (replies_openMedia req.url req.cseq { s with mediaSource := none })
  unfold handleDescribe
  split
  · next hres => rw [hres] at hopen; exact hopen
  · next hres =>
      rw [hres] at hopen
      split
      · exact hopen
      · refine Replies.respond ?_
          (.describe req.cseq _ (Free.append_plain hurl (by decide)))
        exact hopen.trans (.of_same rfl rfl)

theorem replies_seekAndReset (secs : Rat) (adjust : Bool) (s : Session M) :
    Replies env s (s.seekAndReset secs adjust) := by
  rcases seekAndReset_eq secs adjust s with ⟨-, heq⟩ | ⟨source, -, heq⟩
  · rw [heq]
    exact .of_same rfl rfl
  · rw [heq]
    exact ⟨rfl, [.sought], rfl, fun e he => .inl (List.mem_singleton.mp he)⟩

theorem free_rtpInfo (hurl : Free crlf req.url) (s : Session M) :
    Free crlf (s.rtpInfo req.url).1 := by
  have hentry : ∀ name, 13 ∉ ascii name ∧ 10 ∉ ascii name → ∀ seq rtptime,
      Free crlf (rtpInfoEntry (trackUrl req.url name) seq rtptime) :=
    fun name hname => free_rtpInfoEntry (free_trackUrl hurl name hname)
  unfold rtpInfo
  split
  · exact hentry _ (by decide) _ _
  · dsimp only
    split
    · refine Free.append (hentry _ (by decide) _ _) ?_ (show 44 ∉ crlf by decide)
      exact Free.prepend (hentry _ (by decide) _ _) (show 13 ∉ [44] by decide)
    · rw [List.append_nil]
      exact hentry _ (by decide) _ _

theorem replies_handlePlay (hurl : Free crlf req.url) {s : Session M} (hid : 13 ∉ s.sessionId) :
    Replies env s (s.handlePlay env req) := by
  have hrefl : Replies env s s := .of_same rfl rfl
  have hrange := not_mem_nptRange
  have hnone : Free crlf [] := free_of_not_mem (fun h => nomatch h)
  have hdone : ∀ {t : Session M} {range info : Bytes}, Replies env s t → 13 ∉ range →
      Free crlf info → Replies env s (t.playDone env req range info) := by
    intro t range info ht hr hi
    refine ht.trans (replies_playDone ?_ hr hi)
    rw [ht.sessionId]
    exact hid
  unfold handlePlay
  dsimp only
  repeat' split
  · exact hrefl.sendError req.cseq 455 (by decide)
  · refine hdone ?_ (hrange _) hnone
    unfold resumePlay
    split <;> exact .of_same rfl rfl
  · exact hdone (replies_seekAndReset _ _ s) (hrange _) hnone
  · refine hdone ?_ ?_ (free_rtpInfo hurl _)
    · rw [rtpInfo_eq]
      exact (replies_seekAndReset _ _ s).trans (.of_same rfl rfl)
    · cases (parseRange env (req.header (ascii "range"))).1 with
      | none =>
          have hstart : 13 ∉ ascii "npt=0.000-" := by decide
          exact hstart
      | some secs => exact hrange secs

/-- Every request is answered with what the handlers build. -/
theorem replies_handleRequest (hurl : Free crlf req.url) {s : Session M} (hid : 13 ∉ s.sessionId) :
    Replies env s (sessionOf (s.handleRequest env req)) := by
  have hrefl : Replies env s s := .of_same rfl rfl
  unfold handleRequest
  split
  · exact hrefl.respond (.options req.cseq (by decide))
  split
  · exact replies_handleDescribe hurl s
  split
  · unfold handleSetup
    dsimp only
    repeat' split
    · exact hrefl.sendError req.cseq 455 (by decide)
    · exact hrefl.sendError req.cseq 400 (by decide)
    · exact replies_setupTcp _ _ hid
    · exact replies_setupUdp _ _ hid
  split
  · exact replies_handlePlay hurl hid
  split
  · exact replies_handlePause hid
  split
  · have hinit : Replies env s { s with state := .init } := .of_same rfl rfl
    exact (hinit.respond (.ok req.cseq hid)).trans (.of_same rfl rfl)
  · exact hrefl.sendError req.cseq 501 (by decide)

end

/-! ## Reading a response -/

namespace RTSPResponse

/-- A decimal number with or without a minus sign. -/
def readDec : Bytes → Option Int
  | 45 :: ds => if IsDecimal ds then some (-digitsVal ds) else none
  | ds => if IsDecimal ds then some (digitsVal ds) else none

/-- Version, status and reason, each behind a space. -/
def readStatus (line : Bytes) : Option (Int × Bytes) :=
  (indexOf (ascii " ") line).bind fun i =>
    let rest := line.drop (i + 1)
    (indexOf (ascii " ") rest).bind fun j =>
      (readDec (rest.take j)).map fun status => (status, rest.drop (j + 1))

/-- The name and the value of a header. -/
def readHeader (line : Bytes) : Option (Bytes × Bytes) :=
  (indexOf (ascii ": ") line).map fun i => (line.take i, line.drop (i + 2))

def readHeaders : List Bytes → Option (List (Bytes × Bytes))
  | [] => some []
  | line :: lines => (readHeader line).bind fun h => (readHeaders lines).map (h :: ·)

/-- The response at the start of the bytes, and what follows it: the header block up to the first
    blank line, then as many bytes as its Content-Length says. -/
def read (bytes : Bytes) : Option (RTSPResponse × Bytes) :=
  (Framer.headerSize bytes).bind fun n =>
    (nextLine crlf bytes).bind fun first =>
      (readStatus first.1).bind fun status =>
        (readHeaders (Framer.headerLines bytes)).bind fun headers =>
          let len := contentLength (Framer.headerLines bytes)
          if n + len ≤ bytes.length then
            some ({ status := status.1
                    reason := status.2
                    headers := headers
                    body := (bytes.drop n).take len }, bytes.drop (n + len))
          else none

/-- The Server header that `toString` writes. -/
def serverHeader : Bytes × Bytes := (ascii "Server", ascii "RTSP-Server/1.0")

theorem readDec_toDec (n : Int) : readDec (toDec n) = some n := by
  cases n with
  | ofNat n =>
      have hdec := isDecimal_natDigits n
      have hplain : ∀ ds : Bytes, IsDecimal ds → readDec ds = some (digitsVal ds) := by
        intro ds hds
        unfold readDec
        split
        · exact absurd (hds.2 45 List.mem_cons_self) (by decide)
        · exact if_pos hds
      rw [toDec, hplain _ hdec, digitsVal_natDigits]
      rfl
  | negSucc n =>
      rw [toDec, readDec, if_pos (isDecimal_natDigits _), digitsVal_natDigits]
      rfl

theorem readStatus_first (r : RTSPResponse) :
    readStatus (ascii "RTSP/1.0 " ++ toDec r.status ++ ascii " " ++ r.reason) =
      some (r.status, r.reason) := by
  have hfree : Free (ascii " ") (ascii "RTSP/1.0") := by decide
  have hstatus : Free (ascii " ") (toDec r.status) :=
    free_of_not_mem fun h => absurd (isNumeral_toDec h) (by decide)
  have hline : ascii "RTSP/1.0 " ++ toDec r.status ++ ascii " " ++ r.reason =
      ascii "RTSP/1.0" ++ (ascii " " ++ (toDec r.status ++ (ascii " " ++ r.reason))) := by
    rw [show ascii "RTSP/1.0 " = ascii "RTSP/1.0" ++ ascii " " by decide]
    simp only [List.append_assoc]
  have hrest : (ascii "RTSP/1.0" ++ (ascii " " ++ (toDec r.status ++ (ascii " " ++ r.reason)))).drop
      ((ascii "RTSP/1.0").length + 1) = toDec r.status ++ (ascii " " ++ r.reason) := by
    rw [← List.append_assoc]
    exact List.drop_left' (by rw [List.length_append]; rfl)
  rw [readStatus, hline, hfree.indexOf_eq, Option.bind_some]
  dsimp only
  rw [hrest, hstatus.indexOf_eq, Option.bind_some, List.take_left, readDec_toDec, Option.map_some,
    ← List.append_assoc, ← List.drop_drop]
  simp [show ascii " " = [32] by decide]

theorem readHeader_headerLine {h : Bytes × Bytes} (hname : h.1 ∈ headerNames) :
    readHeader (headerLine h) = some h := by
  have hfree : ∀ k ∈ headerNames, Free (ascii ": ") k := by decide +kernel
  have hfind : indexOf (ascii ": ") (headerLine h) = some h.1.length := by
    rw [headerLine, List.append_assoc]
    exact (hfree h.1 hname).indexOf_eq h.2
  have hdrop : (headerLine h).drop (h.1.length + 2) = h.2 :=
    List.drop_left' (by rw [List.length_append]; rfl)
  rw [readHeader, hfind, Option.map_some, hdrop, headerLine, List.append_assoc, List.take_left]

theorem readHeaders_headers {headers : List (Bytes × Bytes)}
    (h : ∀ p ∈ headers, p.1 ∈ headerNames) :
    readHeaders (headers.map headerLine) = some headers := by
  induction headers with
  | nil => rfl
  | cons p headers ih =>
      rw [List.map_cons, readHeaders, readHeader_headerLine (h p List.mem_cons_self),
        Option.bind_some, ih fun q hq => h q (List.mem_cons_of_mem _ hq)]
      rfl

/-- Reading undoes `toString`, whatever follows it. -/
theorem read_toString {r : RTSPResponse} (h : r.Legible) (hadded : r.addedLength = [])
    (rest : Bytes) :
    read (r.toString ++ rest) = some ({ r with headers := serverHeader :: r.headers }, rest) := by
  have htext : r.toString ++ rest = (r.block h).text ++ (r.body ++ rest) := by
    rw [toString_eq r h, List.append_assoc]
  have hfirst : nextLine crlf ((r.block h).text ++ (r.body ++ rest)) =
      some ((r.block h).first, joinLines crlf (r.block h).lines ++ (crlf ++ (r.body ++ rest))) := by
    have hblock : (r.block h).text ++ (r.body ++ rest) = (r.block h).first ++
        (crlf ++ (joinLines crlf (r.block h).lines ++ (crlf ++ (r.body ++ rest)))) := by
      simp only [Block.text, List.append_assoc]
    rw [hblock, nextLine_of_free (r.block h).first_free]
  have hstatus : readStatus (r.block h).first = some (r.status, r.reason) := readStatus_first r
  have hserver : readHeader (ascii "Server: RTSP-Server/1.0") = some serverHeader := by
    decide +kernel
  have hheaders : readHeaders (r.block h).lines = some (serverHeader :: r.headers) := by
    change readHeaders (_ :: (r.headers.map headerLine ++ r.addedLength)) = _
    rw [hadded, List.append_nil, readHeaders, hserver, Option.bind_some,
      readHeaders_headers fun p hp => (h.headers p hp).name]
    rfl
  have hfits : (r.block h).text.length + r.body.length ≤
      ((r.block h).text ++ (r.body ++ rest)).length := by
    simp only [List.length_append]
    omega
  rw [read, htext, Framer.headerSize_block, Option.bind_some, hfirst, Option.bind_some]
  dsimp only
  rw [hstatus, Option.bind_some, Framer.headerLines_block, hheaders, Option.bind_some,
    contentLength_block]
  dsimp only
  rw [if_pos hfits, ← List.drop_drop, List.drop_left, List.take_left, List.drop_left]

/-- What the handlers build is read back, and nothing of what follows is taken for it. -/
theorem Built.read_toString {date : Bytes} {r : RTSPResponse} (h : Built date r)
    (hdate : 13 ∉ date) (rest : Bytes) :
    read (r.toString ++ rest) = some ({ r with headers := serverHeader :: r.headers }, rest) :=
  RTSPResponse.read_toString (h.legible hdate) h.addedLength rest

end RTSPResponse

/-- **No request can split a response or shift its end.** For every request that was parsed,
    each response that the session pushes is read back with its status, its reason, the Server
    header and its own ones, and its body, and what follows it is left over; so is a description
    of any bytes under the URL of the request. -/
theorem responses_read [IMediaSource M] (env : Env M) {raw : Bytes} {req : RTSPRequest}
    (s : Session M) (hreq : RTSPRequest.parse raw = some req) (hid : IsDecimal s.sessionId)
    (hdate : 13 ∉ env.timestamp) :
    (∃ l, (sessionOf (s.handleRequest env req)).log = s.log ++ l ∧
      ∀ resp, .response resp ∈ l → ∀ rest, RTSPResponse.read (resp.toString ++ rest) =
        some ({ resp with headers := RTSPResponse.serverHeader :: resp.headers }, rest)) ∧
      ∀ sdp rest, RTSPResponse.read ((RTSPResponse.describe env.timestamp req.cseq sdp
        (req.url ++ ascii "/")).toString ++ rest) =
          some ({ RTSPResponse.describe env.timestamp req.cseq sdp (req.url ++ ascii "/") with
            headers := RTSPResponse.serverHeader :: (RTSPResponse.describe env.timestamp req.cseq
              sdp (req.url ++ ascii "/")).headers }, rest) := by
  have hurl : Free crlf req.url := free_url hreq
  have hid : 13 ∉ s.sessionId := fun h => absurd (hid.2 13 h) (by decide)
  refine ⟨?_, fun sdp rest => ?_⟩
  · have hreplies : Replies env s (sessionOf (s.handleRequest env req)) :=
      replies_handleRequest hurl hid
    obtain ⟨l, hlog, hl⟩ := hreplies.log
    refine ⟨l, hlog, fun resp hresp rest => ?_⟩
    rcases hl _ hresp with heq | ⟨resp', heq, hbuilt⟩
    · cases heq
    · cases heq
      exact hbuilt.read_toString hdate rest
  · exact (RTSPResponse.Built.describe req.cseq sdp
      (Free.append_plain hurl (by decide))).read_toString hdate rest

/-- A URL with a line feed and a colon in it. -/
theorem responses_read_lineFeed :
    ∃ req, RTSPRequest.parse (ascii "DESCRIBE rtsp://h/a\nX:1 RTSP/1.0\r\nCSeq: 1\r\n\r\n") =
        some req ∧
      ∀ sdp rest, RTSPResponse.read ((RTSPResponse.describe oneFile.timestamp req.cseq sdp
        (req.url ++ ascii "/")).toString ++ rest) =
          some ({ RTSPResponse.describe oneFile.timestamp req.cseq sdp (req.url ++ ascii "/") with
            headers := RTSPResponse.serverHeader :: (RTSPResponse.describe oneFile.timestamp
              req.cseq sdp (req.url ++ ascii "/")).headers }, rest) := by
  have hparse : (RTSPRequest.parse
      (ascii "DESCRIBE rtsp://h/a\nX:1 RTSP/1.0\r\nCSeq: 1\r\n\r\n")).isSome = true := by
    decide +kernel
  obtain ⟨req, hreq⟩ := Option.isSome_iff_exists.mp hparse
  exact ⟨req, hreq, (responses_read oneFile client hreq (by decide +kernel)
    (by decide +kernel)).2⟩

end RtspServer
