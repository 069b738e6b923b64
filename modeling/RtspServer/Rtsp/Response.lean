/-
  Model of `rtsp/RTSPResponse.cpp`: the response record, its text and the factories. The
  `std::map` of headers is a list in the order of its keys. `timestamp`, the date, comes from
  outside and is an argument.

  `cseqOf_options` and the lemmas after it: each factory puts the request's sequence number
  under `CSeq`, whatever else it adds.
-/
import RtspServer.Lib.Decimal

namespace RtspServer

open ByteString Decimal

/-- `headers[key] = value` in a `std::map`: entries in the order of the keys, one for each. -/
def setHeader (key value : Bytes) : List (Bytes × Bytes) → List (Bytes × Bytes)
  | [] => [(key, value)]
  | (k, v) :: rest =>
      if k = key then (key, value) :: rest
      else if key < k then (key, value) :: (k, v) :: rest
      else (k, v) :: setHeader key value rest

structure RTSPResponse where
  status : Int
  reason : Bytes
  headers : List (Bytes × Bytes)
  body : Bytes
  deriving DecidableEq

namespace RTSPResponse

/-- A default-constructed response. -/
def empty : RTSPResponse := { status := 200, reason := ascii "OK", headers := [], body := [] }

def set (r : RTSPResponse) (key : String) (value : Bytes) : RTSPResponse :=
  { r with headers := setHeader (ascii key) value r.headers }

def withBody (r : RTSPResponse) (body : Bytes) : RTSPResponse := { r with body := body }

def toString (r : RTSPResponse) : Bytes :=
  ascii "RTSP/1.0 " ++ toDec r.status ++ ascii " " ++ r.reason ++ ascii "\r\n" ++
    ascii "Server: RTSP-Server/1.0\r\n" ++
    r.headers.flatMap (fun h => h.1 ++ ascii ": " ++ h.2 ++ ascii "\r\n") ++
    (if r.body ≠ [] ∧ r.headers.lookup (ascii "Content-Length") = none then
      ascii "Content-Length: " ++ natDigits r.body.length ++ ascii "\r\n"
    else []) ++
    ascii "\r\n" ++ r.body

def options (date : Bytes) (cseq : Int) (publicMethods : Bytes) : RTSPResponse :=
  ((empty.set "CSeq" (toDec cseq)).set "Public" publicMethods).set "Date" date

def describe (date : Bytes) (cseq : Int) (sdp baseUrl : Bytes) : RTSPResponse :=
  (((((empty.set "CSeq" (toDec cseq)).set "Date" date).set "Content-Type"
    (ascii "application/sdp")).set "Content-Base" baseUrl).set "Content-Length"
    (natDigits sdp.length)).withBody sdp

def setup (date : Bytes) (cseq : Int) (sessionId transport : Bytes) : RTSPResponse :=
  (((empty.set "CSeq" (toDec cseq)).set "Transport" transport).set "Session"
    (sessionId ++ ascii ";timeout=60")).set "Date" date

def play (date : Bytes) (cseq : Int) (sessionId range rtpInfo : Bytes) : RTSPResponse :=
  let r := ((empty.set "CSeq" (toDec cseq)).set "Session" sessionId).set "Date" date
  let r := if range = [] then r else r.set "Range" range
  if rtpInfo = [] then r else r.set "RTP-Info" rtpInfo

def ok (date : Bytes) (cseq : Int) (sessionId : Bytes) : RTSPResponse :=
  let r := (empty.set "CSeq" (toDec cseq)).set "Date" date
  if sessionId = [] then r else r.set "Session" sessionId

def error (date : Bytes) (cseq statusCode : Int) (reasonPhrase : Bytes) : RTSPResponse :=
  ({ empty with status := statusCode, reason := reasonPhrase }.set "CSeq" (toDec cseq)).set
    "Date" date

/-! ## The sequence number -/

/-- The value under `CSeq`. -/
def cseqOf (r : RTSPResponse) : Option Bytes := r.headers.lookup (ascii "CSeq")

theorem lookup_setHeader (key value : Bytes) (hs : List (Bytes × Bytes)) :
    (setHeader key value hs).lookup key = some value := by
  induction hs with
  | nil => simp [setHeader]
  | cons h hs ih =>
      obtain ⟨k, v⟩ := h
      rw [setHeader]
      split
      · simp
      · next hk =>
          split
          · simp
          · rw [List.lookup_cons, beq_eq_false_iff_ne.mpr (Ne.symm hk)]
            exact ih

theorem lookup_setHeader_of_ne {key key' value : Bytes} (h : key' ≠ key)
    (hs : List (Bytes × Bytes)) : (setHeader key value hs).lookup key' = hs.lookup key' := by
  have hkey : (key' == key) = false := beq_eq_false_iff_ne.mpr h
  induction hs with
  | nil => simp [setHeader, hkey]
  | cons p hs ih =>
      obtain ⟨k, v⟩ := p
      rw [setHeader]
      split
      · next hk => subst hk; simp [List.lookup_cons, hkey]
      · split
        · simp [List.lookup_cons, hkey]
        · rw [List.lookup_cons, List.lookup_cons, ih]

theorem cseqOf_set_cseq (r : RTSPResponse) (value : Bytes) :
    (r.set "CSeq" value).cseqOf = some value := lookup_setHeader _ _ _

theorem cseqOf_set {key : String} (h : ascii "CSeq" ≠ ascii key) (r : RTSPResponse)
    (value : Bytes) : (r.set key value).cseqOf = r.cseqOf := lookup_setHeader_of_ne h _

theorem cseqOf_withBody (r : RTSPResponse) (body : Bytes) : (r.withBody body).cseqOf = r.cseqOf :=
  rfl

theorem cseqOf_options (date : Bytes) (cseq : Int) (methods : Bytes) :
    (options date cseq methods).cseqOf = some (toDec cseq) := by
  unfold options
  rw [cseqOf_set (by decide), cseqOf_set (by decide), cseqOf_set_cseq]

theorem cseqOf_describe (date : Bytes) (cseq : Int) (sdp baseUrl : Bytes) :
    (describe date cseq sdp baseUrl).cseqOf = some (toDec cseq) := by
  unfold describe
  rw [cseqOf_withBody, cseqOf_set (by decide), cseqOf_set (by decide), cseqOf_set (by decide),
    cseqOf_set (by decide), cseqOf_set_cseq]

theorem cseqOf_setup (date : Bytes) (cseq : Int) (sessionId transport : Bytes) :
    (setup date cseq sessionId transport).cseqOf = some (toDec cseq) := by
  unfold setup
  rw [cseqOf_set (by decide), cseqOf_set (by decide), cseqOf_set (by decide), cseqOf_set_cseq]

theorem cseqOf_play (date : Bytes) (cseq : Int) (sessionId range rtpInfo : Bytes) :
    (play date cseq sessionId range rtpInfo).cseqOf = some (toDec cseq) := by
  unfold play
  dsimp only
  split <;> split <;> simp only [@cseqOf_set "RTP-Info" (by decide),
    @cseqOf_set "Range" (by decide), @cseqOf_set "Date" (by decide),
    @cseqOf_set "Session" (by decide), cseqOf_set_cseq]

theorem cseqOf_ok (date : Bytes) (cseq : Int) (sessionId : Bytes) :
    (ok date cseq sessionId).cseqOf = some (toDec cseq) := by
  unfold ok
  dsimp only
  split <;> simp only [@cseqOf_set "Date" (by decide),
    @cseqOf_set "Session" (by decide), cseqOf_set_cseq]

theorem cseqOf_error (date : Bytes) (cseq statusCode : Int) (reasonPhrase : Bytes) :
    (error date cseq statusCode reasonPhrase).cseqOf = some (toDec cseq) := by
  unfold error
  rw [cseqOf_set (by decide), cseqOf_set_cseq]

end RTSPResponse

end RtspServer
