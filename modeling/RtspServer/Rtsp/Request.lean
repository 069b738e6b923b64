/-
  Model of `rtsp/RTSPRequest.cpp`: the request record, `parse`, the header look-up and `cseq`.

  The parser walks the text with a position `pos`; here the text left to read, `raw.drop pos`,
  is passed along instead, and `pos` is `raw.length` minus its length. The header loop takes a
  fuel argument so that it computes; it reads at least two bytes in every round, so the
  length of the text is enough.

  `parse_block`: on a text that starts with a whole header block (first line, non-empty lines,
  blank line) the parser sees exactly the lines of the block and leaves what is behind it
  for the body.
-/
import RtspServer.Utils.StringUtils
import RtspServer.Lib.Lines
import Mathlib.Data.List.AList

namespace RtspServer

open ByteString Decimal StringUtils

/-- `std::unordered_map<std::string, std::string>`: at most one value under each key. -/
abbrev HeaderMap := AList (fun _ : Bytes => Bytes)

instance : DecidableEq HeaderMap := fun a b =>
  decidable_of_iff (a.entries = b.entries) AList.ext_iff.symm

structure RTSPRequest where
  method : Bytes
  url : Bytes
  version : Bytes
  headers : HeaderMap
  body : Bytes
  deriving DecidableEq

namespace RTSPRequest

/-- `nextLine`: the line up to the next CRLF and the text after it. -/
def nextLine (rest : Bytes) : Option (Bytes × Bytes) := Lines.nextLine crlf rest

/-- `req.headers[name] = value` for a line with a colon; a line without one is skipped. -/
def addHeader (headers : HeaderMap) (line : Bytes) : HeaderMap :=
  match find line (ascii ":") 0 with
  | none => headers
  | some colon =>
      headers.insert (toLower (trim (line.take colon))) (trim (line.drop (colon + 1)))

/-- The header loop: lines up to the blank one or the end of the text. -/
def parseHeaders : Nat → Bytes → HeaderMap → HeaderMap × Bytes
  | 0, rest, headers => (headers, rest)
  | fuel + 1, rest, headers =>
      match nextLine rest with
      | none => (headers, rest)
      | some (line, rest') =>
          if line = [] then (headers, rest')
          else parseHeaders fuel rest' (addHeader headers line)

/-- The body: `rest` is the text from `pos` on, `size` is `raw.size()`. The comparison
    `pos + body_len <= raw.size()` is made in `size_t`. -/
def readBody (size : Nat) (rest : Bytes) (headers : HeaderMap) : Bytes :=
  match headers.lookup (ascii "content-length") with
  | none => []
  | some v =>
      match stoul v with
      | none => []
      | some bodyLen =>
          if (size - rest.length + bodyLen) % 2 ^ 64 ≤ size then rest.take bodyLen else []

/-- The request line: method, URL and version, `none` where `parse` returns `nullopt`. -/
def requestLine (first : Bytes) : Option (Bytes × Bytes × Bytes) :=
  match split first ' '.toUInt8 with
  | method :: url :: version :: _ =>
      if find (trim version) (ascii "RTSP/") 0 ≠ some 0 then none
      else some (trim method, trim url, trim version)
  | _ => none

def parse (raw : Bytes) : Option RTSPRequest :=
  match nextLine raw with
  | none => none
  | some (first, rest) =>
      match requestLine first with
      | none => none
      | some (method, url, version) =>
          let (headers, rest) := parseHeaders rest.length rest ∅
          some { method := method
                 url := url
                 version := version
                 headers := headers
                 body := readBody raw.length rest headers }

def header (req : RTSPRequest) (name : Bytes) : Bytes :=
  (req.headers.lookup (toLower name)).getD []

def cseq (req : RTSPRequest) : Int :=
  let val := req.header (ascii "cseq")
  if val = [] then -1 else (stoi val).getD (-1)

/-! ## Parsing a header block -/

theorem crlf_noOverlap : Lines.NoOverlap crlf := by
  refine ⟨by decide, fun j h0 h2 t => ?_⟩
  obtain rfl : j = 1 := by simp only [crlf, List.length_cons, List.length_nil] at h2; omega
  simp [crlf]

/-- The header loop reads the lines up to the blank one and enters them one by one. -/
theorem parseHeaders_eq (fuel : Nat) (rest : Bytes) (headers : HeaderMap) :
    parseHeaders fuel rest headers =
      ((Lines.linesUntilBlank crlf fuel rest).1.foldl addHeader headers,
        (Lines.linesUntilBlank crlf fuel rest).2) := by
  induction fuel generalizing rest headers with
  | zero => rfl
  | succ fuel ih =>
      rw [parseHeaders, Lines.linesUntilBlank, nextLine]
      cases Lines.nextLine crlf rest with
      | none => rfl
      | some p =>
          obtain ⟨line, rest'⟩ := p
          dsimp only
          split
          · rfl
          · rw [ih]; rfl

/-- `parse` of a whole header block followed by `body`. -/
theorem parse_block (b : Lines.Block crlf) (body : Bytes) :
    parse (b.text ++ body) =
      (requestLine b.first).map fun l =>
        { method := l.1
          url := l.2.1
          version := l.2.2
          headers := b.lines.foldl addHeader ∅
          body := readBody (b.text ++ body).length body (b.lines.foldl addHeader ∅) } := by
  obtain ⟨tail, hfirst, hlines⟩ := b.read_lines crlf_noOverlap body
  rw [parse, nextLine, hfirst]
  dsimp only
  cases requestLine b.first with
  | none => rfl
  | some l =>
      obtain ⟨method, url, version⟩ := l
      simp only [parseHeaders_eq, hlines, Option.map_some]

end RTSPRequest

end RtspServer
