/-
  What a client reads in the text of `SDPBuilder::build`. The reader takes the text apart line by
  line, without a look at the builder: sections at the `m=` lines, attributes by their names,
  format parameters between semicolons; then base64, hex and decimal numbers.

  `readDescription_build`: it reads what the text was made of.
-/
import RtspServer.Lib.Base64
import RtspServer.Lib.Hex
import RtspServer.Rtsp.Request
import RtspServer.Sdp.SDPBuilder

namespace RtspServer

open ByteString Decimal StringUtils Lines

/-! ## base64Encode -/

namespace StringUtils

/-- A byte in front of the last `k` bits. -/
theorem or_low (a : Nat) {b k : Nat} (h : b < 2 ^ k) : a * 2 ^ k ||| b = a * 2 ^ k + b := by
  rw [← Nat.shiftLeft_eq, Nat.shiftLeft_add_eq_or_of_lt h]

/-- Three bytes in one word. -/
theorem word_toNat (x y z : UInt8) :
    (x.toUInt32 <<< 16 ||| y.toUInt32 <<< 8 ||| z.toUInt32).toNat =
      x.toNat * 65536 + y.toNat * 256 + z.toNat := by
  have hx := x.toNat_lt
  have hy := y.toNat_lt
  have hz := z.toNat_lt
  have hhigh : (x.toUInt32 <<< 16).toNat = x.toNat * 2 ^ 16 := by
    have hlt : x.toNat * 2 ^ 16 < 2 ^ 32 := by omega
    rw [UInt32.toNat_shiftLeft, UInt8.toNat_toUInt32, Nat.shiftLeft_eq]
    exact Nat.mod_eq_of_lt hlt
  have hmiddle : (y.toUInt32 <<< 8).toNat = y.toNat * 2 ^ 8 := by
    have hlt : y.toNat * 2 ^ 8 < 2 ^ 32 := by omega
    rw [UInt32.toNat_shiftLeft, UInt8.toNat_toUInt32, Nat.shiftLeft_eq]
    exact Nat.mod_eq_of_lt hlt
  rw [UInt32.toNat_or, UInt32.toNat_or, hhigh, hmiddle, UInt8.toNat_toUInt32, or_low _ (by omega),
    show x.toNat * 2 ^ 16 + y.toNat * 2 ^ 8 = (x.toNat * 2 ^ 8 + y.toNat) * 2 ^ 8 by omega,
    or_low _ (by omega)]
  omega

theorem b64Char_eq (b k : UInt32) (hk : k.toNat < 32) :
    b64Char b k = Base64.sextet (b.toNat / 2 ^ k.toNat % 64) := by
  have h : ((b >>> k) &&& 0x3F).toNat = b.toNat / 2 ^ k.toNat % 64 := by
    rw [UInt32.toNat_and, UInt32.toNat_shiftRight, Nat.mod_eq_of_lt hk, Nat.shiftRight_eq_div_pow]
    exact Nat.and_two_pow_sub_one_eq_mod _ 6
  rw [b64Char, h]
  rfl

/-- The four characters of a word of three bytes. -/
theorem b64_group (x y z : UInt8) :
    let b := x.toUInt32 <<< 16 ||| y.toUInt32 <<< 8 ||| z.toUInt32
    b64Char b 18 = Base64.sextet (x.toNat / 4) ∧
      b64Char b 12 = Base64.sextet (x.toNat % 4 * 16 + y.toNat / 16) ∧
      b64Char b 6 = Base64.sextet (y.toNat % 16 * 4 + z.toNat / 64) ∧
      b64Char b 0 = Base64.sextet (z.toNat % 64) := by
  have hx := x.toNat_lt
  have hy := y.toNat_lt
  have hz := z.toNat_lt
  intro b
  have hb : b.toNat = x.toNat * 65536 + y.toNat * 256 + z.toNat := word_toNat x y z
  refine ⟨?_, ?_, ?_, ?_⟩
  · rw [b64Char_eq b 18 (by decide), hb]
    congr 1
    simp only [UInt32.reduceToNat]
    omega
  · rw [b64Char_eq b 12 (by decide), hb]
    congr 1
    simp only [UInt32.reduceToNat]
    omega
  · rw [b64Char_eq b 6 (by decide), hb]
    congr 1
    simp only [UInt32.reduceToNat]
    omega
  · rw [b64Char_eq b 0 (by decide), hb]
    congr 1
    simp only [UInt32.reduceToNat]
    omega

theorem base64Encode_eq (s : Bytes) : base64Encode s = Base64.encode s := by
  match s with
  | [] => rfl
  | [x] =>
      obtain ⟨h18, h12, -, -⟩ := b64_group x 0 0
      have hzero : x.toUInt32 <<< 16 ||| (0 : UInt8).toUInt32 <<< 8 ||| (0 : UInt8).toUInt32 =
          x.toUInt32 <<< 16 := by
        rw [show (0 : UInt8).toUInt32 <<< 8 = 0 from rfl, show (0 : UInt8).toUInt32 = 0 from rfl,
          UInt32.or_zero, UInt32.or_zero]
      rw [hzero] at h18 h12
      rw [base64Encode, Base64.encode, h18, h12]
      rfl
  | [x, y] =>
      obtain ⟨h18, h12, h6, -⟩ := b64_group x y 0
      rw [show (0 : UInt8).toUInt32 = 0 from rfl, UInt32.or_zero] at h18 h12 h6
      rw [base64Encode, Base64.encode, h18, h12, h6]
      rfl
  | x :: y :: z :: s =>
      obtain ⟨h18, h12, h6, h0⟩ := b64_group x y z
      rw [base64Encode, Base64.encode, base64Encode_eq s, h18, h12, h6, h0]

end StringUtils

namespace SDPReader

/-! ## The reader -/

/-- A decimal number with an optional minus sign, and nothing else. -/
def readInt : Bytes → Option Int
  | [] => none
  | c :: s =>
      if c = 45 then if IsDecimal s then some (-(digitsVal s : Int)) else none
      else if IsDecimal (c :: s) then some (digitsVal (c :: s)) else none

/-- Numbers between separators. -/
def readInts (sep : UInt8) (s : Bytes) : Option (List Int) := (s.splitOn sep).mapM readInt

/-- What follows the key in the first line that starts with it. -/
def field (key : Bytes) (lines : List Bytes) : Option Bytes :=
  (lines.find? fun l => decide (key <+: l)).map (·.drop key.length)

/-- A payload type, a space, and what is said of it. -/
def readType (s : Bytes) : Option (Int × Bytes) :=
  (readInt (s.takeWhile (· ≠ 32))).map fun pt => (pt, (s.dropWhile (· ≠ 32)).drop 1)

def startsMedia (l : Bytes) : Bool := decide (ascii "m=" <+: l)

/-- The media sections of a description, each from its `m=` line on. -/
def mediaSections : List Bytes → List (List Bytes)
  | [] => []
  | l :: ls =>
      if startsMedia l then (l :: ls.takeWhile (fun m => !startsMedia m)) :: mediaSections ls
      else mediaSections ls

structure VideoText where
  payloadType : Int
  /-- the payload type in the `rtpmap`, the `fmtp` and the `framesize` line -/
  mapType : Int
  formatType : Int
  sizeType : Int
  sps : Bytes
  pps : Bytes
  profileLevelId : Bytes
  /-- `0,0,height,width` -/
  cliprect : List Int
  /-- `width-height` -/
  framesize : List Int
  deriving DecidableEq

structure AudioText where
  payloadType : Int
  mapType : Int
  formatType : Int
  /-- sample rate and channels -/
  rates : List Int
  mode : Bytes
  sizeLength : Int
  indexLength : Int
  indexDeltaLength : Int
  config : Option Bytes
  deriving DecidableEq

structure Description where
  streamName : Bytes
  control : Bytes
  video : VideoText
  audio : Option AudioText
  deriving DecidableEq

/-- The parameters of a format. -/
def readParams (format : Bytes) : List Bytes := format.splitOn 59

/-- Two base64 texts with a comma between them. -/
def readSets (s : Bytes) : Option (Bytes × Bytes) :=
  match s.splitOn 44 with
  | [a, b] =>
      match Base64.decode a, Base64.decode b with
      | some sps, some pps => some (sps, pps)
      | _, _ => none
  | _ => none

def readVideo (ls : List Bytes) : Option VideoText := do
  let pt ← (field (ascii "m=video 0 RTP/AVP ") ls).bind readInt
  let (mapType, codec) ← (field (ascii "a=rtpmap:") ls).bind readType
  if codec ≠ ascii "H264/90000" then none
  else
    let (formatType, format) ← (field (ascii "a=fmtp:") ls).bind readType
    let (sps, pps) ← (field (ascii "sprop-parameter-sets=") (readParams format)).bind readSets
    let plid ← (field (ascii "profile-level-id=") (readParams format)).bind Hex.decode
    let rect ← (field (ascii "a=cliprect:") ls).bind (readInts 44)
    let (sizeType, size) ← (field (ascii "a=framesize:") ls).bind readType
    let framesize ← readInts 45 size
    some { payloadType := pt, mapType := mapType, formatType := formatType, sizeType := sizeType
           sps := sps, pps := pps, profileLevelId := plid, cliprect := rect
           framesize := framesize }

def readAudio (ls : List Bytes) : Option AudioText := do
  let pt ← (field (ascii "m=audio 0 RTP/AVP ") ls).bind readInt
  let (mapType, codec) ← (field (ascii "a=rtpmap:") ls).bind readType
  let rates ← (field (ascii "MPEG4-GENERIC/") [codec]).bind (readInts 47)
  let (formatType, format) ← (field (ascii "a=fmtp:") ls).bind readType
  let mode ← field (ascii "mode=") (readParams format)
  let sizeLength ← (field (ascii "sizelength=") (readParams format)).bind readInt
  let indexLength ← (field (ascii "indexlength=") (readParams format)).bind readInt
  let indexDeltaLength ← (field (ascii "indexdeltalength=") (readParams format)).bind readInt
  let audio : AudioText :=
    { payloadType := pt, mapType := mapType, formatType := formatType, rates := rates
      mode := mode, sizeLength := sizeLength, indexLength := indexLength
      indexDeltaLength := indexDeltaLength, config := none }
  match field (ascii "config=") (readParams format) with
  | none => some audio
  | some hex => (Hex.decode hex).map fun asc => { audio with config := some asc }

/-- The whole text. The audio section is optional. -/
def readDescription (text : Bytes) : Option Description := do
  let ls ← linesOf crlf text.length text
  let session := ls.takeWhile (fun l => !startsMedia l)
  let streamName ← field (ascii "s=") session
  let control ← field (ascii "a=control:") session
  let video ← ((mediaSections ls).find? fun s => (field (ascii "m=video ") s).isSome).bind readVideo
  match (mediaSections ls).find? fun s => (field (ascii "m=audio ") s).isSome with
  | none => some { streamName := streamName, control := control, video := video, audio := none }
  | some media =>
      (readAudio media).map fun audio =>
        { streamName := streamName, control := control, video := video, audio := some audio }

/-! ## Reading numbers -/

theorem readInt_natDigits (n : Nat) : readInt (natDigits n) = some (n : Int) := by
  obtain ⟨hne, hdigits⟩ := isDecimal_natDigits n
  have hval := digitsVal_natDigits n
  cases hs : natDigits n with
  | nil => exact absurd hs hne
  | cons c s =>
      rw [hs] at hdigits hval
      have hc : c ≠ 45 := by
        rintro rfl
        exact absurd (hdigits 45 List.mem_cons_self) (by decide)
      rw [readInt, if_neg hc, if_pos ⟨List.cons_ne_nil c s, hdigits⟩, hval]

theorem readInt_toDec (n : Int) : readInt (toDec n) = some n := by
  cases n with
  | ofNat n => exact readInt_natDigits n
  | negSucc n =>
      rw [toDec, readInt, if_pos rfl, if_pos (isDecimal_natDigits (n + 1)), digitsVal_natDigits]
      rfl

theorem not_mem_toDec {c : UInt8} (h : isNumeral c = false) (n : Int) : c ∉ toDec n := by
  intro hc
  rw [isNumeral_toDec hc] at h
  cases h

theorem not_mem_toDec_of_nonneg {c : UInt8} (h : isDigit c = false) {n : Int} (hn : 0 ≤ n) :
    c ∉ toDec n := by
  obtain ⟨k, rfl⟩ := Int.eq_ofNat_of_zero_le hn
  intro hc
  rw [isDigit_natDigits hc] at h
  cases h

theorem readInts_join {sep : UInt8} (hsep : isDigit sep = false) {ns : List Int} (hne : ns ≠ [])
    (hpos : ∀ n ∈ ns, 0 ≤ n) : readInts sep ([sep].intercalate (ns.map toDec)) = some ns := by
  have hfree : ∀ l ∈ ns.map toDec, sep ∉ l := by
    intro l hl
    obtain ⟨n, hn, rfl⟩ := List.mem_map.mp hl
    exact not_mem_toDec_of_nonneg hsep (hpos n hn)
  rw [readInts, List.splitOn_intercalate sep hfree (by simpa using hne), List.mapM_map]
  have hread : ∀ l : List Int, l.mapM (readInt ∘ toDec) = some l := by
    intro l
    induction l with
    | nil => rfl
    | cons n l ih => simp [ih, readInt_toDec]
  exact hread ns

theorem readType_toDec (pt : Int) (rest : Bytes) :
    readType (toDec pt ++ 32 :: rest) = some (pt, rest) := by
  have hspace : ∀ c ∈ toDec pt, (decide (c ≠ 32)) = true := by
    intro c hc
    refine decide_eq_true ?_
    rintro rfl
    exact not_mem_toDec (by decide) pt hc
  have htake : (toDec pt ++ 32 :: rest).takeWhile (· ≠ 32) = toDec pt := by
    rw [List.takeWhile_append_of_pos hspace, List.takeWhile_cons_of_neg (by decide),
      List.append_nil]
  have hdrop : (toDec pt ++ 32 :: rest).dropWhile (· ≠ 32) = 32 :: rest := by
    rw [List.dropWhile_append_of_pos hspace, List.dropWhile_cons_of_neg (by decide)]
  rw [readType, htake, hdrop, readInt_toDec]
  rfl

/-! ## The lines of the text -/

def sessionLines (info : H264StreamInfo) (serverIp streamName baseUrl : Bytes) : List Bytes :=
  [ascii "v=0", ascii "o=- 1000 1 IN IP4 " ++ serverIp, ascii "s=" ++ streamName,
    ascii "c=IN IP4 0.0.0.0", ascii "t=0 0"] ++
  (if 0 < info.durationSecs then [ascii "a=range:npt=0-" ++ toFixed3 info.durationSecs] else []) ++
  [ascii "a=recvonly", ascii "a=control:" ++ baseUrl, ascii "a=tool:rtsp-server"]

/-- The parameters of the H.264 format. -/
def videoParams (info : H264StreamInfo) : List Bytes :=
  [ascii "packetization-mode=1",
    ascii "sprop-parameter-sets=" ++ (base64Encode info.sps ++ 44 :: base64Encode info.pps),
    ascii "profile-level-id=" ++ SDPBuilder.profileLevelId info.sps]

def videoLines (info : H264StreamInfo) (pt : Int) : List Bytes :=
  [ascii "m=video 0 RTP/AVP " ++ toDec pt,
    ascii "a=rtpmap:" ++ (toDec pt ++ ascii " H264/90000"),
    ascii "a=fmtp:" ++ (toDec pt ++ 32 :: [59].intercalate (videoParams info)),
    ascii "a=cliprect:" ++ [44].intercalate ([0, 0, info.height, info.width].map toDec),
    ascii "a=framesize:" ++
      (toDec pt ++ 32 :: [45].intercalate ([info.width, info.height].map toDec)),
    ascii "a=control:trackID=0"]

/-- The parameters of the AAC format. -/
def audioParams (audio : AudioStreamInfo) : List Bytes :=
  [ascii "profile-level-id=1", ascii "mode=AAC-hbr", ascii "sizelength=13", ascii "indexlength=3",
    ascii "indexdeltalength=3"] ++
  if audio.asc ≠ [] then [ascii "config=" ++ audio.asc.flatMap (SDPBuilder.hexByte 97)] else []

def audioLines (audio : AudioStreamInfo) (pt : Int) : List Bytes :=
  [ascii "m=audio 0 RTP/AVP " ++ toDec pt,
    ascii "a=rtpmap:" ++ (toDec pt ++ (ascii " MPEG4-GENERIC/" ++
      [47].intercalate ([audio.sampleRate, audio.channels].map toDec))),
    ascii "a=fmtp:" ++ (toDec pt ++ 32 :: [59].intercalate (audioParams audio)),
    ascii "a=control:trackID=1"]

theorem sessionSection_eq (info : H264StreamInfo) (serverIp streamName baseUrl : Bytes) :
    SDPBuilder.sessionSection info serverIp streamName baseUrl =
      joinLines crlf (sessionLines info serverIp streamName baseUrl) := by
  unfold SDPBuilder.sessionSection sessionLines
  split
  · simp only [joinLines, List.flatMap_cons, List.flatMap_nil, List.append_assoc, List.cons_append,
      List.nil_append]
    rfl
  · simp only [joinLines, List.flatMap_cons, List.flatMap_nil, List.append_assoc, List.cons_append,
      List.nil_append]
    rfl

theorem audioSection_eq (audio : AudioStreamInfo) (pt : Int) :
    SDPBuilder.audioSection audio pt =
      if audio.present then joinLines crlf (audioLines audio pt) else [] := by
  unfold SDPBuilder.audioSection audioLines audioParams
  split
  · split
    · simp only [joinLines, List.flatMap_cons, List.flatMap_nil, List.map_cons, List.map_nil,
        List.intercalate_cons_cons, List.intercalate_singleton, List.append_assoc, List.cons_append,
        List.nil_append]
      rfl
    · simp only [joinLines, List.flatMap_cons, List.flatMap_nil, List.map_cons, List.map_nil,
        List.intercalate_cons_cons, List.intercalate_singleton, List.append_assoc, List.cons_append,
        List.nil_append, List.append_nil]
      rfl
  · rfl

theorem videoSection_eq (info : H264StreamInfo) (pt : Int) :
    SDPBuilder.videoSection info pt = joinLines crlf (videoLines info pt) := by
  have hend : ascii "\r\n" = crlf := rfl
  have hcodec : ascii " H264/90000\r\n" = ascii " H264/90000" ++ crlf := rfl
  have hmode : ascii " packetization-mode=1" = 32 :: ascii "packetization-mode=1" := rfl
  have hsets : ascii ";sprop-parameter-sets=" = 59 :: ascii "sprop-parameter-sets=" := rfl
  have hlevel : ascii ";profile-level-id=" = 59 :: ascii "profile-level-id=" := rfl
  have hrect : ascii "a=cliprect:0,0," =
      ascii "a=cliprect:" ++ (toDec 0 ++ 44 :: (toDec 0 ++ [44])) := by decide
  have hcomma : ascii "," = [44] := rfl
  have hspace : ascii " " = [32] := rfl
  have hdash : ascii "-" = [45] := rfl
  have hcontrol : ascii "a=control:trackID=0\r\n" = ascii "a=control:trackID=0" ++ crlf := rfl
  unfold SDPBuilder.videoSection videoLines videoParams joinLines
  rw [hend, hcodec, hmode, hsets, hlevel, hrect, hcomma, hspace, hdash, hcontrol]
  simp only [List.flatMap_cons, List.flatMap_nil, List.map_cons, List.map_nil,
    List.intercalate_cons_cons, List.intercalate_singleton, List.append_assoc, List.cons_append,
    List.nil_append, List.append_nil]

/-! ## Separators -/

/-- A byte that neither numbers nor encoded bytes have. -/
structure Separates (c : UInt8) : Prop where
  numeral : isNumeral c = false
  base64 : Base64.isChar c = false
  hex : Hex.value c = none

theorem not_mem_base64 {c : UInt8} (h : Separates c) (s : Bytes) : c ∉ base64Encode s := by
  intro hc
  rw [base64Encode_eq] at hc
  have hchar := Base64.isChar_encode hc
  rw [h.base64] at hchar
  cases hchar

theorem not_mem_hex {c : UInt8} (h : Separates c) (upper : Bool) (bs : Bytes) :
    c ∉ bs.flatMap (Hex.pair upper upper) := by
  intro hc
  obtain ⟨b, -, hb⟩ := List.mem_flatMap.mp hc
  have hsome := Hex.isSome_value hb
  rw [h.hex] at hsome
  cases hsome

theorem hexByte_lower : SDPBuilder.hexByte 97 = Hex.pair false false := rfl

/-- The three bytes of the profile and the level: of the SPS, or Baseline 3.1. -/
def levelBytes : Bytes → Bytes
  | _ :: a :: b :: c :: _ => [a, b, c]
  | _ => [0x42, 0x00, 0x1f]

theorem profileLevelId_eq (sps : Bytes) :
    ∃ upper, SDPBuilder.profileLevelId sps = (levelBytes sps).flatMap (Hex.pair upper upper) := by
  match sps with
  | [] => exact ⟨false, by decide⟩
  | [_] => exact ⟨false, by rfl⟩
  | [_, _] => exact ⟨false, by rfl⟩
  | [_, _, _] => exact ⟨false, by rfl⟩
  | _ :: a :: b :: c :: _ => exact ⟨true, by rfl⟩

theorem not_mem_level {c : UInt8} (h : Separates c) (sps : Bytes) :
    c ∉ SDPBuilder.profileLevelId sps := by
  obtain ⟨upper, heq⟩ := profileLevelId_eq sps
  rw [heq]
  exact not_mem_hex h upper _

theorem not_mem_intercalate {c sep : UInt8} (hne : c ≠ sep) {ls : List Bytes}
    (h : ∀ l ∈ ls, c ∉ l) : c ∉ [sep].intercalate ls := by
  induction ls with
  | nil => exact List.not_mem_nil
  | cons l ls ih =>
      obtain ⟨hl, hls⟩ := List.forall_mem_cons.mp h
      cases ls with
      | nil => rwa [List.intercalate_singleton]
      | cons m ms =>
          rw [List.intercalate_cons_cons]
          simp only [List.mem_append, List.mem_singleton, not_or]
          exact ⟨⟨hl, hne⟩, ih hls⟩

theorem not_mem_numbers {c sep : UInt8} (h : Separates c) (hne : c ≠ sep) (ns : List Int) :
    c ∉ [sep].intercalate (ns.map toDec) := by
  refine not_mem_intercalate hne fun l hl => ?_
  obtain ⟨n, -, rfl⟩ := List.mem_map.mp hl
  exact not_mem_toDec h.numeral n

theorem separates_cr : Separates 13 := ⟨by decide, by decide, by decide⟩

theorem separates_semicolon : Separates 59 := ⟨by decide, by decide, by decide⟩

/-- The bytes between lines and between parameters. -/
theorem not_mem_videoParams {c : UInt8} (hc : c = 13 ∨ c = 59) (info : H264StreamInfo) :
    ∀ p ∈ videoParams info, c ∉ p := by
  have h : Separates c := by
    rcases hc with rfl | rfl
    · exact separates_cr
    · exact separates_semicolon
  have hconst : c ∉ ascii "packetization-mode=1" ∧ c ∉ ascii "sprop-parameter-sets=" ∧ c ≠ 44 ∧
      c ∉ ascii "profile-level-id=" := by
    rcases hc with rfl | rfl <;> decide
  intro p hp
  simp only [videoParams, List.mem_cons, List.not_mem_nil, or_false] at hp
  rcases hp with rfl | rfl | rfl
  · exact hconst.1
  · simp only [List.mem_append, List.mem_cons, not_or]
    exact ⟨hconst.2.1, not_mem_base64 h _, hconst.2.2.1, not_mem_base64 h _⟩
  · simp only [List.mem_append, not_or]
    exact ⟨hconst.2.2.2, not_mem_level h _⟩

theorem not_mem_audioParams {c : UInt8} (hc : c = 13 ∨ c = 59) (audio : AudioStreamInfo) :
    ∀ p ∈ audioParams audio, c ∉ p := by
  have h : Separates c := by
    rcases hc with rfl | rfl
    · exact separates_cr
    · exact separates_semicolon
  have hconst : (∀ p ∈ [ascii "profile-level-id=1", ascii "mode=AAC-hbr", ascii "sizelength=13",
      ascii "indexlength=3", ascii "indexdeltalength=3"], c ∉ p) ∧ c ∉ ascii "config=" := by
    rcases hc with rfl | rfl <;> decide
  intro p hp
  rcases List.mem_append.mp hp with hp | hp
  · exact hconst.1 p hp
  · split at hp
    · rw [List.mem_singleton.mp hp, hexByte_lower]
      simp only [List.mem_append, not_or]
      exact ⟨hconst.2, not_mem_hex h false _⟩
    · cases hp

theorem free_sessionLines (info : H264StreamInfo) {serverIp streamName baseUrl : Bytes}
    (hip : 13 ∉ serverIp) (hname : 13 ∉ streamName) (hurl : 13 ∉ baseUrl) :
    ∀ l ∈ sessionLines info serverIp streamName baseUrl, Free crlf l := by
  intro l hl
  refine free_of_not_mem (c := 13) ?_
  simp only [sessionLines, List.mem_append, List.mem_cons, List.not_mem_nil, or_false] at hl
  rcases hl with ((rfl | rfl | rfl | rfl | rfl) | hl) | (rfl | rfl | rfl)
  · decide
  · exact fun h => (List.mem_append.mp h).elim (absurd · (by decide)) hip
  · exact fun h => (List.mem_append.mp h).elim (absurd · (by decide)) hname
  · decide
  · decide
  · split at hl
    · rw [List.mem_singleton.mp hl]
      refine fun h => (List.mem_append.mp h).elim (absurd · (by decide)) fun h => ?_
      exact absurd (isNumeral_toFixed3 h) (by decide)
    · cases hl
  · decide
  · exact fun h => (List.mem_append.mp h).elim (absurd · (by decide)) hurl
  · decide

theorem free_videoLines (info : H264StreamInfo) (pt : Int) :
    ∀ l ∈ videoLines info pt, Free crlf l := by
  intro l hl
  refine free_of_not_mem (c := 13) ?_
  simp only [videoLines, List.mem_cons, List.not_mem_nil, or_false] at hl
  rcases hl with rfl | rfl | rfl | rfl | rfl | rfl
  · simp only [List.mem_append, not_or]
    exact ⟨by decide, not_mem_toDec separates_cr.numeral pt⟩
  · simp only [List.mem_append, not_or]
    exact ⟨by decide, not_mem_toDec separates_cr.numeral pt, by decide⟩
  · simp only [List.mem_append, List.mem_cons, not_or]
    exact ⟨by decide, not_mem_toDec separates_cr.numeral pt, by decide,
      not_mem_intercalate (by decide) (not_mem_videoParams (.inl rfl) info)⟩
  · simp only [List.mem_append, not_or]
    exact ⟨by decide, not_mem_numbers separates_cr (by decide) _⟩
  · simp only [List.mem_append, List.mem_cons, not_or]
    exact ⟨by decide, not_mem_toDec separates_cr.numeral pt, by decide,
      not_mem_numbers separates_cr (by decide) _⟩
  · decide

theorem free_audioLines (audio : AudioStreamInfo) (pt : Int) :
    ∀ l ∈ audioLines audio pt, Free crlf l := by
  intro l hl
  refine free_of_not_mem (c := 13) ?_
  simp only [audioLines, List.mem_cons, List.not_mem_nil, or_false] at hl
  rcases hl with rfl | rfl | rfl | rfl
  · simp only [List.mem_append, not_or]
    exact ⟨by decide, not_mem_toDec separates_cr.numeral pt⟩
  · simp only [List.mem_append, not_or]
    exact ⟨by decide, not_mem_toDec separates_cr.numeral pt, by decide,
      not_mem_numbers separates_cr (by decide) _⟩
  · simp only [List.mem_append, List.mem_cons, not_or]
    exact ⟨by decide, not_mem_toDec separates_cr.numeral pt, by decide,
      not_mem_intercalate (by decide) (not_mem_audioParams (.inl rfl) audio)⟩
  · decide

/-! ## What is read -/

theorem readSets_encode (sps pps : Bytes) :
    readSets (base64Encode sps ++ 44 :: base64Encode pps) = some (sps, pps) := by
  have hcomma : Separates 44 := ⟨by decide, by decide, by decide⟩
  have hsplit : (base64Encode sps ++ 44 :: base64Encode pps).splitOn 44 =
      [base64Encode sps, base64Encode pps] := by
    have hfree : ∀ l ∈ [base64Encode sps, base64Encode pps], 44 ∉ l := by
      intro l hl
      simp only [List.mem_cons, List.not_mem_nil, or_false] at hl
      rcases hl with rfl | rfl <;> exact not_mem_base64 hcomma _
    have := List.splitOn_intercalate 44 hfree (by simp)
    simpa using this
  rw [readSets, hsplit]
  simp only [base64Encode_eq, Base64.decode_encode]

theorem readParams_join {ps : List Bytes} (hne : ps ≠ []) (h : ∀ p ∈ ps, 59 ∉ p) :
    readParams ([59].intercalate ps) = ps := List.splitOn_intercalate 59 h hne

theorem decode_level (sps : Bytes) :
    Hex.decode (SDPBuilder.profileLevelId sps) = some (levelBytes sps) := by
  obtain ⟨upper, heq⟩ := profileLevelId_eq sps
  rw [heq, Hex.decode_flatMap]

/-- What the video section says. -/
def videoText (info : H264StreamInfo) (pt : Int) : VideoText :=
  { payloadType := pt, mapType := pt, formatType := pt, sizeType := pt, sps := info.sps
    pps := info.pps, profileLevelId := levelBytes info.sps
    cliprect := [0, 0, info.height, info.width], framesize := [info.width, info.height] }

theorem readVideo_lines {info : H264StreamInfo} (hwidth : 0 ≤ info.width)
    (hheight : 0 ≤ info.height) (pt : Int) :
    readVideo (videoLines info pt) = some (videoText info pt) := by
  have hmedia : field (ascii "m=video 0 RTP/AVP ") (videoLines info pt) = some (toDec pt) := rfl
  have hmap : field (ascii "a=rtpmap:") (videoLines info pt) =
      some (toDec pt ++ 32 :: ascii "H264/90000") := rfl
  have hformat : field (ascii "a=fmtp:") (videoLines info pt) =
      some (toDec pt ++ 32 :: [59].intercalate (videoParams info)) := rfl
  have hrect : field (ascii "a=cliprect:") (videoLines info pt) =
      some ([44].intercalate ([0, 0, info.height, info.width].map toDec)) := rfl
  have hsize : field (ascii "a=framesize:") (videoLines info pt) =
      some (toDec pt ++ 32 :: [45].intercalate ([info.width, info.height].map toDec)) := rfl
  have hparams : readParams ([59].intercalate (videoParams info)) = videoParams info :=
    readParams_join (by simp [videoParams]) (not_mem_videoParams (.inr rfl) info)
  have hsets : field (ascii "sprop-parameter-sets=") (videoParams info) =
      some (base64Encode info.sps ++ 44 :: base64Encode info.pps) := rfl
  have hlevel : field (ascii "profile-level-id=") (videoParams info) =
      some (SDPBuilder.profileLevelId info.sps) := rfl
  have hrects : readInts 44 ([44].intercalate ([0, 0, info.height, info.width].map toDec)) =
      some [0, 0, info.height, info.width] :=
    readInts_join (by decide) (by simp) (by simp [hwidth, hheight])
  have hsizes : readInts 45 ([45].intercalate ([info.width, info.height].map toDec)) =
      some [info.width, info.height] :=
    readInts_join (by decide) (by simp) (by simp [hwidth, hheight])
  unfold readVideo
  simp only [hmedia, hmap, hformat, hrect, hsize, Option.bind_some, readInt_toDec, readType_toDec,
    hparams, hsets, hlevel, readSets_encode, decode_level, hrects, hsizes, Option.bind_eq_bind,
    ne_eq, not_true_eq_false, if_false]
  rfl

/-- What the audio section says. -/
def audioText (audio : AudioStreamInfo) (pt : Int) : AudioText :=
  { payloadType := pt, mapType := pt, formatType := pt, rates := [audio.sampleRate, audio.channels]
    mode := ascii "AAC-hbr", sizeLength := 13, indexLength := 3, indexDeltaLength := 3
    config := if audio.asc = [] then none else some audio.asc }

theorem readInt_thirteen : readInt (ascii "13") = some 13 := by decide +kernel

theorem readInt_three : readInt (ascii "3") = some 3 := by decide +kernel

theorem readAudio_lines {audio : AudioStreamInfo} (hrate : 0 ≤ audio.sampleRate)
    (hchannels : 0 ≤ audio.channels) (pt : Int) :
    readAudio (audioLines audio pt) = some (audioText audio pt) := by
  have hmedia : field (ascii "m=audio 0 RTP/AVP ") (audioLines audio pt) = some (toDec pt) := rfl
  have hmap : field (ascii "a=rtpmap:") (audioLines audio pt) =
      some (toDec pt ++ 32 :: (ascii "MPEG4-GENERIC/" ++
        [47].intercalate ([audio.sampleRate, audio.channels].map toDec))) := rfl
  have hcodec : field (ascii "MPEG4-GENERIC/") [ascii "MPEG4-GENERIC/" ++
      [47].intercalate ([audio.sampleRate, audio.channels].map toDec)] =
      some ([47].intercalate ([audio.sampleRate, audio.channels].map toDec)) := rfl
  have hformat : field (ascii "a=fmtp:") (audioLines audio pt) =
      some (toDec pt ++ 32 :: [59].intercalate (audioParams audio)) := rfl
  have hparams : readParams ([59].intercalate (audioParams audio)) = audioParams audio :=
    readParams_join (by simp [audioParams]) (not_mem_audioParams (.inr rfl) audio)
  have hrates : readInts 47 ([47].intercalate ([audio.sampleRate, audio.channels].map toDec)) =
      some [audio.sampleRate, audio.channels] :=
    readInts_join (by decide) (by simp) (by simp [hrate, hchannels])
  have hmode : field (ascii "mode=") (audioParams audio) = some (ascii "AAC-hbr") := rfl
  have hsize : field (ascii "sizelength=") (audioParams audio) = some (ascii "13") := rfl
  have hindex : field (ascii "indexlength=") (audioParams audio) = some (ascii "3") := rfl
  have hdelta : field (ascii "indexdeltalength=") (audioParams audio) = some (ascii "3") := rfl
  unfold readAudio
  simp only [hmedia, hmap, hcodec, hformat, Option.bind_some, readInt_toDec, readType_toDec,
    hparams, hrates, hmode, hsize, hindex, hdelta, readInt_thirteen, readInt_three,
    Option.bind_eq_bind]
  by_cases hasc : audio.asc = []
  · have hconfig : field (ascii "config=") (audioParams audio) = none := by
      rw [audioParams, if_neg (not_not.mpr hasc)]
      rfl
    rw [hconfig, audioText, if_pos hasc]
  · have hconfig : field (ascii "config=") (audioParams audio) =
        some (audio.asc.flatMap (Hex.pair false false)) := by
      rw [audioParams, if_pos hasc, hexByte_lower]
      rfl
    rw [hconfig, audioText, if_neg hasc]
    simp only [Hex.decode_flatMap, Option.map_some]

theorem mediaSections_append {pre : List Bytes} (h : ∀ l ∈ pre, startsMedia l = false)
    (ls : List Bytes) : mediaSections (pre ++ ls) = mediaSections ls := by
  induction pre with
  | nil => rfl
  | cons l pre ih =>
      obtain ⟨hl, hpre⟩ := List.forall_mem_cons.mp h
      rw [List.cons_append, mediaSections, hl]
      exact ih hpre

/-- A section goes on to the next `m=` line. -/
theorem mediaSections_section {m : Bytes} {body ls : List Bytes} (hm : startsMedia m = true)
    (hbody : ∀ l ∈ body, startsMedia l = false) (hls : ∀ l ∈ ls.head?, startsMedia l = true) :
    mediaSections (m :: (body ++ ls)) = (m :: body) :: mediaSections ls := by
  have htake : (body ++ ls).takeWhile (fun l => !startsMedia l) = body := by
    rw [List.takeWhile_append_of_pos fun l hl => by rw [hbody l hl]; rfl]
    cases ls with
    | nil => simp
    | cons l ls =>
        rw [List.takeWhile_cons_of_neg (by rw [hls l rfl]; decide), List.append_nil]
  rw [mediaSections, if_pos hm, htake, mediaSections_append hbody]

theorem startsMedia_sessionLines (info : H264StreamInfo) (serverIp streamName baseUrl : Bytes) :
    ∀ l ∈ sessionLines info serverIp streamName baseUrl, startsMedia l = false := by
  intro l hl
  simp only [sessionLines, List.mem_append, List.mem_cons, List.not_mem_nil, or_false] at hl
  rcases hl with ((rfl | rfl | rfl | rfl | rfl) | hl) | (rfl | rfl | rfl)
  case inl.inr =>
    split at hl
    · rw [List.mem_singleton.mp hl]
      rfl
    · cases hl
  all_goals rfl

/-- The lines of the text. -/
def buildLines (info : H264StreamInfo) (serverIp streamName baseUrl : Bytes) (videoPt : Int)
    (audio : AudioStreamInfo) (audioPt : Int) : List Bytes :=
  sessionLines info serverIp streamName baseUrl ++
    (videoLines info videoPt ++ if audio.present then audioLines audio audioPt else [])

theorem build_eq (info : H264StreamInfo) (serverIp streamName baseUrl : Bytes) (videoPt : Int)
    (audio : AudioStreamInfo) (audioPt : Int) :
    SDPBuilder.build info serverIp streamName baseUrl videoPt audio audioPt =
      joinLines crlf (buildLines info serverIp streamName baseUrl videoPt audio audioPt) := by
  rw [SDPBuilder.build, sessionSection_eq, videoSection_eq, audioSection_eq, buildLines]
  simp only [joinLines, List.flatMap_append, List.append_assoc]
  split <;> rfl

theorem linesOf_build (info : H264StreamInfo) (audio : AudioStreamInfo)
    {serverIp streamName baseUrl : Bytes} (videoPt audioPt : Int) (hip : 13 ∉ serverIp)
    (hname : 13 ∉ streamName) (hurl : 13 ∉ baseUrl) :
    linesOf crlf (SDPBuilder.build info serverIp streamName baseUrl videoPt audio audioPt).length
      (SDPBuilder.build info serverIp streamName baseUrl videoPt audio audioPt) =
      some (buildLines info serverIp streamName baseUrl videoPt audio audioPt) := by
  have hsep := RTSPRequest.crlf_noOverlap
  have hfree : ∀ l ∈ buildLines info serverIp streamName baseUrl videoPt audio audioPt,
      Free crlf l := by
    intro l hl
    rcases List.mem_append.mp hl with hl | hl
    · exact free_sessionLines info hip hname hurl l hl
    rcases List.mem_append.mp hl with hl | hl
    · exact free_videoLines info videoPt l hl
    · split at hl
      · exact free_audioLines audio audioPt l hl
      · cases hl
  rw [build_eq]
  exact linesOf_join hsep hfree (length_le_joinLines hsep _)

theorem mediaSections_videoLines (info : H264StreamInfo) (pt : Int) {ls : List Bytes}
    (hls : ∀ l ∈ ls.head?, startsMedia l = true) :
    mediaSections (videoLines info pt ++ ls) = videoLines info pt :: mediaSections ls := by
  refine mediaSections_section rfl (fun l hl => ?_) hls
  simp only [List.mem_cons, List.not_mem_nil, or_false] at hl
  rcases hl with rfl | rfl | rfl | rfl | rfl <;> rfl

theorem mediaSections_audioLines (audio : AudioStreamInfo) (pt : Int) :
    mediaSections (audioLines audio pt) = [audioLines audio pt] := by
  have hplain : ∀ l ∈ (audioLines audio pt).tail, startsMedia l = false := by
    intro l hl
    simp only [audioLines, List.tail_cons, List.mem_cons, List.not_mem_nil, or_false] at hl
    rcases hl with rfl | rfl | rfl <;> rfl
  have hsection : mediaSections ((ascii "m=audio 0 RTP/AVP " ++ toDec pt) ::
      ((audioLines audio pt).tail ++ [])) = [audioLines audio pt] :=
    mediaSections_section rfl hplain fun l hl => by cases hl
  rwa [List.append_nil] at hsection

theorem mediaSections_build (info : H264StreamInfo) (serverIp streamName baseUrl : Bytes)
    (videoPt : Int) (audio : AudioStreamInfo) (audioPt : Int) :
    mediaSections (buildLines info serverIp streamName baseUrl videoPt audio audioPt) =
      videoLines info videoPt :: if audio.present then [audioLines audio audioPt] else [] := by
  rw [buildLines, mediaSections_append (startsMedia_sessionLines _ _ _ _)]
  split
  · rw [mediaSections_videoLines, mediaSections_audioLines]
    intro l hl
    obtain rfl := Option.some.inj hl
    rfl
  · rw [mediaSections_videoLines _ _ fun l hl => by cases hl]
    rfl

/-- **The description carries the configuration**: of every stream, whatever its parameter sets
    and its AudioSpecificConfig are, a client reads the parameter sets, the profile and the
    level, the sizes, the rates and the AudioSpecificConfig that the text was built from, and an
    audio section if and only if there is audio. -/
theorem readDescription_build (info : H264StreamInfo) (audio : AudioStreamInfo)
    {serverIp streamName baseUrl : Bytes} (videoPt audioPt : Int) (hip : 13 ∉ serverIp)
    (hname : 13 ∉ streamName) (hurl : 13 ∉ baseUrl) (hwidth : 0 ≤ info.width)
    (hheight : 0 ≤ info.height) (hrate : 0 ≤ audio.sampleRate) (hchannels : 0 ≤ audio.channels) :
    readDescription (SDPBuilder.build info serverIp streamName baseUrl videoPt audio audioPt) =
      some
        { streamName := streamName
          control := baseUrl
          video :=
            { payloadType := videoPt, mapType := videoPt, formatType := videoPt, sizeType := videoPt
              sps := info.sps, pps := info.pps, profileLevelId := levelBytes info.sps
              cliprect := [0, 0, info.height, info.width]
              framesize := [info.width, info.height] }
          audio :=
            if audio.present then
              some
                { payloadType := audioPt, mapType := audioPt, formatType := audioPt
                  rates := [audio.sampleRate, audio.channels], mode := ascii "AAC-hbr"
                  sizeLength := 13, indexLength := 3, indexDeltaLength := 3
                  config := if audio.asc = [] then none else some audio.asc }
            else none } := by
  have hlines := linesOf_build info audio videoPt audioPt hip hname hurl
  have hsections := mediaSections_build info serverIp streamName baseUrl videoPt audio audioPt
  have hsession : (buildLines info serverIp streamName baseUrl videoPt audio audioPt).takeWhile
      (fun l => !startsMedia l) = sessionLines info serverIp streamName baseUrl := by
    rw [buildLines, List.takeWhile_append_of_pos fun l hl => by
      rw [startsMedia_sessionLines info serverIp streamName baseUrl l hl]; rfl]
    exact List.append_nil _
  have hstream : field (ascii "s=") (sessionLines info serverIp streamName baseUrl) =
      some streamName := rfl
  have hcontrol : field (ascii "a=control:") (sessionLines info serverIp streamName baseUrl) =
      some baseUrl := by
    unfold sessionLines
    split <;> rfl
  have hvideo : ∀ ls, (videoLines info videoPt :: ls).find?
      (fun s => (field (ascii "m=video ") s).isSome) = some (videoLines info videoPt) :=
    fun ls => List.find?_cons_of_pos rfl
  have hskip : ∀ ls, (videoLines info videoPt :: ls).find?
      (fun s => (field (ascii "m=audio ") s).isSome) =
        ls.find? (fun s => (field (ascii "m=audio ") s).isSome) :=
    fun ls => List.find?_cons_of_neg Bool.false_ne_true
  have haudio : [audioLines audio audioPt].find?
      (fun s => (field (ascii "m=audio ") s).isSome) = some (audioLines audio audioPt) :=
    List.find?_cons_of_pos rfl
  unfold readDescription
  simp only [hlines, hsections, hsession, hstream, hcontrol, Option.bind_eq_bind, Option.bind_some,
    hvideo, hskip, readVideo_lines hwidth hheight]
  cases hpresent : audio.present with
  | false => rfl
  | true =>
      simp only [if_true, haudio, readAudio_lines hrate hchannels, Option.map_some]
      rfl

/-- A clip with AAC, the parameter sets of two different lengths modulo three. -/
def clipInfo : H264StreamInfo :=
  { sps := [0x67, 0x64, 0x00, 0x1f, 0xac], pps := [0x68, 0xee, 0x3c, 0x80]
    width := 640, height := 480, durationSecs := 1 }

def clipAudio : AudioStreamInfo :=
  { present := true, sampleRate := 44100, channels := 2, asc := [0x12, 0x10] }

theorem readDescription_build_clip :
    readDescription (SDPBuilder.build clipInfo (ascii "0.0.0.0") (ascii "clip.mp4")
      (ascii "rtsp://h/clip.mp4") 96 clipAudio 97) =
      some
        { streamName := ascii "clip.mp4"
          control := ascii "rtsp://h/clip.mp4"
          video :=
            { payloadType := 96, mapType := 96, formatType := 96, sizeType := 96
              sps := [0x67, 0x64, 0x00, 0x1f, 0xac], pps := [0x68, 0xee, 0x3c, 0x80]
              profileLevelId := [0x64, 0x00, 0x1f], cliprect := [0, 0, 480, 640]
              framesize := [640, 480] }
          audio :=
            some
              { payloadType := 97, mapType := 97, formatType := 97, rates := [44100, 2]
                mode := ascii "AAC-hbr", sizeLength := 13, indexLength := 3, indexDeltaLength := 3
                config := some [0x12, 0x10] } } :=
  readDescription_build clipInfo clipAudio 96 97 (by decide) (by decide) (by decide) (by decide)
    (by decide) (by decide) (by decide)

end SDPReader

end RtspServer
