/-
  What a client makes of the audio it is sent. The description announces AU headers with a size
  of 13 bits, and `sendOneAudio` puts the lower 13 bits of the size into them without a check: an
  audio packet of 8192 bytes or more goes out with the size of another one.
-/
import RtspServer.Lib.AccessUnits
import RtspServer.Sdp.SDPReader
import RtspServer.Server.PacerTick

namespace RtspServer

open ByteString AccessUnits SDPReader

/-- The lengths of the AU header fields that an audio section announces. -/
def advertisedFormat (text : Bytes) : Option HeaderFormat := do
  let ls ← Lines.linesOf StringUtils.crlf text.length text
  let (_, format) ← (field (ascii "a=fmtp:") ls).bind readType
  let sizeLength ← (field (ascii "sizelength=") (readParams format)).bind readInt
  let indexLength ← (field (ascii "indexlength=") (readParams format)).bind readInt
  let indexDeltaLength ← (field (ascii "indexdeltalength=") (readParams format)).bind readInt
  some ⟨sizeLength.toNat, indexLength.toNat, indexDeltaLength.toNat⟩

theorem advertisedFormat_audioSection {audio : AudioStreamInfo} (hpresent : audio.present = true)
    (pt : Int) : advertisedFormat (SDPBuilder.audioSection audio pt) = some ⟨13, 3, 3⟩ := by
  have hsep := RTSPRequest.crlf_noOverlap
  have hlines := Lines.linesOf_join hsep (free_audioLines audio pt)
    (Lines.length_le_joinLines hsep (audioLines audio pt))
  have hformat : field (ascii "a=fmtp:") (audioLines audio pt) =
      some (Decimal.toDec pt ++ 32 :: [59].intercalate (audioParams audio)) := rfl
  have hparams : readParams ([59].intercalate (audioParams audio)) = audioParams audio :=
    readParams_join (by simp [audioParams]) (not_mem_audioParams (.inr rfl) audio)
  have hsize : field (ascii "sizelength=") (audioParams audio) = some (ascii "13") := rfl
  have hindex : field (ascii "indexlength=") (audioParams audio) = some (ascii "3") := rfl
  have hdelta : field (ascii "indexdeltalength=") (audioParams audio) = some (ascii "3") := rfl
  unfold advertisedFormat
  rw [audioSection_eq, if_pos hpresent, hlines]
  simp only [Option.bind_eq_bind, Option.bind_some, hformat, readType_toDec, hparams, hsize, hindex,
    hdelta, readInt_thirteen, readInt_three]
  rfl

namespace Session

theorem decode_audioPayload (data : Bytes) :
    decode ⟨13, 3, 3⟩ (audioPayload data) = some ([⟨data.length % 8192, 0⟩], data) := by
  have hsize : (UInt16.ofNat data.length).toNat = data.length % 65536 := UInt16.toNat_ofNat'
  have hhigh : ((UInt16.ofNat data.length) >>> 5).toUInt8.toNat =
      data.length % 65536 / 32 % 256 := by
    rw [UInt16.toNat_toUInt8, UInt16.toNat_shiftRight, hsize, Nat.shiftRight_eq_div_pow]
    rfl
  have hlow : (((UInt16.ofNat data.length) &&& 0x1F) <<< 3).toUInt8.toNat =
      data.length % 32 * 8 := by
    have hand : ((UInt16.ofNat data.length) &&& 0x1F).toNat = data.length % 65536 % 32 := by
      rw [UInt16.toNat_and, hsize]
      exact Nat.and_two_pow_sub_one_eq_mod _ 5
    have hshift : (data.length % 65536 % 32) <<< 3 = data.length % 32 * 8 := by
      rw [Nat.shiftLeft_eq]
      omega
    rw [UInt16.toNat_toUInt8, UInt16.toNat_shiftLeft, hand,
      show (3 : UInt16).toNat % 16 = 3 from rfl, hshift]
    omega
  have hfields : 32 * (data.length % 65536 / 32 % 256) + data.length % 32 * 8 / 8 =
      data.length % 8192 := by omega
  rw [audioPayload, decode_hbr, hhigh, hlow, hfields, Nat.mul_mod_left]

/-- The RTP packet that the client gets. -/
def sentRtp : Event → Option Bytes
  | .interleaved .audio frame => some (frame.drop 4)
  | .datagram .audio _ rtp => some rtp
  | _ => none

/-- A client that reads the payload with these lengths finds the packet: one AU header with its
    size and the index 0, and its bytes. -/
def Carries (f : HeaderFormat) (data rtp : Bytes) : Prop :=
  ∃ fields, RTPPacket.parse rtp = some fields ∧
    decode f fields.payload = some ([⟨data.length, 0⟩], data)

variable {M : Type}

/-- What `sendOneAudio` sends of this packet carries it. A packet that is not sent is all right. -/
def SentAsAdvertised (f : HeaderFormat) (env : Env M) (ap : AudioPacket) (s : Session M) : Prop :=
  ∀ e ∈ (s.sendOneAudio env ap).log.drop s.log.length, ∀ rtp, sentRtp e = some rtp →
    Carries f ap.data rtp

/-- The transport takes no packet: the outbox is over its mark, or there is no sender. -/
def Refused (env : Env M) (s : Session M) : Prop :=
  if s.useTcp then WriteWake.kOutboxHWM < env.outboxLoad s.loads
  else ∀ dest, s.audioRtpSender ≠ some ⟨some dest⟩

/-- The one event of a packet with data. -/
theorem log_sendOneAudio (env : Env M) {ap : AudioPacket} (hdata : ap.data ≠ []) (s : Session M) :
    ∃ e, (s.sendOneAudio env ap).log.drop s.log.length = [e] ∧
      (Refused env s → sentRtp e = none) ∧
      (¬ Refused env s → sentRtp e = some (RTPPacket.build (audioPayload ap.data)
        (toByte audioPayloadType) s.audioRtpSeq ap.rtpTimestamp s.audioSsrc true)) := by
  unfold sendOneAudio sendAudioRTP pushTCPFrame sendDatagram Refused
  rw [if_neg hdata]
  dsimp only
  split
  · split
    · next hload => exact ⟨_, List.drop_left, fun _ => rfl, fun h => absurd hload h⟩
    · next hload => exact ⟨_, List.drop_left, fun h => absurd h hload, fun _ => rfl⟩
  · split
    · next dest hsender => exact ⟨_, List.drop_left, fun h => absurd hsender (h dest), fun _ => rfl⟩
    · next hsender =>
        refine ⟨_, List.drop_left, fun _ => rfl, fun h => absurd (fun dest heq => ?_) h⟩
        exact hsender dest heq

theorem sentAsAdvertised_iff (env : Env M) {ap : AudioPacket} (hdata : ap.data ≠ [])
    (s : Session M) :
    SentAsAdvertised ⟨13, 3, 3⟩ env ap s ↔ ap.data.length < 8192 ∨ Refused env s := by
  obtain ⟨e, hlog, hrefused, hsent⟩ := log_sendOneAudio env hdata s
  have hparse := RTPPacket.parse_build (audioPayload ap.data) (toByte audioPayloadType)
    s.audioRtpSeq ap.rtpTimestamp s.audioSsrc true
  unfold SentAsAdvertised
  rw [hlog]
  constructor
  · intro h
    by_cases hr : Refused env s
    · exact .inr hr
    · obtain ⟨fields, hfields, hdecode⟩ := h e (List.mem_singleton_self e) _ (hsent hr)
      obtain rfl := Option.some.inj (hparse.symm.trans hfields)
      rw [decode_audioPayload] at hdecode
      have hsize : ap.data.length % 8192 = ap.data.length := by simpa using hdecode
      exact .inl (by rw [← hsize]; exact Nat.mod_lt _ (by decide))
  · intro h e' he' rtp hrtp
    rw [List.mem_singleton.mp he'] at hrtp
    by_cases hr : Refused env s
    · rw [hrefused hr] at hrtp
      cases hrtp
    · rw [hsent hr] at hrtp
      obtain rfl := Option.some.inj hrtp
      refine ⟨_, hparse, ?_⟩
      rw [decode_audioPayload, Nat.mod_eq_of_lt (h.resolve_right hr)]

/-- **Audio payloads decode as the description says** if and only if the data is shorter than
    8192 bytes, or the packet is not sent: of every audio packet with data, in every session,
    with the header lengths that the audio section announces. -/
theorem audio_payload_iff (env : Env M) {ap : AudioPacket} (hdata : ap.data ≠ []) (s : Session M)
    {audio : AudioStreamInfo} (hpresent : audio.present = true) (pt : Int) :
    ∃ f, advertisedFormat (SDPBuilder.audioSection audio pt) = some f ∧
      (SentAsAdvertised f env ap s ↔ ap.data.length < 8192 ∨ Refused env s) :=
  ⟨_, advertisedFormat_audioSection hpresent pt, sentAsAdvertised_iff env hdata s⟩

/-- A viewer over TCP whose outbox is empty. -/
def tcpViewer : Session Unit :=
  { Session.new (ascii "10.0.0.2") (ascii "media") (ascii "7") 1 2 with useTcp := true }

def idleEnv : Env Unit :=
  { fs := { append := fun p q => p ++ q, weaklyCanonical := id, relative := fun p _ => some p
            isPresent := fun _ => true }
    openSource := fun _ => none, setupUDP := fun _ _ => none, stod := fun _ => none
    timestamp := [], now := 0, outboxLoad := fun _ => 0 }

theorem not_refused_idle : ¬ Refused idleEnv tcpViewer := by
  change ¬ WriteWake.kOutboxHWM < 0
  exact Nat.not_lt_zero _

/-- An AAC frame. -/
def shortFrame : AudioPacket := { data := [0x21, 0x10, 0x04], rtpTimestamp := 1024 }

theorem audio_payload_iff_short : SentAsAdvertised ⟨13, 3, 3⟩ idleEnv shortFrame tcpViewer := by
  have hdata : shortFrame.data ≠ [] := by decide
  have hpresent : clipAudio.present = true := rfl
  obtain ⟨f, hf, hiff⟩ := audio_payload_iff idleEnv hdata tcpViewer hpresent 97
  rw [advertisedFormat_audioSection hpresent] at hf
  obtain rfl := Option.some.inj hf
  exact hiff.mpr (.inl (by decide))

/-- 8192 bytes of audio. -/
def longFrame : AudioPacket := { data := List.replicate 8192 0, rtpTimestamp := 1024 }

/-- They are sent with the size 0. -/
theorem longFrame_not_carried :
    advertisedFormat (SDPBuilder.audioSection clipAudio 97) = some ⟨13, 3, 3⟩ ∧
      ¬ SentAsAdvertised ⟨13, 3, 3⟩ idleEnv longFrame tcpViewer ∧
      decode ⟨13, 3, 3⟩ (audioPayload longFrame.data) = some ([⟨0, 0⟩], longFrame.data) := by
  have hlen : longFrame.data.length = 8192 := List.length_replicate
  refine ⟨advertisedFormat_audioSection rfl 97, fun h => ?_, ?_⟩
  · have hne : longFrame.data ≠ [] := by
      rw [Ne, ← List.length_eq_zero_iff, hlen]
      decide
    rcases (sentAsAdvertised_iff idleEnv hne tcpViewer).mp h with hshort | hr
    · rw [hlen] at hshort
      exact absurd hshort (by decide)
    · exact not_refused_idle hr
  · rw [decode_audioPayload, hlen]

end Session

end RtspServer
