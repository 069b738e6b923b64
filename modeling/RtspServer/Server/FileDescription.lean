/-
  DESCRIBE from the file to the text: `openMedia` makes a new `MediaSource` and opens it, and the
  description is built from what `open` found. `file_described`: which DESCRIBE is answered 200,
  that the text then tells the parameter sets, the sizes and the audio of that file, and that the
  session plays that file from its start.
-/
import RtspServer.Media.Reopening
import RtspServer.Server.SessionRuns

namespace RtspServer

open ByteString Session

variable {M : Type}

/-! ## Which file is opened -/

/-- The file that a URL names. -/
def describedPath (env : Env M) (root url : Bytes) : Bytes :=
  env.fs.append root (relativePath (StringUtils.urlPath url))

/-- The URL names a file, inside of the root. -/
def NamesFile (env : Env M) (root url : Bytes) : Prop :=
  StringUtils.urlPath url ≠ [] ∧ StringUtils.urlPath url ≠ ascii "/" ∧
    escaped env.fs root (describedPath env root url) = false ∧
    env.fs.isPresent (describedPath env root url) = true

theorem openMedia_cases (env : Env M) (url : Bytes) (cseq : Int) (s : Session M) :
    (∃ m, NamesFile env s.mediaRoot url ∧
      env.openSource (describedPath env s.mediaRoot url) = some m ∧
      openMedia env url cseq s = (true, { s with mediaSource := some m })) ∨
    ∃ code reason source, code ≠ 200 ∧
      ¬ (NamesFile env s.mediaRoot url ∧
        (env.openSource (describedPath env s.mediaRoot url)).isSome = true) ∧
      openMedia env url cseq s =
        (false, { s.sendError env cseq code reason with mediaSource := source }) := by
  unfold openMedia NamesFile describedPath
  dsimp only
  split
  · next hpath =>
      refine .inr ⟨404, "Not Found", s.mediaSource, by decide, fun h => ?_, rfl⟩
      exact hpath.elim h.1.1 h.1.2.1
  next hpath =>
  rw [not_or] at hpath
  split
  · next hescaped =>
      refine .inr ⟨403, "Forbidden", s.mediaSource, by decide, fun h => ?_, rfl⟩
      rw [h.1.2.2.1] at hescaped
      cases hescaped
  next hescaped =>
  split
  · next habsent =>
      exact .inr ⟨404, "Not Found", s.mediaSource, by decide, fun h => habsent h.1.2.2.2, rfl⟩
  next hpresent =>
  split
  · next hopen =>
      refine .inr ⟨415, "Unsupported Media Type", none, by decide, fun h => ?_, rfl⟩
      rw [hopen] at h
      cases h.2
  · next m hopen =>
      exact .inl ⟨m, ⟨hpath.1, hpath.2, Bool.eq_false_iff.mpr hescaped, not_not.mp hpresent⟩, hopen,
        rfl⟩

/-! ## What `open` finds -/

variable {D B : Type} [FFmpegOpen D B]

/-- `make_unique<MediaSource>()` and `open`: the opened source, if it opens. -/
def openNew (path : Bytes) (alloc : Allocs) : Option (MediaSource D B) :=
  match (MediaObject.new : MediaObject D B).openSource path alloc with
  | some (true, o) => o.fmtCtx.map fun d => o.source d
  | _ => none

theorem openNew_eq (path : Bytes) (alloc : Allocs) :
    openNew (D := D) (B := B) path alloc = opened path alloc .nothing := by
  have hkept : (MediaObject.new : MediaObject D B).kept = .nothing := rfl
  unfold openNew
  rcases MediaObject.openSource_cases path alloc (MediaObject.new : MediaObject D B) with
    ⟨m, audioPkt, hopened, -, hopen⟩ | ⟨hopened, o, hopen, -⟩
  · rw [hopen, ← hkept, hopened]
    rfl
  · rw [hopen, ← hkept, hopened]

/-- The library, the file and the allocations give what `open` needs. -/
def Opens (D B : Type) [FFmpegOpen D B] (path : Bytes) (alloc : Allocs) : Prop :=
  ∃ d st, h264Stream D B path = some (d, st) ∧
    (filterFor D st : Option (Option B)) ≠ none ∧ alloc.pkt = true

theorem opened_isSome_iff (path : Bytes) (alloc : Allocs) (kept : Kept) :
    (opened (D := D) (B := B) path alloc kept).isSome = true ↔ Opens D B path alloc := by
  unfold opened Opens
  cases h264Stream D B path with
  | none => simp
  | some r =>
      obtain ⟨d, st⟩ := r
      cases hfilter : (filterFor D st : Option (Option B)) with
      | none => simp [hfilter]
      | some filter => cases hpkt : alloc.pkt <;> simp [hfilter]

/-- What `open` finds out about the streams of a file. -/
theorem opened_streams {path : Bytes} {alloc : Allocs} {kept : Kept} {m : MediaSource D B}
    (h : opened path alloc kept = some m) :
    ∃ d st, h264Stream D B path = some (d, st) ∧ m.fmtCtx = d ∧
      m.streamInfo = describedBy B d st kept.streamInfo ∧
      m.audioInfo = (audioOf B alloc.audioPkt d).2 := by
  unfold opened at h
  cases hstream : h264Stream D B path with
  | none =>
      rw [hstream] at h
      cases h
  | some r =>
      obtain ⟨d, st⟩ := r
      rw [hstream] at h
      dsimp only at h
      split at h
      · cases h
      · split at h
        · obtain rfl := Option.some.inj h
          refine ⟨d, st, rfl, rfl, ?_, rfl⟩
          dsimp only
        · cases h

/-- The parameters of a stream whose extradata holds its parameter sets. -/
theorem describedBy_holds {d : D} {st : AVStream} {sps pps : Bytes}
    (h : MediaSource.Holds st.extradata sps pps) (hsize : st.extradata.length < 2147483648) :
    describedBy B d st MediaSource.noSets =
      { MediaObject.measured (B := B) d st MediaSource.noSets with sps := sps, pps := pps } := by
  unfold describedBy
  rw [MediaSource.parseExtradata_holds h hsize rfl rfl]
  rfl

/-- **From the file to the text**: a DESCRIBE is answered 200 if and only if its URL names a file
    inside of the root in which `open` finds an H.264 stream and gets what it needs to read it. The
    session then has that file at its start, and the body describes its streams: the parameter sets
    that its extradata holds, in whichever format, its sizes and duration, and its audio. -/
theorem file_described (env : Env (MediaSource D B)) (alloc : Bytes → Allocs)
    (s : Session (MediaSource D B)) (req : RTSPRequest)
    (hopens : ∀ path, env.openSource path = openNew path (alloc path)) :
    ∃ resp path, path = describedPath env s.mediaRoot req.url ∧
      (s.handleDescribe env req).log = s.log ++ [.response resp] ∧
      (resp.status = 200 ↔ NamesFile env s.mediaRoot req.url ∧ Opens D B path (alloc path)) ∧
      (resp.status = 200 → ∃ d st m, h264Stream D B path = some (d, st) ∧
        (s.handleDescribe env req).mediaSource = some m ∧ m.fmtCtx = d ∧
        ∀ sps pps, MediaSource.Holds st.extradata sps pps → st.extradata.length < 2147483648 →
          m.streamInfo =
              { MediaObject.measured (B := B) d st MediaSource.noSets with sps := sps, pps := pps } ∧
            resp.body =
              SDPBuilder.build m.streamInfo (ascii "0.0.0.0") (streamName req.url) req.url 96
                (audioOf B (alloc path).audioPkt d).2 97) := by
  obtain ⟨path, hpath⟩ : ∃ path, path = describedPath env s.mediaRoot req.url := ⟨_, rfl⟩
  have hopen := (hopens path).trans (openNew_eq path (alloc path))
  have hiff := opened_isSome_iff (D := D) (B := B) path (alloc path) .nothing
  rw [← hopen] at hiff
  unfold handleDescribe
  rcases openMedia_cases env req.url req.cseq { s with mediaSource := none } with
    ⟨m, hnames, hsource, heq⟩ | ⟨code, reason, source, hcode, hfails, heq⟩
  · rw [← hpath] at hsource
    rw [heq]
    rw [hsource] at hopen hiff
    obtain ⟨d, st, hstream, hd, hinfo, haudio⟩ := opened_streams hopen.symm
    refine ⟨_, path, hpath, rfl, ⟨fun _ => ⟨hnames, hiff.mp rfl⟩, fun _ => rfl⟩, fun _ => ?_⟩
    refine ⟨d, st, m, hstream, rfl, hd, fun sps pps hholds hsize => ⟨?_, ?_⟩⟩
    · exact hinfo.trans (describedBy_holds hholds hsize)
    · rw [← haudio]
      rfl
  · rw [heq]
    refine ⟨RTSPResponse.error env.timestamp req.cseq code (ascii reason), path, hpath, rfl, ?_,
      fun h => absurd h hcode⟩
    refine ⟨fun h => absurd h hcode, fun h => absurd ⟨h.1, ?_⟩ hfails⟩
    rw [← hpath]
    exact hiff.mpr h.2

/-- The machine with one media file, which `open` opens. -/
def oneStream : Env (MediaSource PacketList Unit) :=
  { oneFile with openSource := fun path => openNew path ⟨true, true⟩ }

/-- The extradata of the file in Annex B. -/
theorem holds_twoUnits :
    MediaSource.Holds [0, 0, 1, 0x67, 0x64, 0, 0x1f, 0, 0, 1, 0x68, 0xee] [0x67, 0x64, 0, 0x1f]
      [0x68, 0xee] := by
  refine .annexB [(false, [0x67, 0x64, 0, 0x1f]), (false, [0x68, 0xee])] rfl ?_ rfl rfl
  intro u hu
  rcases List.mem_cons.mp hu with rfl | hu
  · refine ⟨by decide, fun k hk => ?_, by decide⟩
    match k with
    | 0 => exact absurd hk (by decide)
    | 1 => exact absurd hk (by decide)
    | k + 2 =>
        have hlen := hk.length_le
        simp at hlen
        omega
  · obtain rfl := List.mem_singleton.mp hu
    refine ⟨by decide, fun k hk => ?_, by decide⟩
    have hlen := hk.length_le
    simp at hlen
    omega

theorem file_described_oneStream : ∃ resp m,
    (client.handleDescribe oneStream (describeRequest "rtsp://h/a.mp4")).log =
        client.log ++ [.response resp] ∧ resp.status = 200 ∧
      (client.handleDescribe oneStream (describeRequest "rtsp://h/a.mp4")).mediaSource = some m ∧
      m.streamInfo.sps = [0x67, 0x64, 0, 0x1f] ∧ m.streamInfo.pps = [0x68, 0xee] ∧
      resp.body =
        SDPBuilder.build m.streamInfo (ascii "0.0.0.0") (ascii "a.mp4") (ascii "rtsp://h/a.mp4") 96
          noAudio 97 := by
  obtain ⟨resp, path, rfl, hlog, hstatus, hok⟩ := file_described oneStream (fun _ => ⟨true, true⟩)
    client (describeRequest "rtsp://h/a.mp4") fun _ => rfl
  have hserves : resp.status = 200 := by
    refine hstatus.mpr ⟨⟨by decide +kernel, by decide +kernel, by decide +kernel,
      by decide +kernel⟩, _, _, rfl, ?_, rfl⟩
    exact Option.some_ne_none _
  obtain ⟨d, st, m, hstream, hsource, -, hdescribes⟩ := hok hserves
  obtain ⟨rfl, rfl⟩ := Prod.mk.inj (Option.some.inj hstream)
  obtain ⟨hinfo, hbody⟩ := hdescribes _ _ holds_twoUnits (by decide)
  refine ⟨resp, m, hlog, hserves, hsource, by rw [hinfo], by rw [hinfo], hbody.trans ?_⟩
  rfl

end RtspServer
