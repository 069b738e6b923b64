/-
  Which file a URL names. A file below the media root is asked for with its percent-encoded
  path, `rtsp://host:port/p`, and each of its tracks with `/trackID=n` behind that. `openMedia`
  undoes the encoding and takes a track suffix off, but it takes the last segment for one
  whenever `track` occurs in it: a file in a directory that has `track` in its name is not found
  under its own URL.
-/
import RtspServer.Server.MediaRoot
import RtspServer.Utils.UrlDecode

namespace RtspServer

open ByteString LexicalPath PercentEncoding

namespace StringUtils

theorem rfindByte_none {s : Bytes} {c : UInt8} (h : c ∉ s) : rfindByte s c = none := by
  have hidx : s.reverse.findIdx? (· == c) = none := by
    rw [List.findIdx?_eq_none_iff]
    intro d hd
    have hne : d ≠ c := fun heq => h (heq ▸ List.mem_reverse.mp hd)
    exact beq_eq_false_iff_ne.mpr hne
  rw [rfindByte, hidx]
  rfl

theorem rfindByte_append (s : Bytes) {c : UInt8} {t : Bytes} (h : c ∉ t) :
    rfindByte (s ++ c :: t) c = some s.length := by
  have hidx : (s ++ c :: t).reverse.findIdx? (· == c) = some t.length := by
    have hnone : t.reverse.findIdx? (· == c) = none := by
      rw [List.findIdx?_eq_none_iff]
      intro d hd
      have hne : d ≠ c := fun heq => h (heq ▸ List.mem_reverse.mp hd)
      exact beq_eq_false_iff_ne.mpr hne
    rw [List.reverse_append, List.reverse_cons, List.append_assoc, List.findIdx?_append, hnone,
      List.singleton_append, List.findIdx?_cons, beq_self_eq_true]
    simp
  rw [rfindByte, hidx, Option.map_some, List.length_append, List.length_cons]
  congr 1
  omega

/-- What `stripTrackSuffix` takes for the name of a track. -/
def NamesTrack (segment : Bytes) : Prop := ascii "track" <:+: toLower segment

instance (segment : Bytes) : Decidable (NamesTrack segment) :=
  inferInstanceAs (Decidable (_ <:+: _))

theorem stripTrackSuffix_name {name : Bytes} (h : slash ∉ name) : stripTrackSuffix name = name := by
  unfold stripTrackSuffix
  rw [show '/'.toUInt8 = slash from rfl, rfindByte_none h]

theorem stripTrackSuffix_of_rfind {path : Bytes} {n : Nat}
    (h : rfindByte path '/'.toUInt8 = some (n + 1)) :
    stripTrackSuffix path = if NamesTrack (path.drop (n + 2)) then path.take (n + 1) else path := by
  have hiff : ((find (toLower (path.drop (n + 2))) (ascii "trackid") 0).isSome = true ∨
      (find (toLower (path.drop (n + 2))) (ascii "track") 0).isSome = true) ↔
      NamesTrack (path.drop (n + 2)) := by
    rw [find_zero, find_zero, indexOf_isSome_iff, indexOf_isSome_iff]
    refine ⟨fun hor => hor.elim (fun hid => ?_) id, .inr⟩
    exact List.IsInfix.trans (by decide) hid
  unfold stripTrackSuffix
  rw [h]
  by_cases htrack : NamesTrack (path.drop (n + 2))
  · exact (if_pos (hiff.mpr htrack)).trans (if_pos htrack).symm
  · exact (if_neg fun h => htrack (hiff.mp h)).trans (if_neg htrack).symm

theorem stripTrackSuffix_segment {dir segment : Bytes} (hdir : dir ≠ []) (h : slash ∉ segment) :
    stripTrackSuffix (dir ++ slash :: segment) =
      if NamesTrack segment then dir else dir ++ slash :: segment := by
  obtain ⟨n, hn⟩ : ∃ n, dir.length = n + 1 :=
    Nat.exists_eq_succ_of_ne_zero fun h0 => hdir (List.length_eq_zero_iff.mp h0)
  have hdrop : (dir ++ slash :: segment).drop (n + 2) = segment := by
    rw [show n + 2 = dir.length + 1 by omega, ← List.drop_drop, List.drop_left]
    rfl
  have hfind : rfindByte (dir ++ slash :: segment) '/'.toUInt8 = some (n + 1) := by
    rw [← hn]
    exact rfindByte_append dir h
  rw [stripTrackSuffix_of_rfind hfind, hdrop, ← hn, List.take_left]

/-- The path of a URL starts at the slash behind the host and the port. -/
theorem urlPath_rtsp {authority : Bytes} (h : slash ∉ authority) (rest : Bytes) :
    urlPath (ascii "rtsp://" ++ (authority ++ slash :: rest)) = slash :: rest := by
  have hscheme : find (ascii "rtsp://" ++ (authority ++ slash :: rest)) (ascii "//") 0 = some 5 :=
    rfl
  have hslash : find (ascii "rtsp://" ++ (authority ++ slash :: rest)) (ascii "/") 7 =
      some (7 + authority.length) :=
    congrArg (Option.map (7 + ·)) (indexOf_byte h rest)
  unfold urlPath
  rw [hscheme]
  dsimp only
  rw [hslash]
  dsimp only
  rw [← List.drop_drop]
  exact List.drop_left

end StringUtils

namespace Session

open StringUtils

/-- A file below the media root: its directories and its name. -/
structure MediaFile where
  dirs : List Bytes
  name : Bytes
  plain : ∀ segment ∈ dirs ++ [name], Plain segment

namespace MediaFile

/-- The path relative to the media root. -/
def path (f : MediaFile) : Bytes := f.dirs.flatMap (· ++ [slash]) ++ f.name

/-- In the root itself there is no slash; else the path of the last directory comes first. -/
theorem path_cases (f : MediaFile) :
    (f.dirs = [] ∧ f.path = f.name) ∨
      f.dirs ≠ [] ∧ ∃ dir, dir ≠ [] ∧ f.path = dir ++ slash :: f.name := by
  rcases List.eq_nil_or_concat f.dirs with hnil | ⟨dirs, last, hlast⟩
  · exact .inl ⟨hnil, by rw [path, hnil]; rfl⟩
  · refine .inr ⟨by rw [hlast]; simp, dirs.flatMap (· ++ [slash]) ++ last, ?_, ?_⟩
    · have hne : last ≠ [] := (f.plain last (by rw [hlast]; simp)).ne_nil
      exact fun h => hne (List.append_eq_nil_iff.mp h).2
    · rw [path, hlast]
      simp

theorem name_plain (f : MediaFile) : Plain f.name := f.plain f.name (by simp)

/-- A path starts with a name. -/
theorem path_start (f : MediaFile) : ∃ c rest, f.path = c :: rest ∧ c ≠ slash := by
  obtain ⟨segment, rest, hsegment, hpath⟩ :
      ∃ segment rest, Plain segment ∧ f.path = segment ++ rest := by
    cases hdirs : f.dirs with
    | nil => exact ⟨f.name, [], f.name_plain, by rw [path, hdirs]; simp⟩
    | cons d dirs =>
        refine ⟨d, slash :: (dirs.flatMap (· ++ [slash]) ++ f.name), ?_, ?_⟩
        · exact f.plain d (by rw [hdirs]; simp)
        · rw [path, hdirs]
          simp
  cases segment with
  | nil => exact absurd rfl hsegment.ne_nil
  | cons c s =>
      refine ⟨c, s ++ rest, hpath, fun heq => hsegment.not_mem ?_⟩
      rw [heq]
      exact List.mem_cons_self

theorem dropSlash_path (f : MediaFile) (t : Bytes) : dropSlash (f.path ++ t) = f.path ++ t := by
  obtain ⟨c, rest, hpath, hne⟩ := f.path_start
  rw [hpath]
  exact if_neg hne

theorem path_ne_nil (f : MediaFile) : f.path ≠ [] := by
  obtain ⟨c, rest, hpath, -⟩ := f.path_start
  rw [hpath]
  exact List.cons_ne_nil c rest

/-- The path keeps its last segment. -/
def Kept (f : MediaFile) : Prop := f.dirs = [] ∨ ¬ NamesTrack f.name

instance (f : MediaFile) : Decidable f.Kept := inferInstanceAs (Decidable (_ ∨ _))

theorem stripTrackSuffix_path (f : MediaFile) : stripTrackSuffix f.path = f.path ↔ f.Kept := by
  rcases f.path_cases with ⟨hdirs, hpath⟩ | ⟨hdirs, dir, hdir, hpath⟩
  · rw [hpath]
    exact iff_of_true (stripTrackSuffix_name f.name_plain.not_mem) (.inl hdirs)
  · rw [hpath, stripTrackSuffix_segment hdir f.name_plain.not_mem]
    by_cases htrack : NamesTrack f.name
    · rw [if_pos htrack]
      refine iff_of_false (fun h => ?_) fun h => h.elim hdirs (not_not.mpr htrack)
      exact List.cons_ne_nil slash f.name (List.self_eq_append_right.mp h)
    · rw [if_neg htrack]
      exact iff_of_true rfl (.inr htrack)

end MediaFile

/-- The suffix that the SDP gives track `n`. -/
def trackSuffix (n : Nat) : Bytes := ascii "/trackID=" ++ Decimal.natDigits n

/-- Bytes that need not be encoded: printable ones other than space and `%`. -/
def Printable (c : UInt8) : Prop := 33 ≤ c ∧ c ≤ 126 ∧ c ≠ percent

instance (c : UInt8) : Decidable (Printable c) := inferInstanceAs (Decidable (_ ∧ _))

/-- The URL of what is written `encoded`. -/
def rtspUrl (authority encoded : Bytes) : Bytes :=
  ascii "rtsp://" ++ (authority ++ slash :: encoded)

/-- What `openMedia` looks for below the media root is `p`. -/
def Resolves (url p : Bytes) : Prop :=
  urlPath url ≠ [] ∧ urlPath url ≠ ascii "/" ∧ relativePath (urlPath url) = p

variable {M : Type}

theorem openMedia_of_resolves {url p : Bytes} (h : Resolves url p) (env : Env M) (cseq : Int)
    (s : Session M) :
    openMedia env url cseq s =
      if escaped env.fs s.mediaRoot (env.fs.append s.mediaRoot p) then
        (false, s.sendError env cseq 403 "Forbidden")
      else if ¬ env.fs.isPresent (env.fs.append s.mediaRoot p) then
        (false, s.sendError env cseq 404 "Not Found")
      else
        match env.openSource (env.fs.append s.mediaRoot p) with
        | none =>
            (false, { s.sendError env cseq 415 "Unsupported Media Type" with mediaSource := none })
        | some source => (true, { s with mediaSource := some source }) := by
  obtain ⟨hempty, hroot, rfl⟩ := h
  exact if_neg (not_or.mpr ⟨hempty, hroot⟩)

/-- The path that a URL leads to. -/
theorem resolves_iff {authority encoded q p : Bytes} (hauthority : slash ∉ authority)
    (hencoded : Encodes (· ≠ percent) q encoded) (hq : q ≠ []) :
    Resolves (rtspUrl authority encoded) p ↔ dropSlash (stripTrackSuffix q) = p := by
  have hpath : urlPath (rtspUrl authority encoded) = slash :: encoded :=
    urlPath_rtsp hauthority encoded
  have hdecoded : urlDecode (slash :: encoded) = slash :: q := by
    rw [urlDecode_cons (by decide), urlDecode_of_encodes hencoded]
  have hne : encoded ≠ [] := by
    rintro rfl
    exact hq (urlDecode_of_encodes hencoded).symm
  unfold Resolves relativePath
  rw [hpath, hdecoded, show dropSlash (slash :: q) = q from rfl]
  refine ⟨fun h => h.2.2, fun h => ⟨List.cons_ne_nil _ _, fun heq => ?_, h⟩⟩
  exact hne (List.cons.inj heq).2

theorem stripTrackSuffix_track (f : MediaFile) (n : Nat) :
    stripTrackSuffix (f.path ++ trackSuffix n) = f.path := by
  have hsuffix : trackSuffix n = slash :: (ascii "trackID=" ++ Decimal.natDigits n) := rfl
  have hslash : slash ∉ ascii "trackID=" ++ Decimal.natDigits n := by
    intro h
    rcases List.mem_append.mp h with h | h
    · exact absurd h (by decide)
    · exact absurd (Decimal.isDigit_natDigits h) (by decide)
  have htrack : NamesTrack (ascii "trackID=" ++ Decimal.natDigits n) := by
    have hlower : toLower (ascii "trackID=" ++ Decimal.natDigits n) =
        toLower (ascii "trackID=") ++ toLower (Decimal.natDigits n) := List.map_append
    exact ⟨[], ascii "id=" ++ toLower (Decimal.natDigits n), hlower.symm⟩
  rw [hsuffix, stripTrackSuffix_segment f.path_ne_nil hslash, if_pos htrack]

theorem resolves_track (f : MediaFile) {authority encoded : Bytes} (hauthority : slash ∉ authority)
    (hencoded : Encodes Printable f.path encoded) (n : Nat) :
    Resolves (rtspUrl authority (encoded ++ trackSuffix n)) f.path := by
  have hkept : ∀ c ∈ trackSuffix n, c ≠ percent := by
    intro c hc
    rcases List.mem_append.mp hc with hc | hc
    · rintro rfl
      exact absurd hc (by decide)
    · rintro rfl
      exact absurd (Decimal.isDigit_natDigits hc) (by decide)
  have hboth := (hencoded.mono fun _ h => h.2.2).append (.literal hkept)
  rw [resolves_iff hauthority hboth (by simp [f.path_ne_nil]), stripTrackSuffix_track]
  simpa using f.dropSlash_path []

theorem resolves_plain (f : MediaFile) {authority encoded : Bytes} (hauthority : slash ∉ authority)
    (hencoded : Encodes Printable f.path encoded) :
    Resolves (rtspUrl authority encoded) f.path ↔ f.Kept := by
  rw [resolves_iff hauthority (hencoded.mono fun _ h => h.2.2) f.path_ne_nil,
    ← f.stripTrackSuffix_path]
  have hpath : dropSlash f.path = f.path := by simpa using f.dropSlash_path []
  constructor
  · intro h
    rcases f.path_cases with ⟨-, heq⟩ | ⟨-, dir, hdir, heq⟩
    · rw [heq]
      exact stripTrackSuffix_name f.name_plain.not_mem
    · -- the directory alone is too short to be the path
      rw [heq, stripTrackSuffix_segment hdir f.name_plain.not_mem] at h ⊢
      split at h
      · have hlen : (dropSlash dir).length ≤ dir.length := by
          unfold dropSlash
          split
          · exact le_refl 0
          · split <;> simp
        rw [h] at hlen
        simp at hlen
      · next htrack => exact if_neg htrack
  · intro h
    rw [h, hpath]

/-- **Which files are addressable**: of every file below the root, however its path is encoded,
    the URLs of the tracks lead to the file; the URL of the file itself does so too if and only
    if it lies in the root or `track` does not occur in its name, in any letter case. -/
theorem addressable_iff (f : MediaFile) {authority encoded : Bytes} (hauthority : slash ∉ authority)
    (hencoded : Encodes Printable f.path encoded) :
    (Resolves (rtspUrl authority encoded) f.path ∧
      ∀ n, Resolves (rtspUrl authority (encoded ++ trackSuffix n)) f.path) ↔ f.Kept :=
  ⟨fun h => (resolves_plain f hauthority hencoded).mp h.1, fun h =>
    ⟨(resolves_plain f hauthority hencoded).mpr h, resolves_track f hauthority hencoded⟩⟩

/-- A clip in a directory, with a space in its name. -/
def clip : MediaFile :=
  { dirs := [ascii "trailers"], name := ascii "my clip.mp4"
    plain := by decide }

theorem addressable_iff_clip :
    (Resolves (rtspUrl (ascii "h:554") (ascii "trailers/my%20clip.mp4")) clip.path ∧
      ∀ n, Resolves (rtspUrl (ascii "h:554") (ascii "trailers/my%20clip.mp4" ++ trackSuffix n))
        clip.path) ↔ clip.Kept := by
  refine addressable_iff clip (by decide) ?_
  have hspace : Encodes Printable [32] (ascii "%20") :=
    ⟨[.escape false false 32], fun c hc => by simp at hc, by decide, by decide⟩
  have hdir : Encodes Printable (ascii "trailers/my") (ascii "trailers/my") :=
    .literal (by decide +kernel)
  have hname : Encodes Printable (ascii "clip.mp4") (ascii "clip.mp4") :=
    .literal (by decide +kernel)
  exact (hdir.append hspace).append hname

/-- The music of a film, kept beside it. -/
def soundtrack : MediaFile :=
  { dirs := [ascii "film"], name := ascii "soundtrack.mp4"
    plain := by decide }

/-- Its URL leads to the directory. -/
theorem soundtrack_not_addressable :
    Encodes Printable soundtrack.path (ascii "film/soundtrack.mp4") ∧
      ¬ Resolves (rtspUrl (ascii "h:554") (ascii "film/soundtrack.mp4")) soundtrack.path ∧
      Resolves (rtspUrl (ascii "h:554") (ascii "film/soundtrack.mp4")) (ascii "film") := by
  refine ⟨.literal (by decide +kernel), fun h => ?_, by decide +kernel, by decide +kernel,
    by decide +kernel⟩
  exact absurd h.2.2 (by decide +kernel)

end Session

end RtspServer
