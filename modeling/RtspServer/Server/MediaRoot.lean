/-
  The path that a DESCRIBE opens. Whatever the URL holds (escapes, empty names, `.` and `..`, a
  track suffix, an absolute path behind the second slash), `openMedia` hands a path over only if
  it names the media root or something below it.

  Scope: `std::filesystem` taken lexically (`Filesystem.Lexical`). A symbolic link below the
  root leads wherever it leads.
-/
import RtspServer.Lib.LexicalPath
import RtspServer.Server.SessionRuns

namespace RtspServer

open ByteString LexicalPath

/-- What is assumed of `std::filesystem` in a process that runs in `cwd`: no symbolic links. -/
structure Filesystem.Lexical (fs : Filesystem) (cwd : Bytes) : Prop where
  append : ∀ p q, fs.append p q = LexicalPath.append p q
  weaklyCanonical : ∀ p, fs.weaklyCanonical p = lexicallyNormal (LexicalPath.append cwd p)
  relative : ∀ p base, fs.relative p base = some (lexicallyRelative p base)

namespace Session

/-- The normalized absolute form of `path` is that of `root` or lies below it, component by
    component. -/
def Inside (cwd root path : Bytes) : Prop :=
  names (lexicallyNormal (append cwd root)) <+: names (lexicallyNormal (append cwd path))

theorem firstComponent_of_up {p : Bytes} (h : firstName p = dotDot) :
    firstComponent p = ascii ".." := by
  unfold firstComponent
  split
  · next hslash =>
      cases p with
      | nil => cases h
      | cons c p =>
          -- a leading separator leaves no first name
          rw [Option.some_inj.mp hslash, firstName, List.takeWhile_cons_of_neg (by decide)] at h
          cases h
  · exact h

/-- The traversal check lets nothing out. -/
theorem inside_of_not_escaped {fs : Filesystem} {cwd : Bytes} (hfs : fs.Lexical cwd)
    {root path : Bytes} (h : escaped fs root path = false) : Inside cwd root path := by
  refine (below_or_up (append cwd path) (append cwd root)).resolve_right fun hup => ?_
  have hne : lexicallyRelative (lexicallyNormal (append cwd path))
      (lexicallyNormal (append cwd root)) ≠ [] := by
    intro hnil
    rw [hnil] at hup
    cases hup
  unfold escaped at h
  rw [hfs.relative, hfs.weaklyCanonical, hfs.weaklyCanonical] at h
  dsimp only at h
  rw [firstComponent_of_up hup, decide_eq_true hne, Bool.true_and] at h
  exact of_decide_eq_false h rfl

variable {M : Type}

/-- The URL gets an error, whatever `MediaSource::open` would do. -/
def RefusesUrl (env : Env M) (url : Bytes) (cseq : Int) (s : Session M) : Prop :=
  ∃ code reason, 400 ≤ code ∧ ∀ openSource : Bytes → Option M,
    openMedia { env with openSource := openSource } url cseq s =
      (false, s.sendError env cseq code reason)

/-- `path` is what `MediaSource::open` is called with, and what it returns decides. -/
def HandsOver (env : Env M) (url : Bytes) (cseq : Int) (s : Session M) (path : Bytes) : Prop :=
  ∀ openSource : Bytes → Option M,
    openMedia { env with openSource := openSource } url cseq s =
      match openSource path with
      | none =>
          (false, { s.sendError env cseq 415 "Unsupported Media Type" with mediaSource := none })
      | some source => (true, { s with mediaSource := some source })

/-- **No path escape**: a URL is refused, or the path it leads to lies inside the media root. -/
theorem openMedia_inside {env : Env M} {cwd : Bytes} (hfs : env.fs.Lexical cwd) (url : Bytes)
    (cseq : Int) (s : Session M) :
    RefusesUrl env url cseq s ∨
      ∃ path, Inside cwd s.mediaRoot path ∧ HandsOver env url cseq s path := by
  let full := env.fs.append s.mediaRoot (relativePath (StringUtils.urlPath url))
  by_cases hpath : StringUtils.urlPath url = [] ∨ StringUtils.urlPath url = ascii "/"
  · refine .inl ⟨404, "Not Found", by decide, fun openSource => ?_⟩
    exact if_pos hpath
  cases hesc : escaped env.fs s.mediaRoot full with
  | true =>
      refine .inl ⟨403, "Forbidden", by decide, fun openSource => ?_⟩
      exact (if_neg hpath).trans (if_pos hesc)
  | false =>
      have hin : ¬ escaped env.fs s.mediaRoot full = true := by rw [hesc]; exact Bool.false_ne_true
      by_cases hpresent : env.fs.isPresent full = true
      · refine .inr ⟨full, inside_of_not_escaped hfs hesc, fun openSource => ?_⟩
        exact (if_neg hpath).trans ((if_neg hin).trans (if_neg (not_not.mpr hpresent)))
      · refine .inl ⟨404, "Not Found", by decide, fun openSource => ?_⟩
        exact (if_neg hpath).trans ((if_neg hin).trans (if_pos hpresent))

/-- A machine that runs in `/srv` with the media in `/srv/media`, taken lexically. -/
def lexicalFs : Filesystem :=
  { append := append
    weaklyCanonical := fun p => lexicallyNormal (append (ascii "/srv") p)
    relative := fun p base => some (lexicallyRelative p base)
    isPresent := fun _ => true }

theorem lexicalFs_lexical : lexicalFs.Lexical (ascii "/srv") :=
  ⟨fun _ _ => rfl, fun _ => rfl, fun _ _ => rfl⟩

/-- A viewer of that machine. -/
def srvClient : Session Unit := Session.new (ascii "10.0.0.2") (ascii "media") (ascii "7") 1 2

/-- Everything there can be opened. -/
def srvEnv : Env Unit :=
  { fs := lexicalFs, openSource := fun _ => some (), setupUDP := fun _ _ => none
    stod := fun _ => none, timestamp := [], now := 0, outboxLoad := fun _ => 0 }

theorem openMedia_inside_escapes :
    (RefusesUrl srvEnv (ascii "rtsp://h/%2e%2e/etc/passwd") 2 srvClient ∨
      ∃ path, Inside (ascii "/srv") (ascii "media") path ∧
        HandsOver srvEnv (ascii "rtsp://h/%2e%2e/etc/passwd") 2 srvClient path) ∧
    (openMedia srvEnv (ascii "rtsp://h/%2e%2e/etc/passwd") 2 srvClient).1 = false ∧
    (openMedia srvEnv (ascii "rtsp://h///etc/passwd") 2 srvClient).1 = false ∧
    (openMedia srvEnv (ascii "rtsp://h/b/..%2fa.mp4/trackID=0") 2 srvClient).1 = true :=
  ⟨openMedia_inside lexicalFs_lexical _ 2 srvClient, by decide +kernel, by decide +kernel,
    by decide +kernel⟩

end Session

end RtspServer
