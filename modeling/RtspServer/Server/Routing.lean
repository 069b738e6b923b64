/-
  Model of how requests travel from a connection to its session: the Dispatcher
  (`dispatcherLoop`, `acceptClient`, `closeSession`), which reads requests from the session of a
  descriptor and pushes them to `cmd_queue_` with the descriptor's number, and the Logic thread
  (`logicLoop`), which pops a pair, looks the number up in `sessions_` and pushes the request to
  the session it finds. A session object lives as long as something refers to it: the map, a
  local of one of the two threads, the pacer's snapshot or a task of the pool. The destructor
  closes the descriptor, and `accept4` may return any number that is not open. Requests are of
  any type.

  Sessions are numbered in the order of their creation. `parsed` and `pushed` are logs, and
  `src` is the session a request was read from; no step reads them.

  A request can reach another session: the session is closed while the request is in flight, and
  the next connection gets the same number. `routed_of_run` shows that this is the only way:
  in every run in which `accept4` never returns a number that a request in flight carries, the
  requests pushed to a session are a prefix of those parsed from its connection.
-/
import RtspServer.Lib.Lts
import Mathlib.Data.List.AList

namespace RtspServer.Routing

variable {R : Type}

/-! ## The two threads -/

/-- An element of `cmd_queue_`. -/
structure Msg (R : Type) where
  fd : Nat
  req : R
  src : Nat

/-- Where the Dispatcher is, with the session it holds a reference to. -/
inductive DispatcherPc (R : Type) where
  | idle
  /-- `acceptClient` has made the session, `sessions_.emplace` is next -/
  | created (sid : Nat)
  /-- `epoll_ctl` to add the descriptor is next -/
  | emplaced (sid : Nat)
  /-- the descriptor was found in `sessions_`, `onReadable` is next -/
  | reading (fd sid : Nat)
  /-- requests are left to be pushed to `cmd_queue_` -/
  | pushing (fd sid : Nat) (rest : List R)
  /-- the session is out of `sessions_`, its local reference is left -/
  | closing (sid : Nat)

/-- Where the Logic thread is. -/
inductive LogicPc (R : Type) where
  | idle
  /-- popped, the look-up is next -/
  | popped (m : Msg R)
  /-- the session is found, `pushCommand` is next -/
  | holding (sid : Nat) (m : Msg R)
  /-- the request is pushed, the local reference is left -/
  | leaving (sid : Nat)

structure RouteState (R : Type) where
  /-- the number of sessions created so far -/
  next : Nat
  /-- `fd_` of each session -/
  fdOf : Nat → Nat
  /-- the open descriptors of clients -/
  openFds : List Nat
  sessions : AList fun _ : Nat => Nat
  /-- references held by the pacer's snapshot and the tasks of the pool -/
  pool : List Nat
  dispatcher : DispatcherPc R
  logic : LogicPc R
  cmdQueue : List (Msg R)
  parsed : Nat → List R
  pushed : Nat → List (Msg R)

def init : RouteState R :=
  { next := 0, fdOf := fun _ => 0, openFds := [], sessions := ∅, pool := [], dispatcher := .idle,
    logic := .idle, cmdQueue := [], parsed := fun _ => [], pushed := fun _ => [] }

/-- The steps. -/
inductive Act (R : Type) where
  /-- `accept4` returns the descriptor and the session is made -/
  | accept (fd : Nat)
  /-- `sessions_.emplace` -/
  | emplace
  /-- `epoll_ctl` to add the descriptor; when it fails the entry is erased -/
  | register (ok : Bool)
  /-- an event of a client descriptor: the look-up in `sessions_` -/
  | find (fd : Nat)
  /-- `onReadable` returns true with these requests -/
  | read (reqs : List R)
  /-- `cmd_queue_.push` -/
  | push
  /-- `closeSession`, on a hang-up or when `onReadable` or `onWritable` returned false -/
  | close (fd : Nat)
  /-- the Dispatcher's reference goes out of scope -/
  | leave
  /-- Logic: `cmd_queue_.try_pop` -/
  | pop
  /-- Logic: the look-up in `sessions_` -/
  | route
  /-- Logic: `pushCommand` -/
  | pushCommand
  /-- Logic: its reference goes out of scope -/
  | logicLeave
  /-- the pacer or a task takes a reference -/
  | acquire (sid : Nat)
  /-- the pacer or a task drops one -/
  | release (sid : Nat)

def DispatcherPc.holds (sid : Nat) : DispatcherPc R → Bool
  | .idle => false
  | .created i | .emplaced i | .reading _ i | .pushing _ i _ | .closing i => i = sid

def LogicPc.holds (sid : Nat) : LogicPc R → Bool
  | .idle | .popped _ => false
  | .holding i _ | .leaving i => i = sid

/-- Something refers to the session object. -/
def referenced (s : RouteState R) (sid : Nat) : Bool :=
  s.sessions.entries.any (·.2 = sid) || s.dispatcher.holds sid || s.logic.holds sid ||
    s.pool.contains sid

/-- A reference has been dropped: with the last one the destructor closes the descriptor. -/
def drop (s : RouteState R) (sid : Nat) : RouteState R :=
  if referenced s sid then s else { s with openFds := s.openFds.filter (· ≠ s.fdOf sid) }

/-- `std::unordered_map::emplace`: an existing entry stays. -/
def emplace (m : AList fun _ : Nat => Nat) (fd sid : Nat) : AList fun _ : Nat => Nat :=
  if (m.lookup fd).isSome then m else m.insert fd sid

def dispatcherStep (s : RouteState R) : Act R → Option (RouteState R)
  | .accept fd =>
      match s.dispatcher with
      | .idle =>
          if fd ∈ s.openFds then none
          else some { s with
            next := s.next + 1, fdOf := Function.update s.fdOf s.next fd
            openFds := fd :: s.openFds, dispatcher := .created s.next }
      | _ => none
  | .emplace =>
      match s.dispatcher with
      | .created sid => some { s with
          sessions := emplace s.sessions (s.fdOf sid) sid, dispatcher := .emplaced sid }
      | _ => none
  | .register ok =>
      match s.dispatcher with
      | .emplaced sid =>
          let m := if ok then s.sessions else s.sessions.erase (s.fdOf sid)
          some (drop { s with sessions := m, dispatcher := .idle } sid)
      | _ => none
  | .find fd =>
      match s.dispatcher, s.sessions.lookup fd with
      | .idle, some sid => some { s with dispatcher := .reading fd sid }
      | .idle, none => some s
      | _, _ => none
  | .read reqs =>
      match s.dispatcher with
      | .reading fd sid => some { s with
          parsed := Function.update s.parsed sid (s.parsed sid ++ reqs)
          dispatcher := .pushing fd sid reqs }
      | _ => none
  | .push =>
      match s.dispatcher with
      | .pushing fd sid (r :: rest) => some { s with
          cmdQueue := s.cmdQueue ++ [⟨fd, r, sid⟩], dispatcher := .pushing fd sid rest }
      | _ => none
  | .close fd =>
      match s.dispatcher, s.sessions.lookup fd with
      | .idle, some sid => some { s with
          sessions := s.sessions.erase fd, dispatcher := .closing sid }
      | .idle, none => some s
      | .reading fd' _, some sid =>
          if fd' = fd then some { s with
            sessions := s.sessions.erase fd, dispatcher := .closing sid }
          else none
      | _, _ => none
  | .leave =>
      match s.dispatcher with
      | .pushing _ sid [] => some (drop { s with dispatcher := .idle } sid)
      | .closing sid => some (drop { s with dispatcher := .idle } sid)
      | _ => none
  | _ => none

def logicStep (s : RouteState R) : Act R → Option (RouteState R)
  | .pop =>
      match s.logic, s.cmdQueue with
      | .idle, m :: rest => some { s with cmdQueue := rest, logic := .popped m }
      | _, _ => none
  | .route =>
      match s.logic with
      | .popped m =>
          match s.sessions.lookup m.fd with
          | some sid => some { s with logic := .holding sid m }
          | none => some { s with logic := .idle }
      | _ => none
  | .pushCommand =>
      match s.logic with
      | .holding sid m => some { s with
          pushed := Function.update s.pushed sid (s.pushed sid ++ [m]), logic := .leaving sid }
      | _ => none
  | .logicLeave =>
      match s.logic with
      | .leaving sid => some (drop { s with logic := .idle } sid)
      | _ => none
  | _ => none

def poolStep (s : RouteState R) : Act R → Option (RouteState R)
  | .acquire sid =>
      if s.sessions.entries.any (·.2 = sid) then some { s with pool := sid :: s.pool } else none
  | .release sid =>
      if sid ∈ s.pool then some (drop { s with pool := s.pool.erase sid } sid) else none
  | _ => none

/-- One step of any of the threads. -/
def step (s : RouteState R) (a : Act R) : Option (RouteState R) :=
  ((dispatcherStep s a).or (logicStep s a)).or (poolStep s a)

/-! ## Requests in flight -/

/-- What the Dispatcher has left to push. -/
def DispatcherPc.rest : DispatcherPc R → List (Msg R)
  | .pushing fd sid rest => rest.map fun r => ⟨fd, r, sid⟩
  | _ => []

def LogicPc.waiting : LogicPc R → List (Msg R)
  | .popped m => [m]
  | _ => []

def LogicPc.held : LogicPc R → List (Msg R)
  | .holding _ m => [m]
  | _ => []

/-- The requests whose look-up is still to come, in order. -/
def inFlight (s : RouteState R) : List (Msg R) :=
  s.logic.waiting ++ s.cmdQueue ++ s.dispatcher.rest

/-- The requests of the list that were read from the session. -/
def readFrom (sid : Nat) (ms : List (Msg R)) : List R :=
  (ms.filter (·.src = sid)).map (·.req)

/-- The condition on the steps: `accept4` does not return a number that a request in flight
    carries. -/
def FreshFd (s : RouteState R) (a : Act R) : Prop :=
  ∀ fd, a = .accept fd → ∀ m ∈ inFlight s, m.fd ≠ fd

/-- The requests pushed to each session came from its connection, in order, none left out and
    none twice. -/
def InOrder (s : RouteState R) : Prop :=
  ∀ sid, (∀ m ∈ s.pushed sid, m.src = sid) ∧ (s.pushed sid).map (·.req) <+: s.parsed sid

@[simp] theorem readFrom_nil (sid : Nat) : readFrom (R := R) sid [] = [] := rfl

@[simp] theorem readFrom_append (sid : Nat) (ms ns : List (Msg R)) :
    readFrom sid (ms ++ ns) = readFrom sid ms ++ readFrom sid ns := by
  simp [readFrom]

theorem readFrom_all {sid : Nat} {ms : List (Msg R)} (h : ∀ m ∈ ms, m.src = sid) :
    readFrom sid ms = ms.map (·.req) := by
  unfold readFrom
  rw [List.filter_eq_self.mpr (by simpa using h)]

theorem readFrom_none {sid : Nat} {ms : List (Msg R)} (h : ∀ m ∈ ms, m.src ≠ sid) :
    readFrom sid ms = [] := by
  unfold readFrom
  rw [List.filter_eq_nil_iff.mpr (by simpa using h), List.map_nil]

theorem readFrom_rest (fd sid : Nat) (rs : List R) :
    readFrom sid (DispatcherPc.pushing fd sid rs).rest = rs := by
  rw [readFrom_all (by simp [DispatcherPc.rest]), DispatcherPc.rest, List.map_map]
  exact List.map_id rs

theorem readFrom_rest_of_ne {fd sid sid' : Nat} (h : sid ≠ sid') (rs : List R) :
    readFrom sid' (DispatcherPc.pushing fd sid rs).rest = [] :=
  readFrom_none (by simp [DispatcherPc.rest, h])

/-- What holds in every state as long as the numbers of requests in flight are not reused. -/
structure Routed (s : RouteState R) : Prop where
  /-- an entry of `sessions_` is a session with that descriptor -/
  entry : ∀ fd sid, s.sessions.lookup fd = some sid → s.fdOf sid = fd ∧ sid < s.next
  /-- the Dispatcher serves a session that is in `sessions_` -/
  serving : ∀ fd sid, s.dispatcher = .reading fd sid ∨
    (∃ rest, s.dispatcher = .pushing fd sid rest) → s.sessions.lookup fd = some sid
  /-- a session that is being accepted is not in use yet -/
  created : ∀ sid, s.dispatcher = .created sid → sid < s.next ∧
    s.parsed sid = [] ∧ ∀ m ∈ inFlight s, m.fd ≠ s.fdOf sid
  /-- the number of a request in flight leads to its session or nowhere -/
  flight : ∀ m ∈ inFlight s, m.fd = s.fdOf m.src ∧ m.src < s.next ∧
    ∀ sid, s.sessions.lookup m.fd = some sid → sid = m.src
  held : ∀ sid m, s.logic = .holding sid m → m.src = sid
  source : ∀ sid, ∀ m ∈ s.pushed sid, m.src = sid
  /-- nothing of a session in `sessions_` is lost -/
  flow : ∀ fd sid, s.sessions.lookup fd = some sid →
    readFrom sid (s.pushed sid ++ s.logic.held ++ inFlight s) = s.parsed sid
  order : ∀ sid, readFrom sid (s.pushed sid ++ s.logic.held) <+: s.parsed sid
  unborn : ∀ sid, s.next ≤ sid → s.parsed sid = []

theorem routed_init : Routed (init : RouteState R) := by
  constructor <;> simp [init, inFlight, LogicPc.waiting, LogicPc.held, DispatcherPc.rest]

theorem routed_drop {s : RouteState R} (hI : Routed s) (sid : Nat) : Routed (drop s sid) := by
  unfold drop
  split
  · exact hI
  · exact ⟨hI.entry, hI.serving, hI.created, hI.flight, hI.held, hI.source, hI.flow, hI.order,
      hI.unborn⟩

/-! ## The Dispatcher's steps -/

theorem routed_accept {s : RouteState R} {fd : Nat} (hI : Routed s) (hd : s.dispatcher = .idle)
    (hC : ∀ m ∈ inFlight s, m.fd ≠ fd) :
    Routed { s with
      next := s.next + 1, fdOf := Function.update s.fdOf s.next fd
      openFds := fd :: s.openFds, dispatcher := .created s.next } := by
  have hfd : ∀ sid < s.next, Function.update s.fdOf s.next fd sid = s.fdOf sid := fun sid h =>
    Function.update_of_ne (Nat.ne_of_lt h) _ _
  have hfl : inFlight { s with
      next := s.next + 1, fdOf := Function.update s.fdOf s.next fd
      openFds := fd :: s.openFds, dispatcher := .created s.next } = inFlight s := by
    simp [inFlight, hd, DispatcherPc.rest]
  refine ⟨?_, ?_, ?_, ?_, hI.held, hI.source, ?_, hI.order, ?_⟩
  · intro fd' sid h
    obtain ⟨h1, h2⟩ := hI.entry fd' sid h
    exact ⟨(hfd sid h2).trans h1, Nat.lt_succ_of_lt h2⟩
  · intro fd' sid h
    simp at h
  · intro sid h
    obtain rfl : s.next = sid := by simpa using h
    refine ⟨Nat.lt_succ_self _, hI.unborn _ le_rfl, ?_⟩
    intro m hm
    rw [hfl] at hm
    simpa using hC m hm
  · intro m hm
    rw [hfl] at hm
    obtain ⟨h1, h2, h3⟩ := hI.flight m hm
    exact ⟨h1.trans (hfd _ h2).symm, Nat.lt_succ_of_lt h2, h3⟩
  · intro fd' sid h
    rw [hfl]
    exact hI.flow fd' sid h
  · intro sid h
    exact hI.unborn sid (Nat.le_of_succ_le h)

theorem lookup_emplace {m : AList fun _ : Nat => Nat} {fd sid fd' sid' : Nat}
    (h : (emplace m fd sid).lookup fd' = some sid') :
    m.lookup fd' = some sid' ∨ fd' = fd ∧ sid' = sid := by
  unfold emplace at h
  split at h
  · exact .inl h
  · by_cases hf : fd' = fd
    · subst hf
      rw [AList.lookup_insert] at h
      exact .inr ⟨rfl, (Option.some.inj h).symm⟩
    · rw [AList.lookup_insert_ne hf] at h
      exact .inl h

theorem routed_emplace {s : RouteState R} {sid : Nat} (hI : Routed s)
    (hd : s.dispatcher = .created sid) :
    Routed { s with
      sessions := emplace s.sessions (s.fdOf sid) sid, dispatcher := .emplaced sid } := by
  obtain ⟨hlt, hparsed, hfresh⟩ := hI.created sid hd
  have hfl : inFlight { s with
      sessions := emplace s.sessions (s.fdOf sid) sid, dispatcher := .emplaced sid } =
      inFlight s := by
    simp [inFlight, hd, DispatcherPc.rest]
  refine ⟨?_, ?_, ?_, ?_, hI.held, hI.source, ?_, hI.order, hI.unborn⟩
  · intro fd' sid' h
    rcases lookup_emplace h with h | ⟨rfl, rfl⟩
    · exact hI.entry fd' sid' h
    · exact ⟨rfl, hlt⟩
  · intro fd' sid' h
    simp at h
  · intro sid' h
    simp at h
  · intro m hm
    rw [hfl] at hm
    obtain ⟨h1, h2, h3⟩ := hI.flight m hm
    refine ⟨h1, h2, fun sid' h => ?_⟩
    rcases lookup_emplace h with h | ⟨h, -⟩
    · exact h3 sid' h
    · exact absurd h (hfresh m hm)
  · intro fd' sid' h
    rw [hfl]
    rcases lookup_emplace h with h | ⟨rfl, rfl⟩
    · exact hI.flow fd' sid' h
    · -- nothing was parsed from the new session and nothing in flight is its
      have hnone : readFrom sid' (inFlight s) = [] := by
        apply readFrom_none
        intro m hm hsrc
        exact hfresh m hm (by rw [(hI.flight m hm).1, hsrc])
      have hord := hI.order sid'
      rw [hparsed, List.prefix_nil] at hord
      rw [readFrom_append, hnone, hord, hparsed]
      rfl

/-- The entries only become fewer and the Dispatcher has nothing left to push. -/
theorem routed_shrink {s : RouteState R} {m : AList fun _ : Nat => Nat} {d : DispatcherPc R}
    (hI : Routed s) (hsub : ∀ fd sid, m.lookup fd = some sid → s.sessions.lookup fd = some sid)
    (hrest : s.dispatcher.rest = []) (hd : d = .idle ∨ ∃ sid, d = .closing sid) :
    Routed { s with sessions := m, dispatcher := d } := by
  have hfl : inFlight { s with sessions := m, dispatcher := d } = inFlight s := by
    have : d.rest = [] := by rcases hd with rfl | ⟨sid, rfl⟩ <;> rfl
    simp [inFlight, this, hrest]
  refine ⟨fun fd sid h => hI.entry fd sid (hsub fd sid h), ?_, ?_, ?_, hI.held, hI.source, ?_,
    hI.order, hI.unborn⟩
  · intro fd sid h
    rcases hd with rfl | ⟨_, rfl⟩ <;> simp at h
  · intro sid h
    rcases hd with rfl | ⟨_, rfl⟩ <;> simp at h
  · intro m' hm
    rw [hfl] at hm
    obtain ⟨h1, h2, h3⟩ := hI.flight m' hm
    exact ⟨h1, h2, fun sid h => h3 sid (hsub _ _ h)⟩
  · intro fd sid h
    rw [hfl]
    exact hI.flow fd sid (hsub fd sid h)

theorem lookup_erase_sub {m : AList fun _ : Nat => Nat} {fd fd' sid : Nat}
    (h : (m.erase fd).lookup fd' = some sid) : m.lookup fd' = some sid := by
  by_cases hf : fd' = fd
  · rw [hf, AList.lookup_erase] at h
    cases h
  · rwa [AList.lookup_erase_ne hf] at h

theorem routed_find {s : RouteState R} {fd sid : Nat} (hI : Routed s)
    (hd : s.dispatcher = .idle) (h : s.sessions.lookup fd = some sid) :
    Routed { s with dispatcher := .reading fd sid } := by
  have hfl : inFlight { s with dispatcher := .reading fd sid } = inFlight s := by
    simp [inFlight, hd, DispatcherPc.rest]
  refine ⟨hI.entry, ?_, ?_, ?_, hI.held, hI.source, ?_, hI.order, hI.unborn⟩
  · intro fd' sid' h'
    obtain ⟨rfl, rfl⟩ : fd = fd' ∧ sid = sid' := by simpa using h'
    exact h
  · intro sid' h'
    simp at h'
  · rw [hfl]
    exact hI.flight
  · rw [hfl]
    exact hI.flow

theorem routed_read {s : RouteState R} {fd sid : Nat} (reqs : List R) (hI : Routed s)
    (hd : s.dispatcher = .reading fd sid) :
    Routed { s with
      parsed := Function.update s.parsed sid (s.parsed sid ++ reqs)
      dispatcher := .pushing fd sid reqs } := by
  have hserve := hI.serving fd sid (.inl hd)
  obtain ⟨hfd, hlt⟩ := hI.entry fd sid hserve
  have hfl : inFlight { s with
      parsed := Function.update s.parsed sid (s.parsed sid ++ reqs)
      dispatcher := .pushing fd sid reqs } =
      inFlight s ++ (DispatcherPc.pushing fd sid reqs).rest := by
    simp [inFlight, hd, DispatcherPc.rest]
  refine ⟨hI.entry, ?_, ?_, ?_, hI.held, hI.source, ?_, ?_, ?_⟩
  · intro fd' sid' h'
    obtain ⟨rfl, rfl⟩ : fd = fd' ∧ sid = sid' := by simpa using h'
    exact hserve
  · intro sid' h'
    simp at h'
  · intro m hm
    rw [hfl, List.mem_append] at hm
    rcases hm with hm | hm
    · exact hI.flight m hm
    · obtain ⟨r, -, rfl⟩ := List.mem_map.mp hm
      exact ⟨hfd.symm, hlt, fun sid' h' => Option.some.inj (h'.symm.trans hserve)⟩
  · intro fd' sid' h'
    rw [hfl, ← List.append_assoc, readFrom_append, hI.flow fd' sid' h']
    dsimp only
    by_cases hs : sid = sid'
    · subst hs
      rw [readFrom_rest, Function.update_self]
    · rw [readFrom_rest_of_ne hs, Function.update_of_ne (Ne.symm hs), List.append_nil]
  · intro sid'
    refine (hI.order sid').trans ?_
    dsimp only
    by_cases hs : sid' = sid
    · subst hs
      rw [Function.update_self]
      exact List.prefix_append _ _
    · exact (Function.update_of_ne hs _ _).symm ▸ List.prefix_refl _
  · intro sid' h'
    dsimp only at h' ⊢
    rw [Function.update_of_ne (fun hs => absurd h' (by rw [hs]; exact Nat.not_le.mpr hlt))]
    exact hI.unborn sid' h'

theorem routed_push {s : RouteState R} {fd sid : Nat} {r : R} {rest : List R} (hI : Routed s)
    (hd : s.dispatcher = .pushing fd sid (r :: rest)) :
    Routed { s with
      cmdQueue := s.cmdQueue ++ [⟨fd, r, sid⟩], dispatcher := .pushing fd sid rest } := by
  have hfl : inFlight { s with
      cmdQueue := s.cmdQueue ++ [⟨fd, r, sid⟩], dispatcher := .pushing fd sid rest } =
      inFlight s := by
    simp [inFlight, hd, DispatcherPc.rest]
  refine ⟨hI.entry, ?_, ?_, ?_, hI.held, hI.source, ?_, hI.order, hI.unborn⟩
  · intro fd' sid' h'
    obtain ⟨rfl, rfl⟩ : fd = fd' ∧ sid = sid' := by simpa using h'
    exact hI.serving fd sid (.inr ⟨_, hd⟩)
  · intro sid' h'
    simp at h'
  · rw [hfl]
    exact hI.flight
  · rw [hfl]
    exact hI.flow

theorem routed_dispatcherStep {s s' : RouteState R} {a : Act R} (hI : Routed s)
    (hC : FreshFd s a) (h : dispatcherStep s a = some s') : Routed s' := by
  unfold dispatcherStep at h
  split at h
  all_goals (repeat' split at h)
  all_goals cases h
  · next hd _ => exact routed_accept hI hd (hC _ rfl)
  · next hd => exact routed_emplace hI hd
  · next hd _ =>
      apply routed_drop
      exact routed_shrink hI (fun _ _ h => h) (by rw [hd]; rfl) (.inl rfl)
  · next hd _ =>
      apply routed_drop
      exact routed_shrink hI (fun _ _ => lookup_erase_sub) (by rw [hd]; rfl) (.inl rfl)
  · next hd hl => exact routed_find hI hd hl
  · exact hI
  · next hd => exact routed_read _ hI hd
  · next hd => exact routed_push hI hd
  · next hd hl =>
      exact routed_shrink hI (fun _ _ => lookup_erase_sub) (by rw [hd]; rfl) (.inr ⟨_, rfl⟩)
  · exact hI
  · next hd hl _ =>
      exact routed_shrink hI (fun _ _ => lookup_erase_sub) (by rw [hd]; rfl) (.inr ⟨_, rfl⟩)
  · next hd =>
      apply routed_drop
      exact routed_shrink hI (fun _ _ h => h) (by rw [hd]; rfl) (.inl rfl)
  · next hd =>
      apply routed_drop
      exact routed_shrink hI (fun _ _ h => h) (by rw [hd]; rfl) (.inl rfl)

/-! ## The Logic thread's steps -/

/-- The thread moves on with the same requests in flight. -/
theorem routed_logic {s : RouteState R} {q : List (Msg R)} {l : LogicPc R} (hI : Routed s)
    (hfl : l.waiting ++ q = s.logic.waiting ++ s.cmdQueue) (hheld : s.logic.held = [])
    (hl : l.held = []) : Routed { s with cmdQueue := q, logic := l } := by
  have hfl : inFlight { s with cmdQueue := q, logic := l } = inFlight s := by
    simp only [inFlight, hfl]
  refine ⟨hI.entry, hI.serving, ?_, ?_, ?_, hI.source, ?_, ?_, hI.unborn⟩
  · rw [hfl]
    exact hI.created
  · rw [hfl]
    exact hI.flight
  · intro sid m h
    rw [show l = .holding sid m from h] at hl
    cases hl
  · have hflow := hI.flow
    rw [hheld] at hflow
    rw [hfl, hl]
    exact hflow
  · have hord := hI.order
    rw [hheld] at hord
    rw [hl]
    exact hord

theorem routed_route_found {s : RouteState R} {m : Msg R} {sid : Nat} (hI : Routed s)
    (hl : s.logic = .popped m) (hs : s.sessions.lookup m.fd = some sid) :
    Routed { s with logic := .holding sid m } := by
  have hfl : inFlight s = m :: inFlight { s with logic := .holding sid m } := by
    simp [inFlight, hl, LogicPc.waiting]
  have hheld : s.logic.held = [] := by rw [hl]; rfl
  have hsrc : m.src = sid := ((hI.flight m (by rw [hfl]; exact List.mem_cons_self)).2.2 sid hs).symm
  have hmem : ∀ m' ∈ inFlight { s with logic := .holding sid m }, m' ∈ inFlight s := by
    intro m' hm
    rw [hfl]
    exact List.mem_cons_of_mem _ hm
  have hflow : ∀ fd' sid', s.sessions.lookup fd' = some sid' →
      readFrom sid' (s.pushed sid' ++ [m] ++ inFlight { s with logic := .holding sid m }) =
        s.parsed sid' := by
    intro fd' sid' h'
    have := hI.flow fd' sid' h'
    rw [hheld, hfl, List.append_nil] at this
    rw [List.append_assoc, List.singleton_append]
    exact this
  refine ⟨hI.entry, hI.serving, ?_, fun m' hm => hI.flight m' (hmem m' hm), ?_, hI.source, hflow,
    ?_, hI.unborn⟩
  · intro sid' h'
    obtain ⟨h1, h2, h3⟩ := hI.created sid' h'
    exact ⟨h1, h2, fun m' hm => h3 m' (hmem m' hm)⟩
  · intro sid' m' h'
    obtain ⟨rfl, rfl⟩ : sid = sid' ∧ m = m' := by simpa using h'
    exact hsrc
  · intro sid'
    change readFrom sid' (s.pushed sid' ++ [m]) <+: s.parsed sid'
    by_cases hne : sid' = sid
    · subst hne
      rw [← hflow _ _ hs, readFrom_append sid' (s.pushed sid' ++ [m])]
      exact List.prefix_append _ _
    · -- the request is not one of this session
      have hord := hI.order sid'
      rw [hheld, List.append_nil] at hord
      rw [readFrom_append, @readFrom_none _ _ [m] (by simpa [hsrc] using Ne.symm hne),
        List.append_nil]
      exact hord

theorem routed_route_dropped {s : RouteState R} {m : Msg R} (hI : Routed s)
    (hl : s.logic = .popped m) (hs : s.sessions.lookup m.fd = none) :
    Routed { s with logic := .idle } := by
  have hfl : inFlight s = m :: inFlight { s with logic := .idle } := by
    simp [inFlight, hl, LogicPc.waiting]
  have hheld : s.logic.held = [] := by rw [hl]; rfl
  have hfd := (hI.flight m (by rw [hfl]; exact List.mem_cons_self)).1
  have hmem : ∀ m' ∈ inFlight { s with logic := .idle }, m' ∈ inFlight s := by
    intro m' hm
    rw [hfl]
    exact List.mem_cons_of_mem _ hm
  refine ⟨hI.entry, hI.serving, ?_, fun m' hm => hI.flight m' (hmem m' hm), ?_, hI.source, ?_, ?_,
    hI.unborn⟩
  · intro sid' h'
    obtain ⟨h1, h2, h3⟩ := hI.created sid' h'
    exact ⟨h1, h2, fun m' hm => h3 m' (hmem m' hm)⟩
  · intro sid' m' h'
    simp at h'
  · intro fd' sid' h'
    -- a session in the map is found under its number, so the request is of another one
    have hne : m.src ≠ sid' := by
      intro hsrc
      rw [hfd, hsrc, (hI.entry fd' sid' h').1, h'] at hs
      cases hs
    have hflow := hI.flow fd' sid' h'
    rw [hheld, List.append_nil, hfl, readFrom_append, ← List.singleton_append, readFrom_append,
      @readFrom_none _ _ [m] (by simpa using hne), List.nil_append] at hflow
    change readFrom sid' (s.pushed sid' ++ [] ++ inFlight { s with logic := .idle }) = _
    rw [List.append_nil, readFrom_append]
    exact hflow
  · have := hI.order
    rw [hheld] at this
    exact this

theorem routed_pushCommand {s : RouteState R} {m : Msg R} {sid : Nat} (hI : Routed s)
    (hl : s.logic = .holding sid m) :
    Routed { s with
      pushed := Function.update s.pushed sid (s.pushed sid ++ [m]), logic := .leaving sid } := by
  have hfl : inFlight { s with
      pushed := Function.update s.pushed sid (s.pushed sid ++ [m]), logic := .leaving sid } =
      inFlight s := by
    simp [inFlight, hl, LogicPc.waiting]
  have hsrc := hI.held sid m hl
  have hheld : s.logic.held = [m] := by rw [hl]; rfl
  -- what was pushed and held is what is pushed now
  have hkeep : ∀ sid', readFrom sid'
      (Function.update s.pushed sid (s.pushed sid ++ [m]) sid' ++ []) =
      readFrom sid' (s.pushed sid' ++ s.logic.held) := by
    intro sid'
    rw [hheld, List.append_nil]
    by_cases hne : sid' = sid
    · subst hne
      rw [Function.update_self]
    · rw [Function.update_of_ne hne, readFrom_append,
        @readFrom_none _ _ [m] (by simpa [hsrc] using Ne.symm hne), List.append_nil]
  refine ⟨hI.entry, hI.serving, ?_, ?_, ?_, ?_, ?_, ?_, hI.unborn⟩
  · rw [hfl]
    exact hI.created
  · rw [hfl]
    exact hI.flight
  · intro sid' m' h'
    simp at h'
  · intro sid' m' hm
    dsimp only at hm
    by_cases hne : sid' = sid
    · subst hne
      rw [Function.update_self, List.mem_append, List.mem_singleton] at hm
      rcases hm with hm | rfl
      · exact hI.source sid' m' hm
      · exact hsrc
    · rw [Function.update_of_ne hne] at hm
      exact hI.source sid' m' hm
  · intro fd' sid' h'
    rw [hfl]
    have hflow := hI.flow fd' sid' h'
    rw [readFrom_append, ← hkeep sid', ← readFrom_append] at hflow
    exact hflow
  · intro sid'
    have hord := hI.order sid'
    rw [← hkeep sid'] at hord
    exact hord

theorem routed_logicStep {s s' : RouteState R} {a : Act R} (hI : Routed s)
    (h : logicStep s a = some s') : Routed s' := by
  unfold logicStep at h
  split at h
  all_goals (repeat' split at h)
  all_goals cases h
  · next hl hq => exact routed_logic hI (by rw [hl, hq]; rfl) (by rw [hl]; rfl) rfl
  · next hl _ _ hs => exact routed_route_found hI hl hs
  · next hl _ hs => exact routed_route_dropped hI hl hs
  · next hl => exact routed_pushCommand hI hl
  · next hl =>
      apply routed_drop
      exact routed_logic hI (by rw [hl]; rfl) (by rw [hl]; rfl) rfl

theorem routed_poolStep {s s' : RouteState R} {a : Act R} (hI : Routed s)
    (h : poolStep s a = some s') : Routed s' := by
  have hpool : ∀ pool, Routed { s with pool := pool } := fun _ =>
    ⟨hI.entry, hI.serving, hI.created, hI.flight, hI.held, hI.source, hI.flow, hI.order, hI.unborn⟩
  unfold poolStep at h
  split at h
  all_goals (repeat' split at h)
  all_goals cases h
  · exact hpool _
  · exact routed_drop (hpool _) _

theorem routed_step {s s' : RouteState R} {a : Act R} (hI : Routed s) (hC : FreshFd s a)
    (h : step s a = some s') : Routed s' := by
  unfold step at h
  rcases Option.or_eq_some_iff.mp h with h | ⟨-, h⟩
  · rcases Option.or_eq_some_iff.mp h with h | ⟨-, h⟩
    · exact routed_dispatcherStep hI hC h
    · exact routed_logicStep hI h
  · exact routed_poolStep hI h

/-- **Requests reach the session they were read from**, in every run in which `accept4` never
    returns the number of a request in flight: what is pushed to a session was read from its
    connection, and it is a prefix of what was read from it. -/
theorem routed_of_run {as : List (Act R)} {s : RouteState R}
    (hC : Lts.Along step FreshFd init as) (h : Lts.run step init as = some s) : InOrder s := by
  have hI : Routed s :=
    Lts.run_invariant (fun _ _ _ hI hC h => routed_step hI hC h) routed_init hC h
  intro sid
  refine ⟨hI.source sid, ?_⟩
  have hord := hI.order sid
  rw [readFrom_append, readFrom_all (hI.source sid)] at hord
  exact (List.prefix_append _ _).trans hord

instance (s : RouteState R) (a : Act R) : Decidable (FreshFd s a) :=
  match a with
  | .accept fd => decidable_of_iff (∀ m ∈ inFlight s, m.fd ≠ fd) (by simp [FreshFd])
  | .emplace | .register _ | .find _ | .read _ | .push | .close _ | .leave | .pop | .route
  | .pushCommand | .logicLeave | .acquire _ | .release _ => .isTrue fun _ h => by cases h

/-- A client connects on descriptor 5 and sends one request. -/
def teardownRun : List (Act String) :=
  [.accept 5, .emplace, .register true, .find 5, .read ["TEARDOWN"], .push, .leave]

/-- The request reaches the session, the client leaves, the next one gets the descriptor. -/
def routedRun : List (Act String) :=
  teardownRun ++ [.pop, .route, .pushCommand, .logicLeave, .close 5, .leave, .accept 5, .emplace,
    .register true]

theorem routed_of_run_reused : ∃ s, Lts.run step init routedRun = some s ∧ InOrder s ∧
    (s.pushed 0).map (·.req) = ["TEARDOWN"] ∧ s.fdOf 0 = s.fdOf 1 := by
  have hC : Lts.Along step FreshFd init routedRun := by decide +kernel
  exact ⟨_, rfl, routed_of_run hC rfl, by decide +kernel, by decide +kernel⟩

/-- The client leaves and the next one gets the descriptor while the request is queued. -/
def misroutedRun : List (Act String) :=
  teardownRun ++ [.close 5, .leave, .accept 5, .emplace, .register true, .pop, .route,
    .pushCommand]

/-- The second client's session gets the first client's request. -/
theorem misroutedRun_misroutes : ∃ s, Lts.run step init misroutedRun = some s ∧ ¬ InOrder s := by
  refine ⟨_, rfl, fun h => ?_⟩
  have hsrc := (h 1).1 ⟨5, "TEARDOWN", 0⟩
  exact absurd (hsrc (List.mem_singleton.mpr rfl)) (by decide)

end RtspServer.Routing
