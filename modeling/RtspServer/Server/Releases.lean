/-
  No descriptor is leaked and none is closed early. `Descriptors` shows that a session that
  something refers to has its own connection open; here is the other direction: a descriptor
  that is open belongs to a session that something refers to. Each step of a thread either keeps
  all references or lets one go at the end of a scope, where `drop` looks whether it was the last.

  `open_iff_referenced` holds in every run of the threads, whatever `accept4` returns and whatever
  happens to requests in flight.
-/
import RtspServer.Server.Descriptors

namespace RtspServer.Routing

variable {R : Type}

/-- What the exact account of the open descriptors needs to know of the Dispatcher. -/
structure Tight (s : RouteState R) : Prop where
  owned : ∃ table, Owned s table
  serving : ∀ fd sid, s.dispatcher = .reading fd sid ∨
    (∃ rest, s.dispatcher = .pushing fd sid rest) → s.sessions.lookup fd = some sid
  /-- the entry that `acceptClient` has made is there until `epoll_ctl` -/
  emplaced : ∀ sid, s.dispatcher = .emplaced sid → s.sessions.lookup (s.fdOf sid) = some sid
  held : ∀ fd ∈ s.openFds, ∃ sid, referenced s sid = true ∧ s.fdOf sid = fd

theorem tight_init : Tight (init : RouteState R) :=
  ⟨⟨_, owned_init⟩, by simp [init], by simp [init], by simp [init]⟩

/-- The session that is being accepted finds no entry under its number. -/
theorem Tight.lookup_created {s : RouteState R} (hI : Tight s) {sid : Nat}
    (hd : s.dispatcher = .created sid) : s.sessions.lookup (s.fdOf sid) = none := by
  obtain ⟨table, hown⟩ := hI.owned
  cases hl : s.sessions.lookup (s.fdOf sid) with
  | none => rfl
  | some sid' =>
      -- two sessions with one number would be one session
      have href : s.dispatcher.holds sid = true := by rw [hd]; exact decide_eq_true rfl
      have h := (hown.owns sid' (referenced_of_lookup hl)).2
      rw [hown.entry _ _ hl, (hown.owns sid (referenced_of_dispatcher href)).2] at h
      obtain rfl : sid = sid' := Option.some.inj h
      exact absurd hl (hown.created sid hd _)

/-! ## What becomes of the references -/

/-- The references stay, except for those of `gone`. -/
structure Spends (s s' : RouteState R) (gone : Nat → Prop) : Prop where
  fdOf : s'.fdOf = s.fdOf
  openFds : s'.openFds = s.openFds
  refs : ∀ sid, referenced s sid = true → referenced s' sid = true ∨ gone sid

theorem held_spends {s s' : RouteState R}
    (hI : ∀ fd ∈ s.openFds, ∃ sid, referenced s sid = true ∧ s.fdOf sid = fd)
    (h : Spends s s' fun _ => False) :
    ∀ fd ∈ s'.openFds, ∃ sid, referenced s' sid = true ∧ s'.fdOf sid = fd := by
  intro fd hfd
  rw [h.openFds] at hfd
  obtain ⟨sid, href, heq⟩ := hI fd hfd
  exact ⟨sid, (h.refs sid href).resolve_right id, by rw [h.fdOf]; exact heq⟩

/-- With the last reference the descriptor goes. -/
theorem held_drop {s s₁ : RouteState R} {sid : Nat}
    (hI : ∀ fd ∈ s.openFds, ∃ sid, referenced s sid = true ∧ s.fdOf sid = fd)
    (h : Spends s s₁ (· = sid)) :
    ∀ fd ∈ (drop s₁ sid).openFds, ∃ i, referenced (drop s₁ sid) i = true ∧
      (drop s₁ sid).fdOf i = fd := by
  have hkept : ∀ fd ∈ s₁.openFds, (∃ i, referenced s₁ i = true ∧ s₁.fdOf i = fd) ∨
      s₁.fdOf sid = fd := by
    intro fd hfd
    rw [h.openFds] at hfd
    obtain ⟨i, href, heq⟩ := hI fd hfd
    rcases h.refs i href with href | rfl
    · exact .inl ⟨i, href, by rw [h.fdOf]; exact heq⟩
    · exact .inr (by rw [h.fdOf]; exact heq)
  unfold drop
  split
  · next href =>
      intro fd hfd
      rcases hkept fd hfd with hi | heq
      · exact hi
      · exact ⟨sid, href, heq⟩
  · intro fd hfd
    obtain ⟨hmem, hne⟩ := List.mem_filter.mp hfd
    exact (hkept fd hmem).resolve_right fun heq => of_decide_eq_true hne heq.symm

theorem drop_eq (s : RouteState R) (sid : Nat) :
    ∃ fds, drop s sid = { s with openFds := fds } := by
  unfold drop
  split
  · exact ⟨s.openFds, rfl⟩
  · exact ⟨_, rfl⟩

/-- The Dispatcher moves: what it lets go of is in `sessions_`, or `gone`. -/
theorem spends_dispatcher {s : RouteState R} {m : AList fun _ : Nat => Nat} {d : DispatcherPc R}
    {p : Nat → List R} {q : List (Msg R)} {gone : Nat → Prop}
    (hm : ∀ fd sid, s.sessions.lookup fd = some sid → m.lookup fd = some sid ∨
      d.holds sid = true ∨ gone sid)
    (hd : ∀ sid, s.dispatcher.holds sid = true → d.holds sid = true ∨
      (∃ fd, m.lookup fd = some sid) ∨ gone sid) :
    Spends s { s with sessions := m, dispatcher := d, parsed := p, cmdQueue := q } gone := by
  refine ⟨rfl, rfl, fun sid h => ?_⟩
  rcases referenced_iff.mp h with ⟨fd, h⟩ | h | h | h
  · rcases hm fd sid h with h | h | h
    · exact .inl (referenced_of_lookup h)
    · exact .inl (referenced_of_dispatcher h)
    · exact .inr h
  · rcases hd sid h with h | ⟨fd, h⟩ | h
    · exact .inl (referenced_of_dispatcher h)
    · exact .inl (referenced_of_lookup h)
    · exact .inr h
  · exact .inl (referenced_of_logic h)
  · exact .inl (referenced_of_pool h)

/-- So does the Logic thread. -/
theorem spends_logic {s : RouteState R} {l : LogicPc R} {p : Nat → List (Msg R)}
    {q : List (Msg R)} {gone : Nat → Prop}
    (hl : ∀ sid, s.logic.holds sid = true → l.holds sid = true ∨ gone sid) :
    Spends s { s with logic := l, pushed := p, cmdQueue := q } gone := by
  refine ⟨rfl, rfl, fun sid h => ?_⟩
  rcases referenced_iff.mp h with ⟨fd, h⟩ | h | h | h
  · exact .inl (referenced_of_lookup h)
  · exact .inl (referenced_of_dispatcher h)
  · exact (hl sid h).imp_left referenced_of_logic
  · exact .inl (referenced_of_pool h)

/-- So does the pool. -/
theorem spends_pool {s : RouteState R} {pool : List Nat} {gone : Nat → Prop}
    (hp : ∀ sid ∈ s.pool, sid ∈ pool ∨ gone sid) : Spends s { s with pool := pool } gone := by
  refine ⟨rfl, rfl, fun sid h => ?_⟩
  rcases referenced_iff.mp h with ⟨fd, h⟩ | h | h | h
  · exact .inl (referenced_of_lookup h)
  · exact .inl (referenced_of_dispatcher h)
  · exact .inl (referenced_of_logic h)
  · exact (hp sid h).imp_left referenced_of_pool

/-! ## The steps -/

theorem tight_of {s s' : RouteState R} (hI : Tight s) (hturns : Turns s s')
    (hserving : ∀ fd sid, s'.dispatcher = .reading fd sid ∨
      (∃ rest, s'.dispatcher = .pushing fd sid rest) → s'.sessions.lookup fd = some sid)
    (hemplaced : ∀ sid, s'.dispatcher = .emplaced sid →
      s'.sessions.lookup (s'.fdOf sid) = some sid)
    (hheld : ∀ fd ∈ s'.openFds, ∃ sid, referenced s' sid = true ∧ s'.fdOf sid = fd) : Tight s' := by
  obtain ⟨table, hown⟩ := hI.owned
  exact ⟨⟨_, owned_turns hown hturns⟩, hserving, hemplaced, hheld⟩

/-- The new session holds the new descriptor. -/
theorem held_accepted {s : RouteState R} (hI : Tight s) (hd : s.dispatcher = .idle) (fd : Nat) :
    ∀ fd' ∈ (accepted s fd).openFds, ∃ sid, referenced (accepted s fd) sid = true ∧
      (accepted s fd).fdOf sid = fd' := by
  obtain ⟨table, hown⟩ := hI.owned
  intro fd' hfd'
  rcases List.mem_cons.mp hfd' with rfl | hfd'
  · exact ⟨s.next, referenced_of_dispatcher (decide_eq_true rfl), Function.update_self _ _ _⟩
  · obtain ⟨sid, href, heq⟩ := hI.held fd' hfd'
    refine ⟨sid, ?_, ?_⟩
    · rcases referenced_iff.mp href with ⟨fd'', h⟩ | h | h | h
      · exact referenced_of_lookup h
      · rw [hd] at h
        cases h
      · exact referenced_of_logic h
      · exact referenced_of_pool h
    · rw [← heq]
      exact Function.update_of_ne (Nat.ne_of_lt (hown.owns sid href).1) _ _

theorem lookup_erase_cases {m : AList fun _ : Nat => Nat} {fd fd' sid sid' : Nat}
    (hfd : m.lookup fd = some sid) (h : m.lookup fd' = some sid') :
    (m.erase fd).lookup fd' = some sid' ∨ sid' = sid := by
  by_cases heq : fd' = fd
  · subst heq
    exact .inr (Option.some.inj (h.symm.trans hfd))
  · exact .inl (by rwa [AList.lookup_erase_ne heq])

/-- A scope of the Dispatcher ends, and the entry of its session stays or goes with it. -/
theorem tight_finishes {s : RouteState R} {m : AList fun _ : Nat => Nat} {sid : Nat}
    (hI : Tight s) (hturns : Turns s (drop { s with sessions := m, dispatcher := .idle } sid))
    (hholds : ∀ i, s.dispatcher.holds i = true → i = sid)
    (hm : ∀ fd i, s.sessions.lookup fd = some i → m.lookup fd = some i ∨ i = sid) :
    Tight (drop { s with sessions := m, dispatcher := .idle } sid) := by
  have hspends : Spends s { s with sessions := m, dispatcher := .idle } (· = sid) :=
    spends_dispatcher (fun fd i hl => (hm fd i hl).imp_right .inr) fun i hh =>
      .inr (.inr (hholds i hh))
  have hheld := held_drop hI.held hspends
  obtain ⟨fds, heq⟩ := drop_eq { s with sessions := m, dispatcher := .idle } sid
  rw [heq] at hturns hheld ⊢
  exact tight_of hI hturns (by simp) (by simp) hheld

theorem tight_dispatcherStep {s s' : RouteState R} {a : Act R} (hI : Tight s)
    (h : dispatcherStep s a = some s') : Tight s' := by
  have hturns := turns_dispatcherStep h
  unfold dispatcherStep at h
  split at h
  all_goals (repeat' split at h)
  all_goals cases h
  · -- `accept4`
    next hd _ => exact tight_of hI hturns (by simp) (by simp) (held_accepted hI hd _)
  · -- `emplace` finds no entry under the number
    next sid hd =>
      have hnone := hI.lookup_created hd
      have hnew : emplace s.sessions (s.fdOf sid) sid = s.sessions.insert (s.fdOf sid) sid :=
        if_neg (by rw [hnone]; exact Bool.false_ne_true)
      refine tight_of hI hturns (by simp) (fun sid' hd' => ?_) (held_spends hI.held ?_)
      · obtain rfl := DispatcherPc.emplaced.inj hd'
        show (emplace s.sessions (s.fdOf sid) sid).lookup (s.fdOf sid) = some sid
        rw [hnew, AList.lookup_insert]
      · refine spends_dispatcher (fun fd sid' hl => .inl ?_) fun sid' hh => .inl ?_
        · rw [hnew, AList.lookup_insert_ne]
          · exact hl
          · rintro rfl
            rw [hnone] at hl
            cases hl
        · rw [hd] at hh
          exact hh
  · -- `epoll_ctl` succeeds: the entry stays
    next sid hd _ =>
      refine tight_finishes hI hturns (fun sid' hh => ?_) fun _ _ hl => .inl hl
      rw [hd] at hh
      exact holds_self hh
  · -- it fails: the entry goes, and so does the reference
    next sid hd _ =>
      refine tight_finishes hI hturns (fun sid' hh => ?_) fun _ _ hl =>
        lookup_erase_cases (hI.emplaced sid hd) hl
      rw [hd] at hh
      exact holds_self hh
  · -- `sessions_.find`
    next sid hd hl =>
      refine tight_of hI hturns (fun fd' sid' h' => ?_) (by simp) (held_spends hI.held ?_)
      · obtain ⟨rfl, rfl⟩ : _ = fd' ∧ sid = sid' := by simpa using h'
        exact hl
      · refine spends_dispatcher (fun fd sid' hl => .inl hl) fun sid' hh => ?_
        rw [hd] at hh
        cases hh
  · exact hI
  · -- `onReadable`
    next fd sid hd =>
      refine tight_of hI hturns (fun fd' sid' h' => ?_) (by simp) (held_spends hI.held ?_)
      · obtain ⟨rfl, rfl⟩ : fd = fd' ∧ sid = sid' := by simpa using h'
        exact hI.serving fd sid (.inl hd)
      · refine spends_dispatcher (fun fd sid' hl => .inl hl) fun sid' hh => .inl ?_
        rw [hd] at hh
        exact hh
  · -- `cmd_queue_.push`
    next fd sid r rest hd =>
      refine tight_of hI hturns (fun fd' sid' h' => ?_) (by simp) (held_spends hI.held ?_)
      · obtain ⟨rfl, rfl⟩ : fd = fd' ∧ sid = sid' := by simpa using h'
        exact hI.serving fd sid (.inr ⟨_, hd⟩)
      · refine spends_dispatcher (fun fd sid' hl => .inl hl) fun sid' hh => .inl ?_
        rw [hd] at hh
        exact hh
  · -- `closeSession` between events
    next fd sid hd hl =>
      refine tight_of hI hturns (by simp) (by simp) (held_spends hI.held ?_)
      refine spends_dispatcher (fun fd' sid' hl' => ?_) fun sid' hh => ?_
      · rcases lookup_erase_cases hl hl' with hl' | rfl
        · exact .inl hl'
        · exact .inr (.inl (decide_eq_true rfl))
      · rw [hd] at hh
        cases hh
  · exact hI
  · -- `closeSession` after `onReadable` or `onWritable`: the session served is the one found
    next fd fd' sid' sid hd hl heq =>
      subst heq
      refine tight_of hI hturns (by simp) (by simp) (held_spends hI.held ?_)
      have hsame : sid' = sid := Option.some.inj ((hI.serving _ _ (.inl hd)).symm.trans hl)
      refine spends_dispatcher (fun fd' i hl' => ?_) fun i hh => .inl ?_
      · rcases lookup_erase_cases hl hl' with hl' | rfl
        · exact .inl hl'
        · exact .inr (.inl (decide_eq_true rfl))
      · rw [hd] at hh
        rw [holds_self hh, hsame]
        exact decide_eq_true rfl
  · next sid hd =>
      refine tight_finishes hI hturns (fun sid' hh => ?_) fun _ _ hl => .inl hl
      rw [hd] at hh
      exact holds_self hh
  · next sid hd =>
      refine tight_finishes hI hturns (fun sid' hh => ?_) fun _ _ hl => .inl hl
      rw [hd] at hh
      exact holds_self hh

/-- Another thread moves: the Dispatcher and `sessions_` stay. -/
theorem tight_other {s s' : RouteState R} (hI : Tight s) (hturns : Turns s s')
    (hmap : s'.sessions = s.sessions) (hd : s'.dispatcher = s.dispatcher) (hfd : s'.fdOf = s.fdOf)
    (hheld : ∀ fd ∈ s'.openFds, ∃ sid, referenced s' sid = true ∧ s'.fdOf sid = fd) : Tight s' := by
  refine tight_of hI hturns ?_ ?_ hheld
  · rw [hmap, hd]
    exact hI.serving
  · rw [hmap, hd, hfd]
    exact hI.emplaced

theorem tight_logicStep {s s' : RouteState R} {a : Act R} (hI : Tight s)
    (h : logicStep s a = some s') : Tight s' := by
  have hturns := turns_logicStep h
  unfold logicStep at h
  split at h
  all_goals (repeat' split at h)
  all_goals cases h
  · next hl _ =>
      refine tight_other hI hturns rfl rfl rfl (held_spends hI.held (spends_logic fun sid hh => ?_))
      rw [hl] at hh
      cases hh
  · next hl _ _ _ =>
      refine tight_other hI hturns rfl rfl rfl (held_spends hI.held (spends_logic fun sid hh => ?_))
      rw [hl] at hh
      cases hh
  · next hl _ _ =>
      refine tight_other hI hturns rfl rfl rfl (held_spends hI.held (spends_logic fun sid hh => ?_))
      rw [hl] at hh
      cases hh
  · next hl =>
      refine tight_other hI hturns rfl rfl rfl (held_spends hI.held (spends_logic fun sid hh => ?_))
      rw [hl] at hh
      exact .inl hh
  · next sid hl =>
      have hspends : Spends s { s with logic := .idle } (· = sid) := spends_logic fun i hh => by
        rw [hl] at hh
        exact .inr (holds_self hh)
      have hheld := held_drop hI.held hspends
      obtain ⟨fds, heq⟩ := drop_eq { s with logic := .idle } sid
      rw [heq] at hturns hheld ⊢
      exact tight_other hI hturns rfl rfl rfl hheld

theorem tight_poolStep {s s' : RouteState R} {a : Act R} (hI : Tight s)
    (h : poolStep s a = some s') : Tight s' := by
  have hturns := turns_poolStep h
  unfold poolStep at h
  split at h
  all_goals (repeat' split at h)
  all_goals cases h
  · exact tight_other hI hturns rfl rfl rfl
      (held_spends hI.held (spends_pool fun i hi => .inl (List.mem_cons_of_mem _ hi)))
  · next sid _ =>
      have hspends : Spends s { s with pool := s.pool.erase sid } (· = sid) :=
        spends_pool fun i hi => by
          by_cases heq : i = sid
          · exact .inr heq
          · exact .inl ((List.mem_erase_of_ne heq).mpr hi)
      have hheld := held_drop hI.held hspends
      obtain ⟨fds, heq⟩ := drop_eq { s with pool := s.pool.erase sid } sid
      rw [heq] at hturns hheld ⊢
      exact tight_other hI hturns rfl rfl rfl hheld

theorem tight_step {s s' : RouteState R} {a : Act R} (hI : Tight s) (h : step s a = some s') :
    Tight s' := by
  unfold step at h
  rcases Option.or_eq_some_iff.mp h with h | ⟨-, h⟩
  · rcases Option.or_eq_some_iff.mp h with h | ⟨-, h⟩
    · exact tight_dispatcherStep hI h
    · exact tight_logicStep hI h
  · exact tight_poolStep hI h

/-- The pool takes further references to sessions that are referred to. -/
theorem tight_pool {s : RouteState R} {pool : List Nat} (hI : Tight s)
    (hnew : ∀ sid ∈ pool, referenced s sid = true) (hold : ∀ sid ∈ s.pool, sid ∈ pool) :
    Tight { s with pool := pool } :=
  tight_other hI (keeps_pool hnew).turns rfl rfl rfl
    (held_spends hI.held (spends_pool fun i hi => .inl (hold i hi)))

/-- A reference of the pool is copied. -/
theorem tight_share {s : RouteState R} {sid : Nat} (hI : Tight s) (hmem : sid ∈ s.pool) :
    Tight { s with pool := sid :: s.pool } := by
  refine tight_pool hI (fun i hi => ?_) fun i hi => List.mem_cons_of_mem _ hi
  rcases List.mem_cons.mp hi with rfl | hi
  · exact referenced_of_pool hmem
  · exact referenced_of_pool hi

/-- An entry goes, and its reference with it, while the Dispatcher has none. -/
theorem tight_erase {s : RouteState R} {fd sid : Nat} (hI : Tight s)
    (hd : s.dispatcher = .idle) (hl : s.sessions.lookup fd = some sid) :
    Tight (drop { s with sessions := s.sessions.erase fd, dispatcher := .idle } sid) := by
  refine tight_finishes hI ?_ (fun i hh => ?_) fun _ _ hl' => lookup_erase_cases hl hl'
  · exact .inr (.inr ⟨_, sid, keeps_dispatcher (fun _ _ h => .inl (lookup_erase_sub h))
      (by simp [DispatcherPc.holds]) (by simp), referenced_of_lookup hl, rfl⟩)
  · rw [hd] at hh
    cases hh

/-- The descriptors that are open are those of the sessions that something refers to. -/
theorem Tight.mem_openFds {s : RouteState R} (hI : Tight s) (fd : Nat) :
    fd ∈ s.openFds ↔ ∃ sid, referenced s sid = true ∧ s.fdOf sid = fd := by
  refine ⟨hI.held fd, ?_⟩
  rintro ⟨sid, href, rfl⟩
  obtain ⟨table, hown⟩ := hI.owned
  exact (hown.isOpen _).mpr (by rw [(hown.owns sid href).2]; rfl)

theorem tight_fdStep {s s' : FdState R} {a : FdAct R} (hI : Tight s.route)
    (h : fdStep s a = some s') : Tight s'.route := by
  cases a with
  | thread a =>
      rw [fdStep] at h
      split at h
      · cases h
      · next r hr =>
          cases h
          exact tight_step hI hr
  | share sid =>
      rw [fdStep] at h
      split at h
      · next hmem =>
          cases h
          exact tight_share hI hmem
      · cases h
  | io sid =>
      rw [fdStep] at h
      split at h
      · cases h
        exact hI
      · cases h

/-- **A client's descriptor is open exactly as long as something refers to its session**, in every
    run of the threads: none is leaked, and none is closed under a thread that still uses it. -/
theorem open_iff_referenced {as : List (FdAct R)} {s : FdState R}
    (h : Lts.run fdStep fdInit as = some s) (fd : Nat) :
    fd ∈ s.route.openFds ↔ ∃ sid, referenced s.route sid = true ∧ s.route.fdOf sid = fd :=
  (Lts.run_stable (I := fun s => Tight s.route) (fun _ _ _ hI h => tight_fdStep hI h) tight_init
    h).mem_openFds fd

/-- The first client is gone but for a task of the pool; the second one could not be added to the
    epoll set. -/
def closingRun : List (FdAct String) :=
  [.thread (.accept 5), .thread .emplace, .thread (.register true), .thread (.acquire 0), .share 0,
    .thread (.close 5), .thread .leave, .thread (.release 0), .thread (.accept 6),
    .thread .emplace, .thread (.register false)]

theorem open_iff_referenced_closingRun : ∃ s, Lts.run fdStep fdInit closingRun = some s ∧
    s.route.openFds = [5] ∧
      ∀ fd, fd ∈ s.route.openFds ↔ ∃ sid, referenced s.route sid = true ∧ s.route.fdOf sid = fd :=
  ⟨_, rfl, by decide +kernel, @open_iff_referenced String closingRun _ rfl⟩

end RtspServer.Routing
