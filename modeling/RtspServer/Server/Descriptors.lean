/-
  Who owns a descriptor. The two threads of `Routing` and the pool, over the kernel's descriptor
  table: `accept4` enters a new connection under any number that is not open, the destructor of
  the last reference closes the number of its session. Connections are numbered like the
  sessions that are made for them.

  `tick` and the like are not spelled out: whoever refers to a session may issue a system call
  through it at any time (`FdAct.io`), which is more than any thread does. `touched` logs what
  the kernel finds behind the number; no step reads it.

  `descriptors_distinct`: in every run, a session that something refers to has a descriptor of
  its own, and every call through a session reaches its own connection.
-/
import RtspServer.Server.Routing

namespace RtspServer.Routing

variable {R : Type}

/-! ## References -/

theorem any_entries {m : AList fun _ : Nat => Nat} {sid : Nat} :
    m.entries.any (·.2 = sid) = true ↔ ∃ fd, m.lookup fd = some sid := by
  rw [List.any_eq_true]
  constructor
  · rintro ⟨⟨fd, i⟩, hmem, hi⟩
    obtain rfl : i = sid := of_decide_eq_true hi
    exact ⟨fd, AList.mem_lookup_iff.mpr hmem⟩
  · rintro ⟨fd, h⟩
    exact ⟨⟨fd, sid⟩, AList.mem_lookup_iff.mp h, decide_eq_true rfl⟩

/-- The four owners of a session object. -/
theorem referenced_iff {s : RouteState R} {sid : Nat} :
    referenced s sid = true ↔ (∃ fd, s.sessions.lookup fd = some sid) ∨
      s.dispatcher.holds sid = true ∨ s.logic.holds sid = true ∨ sid ∈ s.pool := by
  unfold referenced
  rw [Bool.or_eq_true, Bool.or_eq_true, Bool.or_eq_true, any_entries, List.contains_iff_mem,
    or_assoc, or_assoc]

theorem referenced_of_lookup {s : RouteState R} {fd sid : Nat}
    (h : s.sessions.lookup fd = some sid) : referenced s sid = true :=
  referenced_iff.mpr (.inl ⟨fd, h⟩)

theorem referenced_of_dispatcher {s : RouteState R} {sid : Nat}
    (h : s.dispatcher.holds sid = true) : referenced s sid = true :=
  referenced_iff.mpr (.inr (.inl h))

theorem referenced_of_logic {s : RouteState R} {sid : Nat} (h : s.logic.holds sid = true) :
    referenced s sid = true :=
  referenced_iff.mpr (.inr (.inr (.inl h)))

theorem referenced_of_pool {s : RouteState R} {sid : Nat} (h : sid ∈ s.pool) :
    referenced s sid = true :=
  referenced_iff.mpr (.inr (.inr (.inr h)))

/-! ## What a step does to the references -/

/-- No session is made and no descriptor closed. -/
structure Keeps (s s' : RouteState R) : Prop where
  next : s'.next = s.next
  fdOf : s'.fdOf = s.fdOf
  openFds : s'.openFds = s.openFds
  /-- a reference is a copy of another one -/
  refs : ∀ sid, referenced s' sid = true → referenced s sid = true
  /-- an entry that was not there is the one of the session that is being accepted -/
  entries : ∀ fd sid, s'.sessions.lookup fd = some sid →
    s.sessions.lookup fd = some sid ∨ s.dispatcher = .created sid ∧ s.fdOf sid = fd
  created : ∀ sid, s'.dispatcher = .created sid →
    s.dispatcher = .created sid ∧ s'.sessions = s.sessions

/-- The Dispatcher moves on: it keeps what it held or takes what it found in `sessions_`. -/
theorem keeps_dispatcher {s : RouteState R} {m : AList fun _ : Nat => Nat} {d : DispatcherPc R}
    {p : Nat → List R} {q : List (Msg R)}
    (hm : ∀ fd sid, m.lookup fd = some sid →
      s.sessions.lookup fd = some sid ∨ s.dispatcher = .created sid ∧ s.fdOf sid = fd)
    (hd : ∀ sid, d.holds sid = true → referenced s sid = true) (hc : ∀ sid, d ≠ .created sid) :
    Keeps s { s with sessions := m, dispatcher := d, parsed := p, cmdQueue := q } := by
  refine ⟨rfl, rfl, rfl, fun sid h => ?_, hm, fun sid h => absurd h (hc sid)⟩
  rcases referenced_iff.mp h with ⟨fd, h⟩ | h | h | h
  · rcases hm fd sid h with h | ⟨h, -⟩
    · exact referenced_of_lookup h
    · exact referenced_of_dispatcher (by rw [h]; exact decide_eq_true rfl)
  · exact hd sid h
  · exact referenced_of_logic h
  · exact referenced_of_pool h

/-- So does the Logic thread. -/
theorem keeps_logic {s : RouteState R} {l : LogicPc R} {p : Nat → List (Msg R)}
    {q : List (Msg R)} (hl : ∀ sid, l.holds sid = true → referenced s sid = true) :
    Keeps s { s with logic := l, pushed := p, cmdQueue := q } := by
  refine ⟨rfl, rfl, rfl, fun sid h => ?_, fun _ _ h => .inl h, fun _ h => ⟨h, rfl⟩⟩
  rcases referenced_iff.mp h with ⟨fd, h⟩ | h | h | h
  · exact referenced_of_lookup h
  · exact referenced_of_dispatcher h
  · exact hl sid h
  · exact referenced_of_pool h

/-- So does the pacer, with its tasks. -/
theorem keeps_pool {s : RouteState R} {pool : List Nat}
    (hp : ∀ sid ∈ pool, referenced s sid = true) : Keeps s { s with pool := pool } := by
  refine ⟨rfl, rfl, rfl, fun sid h => ?_, fun _ _ h => .inl h, fun _ h => ⟨h, rfl⟩⟩
  rcases referenced_iff.mp h with ⟨fd, h⟩ | h | h | h
  · exact referenced_of_lookup h
  · exact referenced_of_dispatcher h
  · exact referenced_of_logic h
  · exact hp sid h

/-- The step of `acceptClient` that makes a session. -/
def accepted (s : RouteState R) (fd : Nat) : RouteState R :=
  { s with
    next := s.next + 1, fdOf := Function.update s.fdOf s.next fd
    openFds := fd :: s.openFds, dispatcher := .created s.next }

/-- A step accepts, moves references, or drops one at the end. -/
def Turns (s s' : RouteState R) : Prop :=
  (∃ fd, fd ∉ s.openFds ∧ s' = accepted s fd) ∨ Keeps s s' ∨
    ∃ s₁ sid, Keeps s s₁ ∧ referenced s sid = true ∧ s' = drop s₁ sid

theorem Keeps.turns {s s' : RouteState R} (h : Keeps s s') : Turns s s' := .inr (.inl h)

theorem Keeps.refl (s : RouteState R) : Keeps s s :=
  ⟨rfl, rfl, rfl, fun _ h => h, fun _ _ h => .inl h, fun _ h => ⟨h, rfl⟩⟩

theorem holds_self {sid i : Nat} (h : decide (i = sid) = true) : sid = i :=
  (of_decide_eq_true h).symm

theorem turns_dispatcherStep {s s' : RouteState R} {a : Act R}
    (h : dispatcherStep s a = some s') : Turns s s' := by
  unfold dispatcherStep at h
  split at h
  all_goals (repeat' split at h)
  all_goals cases h
  · next hfd => exact .inl ⟨_, hfd, rfl⟩
  · next hd =>
      refine (keeps_dispatcher (fun fd' sid' h => ?_) (fun sid' h => ?_) (by simp)).turns
      · rcases lookup_emplace h with h | ⟨rfl, rfl⟩
        · exact .inl h
        · exact .inr ⟨hd, rfl⟩
      · exact referenced_of_dispatcher (by rw [hd]; exact h)
  · next sid hd _ =>
      refine .inr (.inr ⟨_, sid, keeps_dispatcher (fun _ _ h => .inl h)
        (by simp [DispatcherPc.holds]) (by simp), referenced_of_dispatcher ?_, rfl⟩)
      rw [hd]
      exact decide_eq_true rfl
  · next sid hd _ =>
      refine .inr (.inr ⟨_, sid, keeps_dispatcher (fun _ _ h => .inl (lookup_erase_sub h))
        (by simp [DispatcherPc.holds]) (by simp), referenced_of_dispatcher ?_, rfl⟩)
      rw [hd]
      exact decide_eq_true rfl
  · next hd hl =>
      refine (keeps_dispatcher (fun _ _ h => .inl h) (fun sid' h => ?_) (by simp)).turns
      rw [holds_self h]
      exact referenced_of_lookup hl
  · exact (Keeps.refl s).turns
  · next hd =>
      refine (keeps_dispatcher (fun _ _ h => .inl h) (fun sid' h => ?_) (by simp)).turns
      exact referenced_of_dispatcher (by rw [hd]; exact h)
  · next hd =>
      refine (keeps_dispatcher (fun _ _ h => .inl h) (fun sid' h => ?_) (by simp)).turns
      exact referenced_of_dispatcher (by rw [hd]; exact h)
  · next hd hl =>
      refine (keeps_dispatcher (fun _ _ h => .inl (lookup_erase_sub h)) (fun sid' h => ?_)
        (by simp)).turns
      rw [holds_self h]
      exact referenced_of_lookup hl
  · exact (Keeps.refl s).turns
  · next hd hl _ =>
      refine (keeps_dispatcher (fun _ _ h => .inl (lookup_erase_sub h)) (fun sid' h => ?_)
        (by simp)).turns
      rw [holds_self h]
      exact referenced_of_lookup hl
  · next sid hd =>
      refine .inr (.inr ⟨_, sid, keeps_dispatcher (fun _ _ h => .inl h)
        (by simp [DispatcherPc.holds]) (by simp), referenced_of_dispatcher ?_, rfl⟩)
      rw [hd]
      exact decide_eq_true rfl
  · next sid hd =>
      refine .inr (.inr ⟨_, sid, keeps_dispatcher (fun _ _ h => .inl h)
        (by simp [DispatcherPc.holds]) (by simp), referenced_of_dispatcher ?_, rfl⟩)
      rw [hd]
      exact decide_eq_true rfl

theorem turns_logicStep {s s' : RouteState R} {a : Act R} (h : logicStep s a = some s') :
    Turns s s' := by
  unfold logicStep at h
  split at h
  all_goals (repeat' split at h)
  all_goals cases h
  · exact (keeps_logic (by simp [LogicPc.holds])).turns
  · next hs =>
      refine (keeps_logic fun sid' h => ?_).turns
      rw [holds_self h]
      exact referenced_of_lookup hs
  · exact (keeps_logic (by simp [LogicPc.holds])).turns
  · next hl =>
      exact (keeps_logic fun sid' h => referenced_of_logic (by rw [hl]; exact h)).turns
  · next sid hl =>
      refine .inr (.inr ⟨_, sid, keeps_logic (by simp [LogicPc.holds]), referenced_of_logic ?_,
        rfl⟩)
      rw [hl]
      exact decide_eq_true rfl

theorem turns_poolStep {s s' : RouteState R} {a : Act R} (h : poolStep s a = some s') :
    Turns s s' := by
  unfold poolStep at h
  split at h
  all_goals (repeat' split at h)
  all_goals cases h
  · next hmap =>
      refine (keeps_pool fun sid' h => ?_).turns
      rcases List.mem_cons.mp h with rfl | h
      · obtain ⟨fd, hfd⟩ := any_entries.mp hmap
        exact referenced_of_lookup hfd
      · exact referenced_of_pool h
  · next sid hmem =>
      refine .inr (.inr ⟨_, sid, keeps_pool fun sid' h => ?_, referenced_of_pool hmem, rfl⟩)
      exact referenced_of_pool (List.mem_of_mem_erase h)

theorem turns_step {s s' : RouteState R} {a : Act R} (h : step s a = some s') : Turns s s' := by
  unfold step at h
  rcases Option.or_eq_some_iff.mp h with h | ⟨-, h⟩
  · rcases Option.or_eq_some_iff.mp h with h | ⟨-, h⟩
    · exact turns_dispatcherStep h
    · exact turns_logicStep h
  · exact turns_poolStep h

/-! ## The descriptor table -/

/-- The threads, and the kernel's table of the clients' descriptors. -/
structure FdState (R : Type) where
  route : RouteState R
  /-- the connection behind each open number -/
  table : Nat → Option Nat
  /-- the session of each system call and the connection that the kernel found -/
  touched : List (Nat × Option Nat)

def fdInit : FdState R := { route := init, table := fun _ => none, touched := [] }

inductive FdAct (R : Type) where
  /-- a step of a thread -/
  | thread (a : Act R)
  /-- `submit` copies a reference of the snapshot into the task -/
  | share (sid : Nat)
  /-- `epoll_ctl`, `recv` or `send` with the descriptor of a session -/
  | io (sid : Nat)

/-- The table after a step. -/
def tableAfter (table : Nat → Option Nat) (s s' : RouteState R) (fd : Nat) : Option Nat :=
  if fd ∈ s'.openFds then if fd ∈ s.openFds then table fd else some s.next else none

/-- The `epoll_ctl` calls of `acceptClient` and of a `closeSession` that finds its session: the
    session and the number. -/
def controls (s : RouteState R) : Act R → List (Nat × Nat)
  | .register _ =>
      match s.dispatcher with
      | .emplaced sid => [(sid, s.fdOf sid)]
      | _ => []
  | .close fd =>
      match s.sessions.lookup fd with
      | some sid => [(sid, fd)]
      | none => []
  | _ => []

def fdStep (s : FdState R) : FdAct R → Option (FdState R)
  | .thread a =>
      match step s.route a with
      | none => none
      | some r => some
          { route := r, table := tableAfter s.table s.route r
            touched := s.touched ++ (controls s.route a).map fun c => (c.1, s.table c.2) }
  | .share sid =>
      if sid ∈ s.route.pool then
        some { s with route := { s.route with pool := sid :: s.route.pool } }
      else none
  | .io sid =>
      if referenced s.route sid then
        some { s with touched := s.touched ++ [(sid, s.table (s.route.fdOf sid))] }
      else none

/-- Who owns what. -/
structure Owned (s : RouteState R) (table : Nat → Option Nat) : Prop where
  /-- a session that something refers to has its own connection open -/
  owns : ∀ sid, referenced s sid = true → sid < s.next ∧ table (s.fdOf sid) = some sid
  entry : ∀ fd sid, s.sessions.lookup fd = some sid → s.fdOf sid = fd
  /-- a session that is being accepted is not in `sessions_` yet -/
  created : ∀ sid, s.dispatcher = .created sid → ∀ fd, s.sessions.lookup fd ≠ some sid
  isOpen : ∀ fd, fd ∈ s.openFds ↔ (table fd).isSome = true

theorem owned_init : Owned (init : RouteState R) (fun _ => none) := by
  refine ⟨fun sid h => ?_, fun fd sid h => ?_, fun sid h => ?_, fun fd => ?_⟩
  · rcases referenced_iff.mp h with ⟨fd, h⟩ | h | h | h
    · cases h
    · cases h
    · cases h
    · cases h
  · cases h
  · cases h
  · simp [init]

/-- Nothing opened and nothing closed. -/
theorem tableAfter_same {table : Nat → Option Nat} {s s' : RouteState R}
    (hopen : ∀ fd, fd ∈ s.openFds ↔ (table fd).isSome = true) (h : s'.openFds = s.openFds) :
    tableAfter table s s' = table := by
  funext fd
  unfold tableAfter
  rw [h]
  split
  · rfl
  · next hfd =>
      cases htab : table fd with
      | none => rfl
      | some c => exact absurd ((hopen fd).mpr (by rw [htab]; rfl)) hfd

theorem owned_keeps {s s' : RouteState R} {table : Nat → Option Nat} (hI : Owned s table)
    (h : Keeps s s') : Owned s' table := by
  refine ⟨fun sid hsid => ?_, fun fd sid hfd => ?_, fun sid hd fd => ?_, fun fd => ?_⟩
  · rw [h.next, h.fdOf]
    exact hI.owns sid (h.refs sid hsid)
  · rw [h.fdOf]
    rcases h.entries fd sid hfd with hfd | ⟨-, hfd⟩
    · exact hI.entry fd sid hfd
    · exact hfd
  · obtain ⟨hd, hmap⟩ := h.created sid hd
    rw [hmap]
    exact hI.created sid hd fd
  · rw [h.openFds]
    exact hI.isOpen fd

/-- The new connection gets a number that no session with a reference has. -/
theorem owned_accepted {s : RouteState R} {table : Nat → Option Nat} {fd : Nat}
    (hI : Owned s table) (hfd : fd ∉ s.openFds) :
    Owned (accepted s fd) (tableAfter table s (accepted s fd)) := by
  have hnew : tableAfter table s (accepted s fd) fd = some s.next := by
    unfold tableAfter accepted
    rw [if_pos List.mem_cons_self, if_neg hfd]
  have hold : ∀ fd', fd' ≠ fd → tableAfter table s (accepted s fd) fd' = table fd' := by
    intro fd' hne
    unfold tableAfter accepted
    dsimp only
    by_cases hopen : fd' ∈ s.openFds
    · rw [if_pos (List.mem_cons_of_mem _ hopen), if_pos hopen]
    · rw [if_neg fun h => hopen (List.mem_of_ne_of_mem hne h)]
      cases htab : table fd' with
      | none => rfl
      | some c => exact absurd ((hI.isOpen fd').mpr (by rw [htab]; rfl)) hopen
  have hlt : ∀ {sid}, referenced s sid = true → sid < s.next := fun h => (hI.owns _ h).1
  have hfdOf : ∀ {sid}, sid < s.next → (accepted s fd).fdOf sid = s.fdOf sid := fun h =>
    Function.update_of_ne (Nat.ne_of_lt h) _ _
  refine ⟨fun sid hsid => ?_, fun fd' sid h => ?_, fun sid h fd' hl => ?_, fun fd' => ?_⟩
  · -- the session is the new one or had a reference before
    have hcase : sid = s.next ∨ referenced s sid = true := by
      rcases referenced_iff.mp hsid with ⟨fd', h⟩ | h | h | h
      · exact .inr (referenced_of_lookup h)
      · exact .inl (holds_self h)
      · exact .inr (referenced_of_logic h)
      · exact .inr (referenced_of_pool h)
    rcases hcase with rfl | hsid
    · refine ⟨Nat.lt_succ_self _, ?_⟩
      rw [show (accepted s fd).fdOf s.next = fd from Function.update_self _ _ _]
      exact hnew
    · obtain ⟨hsidlt, htab⟩ := hI.owns sid hsid
      refine ⟨Nat.lt_succ_of_lt hsidlt, ?_⟩
      rw [hfdOf hsidlt, hold]
      · exact htab
      · intro heq
        exact hfd ((hI.isOpen fd).mpr (by rw [← heq, htab]; rfl))
  · rw [hfdOf (hlt (referenced_of_lookup h))]
    exact hI.entry fd' sid h
  · obtain rfl : s.next = sid := DispatcherPc.created.inj h
    exact Nat.lt_irrefl _ (hlt (referenced_of_lookup hl))
  · by_cases hne : fd' = fd
    · rw [hne, hnew]
      exact iff_of_true List.mem_cons_self rfl
    · rw [hold fd' hne, ← hI.isOpen fd']
      exact ⟨List.mem_of_ne_of_mem hne, List.mem_cons_of_mem _⟩

/-- The destructor closes a number that no other session with a reference has. -/
theorem owned_drop {s s₁ : RouteState R} {table : Nat → Option Nat} {sid : Nat}
    (hI : Owned s₁ table) (hopen : s₁.openFds = s.openFds)
    (hsid : table (s₁.fdOf sid) = some sid) :
    Owned (drop s₁ sid) (tableAfter table s (drop s₁ sid)) := by
  have hopen' : ∀ fd, fd ∈ s.openFds ↔ (table fd).isSome = true := by
    rw [← hopen]
    exact hI.isOpen
  unfold drop
  split
  · rw [tableAfter_same hopen' hopen]
    exact hI
  · next hlast =>
      have htab : ∀ fd, tableAfter table s
          { s₁ with openFds := s₁.openFds.filter (· ≠ s₁.fdOf sid) } fd =
          if fd = s₁.fdOf sid then none else table fd := by
        intro fd
        unfold tableAfter
        dsimp only
        by_cases hfd : fd = s₁.fdOf sid
        · rw [if_pos hfd, if_neg fun h => (of_decide_eq_true (List.mem_filter.mp h).2) hfd]
        · rw [if_neg hfd]
          by_cases hmem : fd ∈ s.openFds
          · have hmem' : fd ∈ s₁.openFds.filter (· ≠ s₁.fdOf sid) :=
              List.mem_filter.mpr ⟨by rw [hopen]; exact hmem, decide_eq_true hfd⟩
            rw [if_pos hmem', if_pos hmem]
          · rw [if_neg fun h => hmem (hopen ▸ (List.mem_filter.mp h).1)]
            cases htab : table fd with
            | none => rfl
            | some c => exact absurd ((hopen' fd).mpr (by rw [htab]; rfl)) hmem
      refine ⟨fun sid' h => ?_, hI.entry, hI.created, fun fd => ?_⟩
      · obtain ⟨hlt, hown⟩ := hI.owns sid' h
        refine ⟨hlt, ?_⟩
        rw [htab, if_neg]
        · exact hown
        · -- two sessions with one number would be one session
          intro heq
          rw [heq, hsid] at hown
          obtain rfl : sid = sid' := Option.some.inj hown
          exact hlast h
      · rw [htab, List.mem_filter, hI.isOpen fd, decide_eq_true_iff]
        split
        · next hfd => simp [hfd]
        · next hfd => simp [hfd]

theorem owned_turns {s s' : RouteState R} {table : Nat → Option Nat} (hI : Owned s table)
    (h : Turns s s') : Owned s' (tableAfter table s s') := by
  rcases h with ⟨fd, hfd, rfl⟩ | h | ⟨s₁, sid, h, hsid, rfl⟩
  · exact owned_accepted hI hfd
  · rw [tableAfter_same hI.isOpen h.openFds]
    exact owned_keeps hI h
  · refine owned_drop (owned_keeps hI h) h.openFds ?_
    rw [h.fdOf]
    exact (hI.owns sid hsid).2

/-! ## Runs -/

/-- Every system call so far reached the connection of the session it was made through. -/
def TouchesOwn (touched : List (Nat × Option Nat)) : Prop := ∀ t ∈ touched, t.2 = some t.1

theorem touchesOwn_append {l m : List (Nat × Option Nat)} (hl : TouchesOwn l)
    (hm : TouchesOwn m) : TouchesOwn (l ++ m) := fun t ht =>
  (List.mem_append.mp ht).elim (hl t) (hm t)

theorem touchesOwn_controls {s : RouteState R} {table : Nat → Option Nat} (hI : Owned s table)
    (a : Act R) : TouchesOwn ((controls s a).map fun c => (c.1, table c.2)) := by
  intro t ht
  obtain ⟨c, hc, rfl⟩ := List.mem_map.mp ht
  cases a with
  | register ok =>
      rw [controls] at hc
      split at hc
      · next sid hd =>
          obtain rfl := List.mem_singleton.mp hc
          have href : s.dispatcher.holds sid = true := by rw [hd]; exact decide_eq_true rfl
          exact (hI.owns sid (referenced_of_dispatcher href)).2
      · cases hc
  | close fd =>
      rw [controls] at hc
      split at hc
      · next sid hl =>
          obtain rfl := List.mem_singleton.mp hc
          have hown := (hI.owns sid (referenced_of_lookup hl)).2
          rw [hI.entry fd sid hl] at hown
          exact hown
      · cases hc
  | accept | emplace | find | read | push | leave | pop | route | pushCommand | logicLeave
  | acquire | release => cases hc

/-- What holds in every state. -/
structure Sound (s : FdState R) : Prop where
  owned : Owned s.route s.table
  own : TouchesOwn s.touched

theorem sound_step {s s' : FdState R} {a : FdAct R} (hI : Sound s) (h : fdStep s a = some s') :
    Sound s' := by
  cases a with
  | thread a =>
      rw [fdStep] at h
      split at h
      · cases h
      · next r hr =>
          cases h
          exact ⟨owned_turns hI.owned (turns_step hr),
            touchesOwn_append hI.own (touchesOwn_controls hI.owned a)⟩
  | share sid =>
      rw [fdStep] at h
      split at h
      · next hmem =>
          cases h
          refine ⟨owned_keeps hI.owned (keeps_pool fun sid' h => ?_), hI.own⟩
          rcases List.mem_cons.mp h with rfl | h
          · exact referenced_of_pool hmem
          · exact referenced_of_pool h
      · cases h
  | io sid =>
      rw [fdStep] at h
      split at h
      · next href =>
          cases h
          refine ⟨hI.owned, touchesOwn_append hI.own fun t ht => ?_⟩
          obtain rfl := List.mem_singleton.mp ht
          exact (hI.owned.owns sid href).2
      · cases h

/-- **Live sessions own distinct descriptors**, in every run of the threads: an entry of
    `sessions_` is under the descriptor of its session, `emplace` never finds its key, two
    sessions with a reference have two descriptors, and no call through a session reaches another
    connection. -/
theorem descriptors_distinct {as : List (FdAct R)} {s : FdState R}
    (h : Lts.run fdStep fdInit as = some s) :
    (∀ fd sid, s.route.sessions.lookup fd = some sid → s.route.fdOf sid = fd) ∧
    (∀ sid, s.route.dispatcher = .created sid →
      s.route.sessions.lookup (s.route.fdOf sid) = none) ∧
    (∀ i j, referenced s.route i = true → referenced s.route j = true →
      s.route.fdOf i = s.route.fdOf j → i = j) ∧
    TouchesOwn s.touched := by
  have hI : Sound s :=
    Lts.run_stable (fun _ _ _ hI h => sound_step hI h)
      ⟨owned_init, fun _ ht => absurd ht List.not_mem_nil⟩ h
  have hdistinct : ∀ i j, referenced s.route i = true → referenced s.route j = true →
      s.route.fdOf i = s.route.fdOf j → i = j := by
    intro i j hi hj heq
    have hown := (hI.owned.owns i hi).2
    rw [heq, (hI.owned.owns j hj).2] at hown
    exact (Option.some.inj hown).symm
  refine ⟨hI.owned.entry, fun sid hd => ?_, hdistinct, hI.own⟩
  cases hl : s.route.sessions.lookup (s.route.fdOf sid) with
  | none => rfl
  | some sid' =>
      have href : s.route.dispatcher.holds sid = true := by rw [hd]; exact decide_eq_true rfl
      have heq := hdistinct sid' sid (referenced_of_lookup hl) (referenced_of_dispatcher href)
        (hI.owned.entry _ _ hl)
      rw [heq] at hl
      exact absurd hl (hI.owned.created sid hd _)

/-- A client leaves while a task of the pool still refers to its session; the next one gets a
    number of its own, and the first number only after the task is done. -/
def lingerRun : List (FdAct String) :=
  [.thread (.accept 5), .thread .emplace, .thread (.register true), .thread (.acquire 0), .share 0,
    .thread (.close 5), .thread .leave, .thread (.release 0), .thread (.accept 6), .io 0,
    .thread .emplace, .thread (.register false), .thread (.release 0), .thread (.accept 5), .io 2]

theorem descriptors_distinct_lingerRun : ∃ s, Lts.run fdStep fdInit lingerRun = some s ∧
    TouchesOwn s.touched ∧ s.touched.map (·.1) = [0, 0, 0, 1, 2] ∧
    s.route.fdOf 2 = s.route.fdOf 0 :=
  ⟨_, rfl, (@descriptors_distinct String lingerRun _ rfl).2.2.2, by decide +kernel,
    by decide +kernel⟩

end RtspServer.Routing
