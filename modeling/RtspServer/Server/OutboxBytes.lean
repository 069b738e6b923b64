/-
  What is in the outbox, over all interleavings of `WriteWake`.

  * `outboxBytes_exact`: `outbox_bytes_` is the size of what is queued, of a buffer that is added
    and not pushed yet, and of one that is popped and not subtracted yet.
  * `outboxBounded_of_run`: the watermark bounds the outbox as long as no response is sent above
    it; `sendResponse` does not look at it.
  * `bytes_in_order`: the bytes that `send` accepted, the rest of `wbuf_` and the queue are the
    buffers in the order they were pushed.
-/
import RtspServer.Rtsp.Response
import RtspServer.Server.WriteWake

namespace RtspServer.WriteWake

open ByteString

/-! ## The counter -/

/-- The bytes in `outbox_`. -/
def queuedBytes (s : WriteState) : Nat := (s.outbox.map List.length).sum

/-- The bytes of a buffer that the worker added and has not pushed yet. -/
def addedBytes (s : WriteState) : Nat :=
  match s.worker with
  | .added buf _ => buf.length
  | _ => 0

/-- The bytes of `wbuf_`. -/
def wbufBytes (s : WriteState) : Nat := s.wbuf.elim 0 List.length

/-- The bytes of a buffer that the Dispatcher popped and has not subtracted yet. -/
def poppedBytes (s : WriteState) : Nat :=
  match s.dispatcher with
  | .popped => wbufBytes s
  | .loaded _ => wbufBytes s
  | _ => 0

/-- The buffers of the session fit into the address space. -/
def InMemory (s : WriteState) : Prop :=
  queuedBytes s + addedBytes s + wbufBytes s < 2 ^ 64

instance (s : WriteState) : Decidable (InMemory s) := inferInstanceAs (Decidable (_ < _))

/-- The invariant of the counter. What was loaded for the clamp is not less than the buffer. -/
structure Accounted (s : WriteState) : Prop where
  bytes : s.outboxBytes = queuedBytes s + addedBytes s + poppedBytes s
  loaded : ∀ bytes, s.dispatcher = .loaded bytes → wbufBytes s ≤ bytes

theorem accounted_init : Accounted init := ⟨rfl, fun _ h => nomatch h⟩

theorem poppedBytes_le (s : WriteState) : poppedBytes s ≤ wbufBytes s := by
  unfold poppedBytes
  split
  · exact le_refl _
  · exact le_refl _
  · exact Nat.zero_le _

/-- The worker adds a buffer. -/
theorem accounted_added {s s' : WriteState} {buf : Bytes} {td : Bool} (hI : Accounted s)
    (hidle : addedBytes s = 0) (hmem : InMemory s')
    (heq : s' = { s with
      outboxBytes := (s.outboxBytes + buf.length) % 2 ^ 64, worker := .added buf td }) :
    Accounted s' := by
  subst heq
  have hmem : queuedBytes s + buf.length + wbufBytes s < 2 ^ 64 := hmem
  have hpopped := poppedBytes_le s
  have hbytes := hI.bytes
  refine ⟨?_, hI.loaded⟩
  change (s.outboxBytes + buf.length) % 2 ^ 64 = queuedBytes s + buf.length + poppedBytes s
  rw [Nat.mod_eq_of_lt (by omega)]
  omega

/-- The Dispatcher subtracts the buffer: the clamp has no effect and the counter does not wrap. -/
theorem accounted_subBytes {s : WriteState} {bytes : Nat} {buf : Bytes} (hI : Accounted s)
    (hd : s.dispatcher = .loaded bytes) (hbuf : s.wbuf = some buf) :
    min buf.length bytes = buf.length ∧ buf.length ≤ s.outboxBytes := by
  have hwbuf : wbufBytes s = buf.length := by
    rw [wbufBytes, hbuf]
    rfl
  have hpopped : poppedBytes s = wbufBytes s := by
    rw [poppedBytes, hd]
  have hbytes := hI.bytes
  have hloaded := hI.loaded bytes hd
  rw [hwbuf] at hloaded hpopped
  exact ⟨Nat.min_eq_left hloaded, by omega⟩

theorem accounted_subtracted {s s' : WriteState} {bytes : Nat} {buf : Bytes} (hI : Accounted s)
    (hd : s.dispatcher = .loaded bytes) (hbuf : s.wbuf = some buf) (hmem : InMemory s')
    (hob : s'.outboxBytes = (s.outboxBytes + 2 ^ 64 - min buf.length bytes) % 2 ^ 64)
    (hq : s'.outbox = s.outbox) (hw : s'.worker = s.worker) (hwbuf : s'.wbuf = s.wbuf)
    (hsending : s'.dispatcher = .sending) : Accounted s' := by
  obtain ⟨hmin, hle⟩ := accounted_subBytes hI hd hbuf
  have hbytes := hI.bytes
  have hpopped : poppedBytes s = wbufBytes s := by rw [poppedBytes, hd]
  have hlength : wbufBytes s = buf.length := by
    rw [wbufBytes, hbuf]
    rfl
  have hnone : poppedBytes s' = 0 := by rw [poppedBytes, hsending]
  have hqueued : queuedBytes s' = queuedBytes s := by rw [queuedBytes, queuedBytes, hq]
  have hadded : addedBytes s' = addedBytes s := by rw [addedBytes, addedBytes, hw]
  refine ⟨?_, fun bytes' h => ?_⟩
  · unfold InMemory at hmem
    rw [hqueued, hadded, wbufBytes, hwbuf, ← wbufBytes] at hmem
    have hsum : s.outboxBytes + 2 ^ 64 - buf.length =
        queuedBytes s + addedBytes s + 2 ^ 64 := by omega
    rw [hob, hmin, hsum, Nat.add_mod_right, Nat.mod_eq_of_lt (by omega), hqueued, hadded, hnone]
    rfl
  · rw [hsending] at h
    cases h

/-- A step that moves no bytes. -/
theorem Accounted.of_same {s s' : WriteState} (hI : Accounted s)
    (hob : s'.outboxBytes = s.outboxBytes) (hqueued : s'.outbox = s.outbox)
    (hadded : addedBytes s' = addedBytes s) (hpopped : poppedBytes s' = poppedBytes s)
    (hd : s'.dispatcher = s.dispatcher ∧ s'.wbuf = s.wbuf ∨
      ∀ bytes, s'.dispatcher ≠ .loaded bytes) : Accounted s' := by
  refine ⟨?_, fun bytes h => ?_⟩
  · rw [hob, hadded, hpopped, queuedBytes, hqueued]
    exact hI.bytes
  · rcases hd with ⟨hd, hwbuf⟩ | hd
    · rw [wbufBytes, hwbuf]
      exact hI.loaded bytes (hd.symm.trans h)
    · exact absurd h (hd bytes)

/-- The steps of the worker after a push, and before. -/
theorem accounted_worker {s s' : WriteState} (hI : Accounted s)
    (hob : s'.outboxBytes = s.outboxBytes) (hqueued : s'.outbox = s.outbox)
    (hadded : addedBytes s = 0) (hadded' : addedBytes s' = 0)
    (hd : s'.dispatcher = s.dispatcher) (hwbuf : s'.wbuf = s.wbuf) : Accounted s' := by
  refine hI.of_same hob hqueued (hadded'.trans hadded.symm) ?_ (.inl ⟨hd, hwbuf⟩)
  rw [poppedBytes, poppedBytes, hd, wbufBytes, wbufBytes, hwbuf]

/-- The steps of the Dispatcher that pop and subtract nothing. -/
theorem accounted_dispatcher {s s' : WriteState} (hI : Accounted s)
    (hob : s'.outboxBytes = s.outboxBytes) (hqueued : s'.outbox = s.outbox)
    (hw : s'.worker = s.worker) (hpopped : poppedBytes s = 0) (hpopped' : poppedBytes s' = 0)
    (hd : ∀ bytes, s'.dispatcher ≠ .loaded bytes) : Accounted s' := by
  refine hI.of_same hob hqueued ?_ (hpopped'.trans hpopped.symm) (.inr hd)
  rw [addedBytes, addedBytes, hw]

theorem accounted_push {s : WriteState} {buf : Bytes} {td : Bool} (hI : Accounted s)
    (hw : s.worker = .added buf td) :
    Accounted { s with outbox := s.outbox ++ [buf], worker := .pushed td } := by
  have hbytes := hI.bytes
  have hadded : addedBytes s = buf.length := by rw [addedBytes, hw]
  have hqueued : ((s.outbox ++ [buf]).map List.length).sum = queuedBytes s + buf.length := by
    rw [List.map_append, List.sum_append]
    rfl
  refine ⟨?_, hI.loaded⟩
  change s.outboxBytes = ((s.outbox ++ [buf]).map List.length).sum + 0 + poppedBytes s
  omega

theorem accounted_pop {s : WriteState} {buf : Bytes} {rest : List Bytes} (hI : Accounted s)
    (hd : s.dispatcher = .top) (hq : s.outbox = buf :: rest) :
    Accounted { s with outbox := rest, wbuf := some buf, dispatcher := .popped } := by
  have hbytes := hI.bytes
  have hpopped : poppedBytes s = 0 := by rw [poppedBytes, hd]
  have hqueued : queuedBytes s = buf.length + (rest.map List.length).sum := by
    rw [queuedBytes, hq]
    rfl
  refine ⟨?_, fun _ h => nomatch h⟩
  change s.outboxBytes = (rest.map List.length).sum + addedBytes s + buf.length
  omega

theorem accounted_loadBytes {s : WriteState} (hI : Accounted s) (hd : s.dispatcher = .popped) :
    Accounted { s with dispatcher := .loaded s.outboxBytes } := by
  have hbytes := hI.bytes
  have hpopped : poppedBytes s = wbufBytes s := by rw [poppedBytes, hd]
  refine ⟨?_, fun bytes h => ?_⟩
  · change s.outboxBytes = queuedBytes s + addedBytes s + wbufBytes s
    omega
  · obtain rfl := DispatcherPc.loaded.inj h
    change wbufBytes s ≤ s.outboxBytes
    omega

@[simp] theorem addedBytes_afterEnable (td : Bool) (s : WriteState) :
    addedBytes { s with worker := afterEnable td } = 0 := by
  cases td <;> rfl

theorem accounted_step {s s' : WriteState} {a : Act} (hI : Accounted s) (hmem : InMemory s')
    (h : step s a = some s') : Accounted s' := by
  cases moves_of_step h
  case respond buf td hw => exact accounted_added hI (by rw [addedBytes, hw]) hmem rfl
  case addFrame frame hw => exact accounted_added hI (by rw [addedBytes, hw]) hmem rfl
  case push buf td hw => exact accounted_push hI hw
  case pop buf rest hd hnone hq => exact accounted_pop hI hd hq
  case loadBytes hd => exact accounted_loadBytes hI hd
  case subBytes bytes buf hd hbuf => 
    exact accounted_subtracted hI hd hbuf hmem rfl rfl rfl rfl rfl
  -- the rest of the worker
  case overflow frame hw _ => exact accounted_worker hI rfl rfl (by rw [addedBytes, hw]) rfl rfl rfl
  case checkFrame frame hw _ => exact accounted_worker hI rfl rfl (by rw [addedBytes, hw]) rfl rfl rfl
  case casFails td hw _ =>
    exact accounted_worker hI rfl rfl (by rw [addedBytes, hw]) (addedBytes_afterEnable td s) rfl rfl
  case cas td hw _ => exact accounted_worker hI rfl rfl (by rw [addedBytes, hw]) rfl rfl rfl
  case arm td hw =>
    exact accounted_worker hI rfl rfl (by rw [addedBytes, hw]) (addedBytes_afterEnable td s) rfl rfl
  case storeClose hw => exact accounted_worker hI rfl rfl (by rw [addedBytes, hw]) rfl rfl rfl
  -- and of the Dispatcher
  case wake hd _ => exact accounted_dispatcher hI rfl rfl rfl (by rw [poppedBytes, hd]) rfl nofun
  case popHeld hd _ => exact accounted_dispatcher hI rfl rfl rfl (by rw [poppedBytes, hd]) rfl nofun
  case popEmpty hd _ _ =>
    exact accounted_dispatcher hI rfl rfl rfl (by rw [poppedBytes, hd]) rfl nofun
  case sendAll hd _ _ => exact accounted_dispatcher hI rfl rfl rfl (by rw [poppedBytes, hd]) rfl nofun
  case sendPart hd _ _ =>
    exact accounted_dispatcher hI rfl rfl rfl (by rw [poppedBytes, hd]) rfl nofun
  case sendFails hd _ => exact accounted_dispatcher hI rfl rfl rfl (by rw [poppedBytes, hd]) rfl nofun
  case sendAgain hd => exact accounted_dispatcher hI rfl rfl rfl (by rw [poppedBytes, hd]) rfl nofun
  case sendIntr hd => exact accounted_dispatcher hI rfl rfl rfl (by rw [poppedBytes, hd]) rfl nofun
  case disarm hd => exact accounted_dispatcher hI rfl rfl rfl (by rw [poppedBytes, hd]) rfl nofun
  case clear hd => exact accounted_dispatcher hI rfl rfl rfl (by rw [poppedBytes, hd]) rfl nofun
  case closeAsked hd _ => exact accounted_dispatcher hI rfl rfl rfl (by rw [poppedBytes, hd]) rfl nofun
  case stayOpen hd _ => exact accounted_dispatcher hI rfl rfl rfl (by rw [poppedBytes, hd]) rfl nofun
  case hangup hd => exact accounted_dispatcher hI rfl rfl rfl (by rw [poppedBytes, hd]) rfl nofun
  case closeSession hd =>
    exact accounted_dispatcher hI rfl rfl rfl (by rw [poppedBytes, hd]) rfl nofun

/-- **The byte accounting of the outbox is exact**: in every run of the worker and the Dispatcher,
    in any order of their atomic steps, whose buffers fit into memory, `outbox_bytes_` is the size
    of the queued buffers and of the one that is being pushed or popped; so `std::min` gives the
    size of the popped buffer and the counter does not wrap below zero. -/
theorem outboxBytes_exact {as : List Act} {s : WriteState}
    (hmem : Lts.Throughout step InMemory init as) (h : Lts.run step init as = some s) :
    s.outboxBytes = queuedBytes s + addedBytes s + poppedBytes s ∧
      ∀ bytes buf, s.dispatcher = .loaded bytes → s.wbuf = some buf →
        min buf.length bytes = buf.length ∧ buf.length ≤ s.outboxBytes := by
  have hI : Accounted s :=
    Lts.run_throughout (fun _ _ _ hI hm h => accounted_step hI hm h) accounted_init hmem h
  exact ⟨hI.bytes, fun _ _ hd hbuf => accounted_subBytes hI hd hbuf⟩

/-- A response is pushed and armed, and the Dispatcher has popped it and loaded the counter. -/
def popRun : List Act := [.respond okResponse false, .push, .cas, .arm, .wake, .pop, .loadBytes]

theorem outboxBytes_exact_popRun : ∃ s, Lts.run step init popRun = some s ∧
    s.outboxBytes = okResponse.length ∧ s.dispatcher = .loaded okResponse.length ∧
    s.outboxBytes = queuedBytes s + addedBytes s + poppedBytes s := by
  have hmem : Lts.Throughout step InMemory init popRun := by decide +kernel
  exact ⟨_, rfl, by decide +kernel, by decide +kernel, (outboxBytes_exact hmem rfl).1⟩

/-! ## The watermark -/

/-- The size of the buffer that was pushed last, if it is still queued. -/
def lastLength (s : WriteState) : Nat := s.outbox.getLast?.elim 0 List.length

/-- The outbox holds at most the watermark and one buffer. -/
def OutboxBounded (s : WriteState) : Prop := queuedBytes s ≤ kOutboxHWM + lastLength s

/-- A response is sent only while the outbox is not above the watermark. -/
def RespondsBelow (s : WriteState) : Act → Prop
  | .respond _ _ => queuedBytes s ≤ kOutboxHWM
  | _ => True

instance decidableRespondsBelow (s : WriteState) : ∀ a, Decidable (RespondsBelow s a)
  | .respond _ _ => inferInstanceAs (Decidable (queuedBytes s ≤ kOutboxHWM))
  | .checkFrame _ | .addFrame | .push | .cas | .arm | .storeClose | .wake | .pop | .loadBytes
  | .subBytes | .send _ | .disarm | .clear | .loadClose | .hangup | .closeSession => isTrue trivial

/-- The worker is on its way to a push. -/
def WorkerPc.Pushing : WorkerPc → Prop
  | .checked _ | .added _ _ => True
  | _ => False

/-- The invariant: what is on its way to a push has found the outbox below the watermark. -/
structure Watermarked (s : WriteState) : Prop where
  accounted : Accounted s
  bounded : OutboxBounded s
  below : s.worker.Pushing → queuedBytes s ≤ kOutboxHWM

theorem queuedBytes_concat (l : List Bytes) (buf : Bytes) :
    ((l ++ [buf]).map List.length).sum = (l.map List.length).sum + buf.length := by
  rw [List.map_append, List.sum_append]
  rfl

/-- A step that leaves the outbox alone. -/
theorem Watermarked.of_same {s s' : WriteState} (hI : Watermarked s) (hacc : Accounted s')
    (hq : s'.outbox = s.outbox) (hbelow : s'.worker.Pushing → queuedBytes s ≤ kOutboxHWM) :
    Watermarked s' := by
  have hqueued : queuedBytes s' = queuedBytes s := by rw [queuedBytes, queuedBytes, hq]
  refine ⟨hacc, ?_, fun hp => by rw [hqueued]; exact hbelow hp⟩
  unfold OutboxBounded lastLength
  rw [hqueued, hq]
  exact hI.bounded

theorem watermarked_push {s : WriteState} {buf : Bytes} {td : Bool} (hI : Watermarked s)
    (hw : s.worker = .added buf td) :
    Watermarked { s with outbox := s.outbox ++ [buf], worker := .pushed td } := by
  have hbelow : queuedBytes s ≤ kOutboxHWM := hI.below (by rw [hw]; trivial)
  refine ⟨accounted_push hI.accounted hw, ?_, fun h => h.elim⟩
  unfold OutboxBounded lastLength queuedBytes
  rw [queuedBytes_concat, List.getLast?_concat]
  exact Nat.add_le_add_right hbelow _

theorem watermarked_pop {s : WriteState} {buf : Bytes} {rest : List Bytes} (hI : Watermarked s)
    (hd : s.dispatcher = .top) (hq : s.outbox = buf :: rest) :
    Watermarked { s with outbox := rest, wbuf := some buf, dispatcher := .popped } := by
  have hqueued : queuedBytes s = buf.length + (rest.map List.length).sum := by
    rw [queuedBytes, hq]
    rfl
  refine ⟨accounted_pop hI.accounted hd hq, ?_, fun h => ?_⟩
  · have hbounded := hI.bounded
    unfold OutboxBounded lastLength at hbounded ⊢
    rw [hqueued, hq] at hbounded
    change (rest.map List.length).sum ≤ kOutboxHWM + rest.getLast?.elim 0 List.length
    cases rest with
    | nil => exact Nat.zero_le _
    | cons b bs =>
        rw [List.getLast?_cons_cons] at hbounded
        omega
  · change (rest.map List.length).sum ≤ kOutboxHWM
    have := hI.below h
    omega

theorem watermarked_step {s s' : WriteState} {a : Act} (hI : Watermarked s)
    (hC : RespondsBelow s a) (hmem : InMemory s') (h : step s a = some s') : Watermarked s' := by
  have hacc := accounted_step hI.accounted hmem h
  cases moves_of_step h
  case respond buf td hw => exact hI.of_same hacc rfl fun _ => hC
  case checkFrame frame hw hle =>
    refine hI.of_same hacc rfl fun _ => ?_
    have := hI.accounted.bytes
    omega
  case addFrame frame hw => exact hI.of_same hacc rfl fun _ => hI.below (by rw [hw]; trivial)
  case push buf td hw => exact watermarked_push hI hw
  case pop buf rest hd hnone hq => exact watermarked_pop hI hd hq
  case casFails td hw _ => exact hI.of_same hacc rfl fun h => by cases td <;> exact h.elim
  case arm td hw => exact hI.of_same hacc rfl fun h => by cases td <;> exact h.elim
  case overflow => exact hI.of_same hacc rfl fun h => h.elim
  case cas => exact hI.of_same hacc rfl fun h => h.elim
  case storeClose => exact hI.of_same hacc rfl fun h => h.elim
  -- the Dispatcher does not move the worker
  all_goals exact hI.of_same hacc rfl hI.below

/-- **The outbox is bounded** as long as no response is sent above the watermark: in every run of
    the worker and the Dispatcher whose responses all find at most `kOutboxHWM` bytes queued, the
    outbox holds at most `kOutboxHWM` bytes and the buffer pushed last. -/
theorem outboxBounded_of_run {as : List Act} {s : WriteState}
    (hmem : Lts.Throughout step InMemory init as) (hC : Lts.Along step RespondsBelow init as)
    (h : Lts.run step init as = some s) : OutboxBounded s := by
  have hinit : Watermarked init := ⟨accounted_init, Nat.zero_le _, fun h => h.elim⟩
  exact (Lts.run_invariant (fun s a s' hI hC h => watermarked_step hI hC.1 (hC.2 s' h) h) hinit
    (Lts.along_and hC (Lts.along_of_throughout hmem)) h).bounded

/-- A response and a frame are queued. -/
def queueRun : List Act :=
  [.respond okResponse false, .push, .cas, .arm, .checkFrame [36, 0, 0, 1, 128], .addFrame, .push]

theorem outboxBounded_of_run_queueRun : ∃ s, Lts.run step init queueRun = some s ∧
    s.outbox = [okResponse, [36, 0, 0, 1, 128]] ∧ OutboxBounded s := by
  have hmem : Lts.Throughout step InMemory init queueRun := by decide +kernel
  have hC : Lts.Along step RespondsBelow init queueRun := by decide +kernel
  exact ⟨_, rfl, rfl, outboxBounded_of_run hmem hC rfl⟩

/-- The answer to OPTIONS. -/
def optionsResponse : Bytes :=
  (RTSPResponse.options (ascii "Thu, 01 Jan 1970 00:00:00 GMT") 1
    (ascii "OPTIONS, DESCRIBE, SETUP, PLAY, PAUSE, TEARDOWN")).toString

/-- The first answer is popped, and the peer does not read: EPOLLOUT stays armed. -/
def stallRun : List Act :=
  [.respond optionsResponse false, .push, .cas, .arm, .wake, .pop, .loadBytes, .subBytes,
    .send .eagain]

/-- The answers to this many more OPTIONS requests. -/
def floodRun (n : Nat) : List Act :=
  (List.replicate n [Act.respond optionsResponse false, .push, .cas]).flatten

theorem run_floodRun (n : Nat) {s : WriteState} (hw : s.worker = .idle)
    (harmed : s.epolloutArmed = true) :
    ∃ t, Lts.run step s (floodRun n) = some t ∧
      t.outbox = s.outbox ++ List.replicate n optionsResponse := by
  induction n generalizing s with
  | zero => exact ⟨s, rfl, (List.append_nil _).symm⟩
  | succ n ih =>
      have hround : Lts.run step s [.respond optionsResponse false, .push, .cas] = some { s with
          outboxBytes := (s.outboxBytes + optionsResponse.length) % 2 ^ 64
          outbox := s.outbox ++ [optionsResponse], worker := .idle } := by
        simp [Lts.run, step, workerStep, afterEnable, hw, harmed]
      obtain ⟨t, ht, hq⟩ := ih (s := { s with
        outboxBytes := (s.outboxBytes + optionsResponse.length) % 2 ^ 64
        outbox := s.outbox ++ [optionsResponse], worker := .idle }) rfl harmed
      refine ⟨t, Lts.run_append.mpr ⟨_, hround, ht⟩, ?_⟩
      rw [hq, List.append_assoc]
      rfl

theorem length_optionsResponse : optionsResponse.length = 147 := by decide +kernel

/-- A peer that sends 40000 OPTIONS requests and reads no answer. -/
theorem floodRun_not_bounded : ∃ s t, Lts.run step init stallRun = some s ∧
    s.wbuf = some optionsResponse ∧ Lts.run step s (floodRun 40000) = some t ∧
    t.outbox = List.replicate 40000 optionsResponse ∧ ¬ OutboxBounded t := by
  have hstall : (Lts.run step init stallRun).map (fun s => decide (s.outbox = [] ∧
      s.worker = .idle ∧ s.epolloutArmed = true ∧ s.wbuf = some optionsResponse)) = some true := by
    decide +kernel
  obtain ⟨s, hs, hend⟩ := Option.map_eq_some_iff.mp hstall
  obtain ⟨hempty, hw, harmed, hwbuf⟩ := of_decide_eq_true hend
  obtain ⟨t, ht, hq⟩ := run_floodRun 40000 hw harmed
  rw [hempty, List.nil_append] at hq
  refine ⟨s, t, hs, hwbuf, ht, hq, ?_⟩
  unfold OutboxBounded lastLength queuedBytes kOutboxHWM
  rw [hq, List.map_replicate, List.sum_replicate_nat, List.getLast?_replicate, length_optionsResponse,
    if_neg (by decide)]
  simp only [Option.elim_some, length_optionsResponse]
  decide

/-! ## The order of the bytes -/

/-- The part of `wbuf_` that `send` has not accepted. -/
def unsent (s : WriteState) : Bytes := s.wbuf.elim [] (List.drop s.woff)

/-- The bytes that wait: the rest of `wbuf_`, then the queue. -/
def waiting (s : WriteState) : Bytes := unsent s ++ s.outbox.flatten

/-- A step of the threads in which `onWritable` may be called at any time, not only when
    EPOLLOUT is asked for, and again after it returned false. -/
def callStep (s : WriteState) (a : Act) : Option WriteState :=
  match a with
  | .wake =>
      if s.dispatcher = .idle ∨ s.dispatcher = .failed then some { s with dispatcher := .top }
      else none
  | a => step s a

/-- The buffer that a step pushes. -/
def pushedBy (s : WriteState) : Act → List Bytes
  | .push =>
      match s.worker with
      | .added buf _ => [buf]
      | _ => []
  | _ => []

/-- The bytes that `send` accepts in a step. -/
def acceptedBy (s : WriteState) : Act → Bytes
  | .send (.bytes n) => (unsent s).take n
  | _ => []

/-- The buffers pushed in a run, in their order. -/
def pushedIn (s : WriteState) : List Act → List Bytes
  | [] => []
  | a :: as => pushedBy s a ++ (callStep s a).elim [] (pushedIn · as)

/-- The bytes accepted in a run, in their order. -/
def acceptedIn (s : WriteState) : List Act → Bytes
  | [] => []
  | a :: as => acceptedBy s a ++ (callStep s a).elim [] (acceptedIn · as)

/-- `woff_` is 0 unless a part of `wbuf_` was sent. -/
structure Offset (s : WriteState) : Prop where
  empty : s.wbuf = none → s.woff = 0
  popped : s.dispatcher = .popped → s.woff = 0
  loaded : ∀ bytes, s.dispatcher = .loaded bytes → s.woff = 0

theorem callStep_cases {s s' : WriteState} {a : Act} (h : callStep s a = some s') :
    (a = .wake ∧ s' = { s with dispatcher := .top }) ∨ a ≠ .wake ∧ Moves s a s' := by
  unfold callStep at h
  split at h
  · split at h
    · exact .inl ⟨rfl, (Option.some.inj h).symm⟩
    · cases h
  · next hno => exact .inr ⟨hno, moves_of_step h⟩

theorem length_unsent (s : WriteState) : (unsent s).length = remaining s := by
  unfold unsent remaining
  cases s.wbuf with
  | none => rfl
  | some buf => exact List.length_drop

/-- What waits and what is pushed is what is accepted and waits then. -/
theorem waiting_step {s s' : WriteState} {a : Act} (hI : Offset s) (h : callStep s a = some s') :
    Offset s' ∧ waiting s ++ (pushedBy s a).flatten = acceptedBy s a ++ waiting s' := by
  rcases callStep_cases h with ⟨rfl, rfl⟩ | ⟨-, hm⟩
  · exact ⟨⟨hI.empty, nofun, nofun⟩, List.append_nil _⟩
  · cases hm
    case push buf td hw =>
      refine ⟨⟨hI.empty, hI.popped, hI.loaded⟩, ?_⟩
      simp [pushedBy, acceptedBy, waiting, unsent, hw]
    case pop buf rest hd hnone hq =>
      refine ⟨⟨nofun, fun _ => hI.empty hnone, nofun⟩, ?_⟩
      simp [pushedBy, acceptedBy, waiting, unsent, hnone, hq, hI.empty hnone]
    case loadBytes hd =>
      exact ⟨⟨hI.empty, nofun, fun _ _ => hI.popped hd⟩, List.append_nil _⟩
    case subBytes bytes buf hd hbuf =>
      refine ⟨⟨fun _ => rfl, nofun, nofun⟩, ?_⟩
      simp [pushedBy, acceptedBy, waiting, unsent, hI.loaded bytes hd]
    case sendAll n hd hpos hn =>
      have hall : (unsent s).take n = unsent s :=
        List.take_of_length_le (by rw [length_unsent, hn])
      refine ⟨⟨fun _ => rfl, nofun, nofun⟩, ?_⟩
      simp only [pushedBy, acceptedBy, hall]
      exact List.append_nil _
    case sendPart n hd hpos hlt =>
      obtain ⟨buf, hbuf⟩ : ∃ buf, s.wbuf = some buf := by
        unfold remaining at hlt
        split at hlt
        · exact absurd hlt (Nat.not_lt_zero n)
        · exact ⟨_, ‹_›⟩
      refine ⟨⟨fun hnone => ?_, nofun, nofun⟩, ?_⟩
      · change s.wbuf = none at hnone
        rw [hbuf] at hnone
        cases hnone
      · simp only [pushedBy, acceptedBy, waiting, unsent, hbuf, Option.elim_some,
          List.flatten_nil, List.append_nil, ← List.append_assoc]
        rw [← List.drop_drop, List.take_append_drop]
    case sendFails r hd hr =>
      refine ⟨⟨hI.empty, nofun, nofun⟩, ?_⟩
      rcases hr with rfl | rfl <;> exact List.append_nil _
    -- nothing is pushed, popped or sent
    all_goals
      refine ⟨⟨hI.empty, ?_, ?_⟩, List.append_nil _⟩
      · first | exact hI.popped | nofun
      · first | exact hI.loaded | nofun

theorem pushedIn_cons {s s' : WriteState} {a : Act} (as : List Act) (h : callStep s a = some s') :
    pushedIn s (a :: as) = pushedBy s a ++ pushedIn s' as := by
  rw [pushedIn, h]
  rfl

theorem acceptedIn_cons {s s' : WriteState} {a : Act} (as : List Act)
    (h : callStep s a = some s') : acceptedIn s (a :: as) = acceptedBy s a ++ acceptedIn s' as := by
  rw [acceptedIn, h]
  rfl

theorem waiting_run {s t : WriteState} {as : List Act} (hI : Offset s)
    (h : Lts.run callStep s as = some t) :
    waiting s ++ (pushedIn s as).flatten = acceptedIn s as ++ waiting t := by
  induction as generalizing s with
  | nil =>
      obtain rfl := Option.some.inj h
      exact List.append_nil _
  | cons a as ih =>
      obtain ⟨s', hs, hr⟩ := Lts.run_cons h
      obtain ⟨hI', hstep⟩ := waiting_step hI hs
      calc waiting s ++ (pushedIn s (a :: as)).flatten
          = waiting s ++ (pushedBy s a).flatten ++ (pushedIn s' as).flatten := by
            rw [pushedIn_cons as hs, List.flatten_append, List.append_assoc]
        _ = acceptedBy s a ++ (waiting s' ++ (pushedIn s' as).flatten) := by
            rw [hstep, List.append_assoc]
        _ = acceptedIn s (a :: as) ++ waiting t := by
            rw [ih hI' hr, acceptedIn_cons as hs, List.append_assoc]

/-- The runs of the two threads are such runs. -/
theorem run_callStep {s t : WriteState} {as : List Act} (h : Lts.run step s as = some t) :
    Lts.run callStep s as = some t := by
  refine Lts.run_mono (fun s a s' h => ?_) h
  unfold callStep
  split
  · cases moves_of_step h
    case wake hd _ => exact if_pos (.inl hd)
  · exact h

/-- **Bytes leave in the order they were pushed**, none lost, repeated or mixed: for every
    sequence of pushes and of calls of `onWritable`, in any order and with any results of `send`,
    the bytes accepted so far, the rest of `wbuf_` and the queue are the buffers pushed so far. -/
theorem bytes_in_order {as : List Act} {t : WriteState} (h : Lts.run callStep init as = some t) :
    acceptedIn init as <+: (pushedIn init as).flatten ∧
      (pushedIn init as).flatten = acceptedIn init as ++ (unsent t ++ t.outbox.flatten) := by
  have hI : Offset init := ⟨fun _ => rfl, nofun, nofun⟩
  have hrun : (pushedIn init as).flatten = acceptedIn init as ++ waiting t := waiting_run hI h
  exact ⟨⟨waiting t, hrun.symm⟩, hrun⟩

/-- A buffer leaves in two parts, with an interruption in between. -/
def partsRun : List Act :=
  [.respond okResponse false, .push, .cas, .arm, .wake, .pop, .loadBytes, .subBytes,
    .send (.bytes 8), .pop, .send .eintr, .pop, .send (.bytes 4), .pop, .send .eagain,
    .respond okResponse false, .push]

theorem bytes_in_order_partsRun : ∃ t, Lts.run callStep init partsRun = some t ∧
    acceptedIn init partsRun = ascii "RTSP/1.0 200" ∧
    acceptedIn init partsRun <+: (pushedIn init partsRun).flatten := by
  have hrun : ∃ t, Lts.run callStep init partsRun = some t := ⟨_, rfl⟩
  obtain ⟨t, ht⟩ := hrun
  exact ⟨t, ht, by decide +kernel, (bytes_in_order ht).1⟩

end RtspServer.WriteWake
