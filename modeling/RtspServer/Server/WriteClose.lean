/-
  The close of a session whose `close_after_write_` is set, over the interleavings of
  `WriteWake`. `handleTeardown` pushes its response before it sets the flag, and the Dispatcher
  reads the flag once, when it has found the outbox empty and has taken EPOLLOUT out of the
  interest set. When the response is sent and the flag read before it is set, nothing wakes the
  Dispatcher again and the session stays open.

  `closeKept_iff`: in a run the close is kept in every state if and only if each store of the
  flag falls where EPOLLOUT is still asked for or the Dispatcher has not read the flag yet.
-/
import RtspServer.Server.WriteWake

namespace RtspServer.WriteWake

open ByteString

/-- With both threads outside of their functions, a session that is to be closed is closed or
    EPOLLOUT is asked for. -/
def CloseKept (s : WriteState) : Prop :=
  s.worker = .idle → s.dispatcher = .idle ∨ s.dispatcher = .closed → s.closeAfterWrite = true →
    s.dispatcher = .closed ∨ s.interest = some true

/-- The Dispatcher has disarmed and still reads the flag, or it closes the session. -/
def DispatcherPc.WillClose : DispatcherPc → Prop
  | .disarmed | .cleared | .failed | .closed => True
  | _ => False

instance (d : DispatcherPc) : Decidable d.WillClose := by
  unfold DispatcherPc.WillClose
  split <;> infer_instance

instance (s : WriteState) : Decidable (CloseKept s) := inferInstanceAs (Decidable (_ → _))

/-- The condition on the steps: `close_after_write_` is set while EPOLLOUT is asked for, or after
    the Dispatcher has disarmed and before it reads the flag, or when it closes anyway. -/
def StoresInTime (s : WriteState) (a : Act) : Prop :=
  a = .storeClose → s.interest = some true ∨ s.dispatcher.WillClose

instance (s : WriteState) (a : Act) : Decidable (StoresInTime s a) :=
  inferInstanceAs (Decidable (_ → _))

/-- What holds in every state as long as the flag is set in time. -/
structure Closing (s : WriteState) : Prop where
  /-- inside the loop EPOLLOUT is asked for: only the Dispatcher takes it out -/
  draining : s.dispatcher.Draining → s.interest = some true
  asked : s.closeAfterWrite = true → s.interest = some true ∨ s.dispatcher.WillClose

theorem closing_init : Closing init := by
  constructor <;> simp [init, DispatcherPc.Draining]

theorem closeKept_of_closing {s : WriteState} (h : Closing s) : CloseKept s := by
  intro _ hd hclose
  rcases h.asked hclose with hi | hw
  · exact .inr hi
  · rcases hd with hd | hd
    · rw [hd] at hw
      exact hw.elim
    · exact .inl hd

/-- Inside the loop, and where it was entered, EPOLLOUT is asked for. -/
theorem Closing.of_asked {s : WriteState} (h : s.interest = some true) : Closing s :=
  ⟨fun _ => h, fun _ => .inl h⟩

/-- Where the Dispatcher closes the session or still reads the flag nothing is left to show. -/
theorem Closing.of_willClose {s : WriteState} (h : s.dispatcher.WillClose) : Closing s := by
  refine ⟨fun hd => ?_, fun _ => .inr h⟩
  cases hs : s.dispatcher <;> simp_all [DispatcherPc.Draining, DispatcherPc.WillClose]

theorem closing_step {s s' : WriteState} {a : Act} (hI : Closing s) (hC : StoresInTime s a)
    (h : step s a = some s') : Closing s' := by
  have hloop : s.dispatcher.Draining → s.interest = some true := hI.draining
  cases moves_of_step h with
  | respond | overflow | checkFrame | addFrame | push | casFails | cas =>
      exact ⟨hI.draining, hI.asked⟩
  | arm =>
      have harm : s.interest = some true → s.interest.map (fun _ => true) = some true := by
        intro hi
        rw [hi]
        rfl
      exact ⟨fun hd => harm (hI.draining hd), fun hc => (hI.asked hc).imp_left harm⟩
  | storeClose =>
      -- the one step that needs the condition
      exact ⟨hI.draining, fun _ => hC rfl⟩
  | wake _ hi => exact .of_asked hi
  | popHeld _ hd | popEmpty hd | pop _ _ hd | loadBytes hd | subBytes _ _ hd | sendAll _ hd
  | sendPart _ hd | sendAgain hd | sendIntr hd =>
      exact .of_asked (hloop (by rw [hd]; trivial))
  | sendFails | disarm | clear | closeAsked | hangup | closeSession =>
      exact .of_willClose trivial
  | stayOpen _ hopen =>
      refine ⟨fun hd => hd.elim, fun hc => ?_⟩
      have hc : s.closeAfterWrite = true := hc
      rw [hopen] at hc
      cases hc

theorem DispatcherPc.idle_of_not {d : DispatcherPc} (hdrain : ¬ d.Draining)
    (hclose : ¬ d.WillClose) : d = .idle := by
  cases d <;> simp_all [Draining, WillClose]

/-- A store that comes too late leaves both threads outside and nothing that wakes the
    Dispatcher. -/
theorem not_closeKept_step {s s' : WriteState} {a : Act} (hI : Closing s)
    (hC : ¬ StoresInTime s a) (h : step s a = some s') : ¬ CloseKept s' := by
  unfold StoresInTime at hC
  push Not at hC
  obtain ⟨rfl, hi, hw⟩ := hC
  have hd : s.dispatcher = .idle :=
    DispatcherPc.idle_of_not (fun hdrain => hi (hI.draining hdrain)) hw
  cases moves_of_step h
  intro hkept
  rcases hkept rfl (.inl hd) rfl with hclosed | hasked
  · change s.dispatcher = .closed at hclosed
    rw [hd] at hclosed
    cases hclosed
  · exact hi hasked

/-- **The close is not lost**, over every interleaving from an accepted session: in every state
    with both threads outside of their functions a session with `close_after_write_` set is
    closed or EPOLLOUT is asked for, if and only if each store of the flag falls while EPOLLOUT
    is asked for, or between the disarming and the load of the flag, or after the Dispatcher
    has given the session up. -/
theorem closeKept_iff (as : List Act) (s : WriteState) (h : Lts.run step init as = some s) :
    Lts.Throughout step CloseKept init as ↔ Lts.Along step StoresInTime init as :=
  Lts.throughout_iff_of_invariant (fun _ hI => closeKept_of_closing hI)
    (fun _ _ _ hI hC h => closing_step hI hC h)
    (fun _ _ _ hI hC h => not_closeKept_step hI hC h) closing_init h

/-- The worker pushes the answer to TEARDOWN and arms EPOLLOUT. -/
def teardownPushed : List Act := [.respond okResponse true, .push, .cas, .arm]

/-- The flag is set before the Dispatcher has sent the answer. -/
def teardownInTime : List Act :=
  teardownPushed ++ [.storeClose, .wake, .pop, .loadBytes, .subBytes,
    .send (.bytes okResponse.length), .pop, .disarm, .clear, .loadClose, .closeSession]

/-- The Dispatcher sends the answer, finds the outbox empty and reads the flag first. -/
def teardownTooLate : List Act :=
  teardownPushed ++ [.wake, .pop, .loadBytes, .subBytes, .send (.bytes okResponse.length), .pop,
    .disarm, .clear, .loadClose, .storeClose]

theorem closeKept_iff_inTime : ∃ s, Lts.run step init teardownInTime = some s ∧
    s.closeAfterWrite = true ∧ s.dispatcher = .closed ∧
    Lts.Throughout step CloseKept init teardownInTime := by
  have hC : Lts.Along step StoresInTime init teardownInTime := by decide +kernel
  exact ⟨_, rfl, by decide +kernel, by decide +kernel, (closeKept_iff _ _ rfl).mpr hC⟩

theorem teardownTooLate_loses_close :
    ∃ s, Lts.run step init teardownTooLate = some s ∧ ¬ CloseKept s :=
  ⟨_, rfl, by decide +kernel⟩

end RtspServer.WriteWake
