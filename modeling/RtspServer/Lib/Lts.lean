/-
  Runs of a transition system given by a partial step function `step : σ → α → Option σ`: the
  action says which thread moves and what the outside world answers, `none` says the action is
  not possible. Names nothing of the server.

  `run step s as` is the state after the actions `as`. `Along C s as` says that each action of
  the run meets the condition `C` in the state it is taken in.

  * `run_invariant`: an invariant kept by the steps that meet `C` holds after every run along
    `C`. Every state of a run is the end of a shorter run, so this covers all states reached.
  * `throughout_iff`: the exact form, for a condition that the steps need to keep the invariant.
  * `run_events`: the invariant rule for states with a growing log, up to an event that ends it.
  * `run_outputs`: the same for an invariant that also speaks about what the steps put out.
-/
import Mathlib.Data.List.Basic
import Mathlib.Tactic.Common

namespace Lts

variable {σ α : Type}

/-- The state after the actions, `none` when one of them is not possible. -/
def run (step : σ → α → Option σ) : σ → List α → Option σ
  | s, [] => some s
  | s, a :: as =>
      match step s a with
      | none => none
      | some s' => run step s' as

/-- Every action of the run meets `C` in the state it is taken in. -/
def Along (step : σ → α → Option σ) (C : σ → α → Prop) : σ → List α → Prop
  | _, [] => True
  | s, a :: as =>
      C s a ∧
        match step s a with
        | none => True
        | some s' => Along step C s' as

/-- Every state of the run meets `I`, the first and the last included. -/
def Throughout (step : σ → α → Option σ) (I : σ → Prop) : σ → List α → Prop
  | s, [] => I s
  | s, a :: as =>
      I s ∧
        match step s a with
        | none => True
        | some s' => Throughout step I s' as

instance decidableAlong (step : σ → α → Option σ) (C : σ → α → Prop) [∀ s a, Decidable (C s a)] :
    ∀ (s : σ) (as : List α), Decidable (Along step C s as)
  | _, [] => inferInstanceAs (Decidable True)
  | s, a :: as =>
      match h : step s a with
      | none => decidable_of_iff (C s a) (by simp [Along, h])
      | some s' =>
          have := decidableAlong step C s' as
          decidable_of_iff (C s a ∧ Along step C s' as) (by simp [Along, h])

instance decidableThroughout (step : σ → α → Option σ) (I : σ → Prop) [∀ s, Decidable (I s)] :
    ∀ (s : σ) (as : List α), Decidable (Throughout step I s as)
  | s, [] => inferInstanceAs (Decidable (I s))
  | s, a :: as =>
      match h : step s a with
      | none => decidable_of_iff (I s) (by simp [Throughout, h])
      | some s' =>
          have := decidableThroughout step I s' as
          decidable_of_iff (I s ∧ Throughout step I s' as) (by simp [Throughout, h])

variable {step : σ → α → Option σ}

theorem run_cons {s t : σ} {a : α} {as : List α} (h : run step s (a :: as) = some t) :
    ∃ s', step s a = some s' ∧ run step s' as = some t := by
  rw [run] at h
  split at h
  · cases h
  · next s' hs => exact ⟨s', hs, h⟩

theorem run_cons_of {s s' t : σ} {a : α} {as : List α} (hs : step s a = some s')
    (h : run step s' as = some t) : run step s (a :: as) = some t := by
  rw [run, hs]
  exact h

theorem run_append {s t : σ} {as bs : List α} :
    run step s (as ++ bs) = some t ↔ ∃ u, run step s as = some u ∧ run step u bs = some t := by
  induction as generalizing s with
  | nil => simp [run]
  | cons a as ih =>
      constructor
      · intro h
        obtain ⟨s', hs, hr⟩ := run_cons h
        obtain ⟨u, hu, ht⟩ := ih.mp hr
        exact ⟨u, run_cons_of hs hu, ht⟩
      · rintro ⟨u, hu, ht⟩
        obtain ⟨s', hs, hr⟩ := run_cons hu
        exact run_cons_of hs (ih.mpr ⟨u, hr, ht⟩)

/-- A system that can do more has more runs. -/
theorem run_mono {step' : σ → α → Option σ}
    (hstep : ∀ s a s', step s a = some s' → step' s a = some s') {s t : σ} {as : List α}
    (h : run step s as = some t) : run step' s as = some t := by
  induction as generalizing s with
  | nil => exact h
  | cons a as ih =>
      obtain ⟨s', hs, hr⟩ := run_cons h
      exact run_cons_of (hstep s a s' hs) (ih hr)

/-- A condition that the actions meet in every state. -/
theorem along_of_forall {C : σ → α → Prop} {as : List α} (h : ∀ a ∈ as, ∀ s, C s a) (s : σ) :
    Along step C s as := by
  induction as generalizing s with
  | nil => trivial
  | cons a as ih =>
      obtain ⟨ha, hrest⟩ := List.forall_mem_cons.mp h
      refine ⟨ha s, ?_⟩
      split
      · trivial
      · next s' _ => exact ih hrest s'

/-- A weaker condition on the steps. -/
theorem along_mono {C C' : σ → α → Prop} (h : ∀ s a, C s a → C' s a) {s : σ} {as : List α}
    (hC : Along step C s as) : Along step C' s as := by
  induction as generalizing s with
  | nil => trivial
  | cons a as ih =>
      obtain ⟨ha, hrest⟩ := hC
      refine ⟨h s a ha, ?_⟩
      split at hrest
      · trivial
      · exact ih hrest

theorem along_and {C C' : σ → α → Prop} {s : σ} {as : List α} (h : Along step C s as)
    (h' : Along step C' s as) : Along step (fun s a => C s a ∧ C' s a) s as := by
  induction as generalizing s with
  | nil => trivial
  | cons a as ih =>
      refine ⟨⟨h.1, h'.1⟩, ?_⟩
      have hrest := h.2
      have hrest' := h'.2
      split
      · trivial
      · next s' hs =>
          rw [hs] at hrest hrest'
          exact ih hrest hrest'

/-- The two parts of a run along a condition. -/
theorem along_append {C : σ → α → Prop} {s u : σ} {as bs : List α} (h : run step s as = some u)
    (hC : Along step C s (as ++ bs)) : Along step C s as ∧ Along step C u bs := by
  induction as generalizing s with
  | nil =>
      cases h
      exact ⟨trivial, hC⟩
  | cons a as ih =>
      obtain ⟨s', hs, hr⟩ := run_cons h
      rw [List.cons_append, Along, hs] at hC
      rw [Along, hs]
      obtain ⟨hfirst, hsecond⟩ := ih hr hC.2
      exact ⟨⟨hC.1, hfirst⟩, hsecond⟩

/-- The invariant rule for the runs along a condition on the steps. -/
theorem run_invariant {C : σ → α → Prop} {I : σ → Prop}
    (hstep : ∀ s a s', I s → C s a → step s a = some s' → I s') {s t : σ} {as : List α}
    (hI : I s) (hC : Along step C s as) (h : run step s as = some t) : I t := by
  induction as generalizing s with
  | nil => cases h; exact hI
  | cons a as ih =>
      obtain ⟨s', hs, hr⟩ := run_cons h
      rw [Along, hs] at hC
      exact ih (hstep s a s' hI hC.1 hs) hC.2 hr

/-- A property of all states as a condition on the steps. -/
theorem along_of_throughout {P : σ → Prop} {s : σ} {as : List α} (h : Throughout step P s as) :
    Along step (fun s a => ∀ s', step s a = some s' → P s') s as := by
  induction as generalizing s with
  | nil => trivial
  | cons a as ih =>
      rw [Throughout] at h
      rw [Along]
      cases hs : step s a with
      | none => exact ⟨fun _ h => (nomatch h), trivial⟩
      | some s' =>
          rw [hs] at h
          have hs' : P s' := by
            cases as with
            | nil => exact h.2
            | cons b bs => exact h.2.1
          refine ⟨fun u hu => ?_, ih h.2⟩
          obtain rfl := Option.some.inj hu
          exact hs'

/-- The invariant rule for the runs whose states all meet `P`. -/
theorem run_throughout {P I : σ → Prop}
    (hstep : ∀ s a s', I s → P s' → step s a = some s' → I s') {s t : σ} {as : List α}
    (hI : I s) (hP : Throughout step P s as) (h : run step s as = some t) : I t :=
  run_invariant (fun s a s' hI hP h => hstep s a s' hI (hP s' h) h) hI (along_of_throughout hP) h

/-- The invariant rule without a condition. -/
theorem run_stable {I : σ → Prop} (hstep : ∀ s a s', I s → step s a = some s' → I s') {s t : σ}
    {as : List α} (hI : I s) (h : run step s as = some t) : I t := by
  induction as generalizing s with
  | nil => cases h; exact hI
  | cons a as ih =>
      obtain ⟨s', hs, hr⟩ := run_cons h
      exact ih (hstep s a s' hI hs) hr

theorem run_snoc {s t u : σ} {as : List α} {a : α} (h : run step s as = some t)
    (ha : step t a = some u) : run step s (as ++ [a]) = some u :=
  run_append.mpr ⟨t, h, run_cons_of ha rfl⟩

/-- The invariant rule for a system whose states carry a log that only grows: `I pass t` speaks
    about the events since the start of the run, and the steps have to keep it only as long as
    these events meet `P`. -/
theorem run_events {ε : Type} (log : σ → List ε)
    (hgrow : ∀ s a s', step s a = some s' → ∃ l, log s' = log s ++ l) {P : ε → Prop}
    {I : List ε → σ → Prop}
    (hstep : ∀ pass s a s' l, I pass s → step s a = some s' → log s' = log s ++ l →
      (∀ e ∈ l, P e) → I (pass ++ l) s') {s t : σ} {as : List α} {l : List ε} (hI : I [] s)
    (h : run step s as = some t) (hlog : log t = log s ++ l) (hl : ∀ e ∈ l, P e) : I l t := by
  have hgrows : ∀ (as : List α) (s : σ), run step s as = some t → ∃ l, log t = log s ++ l := by
    intro as
    induction as with
    | nil =>
        intro s h
        cases h
        exact ⟨[], (List.append_nil _).symm⟩
    | cons a as ih =>
        intro s h
        obtain ⟨s', hs, hr⟩ := run_cons h
        obtain ⟨l₁, hl₁⟩ := hgrow s a s' hs
        obtain ⟨l₂, hl₂⟩ := ih s' hr
        exact ⟨l₁ ++ l₂, by rw [hl₂, hl₁, List.append_assoc]⟩
  -- the events so far are `pass`, those to come `l`
  have key : ∀ (as : List α) (pass l : List ε) (s : σ), I pass s → run step s as = some t →
      log t = log s ++ l → (∀ e ∈ l, P e) → I (pass ++ l) t := by
    intro as
    induction as with
    | nil =>
        intro pass l s hI h hlog _
        cases h
        rw [List.self_eq_append_right.mp hlog, List.append_nil]
        exact hI
    | cons a as ih =>
        intro pass l s hI h hlog hl
        obtain ⟨s', hs, hr⟩ := run_cons h
        obtain ⟨l₁, hl₁⟩ := hgrow s a s' hs
        obtain ⟨l₂, hl₂⟩ := hgrows as s' hr
        obtain rfl : l = l₁ ++ l₂ := by
          rw [hl₂, hl₁, List.append_assoc] at hlog
          exact (List.append_cancel_left hlog).symm
        obtain ⟨hP₁, hP₂⟩ := List.forall_mem_append.mp hl
        rw [← List.append_assoc]
        exact ih (pass ++ l₁) l₂ s' (hstep pass s a s' l₁ hI hs hl₁ hP₁) hr hl₂ hP₂
  have := key as [] l s hI h hlog hl
  rwa [List.nil_append] at this

/-- What the steps of a run put out, in order. -/
def outputs {β : Type} (step : σ → α → Option σ) (out : σ → α → List β) : σ → List α → List β
  | _, [] => []
  | s, a :: as =>
      out s a ++
        match step s a with
        | none => []
        | some s' => outputs step out s' as

/-- The invariant rule for an invariant that also speaks about what was put out so far. -/
theorem run_outputs {β : Type} {out : σ → α → List β} {C : σ → α → Prop} {I : List β → σ → Prop}
    (hstep : ∀ bs s a s', I bs s → C s a → step s a = some s' → I (bs ++ out s a) s') {s t : σ}
    {as : List α} (hI : I [] s) (hC : Along step C s as) (h : run step s as = some t) :
    I (outputs step out s as) t := by
  -- `bs` was put out before the steps still to come
  have key : ∀ (as : List α) (bs : List β) (s : σ), I bs s → Along step C s as →
      run step s as = some t → I (bs ++ outputs step out s as) t := by
    intro as
    induction as with
    | nil =>
        intro bs s hI _ h
        cases h
        rw [outputs, List.append_nil]
        exact hI
    | cons a as ih =>
        intro bs s hI hC h
        obtain ⟨s', hs, hr⟩ := run_cons h
        rw [Along, hs] at hC
        rw [outputs, hs, ← List.append_assoc]
        exact ih _ s' (hstep bs s a s' hI hC.1 hs) hC.2 hr
  have := key as [] s hI hC h
  rwa [List.nil_append] at this

/-- A run that is not along `C` has a first step that breaks it. -/
theorem first_break {C : σ → α → Prop} {s t : σ} {as : List α} (hC : ¬ Along step C s as)
    (h : run step s as = some t) :
    ∃ before a after u v, as = before ++ a :: after ∧ Along step C s before ∧
      run step s before = some u ∧ ¬ C u a ∧ step u a = some v ∧ run step v after = some t := by
  induction as generalizing s with
  | nil => exact absurd trivial hC
  | cons a as ih =>
      obtain ⟨s', hs, hr⟩ := run_cons h
      by_cases ha : C s a
      · have hC' : ¬ Along step C s' as := fun hw => hC (by rw [Along, hs]; exact ⟨ha, hw⟩)
        obtain ⟨before, b, after, u, v, rfl, hb, hu, hbr, hv, hrest⟩ := ih hC' hr
        refine ⟨a :: before, b, after, u, v, rfl, ?_, run_cons_of hs hu, hbr, hv, hrest⟩
        rw [Along, hs]
        exact ⟨ha, hb⟩
      · exact ⟨[], a, as, s, s', rfl, trivial, rfl, ha, hs, hr⟩

/-- The exact rule: when the steps that meet `C` keep an invariant that gives `I`, and the others
    break `I`, then `I` holds in every state of a run if and only if the run is along `C`. -/
theorem throughout_iff_of_invariant {C : σ → α → Prop} {I J : σ → Prop} (hgive : ∀ s, J s → I s)
    (hkeep : ∀ s a s', J s → C s a → step s a = some s' → J s')
    (hbreak : ∀ s a s', J s → ¬ C s a → step s a = some s' → ¬ I s') {s t : σ} {as : List α}
    (hJ : J s) (h : run step s as = some t) : Throughout step I s as ↔ Along step C s as := by
  induction as generalizing s with
  | nil => exact ⟨fun _ => trivial, fun _ => hgive s hJ⟩
  | cons a as ih =>
      obtain ⟨s', hs, hr⟩ := run_cons h
      rw [Throughout, Along, hs]
      dsimp only
      by_cases hC : C s a
      · rw [ih (hkeep s a s' hJ hC hs) hr]
        exact ⟨fun h => ⟨hC, h.2⟩, fun h => ⟨hgive s hJ, h.2⟩⟩
      · constructor
        · intro ⟨_, hw⟩
          have hs' : I s' := by
            cases as with
            | nil => exact hw
            | cons b bs => exact hw.1
          exact absurd hs' (hbreak s a s' hJ hC hs)
        · intro ⟨hc, _⟩
          exact absurd hc hC

/-- The same where `I` is itself kept. -/
theorem throughout_iff {C : σ → α → Prop} {I : σ → Prop}
    (hkeep : ∀ s a s', I s → C s a → step s a = some s' → I s')
    (hbreak : ∀ s a s', I s → ¬ C s a → step s a = some s' → ¬ I s') {s t : σ} {as : List α}
    (hI : I s) (h : run step s as = some t) : Throughout step I s as ↔ Along step C s as :=
  throughout_iff_of_invariant (fun _ hI => hI) hkeep hbreak hI h

end Lts
