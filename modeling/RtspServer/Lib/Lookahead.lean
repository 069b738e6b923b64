/-
  A source of items with a slot for the next one, so that it can be looked at before it is read.
  Names nothing of the server.

  `next` takes the next item from a source, or fails. A peek that fails leaves nothing in the
  slot, so the failure is not read any more. `run_filter_iff`: the peeks can be left out of every
  run if and only if the source, once it has failed, goes on to fail.
-/
import Mathlib.Data.List.Basic
import Mathlib.Logic.Function.Iterate
import Mathlib.Tactic.Common

structure Lookahead (S α : Type) where
  source : S
  slot : Option α

namespace Lookahead

variable {S α : Type} (next : S → Option α × S)

def read (l : Lookahead S α) : Option α × Lookahead S α :=
  match l.slot with
  | some a => (some a, ⟨l.source, none⟩)
  | none => ((next l.source).1, ⟨(next l.source).2, none⟩)

def peek (l : Lookahead S α) : Option α × Lookahead S α :=
  match l.slot with
  | some a => (some a, l)
  | none => ((next l.source).1, ⟨(next l.source).2, (next l.source).1⟩)

inductive Call where
  | read
  | peek
  deriving DecidableEq

/-- The results of the reads. -/
def run : List Call → Lookahead S α → List (Option α) × Lookahead S α
  | [], l => ([], l)
  | .read :: cs, l => ((l.read next).1 :: (run cs (l.read next).2).1, (run cs (l.read next).2).2)
  | .peek :: cs, l => run cs (l.peek next).2

/-- The source after `n` items. -/
def after (n : Nat) (s : S) : S := (fun s => (next s).2)^[n] s

/-- After a failure the source fails again. -/
def FailuresFinal (s : S) : Prop :=
  ∀ n, (next (after next n s)).1 = none → (next (after next (n + 1) s)).1 = none

/-- No item comes from the source any more. -/
def Dry (s : S) : Prop := ∀ n, (next (after next n s)).1 = none

variable {next}

theorem after_succ (n : Nat) (s : S) : after next (n + 1) s = after next n (next s).2 :=
  Function.iterate_succ_apply _ n s

theorem after_add (n k : Nat) (s : S) : after next (n + k) s = after next k (after next n s) := by
  unfold after
  rw [Nat.add_comm, Function.iterate_add_apply]

theorem FailuresFinal.after {s : S} (h : FailuresFinal next s) (k : Nat) :
    FailuresFinal next (after next k s) := by
  intro n hn
  rw [← after_add] at hn ⊢
  exact h (k + n) hn

theorem FailuresFinal.dry {s : S} (h : FailuresFinal next s) (hfail : (next s).1 = none) :
    Dry next s := by
  intro n
  induction n with
  | zero => exact hfail
  | succ n ih => exact h n ih

theorem Dry.step {s : S} (h : Dry next s) : Dry next (next s).2 := by
  intro n
  rw [← after_succ]
  exact h (n + 1)

theorem run_append (cs ds : List Call) (l : Lookahead S α) :
    run next (cs ++ ds) l =
      ((run next cs l).1 ++ (run next ds (run next cs l).2).1,
        (run next ds (run next cs l).2).2) := by
  induction cs generalizing l with
  | nil => rfl
  | cons c cs ih =>
      cases c with
      | read => rw [List.cons_append, run, run, ih]; rfl
      | peek => rw [List.cons_append, run, run, ih]

/-- The calls that are no peeks. -/
def reads (cs : List Call) : List Call := cs.filter (· = .read)

theorem reads_append (cs ds : List Call) : reads (cs ++ ds) = reads cs ++ reads ds :=
  List.filter_append cs ds

theorem reads_replicate (n : Nat) : reads (List.replicate n .read) = List.replicate n .read :=
  List.filter_replicate_of_pos (by decide)

theorem run_replicate (n : Nat) (s : S) :
    (run next (List.replicate n .read) ⟨s, none⟩).2 = ⟨after next n s, none⟩ := by
  induction n generalizing s with
  | zero => rfl
  | succ n ih => rw [List.replicate_succ, run, after_succ]; exact ih (next s).2

/-- Reads alone get to every place of the source. -/
theorem exists_reads (next : S → Option α × S) (l : Lookahead S α) (n : Nat) :
    ∃ k, (run next (List.replicate k .read) l).2 = ⟨after next n l.source, none⟩ := by
  obtain ⟨s, slot⟩ := l
  cases slot with
  | none => exact ⟨n, run_replicate n s⟩
  | some a => exact ⟨n + 1, run_replicate n s⟩

/-- How a run with peeks stands to the same run without: it is at the same place, or one item
    ahead, which is in the slot, or both are where nothing comes any more. -/
inductive Sim (next : S → Option α × S) : Lookahead S α → Lookahead S α → Prop where
  | same (l : Lookahead S α) : Sim next l l
  | ahead {s s' : S} {a : α} (h : next s = (some a, s')) : Sim next ⟨s', some a⟩ ⟨s, none⟩
  | dry {s s' : S} (h : Dry next s) (h' : Dry next s') : Sim next ⟨s, none⟩ ⟨s', none⟩

theorem read_none (s : S) :
    read next ⟨s, none⟩ = ((next s).1, ⟨(next s).2, none⟩) := rfl

theorem Sim.read {l k : Lookahead S α} (h : Sim next l k) :
    (l.read next).1 = (k.read next).1 ∧ Sim next (l.read next).2 (k.read next).2 := by
  cases h with
  | same => exact ⟨rfl, .same _⟩
  | @ahead s s' a hnext =>
      rw [read_none, hnext]
      exact ⟨rfl, .same _⟩
  | dry h h' =>
      rw [read_none, read_none]
      exact ⟨(h 0).trans (h' 0).symm, .dry h.step h'.step⟩

theorem Sim.peek {l k : Lookahead S α} (h : Sim next l k) (hfinal : FailuresFinal next k.source) :
    Sim next (l.peek next).2 k := by
  cases h with
  | same =>
      obtain ⟨s, slot⟩ := l
      cases slot with
      | some a => exact .same _
      | none =>
          obtain ⟨r, s', hnext⟩ : ∃ r s', next s = (r, s') := ⟨_, _, rfl⟩
          simp only [Lookahead.peek, hnext]
          cases r with
          | some a => exact .ahead hnext
          | none =>
              have hdry : Dry next s := hfinal.dry (by rw [hnext])
              have hdry' := hdry.step
              rw [hnext] at hdry'
              exact .dry hdry' hdry
  | ahead hnext => exact .ahead hnext
  | @dry s s' h h' =>
      have hfail : (next s).1 = none := h 0
      simp only [Lookahead.peek, hfail]
      exact .dry h.step h'

theorem read_final {l : Lookahead S α} (h : FailuresFinal next l.source) :
    FailuresFinal next (l.read next).2.source := by
  obtain ⟨s, slot⟩ := l
  cases slot with
  | some a => exact h
  | none => exact h.after 1

theorem peek_final {l : Lookahead S α} (h : FailuresFinal next l.source) :
    FailuresFinal next (l.peek next).2.source := by
  obtain ⟨s, slot⟩ := l
  cases slot with
  | some a => exact h
  | none => exact h.after 1

theorem run_final {l : Lookahead S α} (h : FailuresFinal next l.source) (cs : List Call) :
    FailuresFinal next (run next cs l).2.source := by
  induction cs generalizing l with
  | nil => exact h
  | cons c cs ih =>
      cases c with
      | read => exact ih (read_final h)
      | peek => exact ih (peek_final h)

/-- The run with the peeks gives the same results. -/
theorem Sim.run {l k : Lookahead S α} (h : Sim next l k) (hfinal : FailuresFinal next k.source)
    (cs : List Call) : (run next cs l).1 = (run next (reads cs) k).1 := by
  induction cs generalizing l k with
  | nil => rfl
  | cons c cs ih =>
      cases c with
      | read =>
          obtain ⟨hresult, hsim⟩ := h.read
          change _ :: _ = _ :: _
          rw [hresult, ih hsim (read_final hfinal)]
          rfl
      | peek => exact ih (h.peek hfinal) hfinal

/-- The peeks can be left out if and only if failures are final. -/
theorem run_filter_iff (l : Lookahead S α) :
    (∀ cs, (run next cs l).1 = (run next (reads cs) l).1) ↔ FailuresFinal next l.source := by
  constructor
  · intro h n hfail
    -- a peek at the place of the failure, and a read
    obtain ⟨k, hk⟩ := exists_reads next l n
    have hcalls := h (List.replicate k .read ++ [.peek, .read])
    rw [reads_append, reads_replicate, run_append, run_append, hk] at hcalls
    obtain ⟨hsame, -⟩ := List.cons.inj (List.append_cancel_left hcalls)
    have hslot : (peek next ⟨after next n l.source, none⟩).2 =
        ⟨after next (n + 1) l.source, none⟩ := by
      simp only [peek, hfail, after_add n 1]
      rfl
    rw [hslot, read_none, read_none] at hsame
    exact hsame.trans hfail
  · exact fun hfinal cs => (Sim.same l).run hfinal cs

theorem Dry.run {s : S} (h : Dry next s) (n : Nat) :
    ∀ r ∈ (run next (List.replicate n .read) ⟨s, none⟩).1, r = none := by
  induction n generalizing s with
  | zero => exact List.forall_mem_nil _
  | succ n ih => exact List.forall_mem_cons.mpr ⟨h 0, ih h.step⟩

/-- Some read gives an item. -/
def More (next : S → Option α × S) (l : Lookahead S α) : Prop :=
  ∃ n a, some a ∈ (run next (List.replicate n .read) l).1

/-- While there is a further item, a peek returns it. -/
theorem peek_eq_read {l : Lookahead S α} (hfinal : FailuresFinal next l.source)
    (hmore : More next l) :
    ∃ a, (l.peek next).1 = some a ∧ ((l.peek next).2.read next).1 = some a := by
  obtain ⟨s, slot⟩ := l
  cases slot with
  | some a => exact ⟨a, rfl, rfl⟩
  | none =>
      obtain ⟨r, s', hnext⟩ : ∃ r s', next s = (r, s') := ⟨_, _, rfl⟩
      cases r with
      | some a => exact ⟨a, by simp only [peek, hnext], by simp only [peek, hnext, Lookahead.read]⟩
      | none =>
          have hdry : Dry next s := hfinal.dry (by rw [hnext])
          obtain ⟨n, a, ha⟩ := hmore
          exact absurd (hdry.run n (some a) ha) (Option.some_ne_none a)

end Lookahead
