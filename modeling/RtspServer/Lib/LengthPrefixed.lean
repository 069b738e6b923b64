/-
  Byte strings with a length of two bytes in front, the high byte first, one behind the other.
  Names nothing of the server.

  `scan n` reads up to `n` entries and stops in front of one that is not there, but behind the
  length of one that is cut short. `exists_entries` says where it stops.
-/
import RtspServer.Lib.ByteString

namespace LengthPrefixed

open ByteString

/-- The number of two bytes. -/
def length16 (hi lo : UInt8) : Nat := 256 * hi.toNat + lo.toNat

/-- An entry, which holds less than 65536 bytes. -/
def entry (e : Bytes) : Bytes := UInt8.ofNat (e.length / 256) :: UInt8.ofNat e.length :: e

def entries (es : List Bytes) : Bytes := es.flatMap entry

/-- The entries fit their lengths. -/
def Fit (es : List Bytes) : Prop := ∀ e ∈ es, e.length < 65536

instance (es : List Bytes) : Decidable (Fit es) :=
  inferInstanceAs (Decidable (∀ e ∈ es, e.length < 65536))

/-- Up to `n` entries: the first one, if there is one, and the text behind the last one. An entry
    that is cut short loses its length. -/
def scan : Nat → Bytes → Option Bytes × Bytes
  | 0, s => (none, s)
  | n + 1, hi :: lo :: s =>
      if length16 hi lo ≤ s.length then
        (some (s.take (length16 hi lo)), (scan n (s.drop (length16 hi lo))).2)
      else (none, s)
  | _ + 1, s => (none, s)

@[simp] theorem entries_nil : entries [] = [] := rfl

theorem entries_cons (e : Bytes) (es : List Bytes) : entries (e :: es) = entry e ++ entries es :=
  List.flatMap_cons

theorem length16_entry {n : Nat} (h : n < 65536) :
    length16 (UInt8.ofNat (n / 256)) (UInt8.ofNat n) = n := by
  rw [length16, UInt8.toNat_ofNat', UInt8.toNat_ofNat']
  omega

theorem entry_take {hi lo : UInt8} {s : Bytes} (h : length16 hi lo ≤ s.length) :
    hi :: lo :: s = entry (s.take (length16 hi lo)) ++ s.drop (length16 hi lo) := by
  have hhi := hi.toNat_lt
  have hlo := lo.toNat_lt
  have hlen : (s.take (length16 hi lo)).length = 256 * hi.toNat + lo.toNat := by
    rw [List.length_take, Nat.min_eq_left h]
    rfl
  have hhigh : UInt8.ofNat ((256 * hi.toNat + lo.toNat) / 256) = hi := by
    apply UInt8.toNat_inj.mp
    rw [UInt8.toNat_ofNat']
    omega
  have hlow : UInt8.ofNat (256 * hi.toNat + lo.toNat) = lo := by
    apply UInt8.toNat_inj.mp
    rw [UInt8.toNat_ofNat']
    omega
  rw [entry, hlen, hhigh, hlow, List.cons_append, List.cons_append, List.take_append_drop]

theorem scan_short {s : Bytes} (h : s.length < 2) (n : Nat) : scan n s = (none, s) := by
  cases n with
  | zero => rfl
  | succ n =>
      cases s with
      | nil => rfl
      | cons x s =>
          cases s with
          | nil => rfl
          | cons y s =>
              rw [List.length_cons, List.length_cons] at h
              omega

theorem scan_entry (n : Nat) {e : Bytes} (he : e.length < 65536) (s : Bytes) :
    scan (n + 1) (entry e ++ s) = (some e, (scan n s).2) := by
  have hlen := length16_entry he
  have hle : length16 (UInt8.ofNat (e.length / 256)) (UInt8.ofNat e.length) ≤ (e ++ s).length := by
    rw [hlen, List.length_append]
    omega
  rw [entry, List.cons_append, List.cons_append, scan, if_pos hle, hlen, List.take_left,
    List.drop_left]

/-- Entries that are there are read. -/
theorem scan_entries {es : List Bytes} (hfit : Fit es) (n : Nat) (s : Bytes) :
    scan (es.length + n) (entries es ++ s) =
      (match es with | [] => (scan n s).1 | e :: _ => some e, (scan n s).2) := by
  induction es with
  | nil => simp [entries]
  | cons e es ih =>
      obtain ⟨he, hes⟩ := List.forall_mem_cons.mp hfit
      rw [entries_cons, List.append_assoc, List.length_cons,
        show es.length + 1 + n = es.length + n + 1 by omega, scan_entry _ he, ih hes]

theorem scan_suffix (n : Nat) (s : Bytes) : (scan n s).2 <:+ s := by
  induction n generalizing s with
  | zero => exact List.suffix_rfl
  | succ n ih =>
      match s with
      | [] => exact List.suffix_rfl
      | [_] => exact List.suffix_rfl
      | hi :: lo :: s =>
          have htail : s <:+ hi :: lo :: s := ⟨[hi, lo], rfl⟩
          rw [scan]
          split
          · exact ((ih _).trans (List.drop_suffix _ s)).trans htail
          · exact htail

theorem entry_append_inj {e e' s s' : Bytes} (he : e.length < 65536) (he' : e'.length < 65536)
    (h : entry e ++ s = entry e' ++ s') : e = e' ∧ s = s' := by
  have hscan := congrArg (scan 1) h
  rw [scan_entry 0 he, scan_entry 0 he', scan, scan] at hscan
  obtain ⟨hfirst, hrest⟩ := Prod.mk.inj hscan
  exact ⟨Option.some.inj hfirst, hrest⟩

/-- Where entries stand there is no entry that is cut short. -/
theorem entries_ne_cut {es es' : List Bytes} {r r' : Bytes} {hi lo : UInt8} (hfit : Fit es)
    (hfit' : Fit es') (hlt : es'.length < es.length) (hcut : r'.length < length16 hi lo) :
    entries es ++ r ≠ entries es' ++ hi :: lo :: r' := by
  induction es' generalizing es with
  | nil =>
      intro h
      cases es with
      | nil => cases hlt
      | cons e es =>
          have he := hfit e List.mem_cons_self
          rw [entries_cons, entries_nil, List.nil_append, List.append_assoc, entry,
            List.cons_append, List.cons_append] at h
          obtain ⟨rfl, htail⟩ := List.cons.inj h
          obtain ⟨rfl, rfl⟩ := List.cons.inj htail
          rw [length16_entry he, List.length_append] at hcut
          omega
  | cons e' es' ih =>
      intro h
      cases es with
      | nil => cases hlt
      | cons e es =>
          obtain ⟨he, hes⟩ := List.forall_mem_cons.mp hfit
          obtain ⟨he', hes'⟩ := List.forall_mem_cons.mp hfit'
          rw [entries_cons, entries_cons, List.append_assoc, List.append_assoc] at h
          exact ih hes hes' (Nat.lt_of_succ_lt_succ hlt) (entry_append_inj he he' h).2

/-- Where `scan` stops: behind `n` entries, in front of less than a length, or behind the length
    of an entry that is cut short. -/
theorem exists_entries (n : Nat) (s : Bytes) :
    ∃ es r, Fit es ∧ s = entries es ++ r ∧ (scan n s).1 = es.head? ∧
      ((es.length = n ∧ (scan n s).2 = r) ∨
        (es.length < n ∧ r.length < 2 ∧ (scan n s).2 = r) ∨
        (es.length < n ∧ ∃ hi lo, r = hi :: lo :: (scan n s).2 ∧
          (scan n s).2.length < length16 hi lo)) := by
  induction n generalizing s with
  | zero => exact ⟨[], s, List.forall_mem_nil _, rfl, rfl, .inl ⟨rfl, rfl⟩⟩
  | succ n ih =>
      match s with
      | [] => exact ⟨[], [], List.forall_mem_nil _, rfl, rfl, .inr (.inl ⟨by simp, by simp, rfl⟩)⟩
      | [x] => exact ⟨[], [x], List.forall_mem_nil _, rfl, rfl, .inr (.inl ⟨by simp, by simp, rfl⟩)⟩
      | hi :: lo :: s =>
          by_cases hle : length16 hi lo ≤ s.length
          · obtain ⟨es, r, hfit, hs, -, hstop⟩ := ih (s.drop (length16 hi lo))
            have hlen : (s.take (length16 hi lo)).length < 65536 := by
              have := hi.toNat_lt
              have := lo.toNat_lt
              rw [List.length_take, Nat.min_eq_left hle, length16]
              omega
            have hscan : scan (n + 1) (hi :: lo :: s) =
                (some (s.take (length16 hi lo)), (scan n (s.drop (length16 hi lo))).2) := by
              rw [scan, if_pos hle]
            refine ⟨s.take (length16 hi lo) :: es, r, List.forall_mem_cons.mpr ⟨hlen, hfit⟩, ?_, ?_,
              ?_⟩
            · rw [entries_cons, List.append_assoc, ← hs, entry_take hle]
            · rw [hscan]
              rfl
            · rw [hscan, List.length_cons]
              rcases hstop with ⟨hall, hr⟩ | ⟨hlt, hshort, hr⟩ | ⟨hlt, hcut⟩
              · exact .inl ⟨by rw [hall], hr⟩
              · exact .inr (.inl ⟨Nat.succ_lt_succ hlt, hshort, hr⟩)
              · exact .inr (.inr ⟨Nat.succ_lt_succ hlt, hcut⟩)
          · have hscan : scan (n + 1) (hi :: lo :: s) = (none, s) := by rw [scan, if_neg hle]
            refine ⟨[], hi :: lo :: s, List.forall_mem_nil _, rfl, by rw [hscan]; rfl,
              .inr (.inr ⟨Nat.succ_pos n, hi, lo, by rw [hscan], ?_⟩)⟩
            rw [hscan]
            exact Nat.lt_of_not_le hle

end LengthPrefixed
