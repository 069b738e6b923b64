/-
  The two directions of a connection while it is under way: at any moment each side has only a
  part of the bytes.

  * `drains_of_onReadable`: what a call of `onReadable` puts in `out` and leaves in `recv_buf_`
    is what the decoder `nextUnit` makes of the bytes. With `Incremental.drains_append` the
    calls so far have made of all bytes so far what one call would have.
  * `clientUnit_stable`: a client that has a whole response or frame takes it off, whatever
    comes behind it. So `reads_prefix`: of a part of the output it reads a part of the items.
-/
import RtspServer.Server.Interleaving

namespace RtspServer

open ByteString Decimal StringUtils Lines Session

namespace Framer

/-! ## Receiving -/

/-- A frame that is not complete yet: the decoder stops there too. -/
theorem drains_skip_done {buf rest : Bytes} (h : skipInterleaved buf = .parseDone rest) :
    ∃ us, Incremental.Drains nextUnit buf us rest ∧ us.reduceOption = [] := by
  induction buf using skip_induction with
  | hstop buf hstop =>
      rw [skipInterleaved_eq] at h
      split at h
      · next hd =>
          have hshort : nextUnit buf = none := by
            rw [nextUnit_frame hd, if_pos (hstop hd)]
          obtain rfl : buf = rest := by
            split at h
            · exact Skipped.parseDone.inj h
            · next h4 =>
                rw [if_pos ((hstop hd).resolve_left h4)] at h
                exact Skipped.parseDone.inj h
          exact ⟨[], .stop hshort, rfl⟩
      · cases h
  | hframe buf hd h4 hf ih =>
      have hunit : nextUnit buf = some (none, frameSize buf) := by
        rw [nextUnit_frame hd, if_neg (by omega)]
      rw [skipInterleaved_eq, if_pos hd, if_neg (by omega), if_neg (by omega)] at h
      obtain ⟨us, hus, hnone⟩ := ih h
      exact ⟨none :: us, .unit hunit hus, by rw [List.reduceOption_cons_of_none, hnone]⟩

/-- The inner loop drops the frames that the decoder drops. -/
theorem drains_skip_message {buf m : Bytes} (h : skipInterleaved buf = .message m)
    {us : List (Option RTSPRequest)} {r : Bytes} (hr : Incremental.Drains nextUnit m us r) :
    ∃ us', Incremental.Drains nextUnit buf us' r ∧ us'.reduceOption = us.reduceOption := by
  induction buf using skip_induction with
  | hstop buf hstop =>
      rw [skipInterleaved_eq] at h
      split at h
      · next hd =>
          rcases hstop hd with h4 | hf
          · rw [if_pos h4] at h
            cases h
          · rw [if_pos hf, ite_self] at h
            cases h
      · obtain rfl := Skipped.message.inj h
        exact ⟨us, hr, rfl⟩
  | hframe buf hd h4 hf ih =>
      have hunit : nextUnit buf = some (none, frameSize buf) := by
        rw [nextUnit_frame hd, if_neg (by omega)]
      rw [skipInterleaved_eq, if_pos hd, if_neg (by omega), if_neg (by omega)] at h
      obtain ⟨us', hus', heq⟩ := ih h
      exact ⟨none :: us', .unit hunit hus', by rw [List.reduceOption_cons_of_none, heq]⟩

/-- What the loop computes is what the decoder decodes. The induction is on the turns. -/
theorem drains_of_parseLoop {fuel : Nat} {buf r : Bytes} {out : List RTSPRequest}
    (h : parseLoop fuel buf [] = some (r, out)) :
    ∃ us, Incremental.Drains nextUnit buf us r ∧ us.reduceOption = out := by
  induction fuel generalizing buf out with
  | zero => cases h
  | succ fuel ih =>
      rw [parseLoop] at h
      unfold parseIter at h
      cases hs : skipInterleaved buf with
      | parseDone rest =>
          rw [hs] at h
          obtain ⟨rfl, rfl⟩ := Prod.mk.inj (Option.some.inj h)
          exact drains_skip_done hs
      | message m =>
          have hd := (skip_message hs).1
          have hleave : nextUnit m = none → r = m → out = [] →
              ∃ us, Incremental.Drains nextUnit buf us r ∧ us.reduceOption = out := by
            rintro hstop rfl rfl
            exact drains_skip_message hs (.stop hstop)
          rw [hs] at h
          dsimp only at h
          by_cases hm : m = []
          · rw [if_pos hm] at h
            obtain ⟨rfl, rfl⟩ := Prod.mk.inj (Option.some.inj h)
            exact hleave (by rw [hm]; rfl) rfl rfl
          rw [if_neg hm, cutMessage_eq] at h
          have hunit := nextUnit_message hd
          cases hn : headerSize m with
          | none =>
              rw [hn] at h hunit
              obtain ⟨rfl, rfl⟩ := Prod.mk.inj (Option.some.inj h)
              exact hleave hunit rfl rfl
          | some n =>
              rw [hn] at h hunit
              unfold cutSize at hunit
              dsimp only at h hunit
              by_cases hlt : m.length < (n + declaredLength (headerLines m)) % 2 ^ 64
              · rw [if_pos hlt] at h hunit
                obtain ⟨rfl, rfl⟩ := Prod.mk.inj (Option.some.inj h)
                exact hleave hunit rfl rfl
              · rw [if_neg hlt] at h hunit
                dsimp only at h
                rw [parseLoop_out] at h
                obtain ⟨⟨r', out'⟩, hrest, heq⟩ := Option.map_eq_some_iff.mp h
                obtain ⟨rfl, rfl⟩ := Prod.mk.inj heq
                obtain ⟨us, hus, rfl⟩ := ih hrest
                obtain ⟨us', hus', hout⟩ := drains_skip_message hs (.unit hunit hus)
                refine ⟨us', hus', hout.trans ?_⟩
                cases RTSPRequest.parse _ <;> rfl

theorem drains_of_onReadable {rs : List Recv} {buf r : Bytes} {out : List RTSPRequest}
    (h : onReadable rs buf = .returnsTrue r out) :
    ∃ us, Incremental.Drains nextUnit (buf ++ received rs) us r ∧ us.reduceOption = out := by
  unfold onReadable at h
  split at h
  · cases h
  · next buf' hrecv =>
      rw [recvLoop_some hrecv] at h
      split at h
      · cases h
      · next hloop =>
          cases h
          exact drains_of_parseLoop hloop

/-- What the decoder finds are requests that were parsed. -/
theorem parsed_of_drains {buf r : Bytes} {us : List (Option RTSPRequest)}
    (h : Incremental.Drains nextUnit buf us r) :
    ∀ req ∈ us.reduceOption, ∃ raw, RTSPRequest.parse raw = some req := by
  induction h with
  | stop => exact fun req hreq => nomatch hreq
  | @unit b u n us r hn _ ih =>
      intro req hreq
      rw [List.reduceOption_mem_iff, List.mem_cons] at hreq
      rcases hreq with hreq | hreq
      · rcases nextUnit_some hn with ⟨_, _, _, hnone, _⟩ | ⟨_, n', _, _, hparse, _⟩
        · rw [hnone] at hreq
          cases hreq
        · exact ⟨_, hparse.symm.trans hreq.symm⟩
      · exact ih req (List.reduceOption_mem_iff.mpr hreq)

end Framer

/-! ## Sending -/

/-- A client takes off what it has as a whole, whatever comes behind it. -/
theorem clientUnit_stable : Incremental.Stable clientUnit := by
  intro b item n h
  unfold clientUnit at h
  split at h
  · next channel l1 l0 rest =>
      dsimp only at h
      split at h
      · next hlen =>
          cases h
          refine ⟨by simp only [List.length_cons]; omega, fun t => ?_⟩
          simp only [List.cons_append]
          rw [clientUnit, if_pos (by rw [List.length_append]; omega),
            List.take_append_of_le_length hlen]
      · cases h
  · cases h
  · next hdollar hframe =>
      split at h
      · cases h
      · next k hk =>
          dsimp only at h
          split at h
          · next hlen =>
              cases h
              refine ⟨hlen, fun t => ?_⟩
              have hhead : b.head? ≠ some 36 := by
                intro hhead
                obtain ⟨rest, rfl⟩ : ∃ rest, b = 36 :: rest := by
                  cases b with
                  | nil => cases hhead
                  | cons c rest => exact ⟨rest, by rw [Option.some.inj hhead]⟩
                exact hframe rest rfl
              obtain ⟨c, rest, rfl⟩ : ∃ c rest, b = c :: rest := by
                cases b with
                | nil => rw [Framer.headerSize_nil] at hk; cases hk
                | cons c rest => exact ⟨c, rest, rfl⟩
              have hc : c ≠ 36 := fun hc => hhead (by rw [hc]; rfl)
              have hsize := Framer.headerSize_append hk t
              have hlines := Framer.headerLines_append hk t
              rw [List.cons_append] at hsize hlines ⊢
              unfold clientUnit
              split
              · next heq => exact absurd (List.cons.inj heq).1 hc
              · next heq => exact absurd (List.cons.inj heq).1 hc
              · rw [hsize, hlines]
                dsimp only
                rw [if_pos (by
                    simp only [List.length_cons, List.length_append] at hlen ⊢; omega),
                  ← List.cons_append, List.take_append_of_le_length hlen]
          · cases h

/-- Of a part of the output a client reads a part of the items, and what is left over is less
    than the next one. -/
theorem reads_prefix {sent rest : Bytes} {items : List Item}
    (h : Incremental.Drains clientUnit (sent ++ rest) items []) :
    ∃ read left, Incremental.Drains clientUnit sent read left ∧ read <+: items := by
  obtain ⟨read, left, later, hread, -, heq⟩ := Incremental.drains_split clientUnit_stable h
  exact ⟨read, left, hread, later, heq.symm⟩

end RtspServer
