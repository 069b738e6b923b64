/-
  `urlDecode` reads percent-encoded texts. Any text is cut into pieces of one byte or one escape
  each, from left to right and without a gap, and gives one byte for each of them; what was
  encoded comes out again, whatever bytes were escaped and in whatever case the digits are.
-/
import RtspServer.Lib.PercentEncoding
import RtspServer.Utils.StringUtils

namespace RtspServer.StringUtils

open ByteString PercentEncoding

theorem sub_eq_ofNat {c d : UInt8} (h : d ≤ c) : c - d = UInt8.ofNat (c.toNat - d.toNat) := by
  rw [← UInt8.toNat_sub_of_le c d h, UInt8.ofNat_toNat]

theorem hexVal_eq (c : UInt8) : hexVal c = (Hex.value c).map UInt8.ofNat := by
  unfold hexVal Hex.value
  split
  · next h => rw [sub_eq_ofNat h.1]; rfl
  split
  · next h => rw [sub_eq_ofNat h.1, Option.map_some, UInt8.ofNat_add]; rfl
  split
  · next h => rw [sub_eq_ofNat h.1, Option.map_some, UInt8.ofNat_add]; rfl
  · rfl

/-- `(hi << 4) | lo`. -/
theorem nibbles (b : UInt8) :
    UInt8.ofNat (b.toNat / 16) <<< 4 ||| UInt8.ofNat (b.toNat % 16) = b := by
  have h : ∀ n, n < 256 →
      UInt8.ofNat (n / 16) <<< 4 ||| UInt8.ofNat (n % 16) = UInt8.ofNat n := by decide +kernel
  exact (h b.toNat b.toNat_lt).trans UInt8.ofNat_toNat

theorem urlDecode_cons {c : UInt8} (hc : c ≠ percent) (s : Bytes) :
    urlDecode (c :: s) = c :: urlDecode s := by
  match s with
  | [] => rfl
  | [_] => rfl
  | a :: b :: t =>
      rw [urlDecode]
      exact if_neg hc

/-- A `%` that no two hex digits follow is copied. -/
theorem urlDecode_percent {s : Bytes} (h : ¬ StartsHex s) :
    urlDecode (percent :: s) = percent :: urlDecode s := by
  match s with
  | [] => rfl
  | [_] => rfl
  | a :: b :: t =>
      rw [urlDecode, if_pos (by rfl), hexVal_eq, hexVal_eq]
      cases ha : Hex.value a with
      | none => rfl
      | some hi =>
          cases hb : Hex.value b with
          | none => rfl
          | some lo =>
              refine absurd ⟨a, b, t, rfl, ?_, ?_⟩ h
              · rw [ha]; rfl
              · rw [hb]; rfl

theorem urlDecode_escape (high low : Bool) (c : UInt8) (s : Bytes) :
    urlDecode ((Piece.escape high low c).text ++ s) = c :: urlDecode s := by
  have hhigh : Hex.value (Hex.digit high (c.toNat / 16)) = some (c.toNat / 16) :=
    Hex.value_digit high (by have := c.toNat_lt; omega)
  have hlow : Hex.value (Hex.digit low (c.toNat % 16)) = some (c.toNat % 16) :=
    Hex.value_digit low (by omega)
  rw [Piece.text, Hex.pair, List.cons_append, List.cons_append, List.cons_append, List.nil_append,
    urlDecode, if_pos (by rfl), hexVal_eq, hexVal_eq, hhigh, hlow]
  simp only [Option.map_some, nibbles]

/-- A text is decoded piece by piece. -/
theorem urlDecode_text {ps : List Piece} (h : Cut ps) : urlDecode (text ps) = bytes ps := by
  induction ps with
  | nil => rfl
  | cons p ps ih =>
      obtain ⟨hp, hps⟩ := h
      rw [text_cons, bytes_cons, ← ih hps]
      cases p with
      | escape high low c => exact urlDecode_escape high low c (text ps)
      | literal c =>
          by_cases hc : c = percent
          · subst hc
            exact urlDecode_percent (hp rfl)
          · exact urlDecode_cons hc (text ps)

/-- What was encoded comes out again. -/
theorem urlDecode_of_encodes {s e : Bytes} (h : Encodes (· ≠ percent) s e) : urlDecode e = s := by
  obtain ⟨ps, hok, rfl, rfl⟩ := h
  exact urlDecode_text (cut_of_not_mem fun hmem => hok percent hmem rfl)

/-- What follows a malformed escape is decoded as if it stood alone, and so is what comes before. -/
theorem urlDecode_malformed (pre : Bytes) {post : Bytes} (h : ¬ StartsHex post) :
    urlDecode (pre ++ percent :: post) = urlDecode pre ++ percent :: urlDecode post := by
  obtain ⟨ps, hps, rfl⟩ := exists_cut pre
  obtain ⟨qs, hqs, rfl⟩ := exists_cut post
  have hcut := urlDecode_text (hps.append hqs h)
  rw [text_append, text_cons, bytes, List.map_append, List.map_cons] at hcut
  rw [urlDecode_text hps, urlDecode_text hqs]
  exact hcut

/-- **Percent-decoding undoes every percent-encoding**: whatever bytes are escaped, and with the
    digits in any letter case. Of any other text, a `%` without two hex digits behind it is
    copied and the next byte comes next, and the pieces that are decoded to one byte each make
    up the whole text. -/
theorem urlDecode_undoes_encoding :
    (∀ s e, Encodes (· ≠ percent) s e → urlDecode e = s) ∧
    (∀ pre post, ¬ StartsHex post →
      urlDecode (pre ++ percent :: post) = urlDecode pre ++ percent :: urlDecode post) ∧
    ∀ e, (∃ ps, Cut ps ∧ text ps = e ∧ bytes ps = urlDecode e) ∧
      (urlDecode e).length ≤ e.length := by
  refine ⟨fun _ _ => urlDecode_of_encodes, fun pre _ => urlDecode_malformed pre, fun e => ?_⟩
  obtain ⟨ps, hcut, rfl⟩ := exists_cut e
  rw [urlDecode_text hcut]
  exact ⟨⟨ps, hcut, rfl, rfl⟩, length_bytes_le ps⟩

theorem urlDecode_undoes_encoding_mixed :
    urlDecode (ascii "a%20%2F%2f") = ascii "a //" ∧ urlDecode (ascii "%4%41%") = ascii "%4A%" := by
  obtain ⟨hencoded, hmalformed, -⟩ := urlDecode_undoes_encoding
  constructor
  · refine hencoded _ _ ⟨[.literal 97, .escape false false 32, .escape false true 47,
      .escape false false 47], fun c hc => ?_, by decide, by decide⟩
    obtain rfl : c = 97 := by simpa using hc
    decide
  · refine (hmalformed [] (ascii "4%41%") ?_).trans (by decide)
    rintro ⟨a, b, t, heq, -, hb⟩
    obtain ⟨-, htail⟩ := List.cons.inj heq
    obtain ⟨rfl, -⟩ := List.cons.inj htail
    exact absurd hb (by decide)

end RtspServer.StringUtils
