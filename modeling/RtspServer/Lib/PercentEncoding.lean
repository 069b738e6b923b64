/-
  Percent-encoded texts: a byte stands for itself or is written as `%` and two hex digits.
  Names nothing of the server.

  A text is a list of pieces. `Encodes ok s e` says that `e` is one of the ways to write `s` in
  which every byte that stands for itself is `ok`. `Cut` are the pieces that a decoder which
  copies malformed escapes finds: every text is cut (`exists_cut`).
-/
import RtspServer.Lib.Hex

namespace PercentEncoding

open ByteString

/-- `%`. -/
def percent : UInt8 := 37

/-- How one byte is written: as itself, or with its two hex digits, each in its letter case. -/
inductive Piece where
  | literal (c : UInt8)
  | escape (high low : Bool) (c : UInt8)
  deriving DecidableEq

/-- The byte that the piece stands for. -/
def Piece.byte : Piece → UInt8
  | literal c => c
  | escape _ _ c => c

def Piece.text : Piece → Bytes
  | literal c => [c]
  | escape high low c => percent :: Hex.pair high low c

/-- The bytes that the pieces stand for. -/
def bytes (ps : List Piece) : Bytes := ps.map Piece.byte

def text (ps : List Piece) : Bytes := ps.flatMap Piece.text

/-- `e` encodes `s`, with `ok` bytes written as themselves. -/
def Encodes (ok : UInt8 → Prop) (s e : Bytes) : Prop :=
  ∃ ps : List Piece, (∀ c, .literal c ∈ ps → ok c) ∧ bytes ps = s ∧ text ps = e

/-- The text starts with two hex digits. -/
def StartsHex (s : Bytes) : Prop :=
  ∃ a b t, s = a :: b :: t ∧ (Hex.value a).isSome = true ∧ (Hex.value b).isSome = true

@[simp] theorem bytes_cons (p : Piece) (ps : List Piece) : bytes (p :: ps) = p.byte :: bytes ps :=
  rfl

@[simp] theorem text_cons (p : Piece) (ps : List Piece) : text (p :: ps) = p.text ++ text ps := by
  rw [text, text, List.flatMap_cons]

theorem text_append (ps qs : List Piece) : text (ps ++ qs) = text ps ++ text qs :=
  List.flatMap_append

theorem length_bytes_le (ps : List Piece) : (bytes ps).length ≤ (text ps).length := by
  induction ps with
  | nil => exact le_refl 0
  | cons p ps ih =>
      have hpos : 0 < p.text.length := by cases p <;> exact Nat.succ_pos _
      rw [bytes_cons, text_cons, List.length_cons, List.length_append]
      omega

/-! ## Texts that were not encoded -/

theorem value_percent : Hex.value percent = none := by decide

/-- Two hex digits are those of some byte. -/
theorem exists_escape {s : Bytes} (h : StartsHex s) :
    ∃ high low c t, percent :: s = (Piece.escape high low c).text ++ t := by
  obtain ⟨a, b, t, rfl, ha, hb⟩ := h
  obtain ⟨hi, hhi⟩ := Option.isSome_iff_exists.mp ha
  obtain ⟨lo, hlo⟩ := Option.isSome_iff_exists.mp hb
  obtain ⟨high, rfl⟩ := Hex.exists_digit hhi
  obtain ⟨low, rfl⟩ := Hex.exists_digit hlo
  have := Hex.value_lt hhi
  have := Hex.value_lt hlo
  refine ⟨high, low, UInt8.ofNat (16 * hi + lo), t, ?_⟩
  have hnat : (UInt8.ofNat (16 * hi + lo)).toNat = 16 * hi + lo := by
    rw [UInt8.toNat_ofNat', Nat.mod_eq_of_lt (by omega)]
  rw [Piece.text, Hex.pair, hnat, show (16 * hi + lo) / 16 = hi by omega,
    show (16 * hi + lo) % 16 = lo by omega]
  rfl

/-- No pair of digits reaches over a `%`. -/
theorem startsHex_append (s t : Bytes) : StartsHex (s ++ percent :: t) ↔ StartsHex s := by
  constructor
  · rintro ⟨a, b, u, heq, ha, hb⟩
    match s with
    | [] =>
        obtain ⟨rfl, -⟩ := List.cons.inj heq
        rw [value_percent] at ha
        cases ha
    | [_] =>
        obtain ⟨rfl, -⟩ := List.cons.inj (List.cons.inj heq).2
        rw [value_percent] at hb
        cases hb
    | x :: y :: s =>
        obtain ⟨rfl, htail⟩ := List.cons.inj heq
        obtain ⟨rfl, -⟩ := List.cons.inj htail
        exact ⟨x, y, s, rfl, ha, hb⟩
  · rintro ⟨a, b, u, rfl, ha, hb⟩
    exact ⟨a, b, u ++ percent :: t, rfl, ha, hb⟩

/-- How a decoder cuts a text: a `%` stands for itself only where no two hex digits follow. -/
def Cut : List Piece → Prop
  | [] => True
  | p :: ps => (p = .literal percent → ¬ StartsHex (text ps)) ∧ Cut ps

theorem cut_of_not_mem {ps : List Piece} (h : .literal percent ∉ ps) : Cut ps := by
  induction ps with
  | nil => trivial
  | cons p ps ih =>
      rw [List.mem_cons, not_or] at h
      exact ⟨fun hp => absurd hp.symm h.1, ih h.2⟩

/-- Every text is cut, to its end and without a gap. -/
theorem exists_cut (e : Bytes) : ∃ ps, Cut ps ∧ text ps = e := by
  induction hn : e.length using Nat.strong_induction_on generalizing e with
  | _ n ih =>
      match e with
      | [] => exact ⟨[], trivial, rfl⟩
      | c :: s =>
          by_cases hesc : c = percent ∧ StartsHex s
          · obtain ⟨rfl, hhex⟩ := hesc
            obtain ⟨high, low, b, t, heq⟩ := exists_escape hhex
            have hlen : t.length < n := by
              rw [← hn, heq, List.length_append]
              exact Nat.lt_add_of_pos_left (Nat.succ_pos 2)
            obtain ⟨ps, hcut, rfl⟩ := ih t.length hlen t rfl
            refine ⟨.escape high low b :: ps, ⟨fun h => ?_, hcut⟩, by rw [text_cons, heq]⟩
            cases h
          · have hlen : s.length < n := by rw [← hn]; exact Nat.lt_succ_self _
            obtain ⟨ps, hcut, rfl⟩ := ih s.length hlen s rfl
            refine ⟨.literal c :: ps, ⟨fun h hhex => ?_, hcut⟩, rfl⟩
            exact hesc ⟨Piece.literal.inj h, hhex⟩

/-- A `%` that stands for itself is a place to cut at. -/
theorem Cut.append {ps qs : List Piece} (hps : Cut ps) (hqs : Cut qs)
    (h : ¬ StartsHex (text qs)) : Cut (ps ++ .literal percent :: qs) := by
  induction ps with
  | nil => exact ⟨fun _ => h, hqs⟩
  | cons p ps ih =>
      rw [List.cons_append]
      refine ⟨fun hp hhex => hps.1 hp ?_, ih hps.2⟩
      rw [text_append] at hhex
      exact (startsHex_append (text ps) (text qs)).mp hhex

/-! ## Encodings -/

/-- Fewer bytes may stand for themselves. -/
theorem Encodes.mono {ok ok' : UInt8 → Prop} {s e : Bytes} (h : Encodes ok s e)
    (himp : ∀ c, ok c → ok' c) : Encodes ok' s e := by
  obtain ⟨ps, hok, hs, he⟩ := h
  exact ⟨ps, fun c hc => himp c (hok c hc), hs, he⟩

theorem Encodes.append {ok : UInt8 → Prop} {s t e f : Bytes} (h : Encodes ok s e)
    (h' : Encodes ok t f) : Encodes ok (s ++ t) (e ++ f) := by
  obtain ⟨ps, hok, rfl, rfl⟩ := h
  obtain ⟨qs, hok', rfl, rfl⟩ := h'
  refine ⟨ps ++ qs, fun c hc => ?_, List.map_append, text_append ps qs⟩
  rcases List.mem_append.mp hc with hc | hc
  · exact hok c hc
  · exact hok' c hc

/-- Bytes that are `ok` may be written as they are. -/
theorem Encodes.literal {ok : UInt8 → Prop} {s : Bytes} (h : ∀ c ∈ s, ok c) : Encodes ok s s := by
  refine ⟨s.map .literal, fun c hc => ?_, ?_, ?_⟩
  · obtain ⟨d, hd, heq⟩ := List.mem_map.mp hc
    obtain rfl := Piece.literal.inj heq
    exact h d hd
  · rw [bytes, List.map_map]
    exact List.map_id s
  · rw [text, List.flatMap_map]
    exact List.flatMap_singleton' s

end PercentEncoding
