/-
  Decimal text. The C number readers behind `std::stoul` and `std::stoi`, `std::to_string` for
  integers and the fixed-point output of a stream, on byte strings. Names nothing of the server.

  Reading follows C: leading white space is skipped, one sign is allowed, digits are read
  until the first other byte, and what follows is ignored. `none` stands for the exception
  (no digits, or the value out of range). An unsigned reader negates modulo `2^64`.

  `digitsVal_natDigits`: a number that was written is read back. `scanInteger_append`,
  `toDec_append_inj`: what follows a number, when it is no digit, is no part of it.
-/
import RtspServer.Lib.ByteString
import Mathlib.Data.List.TakeWhile

namespace Decimal

open ByteString

/-- `std::isspace` in the "C" locale. -/
def isSpace (c : UInt8) : Bool := c == 32 || (9 ≤ c && c ≤ 13)

def isDigit (c : UInt8) : Bool := 48 ≤ c && c ≤ 57

/-- Value of a digit string, most significant digit first. -/
def digitsVal (ds : Bytes) : Nat := ds.foldl (fun n c => 10 * n + (c.toNat - 48)) 0

/-- The text is a decimal number: digits only, at least one. -/
def IsDecimal (s : Bytes) : Prop := s ≠ [] ∧ ∀ c ∈ s, isDigit c = true

instance (s : Bytes) : Decidable (IsDecimal s) := inferInstanceAs (Decidable (_ ∧ _))

/-- An optional sign: is it a minus, and what follows. -/
def scanSign : Bytes → Bool × Bytes
  | 45 :: s => (true, s)
  | 43 :: s => (false, s)
  | s => (false, s)

/-- Sign and magnitude of the number at the start of the text, `none` without digits. -/
def scanInteger (s : Bytes) : Option (Bool × Nat) :=
  let (neg, t) := scanSign (s.dropWhile isSpace)
  let ds := t.takeWhile isDigit
  if ds = [] then none else some (neg, digitsVal ds)

/-- `std::stoul` with a 64-bit `unsigned long`. -/
def stoul (s : Bytes) : Option Nat :=
  match scanInteger s with
  | none => none
  | some (neg, n) =>
      if 2 ^ 64 ≤ n then none
      else some (if neg then (2 ^ 64 - n) % 2 ^ 64 else n)

/-- `std::stoi` with a 32-bit `int`. -/
def stoi (s : Bytes) : Option Int :=
  match scanInteger s with
  | none => none
  | some (neg, n) =>
      let v : Int := if neg then -(n : Int) else n
      if v < -2 ^ 31 ∨ 2 ^ 31 ≤ v then none else some v

/-- `std::to_string`: the digits of `Nat.repr`, with a minus sign in front when negative. -/
def natDigits (n : Nat) : Bytes := (Nat.toDigits 10 n).map Char.toUInt8

def toDec : Int → Bytes
  | .ofNat n => natDigits n
  | .negSucc n => 45 :: natDigits (n + 1)

/-- A fraction rounded to the nearest integer, ties to even. -/
def roundHalfEven (num den : Nat) : Nat :=
  let q := num / den
  let r := num % den
  if 2 * r < den then q
  else if den < 2 * r then q + 1
  else q + q % 2

/-- `std::fixed` with `std::setprecision(3)`. -/
def toFixed3 (q : Rat) : Bytes :=
  let n := roundHalfEven (q.num.natAbs * 1000) q.den
  let digits := natDigits (n % 1000)
  (if q < 0 then [45] else []) ++ natDigits (n / 1000) ++ [46] ++
    List.replicate (3 - digits.length) 48 ++ digits

theorem stoul_lt {s : Bytes} {n : Nat} (h : stoul s = some n) : n < 2 ^ 64 := by
  unfold stoul at h
  split at h
  · cases h
  · next neg m _ =>
      split at h
      · cases h
      · next hm =>
          cases h
          split
          · exact Nat.mod_lt _ (by decide)
          · omega

theorem isSpace_of_isDigit {c : UInt8} (h : isDigit c = true) : isSpace c = false := by
  simp only [isDigit, isSpace, Bool.and_eq_true, decide_eq_true_eq, Bool.or_eq_false_iff,
    beq_eq_false_iff_ne, Bool.and_eq_false_iff, decide_eq_false_iff_not, UInt8.le_iff_toNat_le,
    ne_eq, ← UInt8.toNat_inj] at h ⊢
  simp only [UInt8.reduceToNat] at h ⊢
  omega

/-- A plain decimal number is read as its value, without sign. -/
theorem scanInteger_decimal {s : Bytes} (h : IsDecimal s) :
    scanInteger s = some (false, digitsVal s) := by
  obtain ⟨hne, hall⟩ := h
  cases s with
  | nil => exact absurd rfl hne
  | cons c t =>
      have hc : isDigit c = true := hall c (by simp)
      have hdrop : (c :: t).dropWhile isSpace = c :: t := by
        simp [isSpace_of_isDigit hc]
      have hsign : scanSign (c :: t) = (false, c :: t) := by
        have h45 : c ≠ 45 := by rintro rfl; exact absurd hc (by decide)
        have h43 : c ≠ 43 := by rintro rfl; exact absurd hc (by decide)
        unfold scanSign
        split
        · next heq => cases heq; exact absurd rfl h45
        · next heq => cases heq; exact absurd rfl h43
        · rfl
      have htake : (c :: t).takeWhile isDigit = c :: t := List.takeWhile_eq_self_iff.mpr hall
      unfold scanInteger
      rw [hdrop, hsign]
      dsimp only
      rw [htake, if_neg (by simp)]

theorem stoul_decimal {s : Bytes} (h : IsDecimal s) :
    stoul s = if 2 ^ 64 ≤ digitsVal s then none else some (digitsVal s) := by
  unfold stoul
  rw [scanInteger_decimal h]
  rfl

/-! ## Numbers that were written -/

theorem isDigit_toUInt8 {c : Char} (h : c.isDigit = true) :
    isDigit c.toUInt8 = true ∧ c.toUInt8.toNat = c.toNat := by
  rw [Char.isDigit_iff_toNat] at h
  have hlow : 48 ≤ c.toNat := h.1
  have hhigh : c.toNat ≤ 57 := h.2
  have hval : c.toUInt8.toNat = c.toNat := by
    rw [Char.toUInt8, UInt32.toNat_toUInt8]
    exact Nat.mod_eq_of_lt (by change c.toNat < 256; omega)
  refine ⟨?_, hval⟩
  simp only [isDigit, Bool.and_eq_true, decide_eq_true_eq, UInt8.le_iff_toNat_le, hval,
    UInt8.reduceToNat]
  omega

theorem isDigit_natDigits {n : Nat} {c : UInt8} (h : c ∈ natDigits n) : isDigit c = true := by
  obtain ⟨d, hd, rfl⟩ := List.mem_map.mp h
  exact (isDigit_toUInt8 (Nat.isDigit_of_mem_toDigits (by decide) (by decide) hd)).1

theorem isDecimal_natDigits (n : Nat) : IsDecimal (natDigits n) := by
  refine ⟨?_, fun c => isDigit_natDigits⟩
  rw [natDigits, ne_eq, List.map_eq_nil_iff]
  exact Nat.toDigits_ne_nil

/-- A number is read back. -/
theorem digitsVal_natDigits (n : Nat) : digitsVal (natDigits n) = n := by
  have key : ∀ (cs : List Char) (k : Nat), (∀ c ∈ cs, c.isDigit = true) →
      (cs.map Char.toUInt8).foldl (fun n c => 10 * n + (c.toNat - 48)) k =
        Nat.ofDigitChars 10 cs k := by
    intro cs
    induction cs with
    | nil => exact fun k _ => rfl
    | cons c cs ih =>
        intro k h
        rw [List.map_cons, List.foldl_cons, Nat.ofDigitChars_cons,
          (isDigit_toUInt8 (h c List.mem_cons_self)).2]
        exact ih _ fun d hd => h d (List.mem_cons_of_mem c hd)
  rw [digitsVal, natDigits, key _ _ fun c hc =>
    Nat.isDigit_of_mem_toDigits (by decide) (by decide) hc]
  exact Nat.ofDigitChars_ten_toDigits

/-! ## Numbers with text after them -/

/-- The text does not go on with a digit. -/
def Ends (t : Bytes) : Prop := ∀ c ∈ t.head?, isDigit c = false

theorem takeWhile_isDigit_append (s : Bytes) {t : Bytes} (ht : Ends t) :
    (s ++ t).takeWhile isDigit = s.takeWhile isDigit := by
  have hstop : t.takeWhile isDigit = [] := by
    cases t with
    | nil => rfl
    | cons c t => rw [List.takeWhile_cons, ht c rfl]; rfl
  rw [List.takeWhile_append, hstop, List.append_nil]
  split
  · next hlen => exact (List.IsPrefix.eq_of_length (List.takeWhile_prefix isDigit) hlen).symm
  · rfl

theorem scanSign_append {s : Bytes} (hs : s ≠ []) (t : Bytes) :
    scanSign (s ++ t) = ((scanSign s).1, (scanSign s).2 ++ t) := by
  cases s with
  | nil => exact absurd rfl hs
  | cons c s =>
      unfold scanSign
      rw [List.cons_append]
      split
      · next heq => cases heq; rfl
      · next heq => cases heq; rfl
      · next h45 h43 =>
          split
          · next heq => cases heq; exact absurd rfl (h45 _)
          · next heq => cases heq; exact absurd rfl (h43 _)
          · rfl

/-- A number is read up to the first byte that is no digit. -/
theorem scanInteger_append {s t : Bytes} {r : Bool × Nat} (h : scanInteger s = some r)
    (ht : Ends t) : scanInteger (s ++ t) = some r := by
  have hne : s.dropWhile isSpace ≠ [] := by
    intro hnil
    rw [scanInteger, hnil] at h
    cases h
  have hdrop : (s ++ t).dropWhile isSpace = s.dropWhile isSpace ++ t := by
    rw [List.dropWhile_append, if_neg (by simpa using hne)]
  unfold scanInteger at h ⊢
  rw [hdrop, scanSign_append hne]
  dsimp only at h ⊢
  rw [takeWhile_isDigit_append _ ht]
  exact h

theorem stoi_append {s t : Bytes} {v : Int} (h : stoi s = some v) (ht : Ends t) :
    stoi (s ++ t) = some v := by
  unfold stoi at h ⊢
  cases hscan : scanInteger s with
  | none => rw [hscan] at h; cases h
  | some r => rw [scanInteger_append hscan ht]; rw [hscan] at h; exact h

/-- Two numbers that were written are told apart, whatever follows them. -/
theorem natDigits_append_inj {m n : Nat} {s t : Bytes} (hs : Ends s) (ht : Ends t)
    (h : natDigits m ++ s = natDigits n ++ t) : m = n ∧ s = t := by
  have hdigits : ∀ k, (natDigits k).takeWhile isDigit = natDigits k :=
    fun k => List.takeWhile_eq_self_iff.mpr fun _ => isDigit_natDigits
  have hmn : natDigits m = natDigits n := by
    have htake := congrArg (List.takeWhile isDigit) h
    rwa [takeWhile_isDigit_append _ hs, takeWhile_isDigit_append _ ht, hdigits, hdigits] at htake
  refine ⟨?_, ?_⟩
  · rw [← digitsVal_natDigits m, hmn, digitsVal_natDigits]
  · rw [hmn] at h
    exact List.append_cancel_left h

theorem toDec_append_inj {v w : Int} {s t : Bytes} (hs : Ends s) (ht : Ends t)
    (h : toDec v ++ s = toDec w ++ t) : v = w ∧ s = t := by
  -- a minus sign is no digit
  have hsign : ∀ (m n : Nat) (s t : Bytes), natDigits m ++ s ≠ 45 :: natDigits n ++ t := by
    intro m n s t heq
    have hfirst : ∀ c ∈ (natDigits m ++ s).head?, isDigit c = true := by
      intro c hc
      rw [List.head?_append_of_ne_nil _ (isDecimal_natDigits m).1] at hc
      exact isDigit_natDigits (List.mem_of_mem_head? hc)
    exact absurd (hfirst 45 (by rw [heq]; rfl)) (by decide)
  cases v with
  | ofNat m =>
      cases w with
      | ofNat n =>
          obtain ⟨rfl, hst⟩ := natDigits_append_inj hs ht h
          exact ⟨rfl, hst⟩
      | negSucc n => exact absurd h (hsign _ _ _ _)
  | negSucc m =>
      cases w with
      | ofNat n => exact absurd h.symm (hsign _ _ _ _)
      | negSucc n =>
          obtain ⟨hmn, hst⟩ := natDigits_append_inj hs ht (List.cons.inj h).2
          obtain rfl := Nat.succ.inj hmn
          exact ⟨rfl, hst⟩

/-- The bytes of a decimal text: digits, a sign, a point. -/
def isNumeral (c : UInt8) : Bool := isDigit c || c == 45 || c == 46

theorem isNumeral_natDigits {n : Nat} {c : UInt8} (h : c ∈ natDigits n) : isNumeral c = true := by
  simp [isNumeral, isDigit_natDigits h]

theorem isNumeral_toDec {n : Int} {c : UInt8} (h : c ∈ toDec n) : isNumeral c = true := by
  cases n with
  | ofNat n => exact isNumeral_natDigits h
  | negSucc n =>
      rcases List.mem_cons.mp h with rfl | h
      · rfl
      · exact isNumeral_natDigits h

theorem isNumeral_toFixed3 {q : Rat} {c : UInt8} (h : c ∈ toFixed3 q) : isNumeral c = true := by
  simp only [toFixed3, List.mem_append, List.mem_singleton, List.mem_replicate] at h
  rcases h with (((h | h) | rfl) | ⟨-, rfl⟩) | h
  · split at h
    · rw [List.mem_singleton.mp h]
      rfl
    · cases h
  · exact isNumeral_natDigits h
  · rfl
  · rfl
  · exact isNumeral_natDigits h

end Decimal
