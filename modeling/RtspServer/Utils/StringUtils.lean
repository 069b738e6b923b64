/-
  Model of `utils/StringUtils.cpp`: trimming, lower-casing, splitting, the URL helpers and
  base64. `std::string` is `Bytes`; the C locale is assumed for `std::isspace` and
  `std::tolower`. `parseHostPort` is left out: nothing in the server core calls it.
-/
import RtspServer.Lib.Decimal

namespace RtspServer.StringUtils

open ByteString Decimal

def crlf : Bytes := [13, 10]

/-- `trim`: white space removed at both ends. -/
def trim (s : Bytes) : Bytes :=
  (((s.dropWhile isSpace).reverse).dropWhile isSpace).reverse

/-- No white space at either end. -/
def Trimmed (s : Bytes) : Prop :=
  (∀ c ∈ s.head?, isSpace c = false) ∧ ∀ c ∈ s.getLast?, isSpace c = false

instance (s : Bytes) : Decidable (Trimmed s) := inferInstanceAs (Decidable (_ ∧ _))

theorem dropWhile_isSpace {s : Bytes} (h : ∀ c ∈ s.head?, isSpace c = false) :
    s.dropWhile isSpace = s := by
  cases s with
  | nil => rfl
  | cons c s => rw [List.dropWhile_cons_of_neg (by simp [h c rfl])]

theorem trim_of_trimmed {s : Bytes} (h : Trimmed s) : trim s = s := by
  have hlast : ∀ c ∈ s.reverse.head?, isSpace c = false := by
    rw [List.head?_reverse]
    exact h.2
  rw [trim, dropWhile_isSpace h.1, dropWhile_isSpace hlast, List.reverse_reverse]

/-- A blank in front is taken off. -/
theorem trim_blank {s : Bytes} (h : Trimmed s) : trim (32 :: s) = s := by
  rw [trim, List.dropWhile_cons_of_pos (by decide)]
  exact trim_of_trimmed h

theorem trimmed_of_decimal {s : Bytes} (h : IsDecimal s) : Trimmed s :=
  ⟨fun c hc => isSpace_of_isDigit (h.2 c (List.mem_of_mem_head? hc)),
    fun c hc => isSpace_of_isDigit (h.2 c (List.mem_of_mem_getLast? hc))⟩

/-- `std::tolower` on one byte. -/
def lowerByte (c : UInt8) : UInt8 := if 65 ≤ c ∧ c ≤ 90 then c + 32 else c

def toLower (s : Bytes) : Bytes := s.map lowerByte

def split (s : Bytes) (delimiter : UInt8) : List Bytes := s.splitOn delimiter

/-- `s.rfind(c)` for a single byte, with `none` for `npos`. -/
def rfindByte (s : Bytes) (c : UInt8) : Option Nat :=
  (s.reverse.findIdx? (· == c)).map (s.length - 1 - ·)

def urlPath (url : Bytes) : Bytes :=
  match find url (ascii "//") 0 with
  | none => url
  | some dslash =>
      match find url (ascii "/") (dslash + 2) with
      | none => ascii "/"
      | some slash => url.drop slash

def stripTrackSuffix (path : Bytes) : Bytes :=
  match rfindByte path '/'.toUInt8 with
  | none => path
  | some 0 => path
  | some slash =>
      let segment := toLower (path.drop (slash + 1))
      if (find segment (ascii "trackid") 0).isSome ∨ (find segment (ascii "track") 0).isSome then
        path.take slash
      else path

/-- `hexVal`, with `none` for `-1`. -/
def hexVal (c : UInt8) : Option UInt8 :=
  if 48 ≤ c ∧ c ≤ 57 then some (c - 48)
  else if 65 ≤ c ∧ c ≤ 70 then some (c - 65 + 10)
  else if 97 ≤ c ∧ c ≤ 102 then some (c - 97 + 10)
  else none

/-- `urlDecode`. A `%` decodes only when two hex digits follow it inside the string; any
    other byte, and a `%` that does not, is copied. -/
def urlDecode : Bytes → Bytes
  | [] => []
  | c :: a :: b :: s =>
      if c = '%'.toUInt8 then
        match hexVal a, hexVal b with
        | some hi, some lo => (hi <<< 4 ||| lo) :: urlDecode s
        | _, _ => c :: urlDecode (a :: b :: s)
      else c :: urlDecode (a :: b :: s)
  | c :: s => c :: urlDecode s

def kB64Table : Bytes :=
  ascii "ABCDEFGHIJKLMNOPQRSTUVWXYZabcdefghijklmnopqrstuvwxyz0123456789+/"

/-- One base64 character: the six bits of `b` from bit `k` on. -/
def b64Char (b : UInt32) (k : UInt32) : UInt8 :=
  kB64Table.getD ((b >>> k) &&& 0x3F).toNat 0

def base64Encode : Bytes → Bytes
  | [] => []
  | [x] =>
      let b := x.toUInt32 <<< 16
      [b64Char b 18, b64Char b 12, '='.toUInt8, '='.toUInt8]
  | [x, y] =>
      let b := x.toUInt32 <<< 16 ||| y.toUInt32 <<< 8
      [b64Char b 18, b64Char b 12, b64Char b 6, '='.toUInt8]
  | x :: y :: z :: s =>
      let b := x.toUInt32 <<< 16 ||| y.toUInt32 <<< 8 ||| z.toUInt32
      b64Char b 18 :: b64Char b 12 :: b64Char b 6 :: b64Char b 0 :: base64Encode s

end RtspServer.StringUtils
