import Mathlib.Data.List.Basic
import Mathlib.Tactic.Common

/-!
# Base64url

Three bytes make four digits of the URL alphabet, and what is left over makes two or three, without
padding.  Decoding gives the bytes back, every digit is of the alphabet, and the number of digits
depends on the number of bytes alone.
-/

namespace VirtualHaibin.Foundation.Base64Url

/-- The digit with a value below 64. -/
def digit (n : ℕ) : Char :=
  if n < 26 then Char.ofNat (65 + n)
  else if n < 52 then Char.ofNat (97 + (n - 26))
  else if n < 62 then Char.ofNat (48 + (n - 52))
  else if n = 62 then '-'
  else '_'

def value (c : Char) : ℕ :=
  if c.isUpper then c.toNat - 65
  else if c.isLower then c.toNat - 97 + 26
  else if c.isDigit then c.toNat - 48 + 52
  else if c = '-' then 62
  else 63

def isDigit (c : Char) : Bool := c.isAlphanum || c = '_' || c = '-'

theorem value_digit {n : ℕ} (hn : n < 64) : value (digit n) = n := by
  revert n
  decide

theorem isDigit_digit {n : ℕ} (hn : n < 64) : isDigit (digit n) = true := by
  revert n
  decide

/-! ## Encoding and decoding -/

def encode : List UInt8 → List Char
  | [] => []
  | [a] =>
    let bits := a.toNat * 16
    [digit (bits / 64), digit (bits % 64)]
  | [a, b] =>
    let bits := (a.toNat * 256 + b.toNat) * 4
    [digit (bits / 4096), digit (bits / 64 % 64), digit (bits % 64)]
  | a :: b :: c :: rest =>
    let bits := (a.toNat * 256 + b.toNat) * 256 + c.toNat
    digit (bits / 262144) :: digit (bits / 4096 % 64) :: digit (bits / 64 % 64) :: digit (bits % 64) :: encode rest

/-- The bytes of a text over the alphabet; a single digit that is left over makes none. -/
def decode : List Char → List UInt8
  | x :: y :: z :: w :: rest =>
    let bits := ((value x * 64 + value y) * 64 + value z) * 64 + value w
    UInt8.ofNat (bits / 65536) :: UInt8.ofNat (bits / 256) :: UInt8.ofNat bits :: decode rest
  | [x, y, z] =>
    let bits := ((value x * 64 + value y) * 64 + value z) / 4
    [UInt8.ofNat (bits / 256), UInt8.ofNat bits]
  | [x, y] => [UInt8.ofNat ((value x * 64 + value y) / 16)]
  | _ => []

theorem ofNat_eq {n : ℕ} {byte : UInt8} (h : n % 256 = byte.toNat) : UInt8.ofNat n = byte := by
  apply UInt8.toNat_inj.1
  rw [UInt8.toNat_ofNat']
  exact h

theorem toNat_lt (byte : UInt8) : byte.toNat < 256 := byte.toNat_lt

@[simp]
theorem decode_encode (bytes : List UInt8) : decode (encode bytes) = bytes := by
  induction bytes using encode.induct with
  | case1 => simp [encode, decode]
  | case2 a =>
    have ha := toNat_lt a
    simp only [encode, decode, value_digit (show a.toNat * 16 / 64 < 64 by omega),
      value_digit (Nat.mod_lt _ (by decide : 0 < 64)), List.cons.injEq, and_true]
    apply ofNat_eq
    omega
  | case3 a b =>
    have ha := toNat_lt a
    have hb := toNat_lt b
    simp only [encode, decode, value_digit (show (a.toNat * 256 + b.toNat) * 4 / 4096 < 64 by omega),
      value_digit (Nat.mod_lt _ (by decide : 0 < 64)), List.cons.injEq, and_true]
    constructor <;> apply ofNat_eq <;> omega
  | case4 a b c rest ih =>
    have ha := toNat_lt a
    have hb := toNat_lt b
    have hc := toNat_lt c
    have hfirst : ((a.toNat * 256 + b.toNat) * 256 + c.toNat) / 262144 < 64 := by omega
    simp only [encode, decode, value_digit hfirst, value_digit (Nat.mod_lt _ (by decide : 0 < 64)), ih,
      List.cons.injEq, and_true]
    refine ⟨?_, ?_, ?_⟩ <;> apply ofNat_eq <;> omega

theorem length_encode (bytes : List UInt8) : (encode bytes).length = (4 * bytes.length + 2) / 3 := by
  induction bytes using encode.induct with
  | case1 => rfl
  | case2 a => simp [encode]
  | case3 a b => simp [encode]
  | case4 a b c rest ih =>
    simp only [encode, List.length_cons, ih]
    omega

theorem isDigit_encode (bytes : List UInt8) : ∀ c ∈ encode bytes, isDigit c = true := by
  induction bytes using encode.induct with
  | case1 => simp [encode]
  | case2 a =>
    have ha := toNat_lt a
    simp only [encode, List.forall_mem_cons, List.not_mem_nil, false_imp_iff, implies_true, and_true]
    constructor <;> apply isDigit_digit <;> omega
  | case3 a b =>
    have ha := toNat_lt a
    have hb := toNat_lt b
    simp only [encode, List.forall_mem_cons, List.not_mem_nil, false_imp_iff, implies_true, and_true]
    refine ⟨?_, ?_, ?_⟩ <;> apply isDigit_digit <;> omega
  | case4 a b c rest ih =>
    have ha := toNat_lt a
    have hb := toNat_lt b
    have hc := toNat_lt c
    simp only [encode, List.forall_mem_cons]
    refine ⟨?_, ?_, ?_, ?_, ih⟩ <;> apply isDigit_digit <;> omega

def utf8 (text : String) : List UInt8 := text.toUTF8.data.toList

/-- The header text of a text's UTF-8 bytes. -/
def encodeText (text : String) : String := String.ofList (encode (utf8 text))

@[simp]
theorem length_utf8 (text : String) : (utf8 text).length = text.utf8ByteSize := by
  simp [utf8]

theorem decode_encodeText (text : String) : decode (encodeText text).toList = utf8 text := by
  rw [encodeText, String.toList_ofList, decode_encode]

theorem length_encodeText (text : String) :
    (encodeText text).toList.length = (4 * text.utf8ByteSize + 2) / 3 := by
  rw [encodeText, String.toList_ofList, length_encode, length_utf8]

theorem isDigit_encodeText (text : String) : ∀ c ∈ (encodeText text).toList, isDigit c = true := by
  rw [encodeText, String.toList_ofList]
  exact isDigit_encode _

example : encodeText "\x7b\"é\":1\x7d" = "eyLDqSI6MX0" := by decide

end VirtualHaibin.Foundation.Base64Url
