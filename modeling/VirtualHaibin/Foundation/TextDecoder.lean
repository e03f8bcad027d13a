import Mathlib.Tactic.Common

/-!
# Decoding UTF-8

`new TextDecoder().decode(bytes)`: a byte order mark in front is dropped, and what is not UTF-8 is read
as replacement characters.  A byte that breaks off a sequence is read once more as the start of the
next one.  The bytes of a text are read as that text, unless it starts with the mark.
-/

namespace VirtualHaibin.Foundation.TextDecoder

/-- A sequence that has begun: how many bytes are missing, its bits so far, and the bounds of the next
byte. -/
structure Pending where
  needed : ℕ
  codePoint : ℕ
  lower : ℕ := 0x80
  upper : ℕ := 0xBF

inductive Start
  | char (c : Char)
  | sequence (pending : Pending)
  | invalid

def replacement : Char := Char.ofNat 0xFFFD

def start (byte : ℕ) : Start :=
  if byte ≤ 0x7F then .char (Char.ofNat byte)
  else if 0xC2 ≤ byte ∧ byte ≤ 0xDF then .sequence { needed := 1, codePoint := byte - 0xC0 }
  else if 0xE0 ≤ byte ∧ byte ≤ 0xEF then
    .sequence { needed := 2, codePoint := byte - 0xE0,
                lower := if byte = 0xE0 then 0xA0 else 0x80, upper := if byte = 0xED then 0x9F else 0xBF }
  else if 0xF0 ≤ byte ∧ byte ≤ 0xF4 then
    .sequence { needed := 3, codePoint := byte - 0xF0,
                lower := if byte = 0xF0 then 0x90 else 0x80, upper := if byte = 0xF4 then 0x8F else 0xBF }
  else .invalid

/-- What the bytes stand for after a sequence that has begun, if one has. -/
def decodeFrom : Option Pending → List ℕ → List Char
  | none, [] => []
  | some _, [] => [replacement]
  | none, byte :: rest =>
    match start byte with
    | .char c => c :: decodeFrom none rest
    | .sequence pending => decodeFrom (some pending) rest
    | .invalid => replacement :: decodeFrom none rest
  | some pending, byte :: rest =>
    if pending.lower ≤ byte ∧ byte ≤ pending.upper then
      let codePoint := pending.codePoint * 64 + (byte - 0x80)
      if pending.needed = 1 then Char.ofNat codePoint :: decodeFrom none rest
      else decodeFrom (some { needed := pending.needed - 1, codePoint }) rest
    else
      match start byte with
      | .char c => replacement :: c :: decodeFrom none rest
      | .sequence next => replacement :: decodeFrom (some next) rest
      | .invalid => replacement :: replacement :: decodeFrom none rest

def decode (bytes : List ℕ) : String :=
  match decodeFrom none bytes with
  | [] => ""
  | c :: rest => String.ofList (if c.toNat = 0xFEFF then rest else c :: rest)

example : decode [0xEF, 0xBB, 0xBF, 0x7B, 0xE2, 0x82, 0xAC, 0xE2, 0x82, 0x7D] = "\x7b€\uFFFD\x7d" := by decide

/-! ## Reading what was written -/

/-- The bytes of a text. -/
def encode (text : String) : List ℕ := text.toUTF8.data.toList.map UInt8.toNat

variable {byte : ℕ} {pending : Pending}

theorem decodeFrom_last (h : pending.lower ≤ byte ∧ byte ≤ pending.upper) (hneeded : pending.needed = 1)
    (rest : List ℕ) : decodeFrom (some pending) (byte :: rest) =
      Char.ofNat (pending.codePoint * 64 + (byte - 0x80)) :: decodeFrom none rest := by
  simp [decodeFrom, h, hneeded]

theorem decodeFrom_more (h : pending.lower ≤ byte ∧ byte ≤ pending.upper) (hneeded : pending.needed ≠ 1)
    (rest : List ℕ) : decodeFrom (some pending) (byte :: rest) =
      decodeFrom (some { needed := pending.needed - 1, codePoint := pending.codePoint * 64 + (byte - 0x80) }) rest := by
  simp [decodeFrom, h, hneeded]

theorem decodeFrom_sequence (h : start byte = .sequence pending) (rest : List ℕ) :
    decodeFrom none (byte :: rest) = decodeFrom (some pending) rest := by
  rw [decodeFrom, h]

theorem start_two (hlow : 0xC2 ≤ byte) (hhigh : byte ≤ 0xDF) :
    start byte = .sequence { needed := 1, codePoint := byte - 0xC0 } := by
  rw [start, if_neg (by omega), if_pos (by omega)]

theorem start_three (hlow : 0xE0 ≤ byte) (hhigh : byte ≤ 0xEF) :
    start byte = .sequence {
      needed := 2, codePoint := byte - 0xE0
      lower := if byte = 0xE0 then 0xA0 else 0x80, upper := if byte = 0xED then 0x9F else 0xBF } := by
  rw [start, if_neg (by omega), if_neg (by omega), if_pos (by omega)]

theorem start_four (hlow : 0xF0 ≤ byte) (hhigh : byte ≤ 0xF4) :
    start byte = .sequence {
      needed := 3, codePoint := byte - 0xF0
      lower := if byte = 0xF0 then 0x90 else 0x80, upper := if byte = 0xF4 then 0x8F else 0xBF } := by
  rw [start, if_neg (by omega), if_neg (by omega), if_neg (by omega), if_pos (by omega)]

/-- The bytes of a character are read as that character. -/
theorem decodeFrom_char (c : Char) (rest : List ℕ) :
    decodeFrom none ((String.utf8EncodeChar c).map UInt8.toNat ++ rest) = c :: decodeFrom none rest := by
  have hvalid : c.val.toNat < 0xD800 ∨ 0xDFFF < c.val.toNat ∧ c.val.toNat < 0x110000 := c.valid
  have hchar : ∀ n, n = c.val.toNat → Char.ofNat n = c := by
    rintro n rfl
    exact Char.ofNat_toNat c
  unfold String.utf8EncodeChar
  dsimp only
  generalize c.val.toNat = n at hvalid hchar ⊢
  have hbyte : ∀ m < 256, (UInt8.ofNat m).toNat = m := fun m hm ↦ UInt8.toNat_ofNat_of_lt' hm
  split
  · rw [List.map_singleton, hbyte _ (by omega), List.singleton_append, decodeFrom, start, if_pos (by omega)]
    exact congrArg (· :: decodeFrom none rest) (hchar n rfl)
  · split
    · simp only [List.map_cons, List.map_nil, hbyte _ (show n / 64 % 0x20 + 0xC0 < 256 by omega),
        hbyte _ (show n % 0x40 + 0x80 < 256 by omega), List.cons_append, List.nil_append]
      rw [decodeFrom_sequence (start_two (by omega) (by omega)), decodeFrom_last (by dsimp only; omega) rfl]
      exact congrArg (· :: decodeFrom none rest) (hchar _ (by dsimp only; omega))
    · split
      · simp only [List.map_cons, List.map_nil, hbyte _ (show n / 4096 % 0x10 + 0xE0 < 256 by omega),
          hbyte _ (show n / 64 % 0x40 + 0x80 < 256 by omega), hbyte _ (show n % 0x40 + 0x80 < 256 by omega),
          List.cons_append, List.nil_append]
        rw [decodeFrom_sequence (start_three (by omega) (by omega)), decodeFrom_more ?_ (by simp),
          decodeFrom_last (by dsimp only; omega) rfl]
        · exact congrArg (· :: decodeFrom none rest) (hchar _ (by dsimp only; omega))
        · dsimp only
          constructor <;> split <;> omega
      · simp only [List.map_cons, List.map_nil, hbyte _ (show n / 262144 % 0x08 + 0xF0 < 256 by omega),
          hbyte _ (show n / 4096 % 0x40 + 0x80 < 256 by omega),
          hbyte _ (show n / 64 % 0x40 + 0x80 < 256 by omega), hbyte _ (show n % 0x40 + 0x80 < 256 by omega),
          List.cons_append, List.nil_append]
        rw [decodeFrom_sequence (start_four (by omega) (by omega)), decodeFrom_more ?_ (by simp),
          decodeFrom_more (by dsimp only; omega) (by simp), decodeFrom_last (by dsimp only; omega) rfl]
        · exact congrArg (· :: decodeFrom none rest) (hchar _ (by dsimp only; omega))
        · dsimp only
          constructor <;> split <;> omega

theorem decodeFrom_flatMap (chars : List Char) :
    decodeFrom none ((chars.flatMap String.utf8EncodeChar).map UInt8.toNat) = chars := by
  induction chars with
  | nil => rfl
  | cons c rest ih => rw [List.flatMap_cons, List.map_append, decodeFrom_char, ih]

theorem encode_eq (text : String) : encode text = (text.toList.flatMap String.utf8EncodeChar).map UInt8.toNat := by
  have hbytes : text.toUTF8 = text.toList.utf8Encode := String.utf8Encode_toList.symm
  rw [encode, hbytes]
  simp [List.utf8Encode]

/-- A text without a byte order mark in front is read back from its bytes. -/
theorem decode_encode {text : String} (h : text.toList.head? ≠ some (Char.ofNat 0xFEFF)) :
    decode (encode text) = text := by
  rw [decode, encode_eq, decodeFrom_flatMap]
  cases hchars : text.toList with
  | nil => exact (String.toList_eq_nil_iff.1 hchars).symm
  | cons c rest =>
    have hmark : c.toNat ≠ 0xFEFF := by
      intro hmark
      apply h
      rw [hchars, ← hmark, Char.ofNat_toNat]
      rfl
    dsimp only
    rw [if_neg hmark, ← hchars, String.ofList_toList]

end VirtualHaibin.Foundation.TextDecoder
