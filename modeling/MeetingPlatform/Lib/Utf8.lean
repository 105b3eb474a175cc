import Mathlib.Data.List.Basic
import Mathlib.Tactic.Common

/- Text written as UTF-8 and read back. A reader never fails: what no character can begin with is
   read as one replacement character and reading goes on behind it. -/
namespace Utf8

def encode (text : List Char) : List UInt8 := text.flatMap String.utf8EncodeChar

def replacement : Char := Char.ofNat 0xFFFD

/-- A character whose first bytes were read: the bytes still owed, what the next of them may be, and
    the bits so far. -/
structure Started where
  owed : Nat
  low : Nat
  high : Nat
  bits : Nat

inductive Lead where
  | whole (c : Char)
  | more (begun : Started)
  | wrong

/-- Only the first byte that follows can be out of its usual bounds. -/
def lead (b : Nat) : Lead :=
  if b < 0x80 then .whole (Char.ofNat b)
  else if b < 0xC2 then .wrong
  else if b < 0xE0 then .more ⟨1, 0x80, 0xBF, b - 0xC0⟩
  else if b < 0xF0 then
    .more ⟨2, if b = 0xE0 then 0xA0 else 0x80, if b = 0xED then 0x9F else 0xBF, b - 0xE0⟩
  else if b < 0xF5 then
    .more ⟨3, if b = 0xF0 then 0x90 else 0x80, if b = 0xF4 then 0x8F else 0xBF, b - 0xF0⟩
  else .wrong

def read : Option Started → List UInt8 → List Char
  | none, [] => []
  | some _, [] => [replacement]
  | none, b :: rest =>
    match lead b.toNat with
    | .whole c => c :: read none rest
    | .more begun => read (some begun) rest
    | .wrong => replacement :: read none rest
  | some begun, b :: rest =>
    if begun.low ≤ b.toNat ∧ b.toNat ≤ begun.high then
      let bits := begun.bits * 64 + (b.toNat - 0x80)
      if begun.owed ≤ 1 then Char.ofNat bits :: read none rest
      else read (some ⟨begun.owed - 1, 0x80, 0xBF, bits⟩) rest
    else
      replacement ::
        match lead b.toNat with
        | .whole c => c :: read none rest
        | .more begun => read (some begun) rest
        | .wrong => replacement :: read none rest

def decode (data : List UInt8) : List Char := read none data

section Steps
variable {b : UInt8} {rest : List UInt8}

theorem read_lead {begun : Started} (first : lead b.toNat = .more begun) :
    read none (b :: rest) = read (some begun) rest := by
  rw [read, first]

theorem read_more {owed low high bits : Nat} (fits : low ≤ b.toNat ∧ b.toNat ≤ high) :
    read (some ⟨owed + 2, low, high, bits⟩) (b :: rest) =
      read (some ⟨owed + 1, 0x80, 0xBF, bits * 64 + (b.toNat - 0x80)⟩) rest := by
  rw [read, if_pos fits]
  simp

theorem read_last {low high bits : Nat} (fits : low ≤ b.toNat ∧ b.toNat ≤ high) :
    read (some ⟨1, low, high, bits⟩) (b :: rest) =
      Char.ofNat (bits * 64 + (b.toNat - 0x80)) :: read none rest := by
  rw [read, if_pos fits]
  simp

end Steps

section RoundTrip
variable {c : Char} {rest : List UInt8}

theorem toNat_ofNat {n : Nat} (byte : n < 256) : (UInt8.ofNat n).toNat = n := by
  rw [UInt8.toNat_ofNat', Nat.mod_eq_of_lt byte]

theorem ofNat_val (c : Char) : Char.ofNat c.val.toNat = c := Char.ofNat_toNat c

theorem code_point (c : Char) :
    c.val.toNat < 0xD800 ∨ 0xDFFF < c.val.toNat ∧ c.val.toNat < 0x110000 := c.valid

theorem read_one_byte (small : c.val.toNat ≤ 0x7F) :
    read none (String.utf8EncodeChar c ++ rest) = c :: read none rest := by
  have byte : (UInt8.ofNat c.val.toNat).toNat = c.val.toNat := toNat_ofNat (by omega)
  simp only [String.utf8EncodeChar, small, if_true, List.cons_append, List.nil_append]
  rw [read, byte, lead, if_pos (by omega)]
  simp only [ofNat_val]

theorem read_two_bytes (above : 0x7F < c.val.toNat) (small : c.val.toNat ≤ 0x7FF) :
    read none (String.utf8EncodeChar c ++ rest) = c :: read none rest := by
  have first : (UInt8.ofNat (c.val.toNat / 64 % 32 + 192)).toNat = c.val.toNat / 64 + 192 := by
    rw [toNat_ofNat (by omega)]
    omega
  have second : (UInt8.ofNat (c.val.toNat % 64 + 128)).toNat = c.val.toNat % 64 + 128 :=
    toNat_ofNat (by omega)
  have begun : lead (c.val.toNat / 64 + 192) = .more ⟨1, 0x80, 0xBF, c.val.toNat / 64⟩ := by
    rw [lead, if_neg (by omega), if_neg (by omega), if_pos (by omega)]
    simp
  simp only [String.utf8EncodeChar, Nat.not_le.mpr above, small, if_true, if_false,
    List.cons_append, List.nil_append]
  rw [read_lead (first ▸ begun), read_last (by rw [second]; omega), second]
  rw [show c.val.toNat / 64 * 64 + (c.val.toNat % 64 + 128 - 0x80) = c.val.toNat by omega, ofNat_val]

theorem read_three_bytes (above : 0x7FF < c.val.toNat) (small : c.val.toNat ≤ 0xFFFF) :
    read none (String.utf8EncodeChar c ++ rest) = c :: read none rest := by
  have scalar := code_point c
  have first : (UInt8.ofNat (c.val.toNat / 4096 % 16 + 224)).toNat = c.val.toNat / 4096 + 224 := by
    rw [toNat_ofNat (by omega)]
    omega
  have second : (UInt8.ofNat (c.val.toNat / 64 % 64 + 128)).toNat = c.val.toNat / 64 % 64 + 128 :=
    toNat_ofNat (by omega)
  have third : (UInt8.ofNat (c.val.toNat % 64 + 128)).toNat = c.val.toNat % 64 + 128 :=
    toNat_ofNat (by omega)
  have begun : lead (c.val.toNat / 4096 + 224) =
      .more ⟨2, if c.val.toNat / 4096 = 0 then 0xA0 else 0x80,
        if c.val.toNat / 4096 = 13 then 0x9F else 0xBF, c.val.toNat / 4096⟩ := by
    rw [lead, if_neg (by omega), if_neg (by omega), if_neg (by omega), if_pos (by omega)]
    simp
  simp only [String.utf8EncodeChar, Nat.not_le.mpr above, small, if_true, if_false,
    List.cons_append, List.nil_append, show ¬ c.val.toNat ≤ 0x7F by omega]
  rw [read_lead (first ▸ begun), read_more (by rw [second]; split <;> split <;> omega), second,
    read_last (by rw [third]; omega), third]
  rw [show (c.val.toNat / 4096 * 64 + (c.val.toNat / 64 % 64 + 128 - 0x80)) * 64 +
    (c.val.toNat % 64 + 128 - 0x80) = c.val.toNat by omega, ofNat_val]

theorem read_four_bytes (above : 0xFFFF < c.val.toNat) :
    read none (String.utf8EncodeChar c ++ rest) = c :: read none rest := by
  have scalar := code_point c
  have first : (UInt8.ofNat (c.val.toNat / 262144 % 8 + 240)).toNat =
      c.val.toNat / 262144 + 240 := by
    rw [toNat_ofNat (by omega)]
    omega
  have second : (UInt8.ofNat (c.val.toNat / 4096 % 64 + 128)).toNat =
      c.val.toNat / 4096 % 64 + 128 := toNat_ofNat (by omega)
  have third : (UInt8.ofNat (c.val.toNat / 64 % 64 + 128)).toNat = c.val.toNat / 64 % 64 + 128 :=
    toNat_ofNat (by omega)
  have fourth : (UInt8.ofNat (c.val.toNat % 64 + 128)).toNat = c.val.toNat % 64 + 128 :=
    toNat_ofNat (by omega)
  have begun : lead (c.val.toNat / 262144 + 240) =
      .more ⟨3, if c.val.toNat / 262144 = 0 then 0x90 else 0x80,
        if c.val.toNat / 262144 = 4 then 0x8F else 0xBF, c.val.toNat / 262144⟩ := by
    rw [lead, if_neg (by omega), if_neg (by omega), if_neg (by omega), if_neg (by omega),
      if_pos (by omega)]
    simp
  simp only [String.utf8EncodeChar, Nat.not_le.mpr above, if_false, List.cons_append,
    List.nil_append, show ¬ c.val.toNat ≤ 0x7F by omega, show ¬ c.val.toNat ≤ 0x7FF by omega]
  rw [read_lead (first ▸ begun), read_more (by rw [second]; split <;> split <;> omega), second,
    read_more (by rw [third]; omega), third, read_last (by rw [fourth]; omega), fourth]
  rw [show ((c.val.toNat / 262144 * 64 + (c.val.toNat / 4096 % 64 + 128 - 0x80)) * 64 +
    (c.val.toNat / 64 % 64 + 128 - 0x80)) * 64 + (c.val.toNat % 64 + 128 - 0x80) =
      c.val.toNat by omega, ofNat_val]

theorem read_char (c : Char) (rest : List UInt8) :
    read none (String.utf8EncodeChar c ++ rest) = c :: read none rest := by
  rcases Nat.lt_or_ge 0x7F c.val.toNat with above | small
  · rcases Nat.lt_or_ge 0x7FF c.val.toNat with above' | small'
    · rcases Nat.lt_or_ge 0xFFFF c.val.toNat with above'' | small''
      · exact read_four_bytes above''
      · exact read_three_bytes above' small''
    · exact read_two_bytes above small'
  · exact read_one_byte small

theorem decode_encode (text : List Char) : decode (encode text) = text := by
  induction text with
  | nil => rfl
  | cons c text ih =>
    rw [decode, encode, List.flatMap_cons, read_char]
    exact congrArg (c :: ·) ih

theorem encode_injective {a b : List Char} (same : encode a = encode b) : a = b := by
  rw [← decode_encode a, same, decode_encode]

end RoundTrip
end Utf8
