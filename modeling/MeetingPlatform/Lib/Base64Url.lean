import Mathlib.Data.List.Basic
import Mathlib.Tactic.Common

/- Bytes in the URL-safe alphabet of sixty-four characters, written without padding. A reader takes
   the other alphabet's two characters as well and passes over everything it does not know. -/
namespace Base64Url

def alphabet : List Char :=
  "ABCDEFGHIJKLMNOPQRSTUVWXYZabcdefghijklmnopqrstuvwxyz0123456789-_".toList

def sextet (n : Nat) : Char := alphabet.getD (n % 64) 'A'

/-- The place of a character, in either alphabet. -/
def value (c : Char) : Option Nat :=
  if c = '+' then some 62
  else if c = '/' then some 63
  else alphabet.findIdx? (· = c)

def encode : List UInt8 → List Char
  | [] => []
  | [a] => [sextet (a.toNat / 4), sextet (a.toNat * 16)]
  | [a, b] =>
    [sextet (a.toNat / 4), sextet (a.toNat * 16 + b.toNat / 16), sextet (b.toNat * 4)]
  | a :: b :: c :: rest =>
    sextet (a.toNat / 4) :: sextet (a.toNat * 16 + b.toNat / 16) ::
      sextet (b.toNat * 4 + c.toNat / 64) :: sextet c.toNat :: encode rest

def bytes : List Nat → List UInt8
  | p :: q :: r :: s :: rest =>
    .ofNat (p * 4 + q / 16) :: .ofNat (q * 16 + r / 4) :: .ofNat (r * 64 + s) :: bytes rest
  | [p, q, r] => [.ofNat (p * 4 + q / 16), .ofNat (q * 16 + r / 4)]
  | [p, q] => [.ofNat (p * 4 + q / 16)]
  | [_] => []
  | [] => []

/-- What stands behind a padding sign is not read. -/
def decode (text : List Char) : List UInt8 :=
  bytes ((text.takeWhile (· ≠ '=')).filterMap value)

section Characters

theorem sextet_mem (n : Nat) : sextet n ∈ alphabet := by
  have inside : n % 64 < alphabet.length := Nat.mod_lt n (by decide)
  rw [sextet, List.getD_eq_getElem?_getD, List.getElem?_eq_getElem inside]
  exact List.getElem_mem inside

theorem value_place : ∀ i : Fin 64, value (alphabet.getD i 'A') = some i.val := by decide +kernel

theorem value_sextet (n : Nat) : value (sextet n) = some (n % 64) :=
  value_place ⟨n % 64, Nat.mod_lt n (by decide)⟩

theorem encode_mem {c : Char} : ∀ {data : List UInt8}, c ∈ encode data → c ∈ alphabet := by
  intro data there
  induction data using encode.induct with
  | case1 => cases there
  | case2 a =>
    simp only [encode, List.mem_cons, List.not_mem_nil, or_false] at there
    rcases there with rfl | rfl <;> exact sextet_mem _
  | case3 a b =>
    simp only [encode, List.mem_cons, List.not_mem_nil, or_false] at there
    rcases there with rfl | rfl | rfl <;> exact sextet_mem _
  | case4 a b c rest ih =>
    simp only [encode, List.mem_cons] at there
    rcases there with rfl | rfl | rfl | rfl | later
    · exact sextet_mem _
    · exact sextet_mem _
    · exact sextet_mem _
    · exact sextet_mem _
    · exact ih later

end Characters

section Reading

theorem encode_unpadded {c : Char} {data : List UInt8} (there : c ∈ encode data) : c ≠ '=' := by
  rintro rfl
  exact absurd (encode_mem there) (by decide +kernel)

theorem group_bytes {p q r s a b c : Nat} (a_byte : a < 256) (b_byte : b < 256) (c_byte : c < 256)
    (first : p = a / 4 % 64) (second : q = (a * 16 + b / 16) % 64)
    (third : r = (b * 4 + c / 64) % 64) (fourth : s = c % 64) :
    p * 4 + q / 16 = a ∧ (q * 16 + r / 4) % 256 = b ∧ (r * 64 + s) % 256 = c := by
  omega

theorem ofNat_eq {n : Nat} (byte : UInt8) (same : n % 256 = byte.toNat) : UInt8.ofNat n = byte := by
  rw [← UInt8.toNat_inj, UInt8.toNat_ofNat']
  exact same

theorem bytes_encode (data : List UInt8) : bytes ((encode data).filterMap value) = data := by
  induction data using encode.induct with
  | case1 => rfl
  | case2 a =>
    have byte := a.toNat_lt
    simp only [encode, List.filterMap_cons, value_sextet, List.filterMap_nil, bytes]
    rw [ofNat_eq a (by omega)]
  | case3 a b =>
    have a_byte := a.toNat_lt
    have b_byte := b.toNat_lt
    simp only [encode, List.filterMap_cons, value_sextet, List.filterMap_nil, bytes]
    rw [ofNat_eq a (by omega), ofNat_eq b (by omega)]
  | case4 a b c rest ih =>
    obtain ⟨first, second, third⟩ := group_bytes a.toNat_lt b.toNat_lt c.toNat_lt rfl rfl rfl rfl
    simp only [encode, List.filterMap_cons, value_sextet, bytes, ih]
    rw [ofNat_eq a (by rw [first, Nat.mod_eq_of_lt a.toNat_lt]), ofNat_eq b second,
      ofNat_eq c third]

theorem decode_encode (data : List UInt8) : decode (encode data) = data := by
  have whole : (encode data).takeWhile (· ≠ '=') = encode data := by
    rw [← List.append_nil (encode data), List.takeWhile_append_of_pos]
    · simp
    · intro c there
      exact decide_eq_true (encode_unpadded there)
  rw [decode, whole, bytes_encode]

end Reading
end Base64Url
