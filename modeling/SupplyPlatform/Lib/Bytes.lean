import Mathlib.Tactic.Common

namespace Bytes

/-- A text is its bytes. -/
abbrev Text := List UInt8

def ascii (s : String) : Text := s.toList.map (fun c => UInt8.ofNat c.toNat)

def utf8 (s : String) : Text := s.toUTF8.data.toList

/-- The characters that the bytes stand for, if they stand for any. -/
def decodeUtf8 (s : Text) : Option String := String.fromUTF8? ⟨s.toArray⟩

def between (lo hi : Char) (b : UInt8) : Bool := lo.toNat ≤ b.toNat && b.toNat ≤ hi.toNat

def isHexDigit (b : UInt8) : Bool := between '0' '9' b || between 'a' 'f' b || between 'A' 'F' b

def hasPrefix (s start : Text) : Bool := start.isPrefixOf s

def contains (s part : Text) : Bool := s.tails.any (part.isPrefixOf ·)

section slices

variable {α : Type*}

/-- `s[i:j]` -/
def slice (s : List α) (i j : Nat) : List α := (s.take j).drop i

theorem length_slice {s : List α} {i j : Nat} (h : j ≤ s.length) : (slice s i j).length = j - i := by
  rw [slice, List.length_drop, List.length_take, Nat.min_eq_left h]

theorem slice_length (s : List α) (i : Nat) : slice s i s.length = s.drop i := by
  rw [slice, List.take_length]

/-- Neighbouring slices join. -/
theorem slice_append_slice (s : List α) {i j k : Nat} (hij : i ≤ j) (hjk : j ≤ k) :
    slice s i j ++ slice s j k = slice s i k := by
  have hshort : s.take j = (s.take k).take j := by rw [List.take_take, Nat.min_eq_left hjk]
  have hcut : slice s i j = (slice s i k).take (j - i) := by
    rw [slice, slice, hshort, List.drop_take]
  have hrest : slice s j k = (slice s i k).drop (j - i) := by
    rw [slice, slice, List.drop_drop, Nat.add_sub_cancel' hij]
  rw [hcut, hrest, List.take_append_drop]

theorem slice_self {s : List α} {n : Nat} (h : s.length = n) : slice s 0 n = s := by
  rw [← h, slice_length, List.drop_zero]

end slices

end Bytes
