import Mathlib.Algebra.Group.Int.Defs
import Mathlib.Algebra.Group.Nat.Defs
import Mathlib.Tactic.Common

namespace BigEndian

/-- The four bytes of a number, the highest first; what does not fit is cut off. -/
def putUint32 (v : Nat) : List UInt8 :=
  [UInt8.ofNat (v / 2 ^ 24), UInt8.ofNat (v / 2 ^ 16), UInt8.ofNat (v / 2 ^ 8), UInt8.ofNat v]

/-- The number in the first four bytes; `none` where there are fewer. -/
def uint32 : List UInt8 → Option Nat
  | a :: b :: c :: d :: _ =>
    some (a.toNat * 2 ^ 24 + b.toNat * 2 ^ 16 + c.toNat * 2 ^ 8 + d.toNat)
  | _ => none

@[simp] theorem length_putUint32 (v : Nat) : (putUint32 v).length = 4 := rfl

theorem uint32_putUint32 {v : Nat} (h : v < 2 ^ 32) (rest : List UInt8) :
    uint32 (putUint32 v ++ rest) = some v := by
  simp only [putUint32, List.cons_append, uint32, UInt8.toNat_ofNat', Option.some.injEq]
  omega

theorem uint32_isSome {bs : List UInt8} (h : 4 ≤ bs.length) : ∃ v, uint32 bs = some v := by
  match bs, h with
  | a :: b :: c :: d :: rest, _ => exact ⟨_, rfl⟩

theorem uint32_take (bs : List UInt8) : uint32 (bs.take 4) = uint32 bs := by
  match bs with
  | [] => rfl
  | [_] => rfl
  | [_, _] => rfl
  | [_, _, _] => rfl
  | _ :: _ :: _ :: _ :: _ => rfl

end BigEndian
