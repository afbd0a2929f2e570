import Mathlib.Order.Basic
import Mathlib.Tactic.Common
import Mathlib.Tactic.IntervalCases

namespace Calendar

def isLeap (year : Nat) : Bool := year % 4 = 0 && (year % 100 ≠ 0 || year % 400 = 0)

/-- The days of a month; months are counted from January of year 0. -/
def daysIn (month : Nat) : Nat :=
  match month % 12 + 1 with
  | 2 => if isLeap (month / 12) then 29 else 28
  | 4 | 6 | 9 | 11 => 30
  | _ => 31

theorem daysIn_cases (month : Nat) :
    daysIn month = 31 ∨ (28 ≤ daysIn month ∧ daysIn month ≤ 30 ∧ daysIn (month + 1) = 31) := by
  have hlt : month % 12 < 12 := Nat.mod_lt _ (by omega)
  have hnext : (month + 1) % 12 = (month % 12 + 1) % 12 := by omega
  unfold daysIn
  rw [hnext]
  generalize month % 12 = r at hlt
  interval_cases r <;> simp
  split <;> omega

theorem daysIn_pos (month : Nat) : 28 ≤ daysIn month := by
  rcases daysIn_cases month with h | h <;> omega

theorem daysIn_le (month : Nat) : daysIn month ≤ 31 := by
  rcases daysIn_cases month with h | h <;> omega

/-- Of two months that follow each other one has 31 days. -/
theorem daysIn_succ {month : Nat} (h : daysIn month < 31) : daysIn (month + 1) = 31 := by
  rcases daysIn_cases month with h31 | h
  · omega
  · exact h.2.2

/-- A day of a month that the month has. -/
structure Date where
  month : Nat
  day : Nat
  pos : 1 ≤ day
  le : day ≤ daysIn month
  deriving DecidableEq

namespace Date

/-- The same day of another month; what it goes beyond that month runs into the next one. -/
def atMonth (d : Date) (month : Nat) : Date :=
  if h : d.day ≤ daysIn month then ⟨month, d.day, d.pos, h⟩
  else ⟨month + 1, d.day - daysIn month, by omega, by
    have hd := d.le.trans (daysIn_le d.month)
    have hm := daysIn_pos month
    have hn := daysIn_pos (month + 1)
    omega⟩

/-- `AddDate(0, n, 0)`. -/
def addMonths (d : Date) (n : Nat) : Date := d.atMonth (d.month + n)

/-- `AddDate(0, -n, 0)`. -/
def subMonths (d : Date) (n : Nat) : Date := d.atMonth (d.month - n)

def firstOfMonth (month : Nat) : Date := ⟨month, 1, le_refl 1, (by omega : 1 ≤ 28).trans (daysIn_pos month)⟩

def OnOrAfter (x a : Date) : Prop := a.month < x.month ∨ a.month = x.month ∧ a.day ≤ x.day

instance : DecidableRel OnOrAfter := fun x a =>
  inferInstanceAs (Decidable (a.month < x.month ∨ a.month = x.month ∧ a.day ≤ x.day))

theorem day_le (d : Date) : d.day ≤ 31 := d.le.trans (daysIn_le d.month)

theorem month_atMonth (d : Date) (month : Nat) :
    (d.atMonth month).month = if d.day ≤ daysIn month then month else month + 1 := by
  unfold atMonth
  split <;> rfl

/-- In a month that has the day, and only there, the month is met. -/
theorem month_atMonth_eq_iff (d : Date) (month : Nat) :
    (d.atMonth month).month = month ↔ d.day ≤ daysIn month := by
  rw [month_atMonth]
  split <;> omega

theorem onOrAfter_firstOfMonth (x : Date) (month : Nat) :
    x.OnOrAfter (firstOfMonth month) ↔ month ≤ x.month := by
  have hx := x.pos
  change month < x.month ∨ month = x.month ∧ 1 ≤ x.day ↔ _
  omega

theorem addMonths_firstOfMonth (month : Nat) :
    (firstOfMonth month).addMonths 1 = firstOfMonth (month + 1) :=
  dif_pos ((by omega : 1 ≤ 28).trans (daysIn_pos (month + 1)))

end Date

end Calendar
