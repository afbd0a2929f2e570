import Mathlib.Data.List.Basic
import Mathlib.Tactic.Common

namespace Columns

section

variable {κ α ν ε : Type*}

/-- What a statement sets, as the columns take it; each column is set to the argument `$n`. -/
def bind (encode : κ → α → Except ε ν) (missing : ε) (args : List α) :
    List (κ × Nat) → Except ε (List (κ × ν))
  | [] => .ok []
  | (column, n) :: settings =>
    match args[n - 1]? with
    | none => .error missing
    | some arg =>
      match encode column arg with
      | .error err => .error err
      | .ok value => (bind encode missing args settings).map ((column, value) :: ·)

/-- A row with some of its columns set. -/
def set [DecidableEq κ] (values : List (κ × ν)) (row : κ → ν) : κ → ν :=
  fun column => (values.lookup column).getD (row column)

/-- Every column is set to the argument that `source` has for it. -/
def Pairs (source : κ → α) (args : List α) (settings : List (κ × Nat)) : Prop :=
  ∀ p ∈ settings, args[p.2 - 1]? = some (source p.1)

theorem Pairs.tail {source : κ → α} {args : List α} {p : κ × Nat} {settings : List (κ × Nat)}
    (h : Pairs source args (p :: settings)) : Pairs source args settings :=
  fun q hq => h q (List.mem_cons_of_mem _ hq)

variable {encode : κ → α → Except ε ν} {missing : ε} {args : List α} {settings : List (κ × Nat)}
  {source : κ → α} {values : List (κ × ν)}

theorem bind_cons_ok {column : κ} {n : Nat} (harg : args[n - 1]? = some (source column)) :
    bind encode missing args ((column, n) :: settings) = .ok values ↔
      ∃ value rest, encode column (source column) = .ok value ∧
        bind encode missing args settings = .ok rest ∧ values = (column, value) :: rest := by
  simp only [bind, harg]
  cases hvalue : encode column (source column) with
  | error err => simp
  | ok value =>
    cases hrest : bind encode missing args settings with
    | error err => simp [Except.map]
    | ok rest => simp [Except.map, eq_comm]

/-- The statement is accepted just where every column takes its argument. -/
theorem bind_isOk_iff (h : Pairs source args settings) :
    (∃ values, bind encode missing args settings = .ok values) ↔
      ∀ p ∈ settings, ∃ value, encode p.1 (source p.1) = .ok value := by
  induction settings with
  | nil => exact ⟨fun _ p hp => absurd hp List.not_mem_nil, fun _ => ⟨[], rfl⟩⟩
  | cons p settings ih =>
    obtain ⟨column, n⟩ := p
    have harg : args[n - 1]? = some (source column) := h _ List.mem_cons_self
    rw [List.forall_mem_cons, ← ih h.tail]
    constructor
    · rintro ⟨values, hvalues⟩
      obtain ⟨value, rest, hvalue, hrest, -⟩ := (bind_cons_ok harg).mp hvalues
      exact ⟨⟨value, hvalue⟩, rest, hrest⟩
    · rintro ⟨⟨value, hvalue⟩, rest, hrest⟩
      exact ⟨_, (bind_cons_ok harg).mpr ⟨value, rest, hvalue, hrest, rfl⟩⟩

theorem error_of_bind {err e : ε} (h : Pairs source args settings)
    (herror : ∀ p ∈ settings, ∀ err, encode p.1 (source p.1) = .error err → err = e)
    (hbind : bind encode missing args settings = .error err) : err = e := by
  induction settings with
  | nil => cases hbind
  | cons p settings ih =>
    obtain ⟨column, n⟩ := p
    have harg : args[n - 1]? = some (source column) := h _ List.mem_cons_self
    simp only [bind, harg] at hbind
    cases hvalue : encode column (source column) with
    | error err' =>
      rw [hvalue] at hbind
      cases hbind
      exact herror _ List.mem_cons_self _ hvalue
    | ok value =>
      rw [hvalue] at hbind
      cases hrest : bind encode missing args settings with
      | error err' =>
        rw [hrest] at hbind
        cases hbind
        exact ih h.tail (fun q hq => herror q (List.mem_cons_of_mem _ hq)) hrest
      | ok rest =>
        rw [hrest] at hbind
        cases hbind

/-- What is set is what the columns take their arguments for. -/
theorem encode_of_mem_bind (h : Pairs source args settings)
    (hbind : bind encode missing args settings = .ok values) {p : κ × ν} (hp : p ∈ values) :
    encode p.1 (source p.1) = .ok p.2 := by
  induction settings generalizing values with
  | nil =>
    cases hbind
    cases hp
  | cons q settings ih =>
    obtain ⟨column, n⟩ := q
    have harg : args[n - 1]? = some (source column) := h _ List.mem_cons_self
    obtain ⟨value, rest, hvalue, hrest, rfl⟩ := (bind_cons_ok harg).mp hbind
    rcases List.mem_cons.mp hp with rfl | hp
    · exact hvalue
    · exact ih h.tail hrest hp

variable [DecidableEq κ]

theorem lookup_of_bind (h : Pairs source args settings)
    (hbind : bind encode missing args settings = .ok values) (column : κ) :
    if column ∈ settings.map Prod.fst then
      ∃ value, encode column (source column) = .ok value ∧ values.lookup column = some value
    else values.lookup column = none := by
  induction settings generalizing values with
  | nil =>
    cases hbind
    rw [if_neg (by simp)]
    rfl
  | cons p settings ih =>
    obtain ⟨key, n⟩ := p
    have harg : args[n - 1]? = some (source key) := h _ List.mem_cons_self
    obtain ⟨value, rest, hvalue, hrest, rfl⟩ := (bind_cons_ok harg).mp hbind
    have hlater := ih h.tail hrest
    by_cases hkey : column = key
    · subst hkey
      rw [if_pos (by simp)]
      exact ⟨value, hvalue, by simp⟩
    · have hother : (column == key) = false := beq_eq_false_iff_ne.mpr hkey
      have hlookup : ((key, value) :: rest).lookup column = rest.lookup column := by
        rw [List.lookup_cons, hother]
      have hmem : column ∈ ((key, n) :: settings).map Prod.fst ↔ column ∈ settings.map Prod.fst := by
        simp [hkey]
      simp only [hlookup, hmem]
      exact hlater

/-- A column that the statement sets has what it takes its argument for. -/
theorem set_of_mem (h : Pairs source args settings)
    (hbind : bind encode missing args settings = .ok values) {column : κ}
    (hmem : column ∈ settings.map Prod.fst) (row : κ → ν) :
    encode column (source column) = .ok (set values row column) := by
  have hlookup := lookup_of_bind h hbind column
  rw [if_pos hmem] at hlookup
  obtain ⟨value, hvalue, hfound⟩ := hlookup
  rw [set, hfound, Option.getD_some, hvalue]

/-- The others are as they were. -/
theorem set_of_not_mem (h : Pairs source args settings)
    (hbind : bind encode missing args settings = .ok values) {column : κ}
    (hmem : column ∉ settings.map Prod.fst) (row : κ → ν) : set values row column = row column := by
  have hlookup := lookup_of_bind h hbind column
  rw [if_neg hmem] at hlookup
  rw [set, hlookup, Option.getD_none]

end

section

variable {ν σ ε : Type*}

/-- A scan gives each value to the target in its place. -/
def scan (mismatch : ε) : List (ν → σ → Except ε σ) → List ν → σ → Except ε σ
  | [], [], s => .ok s
  | target :: targets, value :: values, s =>
    match target value s with
    | .error err => .error err
    | .ok s => scan mismatch targets values s
  | _, _, _ => .error mismatch

/-- A target that takes what it reads of a value. -/
def target {α : Type*} (read : ν → Except ε α) (set : σ → α → σ) (value : ν) (s : σ) : Except ε σ :=
  (read value).map (set s)

theorem target_error {α : Type*} {read : ν → Except ε α} {value : ν} {err : ε}
    (h : read value = .error err) (set : σ → α → σ) (s : σ) : target read set value s = .error err := by
  rw [target, h, Except.map]

theorem scan_cons_ok {mismatch : ε} {target : ν → σ → Except ε σ} {targets : List (ν → σ → Except ε σ)}
    {value : ν} {values : List ν} {s t : σ} (h : target value s = .ok t) :
    scan mismatch (target :: targets) (value :: values) s = scan mismatch targets values t := by
  rw [scan, h]

/-- One value that its target refuses fails the scan. -/
theorem scan_error_of_mem {mismatch : ε} {targets : List (ν → σ → Except ε σ)} {values : List ν}
    {target : ν → σ → Except ε σ} {value : ν} (hmem : (target, value) ∈ targets.zip values)
    (h : ∀ s, ∃ err, target value s = .error err) (s : σ) :
    ∃ err, scan mismatch targets values s = .error err := by
  induction targets generalizing values s with
  | nil => cases hmem
  | cons first targets ih =>
    cases values with
    | nil => cases hmem
    | cons v values =>
      rw [List.zip_cons_cons, List.mem_cons] at hmem
      cases hfirst : first v s with
      | error err => exact ⟨err, by rw [scan, hfirst]⟩
      | ok t =>
        rcases hmem with heq | hmem
        · cases heq
          obtain ⟨err, herr⟩ := h s
          rw [herr] at hfirst
          cases hfirst
        · obtain ⟨err, herr⟩ := ih hmem t
          exact ⟨err, by rw [scan_cons_ok hfirst, herr]⟩

/-- What has been scanned has been read, every value by its target. -/
theorem read_of_scan {mismatch : ε} {targets : List (ν → σ → Except ε σ)} {values : List ν} {α : Type*}
    {read : ν → Except ε α} {set : σ → α → σ} {value : ν} {s t : σ}
    (hmem : (target read set, value) ∈ targets.zip values) (h : scan mismatch targets values s = .ok t) :
    ∃ x, read value = .ok x := by
  cases hread : read value with
  | ok x => exact ⟨x, rfl⟩
  | error err =>
    obtain ⟨err', herr⟩ := scan_error_of_mem hmem (fun s => ⟨err, target_error hread set s⟩) s
    rw [herr] at h
    cases h

end

end Columns
