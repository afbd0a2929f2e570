import SupplyPlatform.Lib.Readers

namespace JsonDecoder

open Readers

/-- What the scanner of a JSON text says of the next byte. An object or an array ends with its last byte;
any other value ends before the first byte that is no longer part of it. -/
inductive Scanned (σ : Type)
  | more (state : σ)
  | ended
  | endedBefore
  | failed (err : String)

/-- A scanner, whether a space ends the value in a given state, and what is made of the text of a value. -/
structure Decoder (σ ρ : Type) where
  start : σ
  step : σ → UInt8 → Scanned σ
  ends : σ → Bool
  unmarshal : List UInt8 → Except String ρ

/-- Where the scanner stands after a text: it goes on, or a value of some length or an error was found, with
the number of bytes it looked at. -/
inductive Found (σ : Type)
  | more (state : σ)
  | value (length looked : Nat)
  | failed (err : String) (looked : Nat)

def Found.looked {σ : Type} : Found σ → Option Nat
  | .more _ => none
  | .value _ looked => some looked
  | .failed _ looked => some looked

def isSpace (c : UInt8) : Bool := c == 32 || c == 9 || c == 13 || c == 10

/-- The error at the end of a text whose value has not ended. -/
def eofError (text : List UInt8) : String :=
  if text.any (fun c => !isSpace c) then "unexpected EOF" else "EOF"

/-- `refill` makes room for at least 512 bytes. -/
def grow (cap length : Nat) : Nat := if cap - length < 512 then 2 * cap + 512 else cap

namespace Decoder

variable {σ ρ τ : Type} (d : Decoder σ ρ)

/-- The scanner on a text that follows `seen` other bytes. -/
def scan : Nat → σ → List UInt8 → Found σ
  | _, state, [] => .more state
  | seen, state, c :: cs =>
    match d.step state c with
    | .more state => scan (seen + 1) state cs
    | .ended => .value (seen + 1) (seen + 1)
    | .endedBefore => .value seen (seen + 1)
    | .failed err => .failed err (seen + 1)

/-- The loop of `readValue`: a read into the buffer, then a look at what it added. -/
def readValue (src : Source τ UInt8) : Nat → τ → List UInt8 → Nat → σ →
    Option (τ × Except String (List UInt8))
  | 0, _, _, _, _ => none
  | fuel + 1, t, buf, cap, state =>
    let cap := grow cap buf.length
    let result := src.read t (cap - buf.length)
    match d.scan buf.length state result.2.1 with
    | .value length _ => some (result.1, .ok ((buf ++ result.2.1).take length))
    | .failed err _ => some (result.1, .error err)
    | .more state =>
      if result.2.2 then
        if d.ends state then some (result.1, .ok (buf ++ result.2.1))
        else some (result.1, .error (eofError (buf ++ result.2.1)))
      else readValue src fuel result.1 (buf ++ result.2.1) cap state

/-- `Decode` of a new decoder. -/
def decode (src : Source τ UInt8) (fuel : Nat) (t : τ) : Option (τ × Except String ρ) :=
  (d.readValue src fuel t [] 0 d.start).map (fun result => (result.1, result.2.bind d.unmarshal))

/-- The text of the first value of a text, when all of it is there. -/
def valueOf (text : List UInt8) : Except String (List UInt8) :=
  match d.scan 0 d.start text with
  | .value length _ => .ok (text.take length)
  | .failed err _ => .error err
  | .more state => if d.ends state then .ok text else .error (eofError text)

def decodeText (text : List UInt8) : Except String ρ := (d.valueOf text).bind d.unmarshal

/-- How many bytes of a text the scanner has to see; one more than there are when it has to see the end. -/
def needed (text : List UInt8) : Nat := (d.scan 0 d.start text).looked.getD (text.length + 1)

end Decoder

/-- The reads it takes to see `need` bytes or the end, with a buffer of a given length and capacity. -/
def readUntil {τ : Type} (src : Source τ UInt8) (need : Nat) : Nat → τ → Nat → Nat → Option τ
  | 0, _, _, _ => none
  | fuel + 1, t, length, cap =>
    let cap := grow cap length
    let result := src.read t (cap - length)
    if need ≤ length + result.2.1.length ∨ result.2.2 = true then some result.1
    else readUntil src need fuel result.1 (length + result.2.1.length) cap

theorem le_grow (cap length : Nat) : cap ≤ grow cap length := by
  unfold grow
  split
  · omega
  · exact Nat.le_refl _

/-- There is always room for a read. -/
theorem grow_sub_pos {cap length : Nat} (h : length ≤ cap) : 0 < grow cap length - length := by
  unfold grow
  split
  · omega
  · omega

section Until

variable {τ : Type} (src : Source τ UInt8)

/-- What every read preserves, the reads preserve. -/
theorem readUntil_preserves {P : τ → Prop} (hstep : ∀ t k, P t → P (src.read t k).1) {need : Nat} :
    ∀ {fuel : Nat} {t u : τ} {length cap : Nat}, P t →
      readUntil src need fuel t length cap = some u → P u
  | 0, _, _, _, _, _, h => nomatch h
  | fuel + 1, t, u, length, cap, ht, h => by
    unfold readUntil at h
    dsimp only at h
    split at h
    · cases h
      exact hstep t _ ht
    · exact readUntil_preserves hstep (hstep t _ ht) h

/-- More fuel than the reads that are left is enough. -/
theorem readUntil_terminates {need : Nat} : ∀ {fuel : Nat} {t : τ} {length cap : Nat},
    length ≤ cap → src.left t < fuel → ∃ u, readUntil src need fuel t length cap = some u
  | 0, _, _, _, _, hfuel => nomatch hfuel
  | fuel + 1, t, length, cap, hlength, hfuel => by
    unfold readUntil
    dsimp only
    split
    next => exact ⟨_, rfl⟩
    next hgo =>
      rw [not_or] at hgo
      have hless := (src.read_left t _ (grow_sub_pos hlength)).resolve_left hgo.2
      have hfits := src.read_length t (grow cap length - length)
      have hcap := le_grow cap length
      exact readUntil_terminates (by omega) (by omega)

theorem readUntil_mono {need : Nat} : ∀ {fuel more : Nat} {t u : τ} {length cap : Nat}, fuel ≤ more →
    readUntil src need fuel t length cap = some u → readUntil src need more t length cap = some u
  | 0, _, _, _, _, _, _, h => nomatch h
  | fuel + 1, 0, _, _, _, _, hle, _ => nomatch hle
  | fuel + 1, more + 1, t, u, length, cap, hle, h => by
    unfold readUntil at h ⊢
    dsimp only at h ⊢
    split at h
    next hstop => rw [if_pos hstop, h]
    next hgo =>
      rw [if_neg hgo]
      exact readUntil_mono (Nat.le_of_succ_le_succ hle) h

/-- The reads for more bytes than there are go on to the end. -/
theorem readUntil_exhausts {need : Nat} : ∀ {fuel : Nat} {t u : τ} {length cap : Nat},
    length + (src.yields t).length < need → readUntil src need fuel t length cap = some u →
      src.yields u = []
  | 0, _, _, _, _, _, h => nomatch h
  | fuel + 1, t, u, length, cap, hneed, h => by
    have hyields := congrArg List.length (src.read_yields t (grow cap length - length))
    rw [List.length_append] at hyields
    unfold readUntil at h
    dsimp only at h
    split at h
    next hstop =>
      cases h
      exact src.read_eof t _ (hstop.resolve_left (by omega))
    next => exact readUntil_exhausts (by omega) h

end Until

namespace Decoder

variable {σ ρ τ : Type} (d : Decoder σ ρ)

theorem scan_append_of_more {seen : Nat} {state next : σ} {xs : List UInt8} (ys : List UInt8)
    (h : d.scan seen state xs = .more next) :
    d.scan seen state (xs ++ ys) = d.scan (seen + xs.length) next ys := by
  induction xs generalizing seen state with
  | nil =>
    cases h
    rfl
  | cons c cs ih =>
    simp only [scan] at h
    simp only [List.cons_append, scan, List.length_cons]
    cases hc : d.step state c with
    | more after =>
      rw [hc] at h
      dsimp only at h ⊢
      rw [ih h, Nat.add_right_comm, Nat.add_assoc]
    | ended => rw [hc] at h; cases h
    | endedBefore => rw [hc] at h; cases h
    | failed err => rw [hc] at h; cases h

/-- What the scanner has found it has found, whatever follows. -/
theorem scan_append_of_looked {seen k : Nat} {state : σ} {xs : List UInt8} (ys : List UInt8)
    (h : (d.scan seen state xs).looked = some k) : d.scan seen state (xs ++ ys) = d.scan seen state xs := by
  induction xs generalizing seen state with
  | nil => cases h
  | cons c cs ih =>
    simp only [scan] at h
    simp only [List.cons_append, scan]
    cases hc : d.step state c with
    | more after =>
      rw [hc] at h
      exact ih h
    | ended => rfl
    | endedBefore => rfl
    | failed err => rfl

theorem looked_scan {seen k : Nat} {state : σ} {xs : List UInt8}
    (h : (d.scan seen state xs).looked = some k) : seen < k ∧ k ≤ seen + xs.length := by
  induction xs generalizing seen state with
  | nil => cases h
  | cons c cs ih =>
    simp only [scan] at h
    rw [List.length_cons]
    cases hc : d.step state c with
    | more after =>
      rw [hc] at h
      obtain ⟨hlt, hle⟩ := ih h
      exact ⟨by omega, by omega⟩
    | ended =>
      rw [hc] at h
      cases h
      exact ⟨by omega, by omega⟩
    | endedBefore =>
      rw [hc] at h
      cases h
      exact ⟨by omega, by omega⟩
    | failed err =>
      rw [hc] at h
      cases h
      exact ⟨by omega, by omega⟩

theorem scan_value_le {seen length looked : Nat} {state : σ} {xs : List UInt8}
    (h : d.scan seen state xs = .value length looked) : length ≤ looked := by
  induction xs generalizing seen state with
  | nil => cases h
  | cons c cs ih =>
    simp only [scan] at h
    cases hc : d.step state c with
    | more after =>
      rw [hc] at h
      exact ih h
    | ended =>
      rw [hc] at h
      cases h
      exact Nat.le_refl _
    | endedBefore =>
      rw [hc] at h
      cases h
      exact Nat.le_succ _
    | failed err => rw [hc] at h; cases h

/-- An error of the scanner is one of its steps. -/
theorem scan_failed {seen looked : Nat} {state : σ} {xs : List UInt8} {err : String}
    (h : d.scan seen state xs = .failed err looked) : ∃ s c, d.step s c = .failed err := by
  induction xs generalizing seen state with
  | nil => cases h
  | cons c cs ih =>
    simp only [scan] at h
    cases hc : d.step state c with
    | more after =>
      rw [hc] at h
      exact ih h
    | ended => rw [hc] at h; cases h
    | endedBefore => rw [hc] at h; cases h
    | failed e =>
      rw [hc] at h
      cases h
      exact ⟨state, c, hc⟩

/-- Where the errors of a decoder come from. -/
theorem decodeText_error {text : List UInt8} {err : String} (h : d.decodeText text = .error err) :
    (∃ s c, d.step s c = .failed err) ∨ err = eofError text ∨ ∃ value, d.unmarshal value = .error err := by
  unfold decodeText at h
  cases hvalue : d.valueOf text with
  | ok value =>
    rw [hvalue] at h
    exact .inr (.inr ⟨value, h⟩)
  | error e =>
    rw [hvalue] at h
    cases h
    unfold valueOf at hvalue
    split at hvalue
    next => cases hvalue
    next hfailed =>
      cases hvalue
      exact .inl (d.scan_failed hfailed)
    next =>
      split at hvalue
      next => cases hvalue
      next =>
        cases hvalue
        exact .inr (.inl rfl)

/-- More than a text has to be seen where the scanner goes on behind it. -/
theorem lt_needed {buf : List UInt8} {state : σ} (h : d.scan 0 d.start buf = .more state)
    (rest : List UInt8) : buf.length < d.needed (buf ++ rest) := by
  unfold needed
  rw [d.scan_append_of_more rest h]
  cases hl : (d.scan (0 + buf.length) state rest).looked with
  | none =>
    rw [Option.getD_none, List.length_append]
    omega
  | some k =>
    have hk := (d.looked_scan hl).1
    rw [Option.getD_some]
    omega

theorem needed_append {buf : List UInt8} {k : Nat} (h : (d.scan 0 d.start buf).looked = some k)
    (rest : List UInt8) : d.needed (buf ++ rest) = k := by
  unfold needed
  rw [d.scan_append_of_looked rest h, h, Option.getD_some]

theorem needed_le {buf : List UInt8} {k : Nat} (h : (d.scan 0 d.start buf).looked = some k)
    (rest : List UInt8) : d.needed (buf ++ rest) ≤ buf.length := by
  rw [d.needed_append h]
  exact (d.looked_scan h).2.trans (by omega)

theorem valueOf_of_value {buf : List UInt8} {length looked : Nat}
    (h : d.scan 0 d.start buf = .value length looked) (rest : List UInt8) :
    d.valueOf (buf ++ rest) = .ok (buf.take length) := by
  have hlooked : (d.scan 0 d.start buf).looked = some looked := by rw [h]; rfl
  have hlength := (d.scan_value_le h).trans (d.looked_scan hlooked).2
  rw [Nat.zero_add] at hlength
  unfold valueOf
  rw [d.scan_append_of_looked rest hlooked, h]
  dsimp only
  rw [List.take_append_of_le_length hlength]

theorem valueOf_of_failed {buf : List UInt8} {err : String} {looked : Nat}
    (h : d.scan 0 d.start buf = .failed err looked) (rest : List UInt8) :
    d.valueOf (buf ++ rest) = .error err := by
  have hlooked : (d.scan 0 d.start buf).looked = some looked := by rw [h]; rfl
  unfold valueOf
  rw [d.scan_append_of_looked rest hlooked, h]

theorem valueOf_of_more {buf : List UInt8} {state : σ} (h : d.scan 0 d.start buf = .more state) :
    d.valueOf buf = if d.ends state then .ok buf else .error (eofError buf) := by
  unfold valueOf
  rw [h]

/-- A decoder makes of what a source yields what it makes of the whole text, however it is read, and reads
until it has seen what it needs. The buffer holds what the scanner has gone through. -/
theorem readValue_eq (src : Source τ UInt8) : ∀ (fuel : Nat) (t : τ) (buf : List UInt8) (cap : Nat)
    (state : σ), d.scan 0 d.start buf = .more state →
      d.readValue src fuel t buf cap state =
        (readUntil src (d.needed (buf ++ src.yields t)) fuel t buf.length cap).map
          (fun u => (u, d.valueOf (buf ++ src.yields t)))
  | 0, _, _, _, _, _ => rfl
  | fuel + 1, t, buf, cap, state, hbuf => by
    have hyields := src.read_yields t (grow cap buf.length - buf.length)
    have heof := src.read_eof t (grow cap buf.length - buf.length)
    unfold readValue readUntil
    dsimp only
    generalize src.read t (grow cap buf.length - buf.length) = result at hyields heof ⊢
    obtain ⟨u, chunk, eof⟩ := result
    dsimp only at hyields heof ⊢
    rw [← hyields, ← List.append_assoc, ← List.length_append]
    have hscan := d.scan_append_of_more chunk hbuf
    rw [Nat.zero_add] at hscan
    cases hc : d.scan buf.length state chunk with
    | value length looked =>
      have hfound := hscan.trans hc
      have hlooked : (d.scan 0 d.start (buf ++ chunk)).looked = some looked := by rw [hfound]; rfl
      rw [if_pos (.inl (d.needed_le hlooked _)), Option.map_some, d.valueOf_of_value hfound]
    | failed err looked =>
      have hfound := hscan.trans hc
      have hlooked : (d.scan 0 d.start (buf ++ chunk)).looked = some looked := by rw [hfound]; rfl
      rw [if_pos (.inl (d.needed_le hlooked _)), Option.map_some, d.valueOf_of_failed hfound]
    | more next =>
      have hmore := hscan.trans hc
      have hneed := d.lt_needed hmore (src.yields u)
      dsimp only
      cases eof with
      | true =>
        -- the end: what has been scanned is the whole text
        have hstop : d.needed (buf ++ chunk ++ src.yields u) ≤ (buf ++ chunk).length ∨ true = true :=
          .inr rfl
        rw [if_pos rfl, if_pos hstop, heof rfl, List.append_nil, Option.map_some, d.valueOf_of_more hmore]
        split
        · rfl
        · rfl
      | false =>
        have hgo : ¬(d.needed (buf ++ chunk ++ src.yields u) ≤ (buf ++ chunk).length ∨ false = true) := by
          rintro (hle | hf)
          · omega
          · cases hf
        rw [if_neg Bool.false_ne_true, if_neg hgo]
        exact readValue_eq src fuel u (buf ++ chunk) _ next hmore

theorem decode_eq (src : Source τ UInt8) (fuel : Nat) (t : τ) :
    d.decode src fuel t = (readUntil src (d.needed (src.yields t)) fuel t 0 0).map
      (fun u => (u, d.decodeText (src.yields t))) := by
  unfold decode
  rw [d.readValue_eq src fuel t [] 0 d.start rfl, Option.map_map]
  rfl

end Decoder

end JsonDecoder
