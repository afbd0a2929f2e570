import SupplyPlatform.Lib.Patterns

namespace SupplyPlatform.Sanitizer

open Patterns

/-- A string is its bytes. -/
abbrev Text := List UInt8

def between (lo hi : Char) (b : UInt8) : Bool := lo.toNat ≤ b.toNat && b.toNat ≤ hi.toNat

def oneOf (chars : String) (b : UInt8) : Bool := chars.toList.any (fun c => c.toNat == b.toNat)

/-- `[a-zA-Z0-9]` -/
def alphanumeric (b : UInt8) : Bool := between 'a' 'z' b || between 'A' 'Z' b || between '0' '9' b

/-- `[0-9A-Z]` -/
def digitOrUpper (b : UInt8) : Bool := between '0' '9' b || between 'A' 'Z' b

/-- `[a-zA-Z0-9_\-]` -/
def keyByte (b : UInt8) : Bool := alphanumeric b || oneOf "_-" b

/-- `[a-zA-Z0-9@#$%^&*!]` -/
def passwordByte (b : UInt8) : Bool := alphanumeric b || oneOf "@#$%^&*!" b

/-- `.`, for matched text, which is ASCII. -/
def anyByte (b : UInt8) : Bool := b != 10

def literal (text : String) : List (Item UInt8) :=
  text.toList.map (fun c => exactly (fun b => c.toNat == b.toNat) 1)

def openAIKey : List (Item UInt8) :=
  literal "sk-" ++ [exactly alphanumeric 4, atLeast alphanumeric 1, exactly alphanumeric 4]

def awsAccessKey : List (Item UInt8) :=
  literal "AKIA" ++ [exactly digitOrUpper 4, atLeast digitOrUpper 1, exactly digitOrUpper 4]

def genericAPIKey : List (Item UInt8) := [exactly keyByte 4, atLeast keyByte 8, exactly keyByte 4]

def password : List (Item UInt8) :=
  [exactly passwordByte 4, atLeast passwordByte 1, exactly passwordByte 4]

/-- The patterns of `NewSanitizer`. -/
def patterns : List (List (Item UInt8)) := [openAIKey, awsAccessKey, genericAPIKey, password]

/-- `^(.{4}).+(.{4})$` -/
def ends : List (Item UInt8) := [exactly anyByte 4, atLeast anyByte 1, exactly anyByte 4]

/-- `****` -/
def stars : Text := [42, 42, 42, 42]

/-- What `Mask` puts in the place of a match. -/
def maskMatch (found : Text) : Text :=
  match submatches ends found with
  | some [first, _, last] => first ++ stars ++ last
  | _ =>
    if 8 < found.length then found.take 4 ++ stars ++ found.drop (found.length - 4) else stars

def mask (content : Text) : Text :=
  patterns.foldl (fun result pattern => replaceAll pattern maskMatch result) content

theorem passwordByte_of_alphanumeric (b : UInt8) (h : alphanumeric b = true) : passwordByte b = true := by
  simp [passwordByte, h]

theorem alphanumeric_of_digitOrUpper (b : UInt8) (h : digitOrUpper b = true) : alphanumeric b = true := by
  rcases Bool.or_eq_true_iff.mp h with h | h
  · simp [alphanumeric, h]
  · simp [alphanumeric, h]

theorem anyByte_of_ne {c : UInt8 → Bool} (hc : c 10 = false) (b : UInt8) (h : c b = true) :
    anyByte b = true := by
  have hne : b ≠ 10 := by
    rintro rfl
    rw [hc] at h
    cases h
  simp [anyByte, hne]

theorem maskMatch_eq {w : Text} (hw : ∀ b ∈ w, anyByte b = true) (hle : 9 ≤ w.length) :
    maskMatch w = keepEnds 4 4 stars w := by
  have hall : w.takeWhile anyByte = w := List.takeWhile_eq_self_iff.mpr hw
  have hbest : best List.isEmpty ends w = some ([w.take 4, (w.drop 4).take (w.length - 4 - 4),
      (w.drop (w.length - 4)).take 4], w.drop w.length) := by
    have hspan := @best_span _ anyByte List.isEmpty 4 1 4 w (by rw [hall]; exact hle)
      (by rw [hall, List.drop_length]; rfl)
    rw [hall] at hspan
    exact hspan
  have hlast : (w.drop (w.length - 4)).take 4 = w.drop (w.length - 4) :=
    List.take_of_length_le (by rw [List.length_drop]; omega)
  rw [maskMatch, submatches, hbest, hlast]
  rfl

theorem spans_genericAPIKey : Spans genericAPIKey keyByte 16 := spans keyByte 4 8 4

theorem spans_password : Spans password passwordByte 9 := spans passwordByte 4 1 4

theorem mask_eq (content : Text) : mask content = replaceAll password (keepEnds 4 4 stars)
    (replaceAll genericAPIKey (keepEnds 4 4 stars)
      (replaceAll awsAccessKey maskMatch (replaceAll openAIKey maskMatch content))) := by
  have hkey := replaceAll_congr (f := maskMatch) (g := keepEnds 4 4 stars) spans_genericAPIKey (by decide)
    (fun w hw hle => maskMatch_eq (fun b hb => anyByte_of_ne (by decide) b (hw b hb)) (by omega))
  have hpassword := replaceAll_congr (f := maskMatch) (g := keepEnds 4 4 stars) spans_password (by decide)
    (fun w hw hle => maskMatch_eq (fun b hb => anyByte_of_ne (by decide) b (hw b hb)) hle)
  rw [← hkey, ← hpassword]
  rfl

theorem forall_mem_stars {P : UInt8 → Prop} (h : P 42) : ∀ b ∈ stars, P b := by
  intro b hb
  have hstar : b = 42 := @List.eq_of_mem_replicate _ 42 b 4 hb
  rw [hstar]
  exact h

theorem noRun_mask (content : Text) : NoRun alphanumeric 9 (mask content) := by
  rw [mask_eq]
  exact noRun_replaceAll spans_password passwordByte_of_alphanumeric (by decide)
    (forall_mem_stars (by decide)) (by decide) (by decide) _

theorem noKeyRun_mask (content : Text) : NoRun keyByte 16 (mask content) := by
  have hkey : NoRun keyByte 16 (replaceAll genericAPIKey (keepEnds 4 4 stars)
      (replaceAll awsAccessKey maskMatch (replaceAll openAIKey maskMatch content))) :=
    noRun_replaceAll spans_genericAPIKey (fun _ h => h) (by decide) (forall_mem_stars (by decide))
      (by decide) (by decide) _
  rw [mask_eq]
  exact hkey.replaceAll spans_password (by decide) (by decide) (forall_mem_stars (by decide)) (by decide)

/-- A key of nine letters and digits or more is not found where no run of them is that long. -/
theorem replaceAll_eq_self_of_noRun {text : String} {c : UInt8 → Bool} {s : Text}
    (hc : ∀ b, c b = true → alphanumeric b = true) (h : NoRun alphanumeric 9 s) :
    replaceAll (literal text ++ [exactly c 4, atLeast c 1, exactly c 4]) maskMatch s = s := by
  refine replaceAll_eq_self (fun t ht => ?_)
  have hclass : ∀ it ∈ [exactly c 4, atLeast c 1, exactly c 4], ∀ b, it.holds b = true →
      alphanumeric b = true := by
    simpa [exactly, atLeast] using hc
  rw [matchLength, best_append_eq_none (literal text) hclass (fun r hr => h r (hr.trans ht))]
  rfl

theorem mask_mask (content : Text) : mask (mask content) = mask content := by
  have hshort := noRun_mask content
  have hkeys := noKeyRun_mask content
  rw [mask_eq (mask content)]
  have hopenAI : replaceAll openAIKey maskMatch (mask content) = mask content :=
    replaceAll_eq_self_of_noRun (fun _ h => h) hshort
  have haws : replaceAll awsAccessKey maskMatch (mask content) = mask content :=
    replaceAll_eq_self_of_noRun alphanumeric_of_digitOrUpper hshort
  have hgeneric : replaceAll genericAPIKey (keepEnds 4 4 stars) (mask content) = mask content := by
    refine replaceAll_eq_self (fun t ht => ?_)
    rw [spans_genericAPIKey, if_neg (Nat.not_le.mpr (hkeys t ht))]
  rw [hopenAI, haws, hgeneric, mask_eq]
  exact replaceAll_idem spans_password (by decide) (forall_mem_stars (by decide)) (by decide) (by decide)
    (by decide) _

/-- No nine letters and digits stand in a row in what `Mask` returns, and masking that again changes
nothing. -/
theorem mask_leaves_no_long_run (content : Text) :
    (∀ w, w <:+: mask content → (∀ b ∈ w, alphanumeric b = true) → w.length < 9) ∧
    mask (mask content) = mask content :=
  ⟨fun _ hw hall => (noRun_mask content).of_isInfix hw hall, mask_mask content⟩

def ascii (s : String) : Text := s.toList.map (fun c => UInt8.ofNat c.toNat)

example : mask (ascii "key=sk-abcdefghijklmnop") = ascii "key=sk-a*******mnop" := by decide

end SupplyPlatform.Sanitizer
