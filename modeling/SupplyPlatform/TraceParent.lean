import SupplyPlatform.Lib.Bytes

namespace SupplyPlatform.Tracing

open Bytes

structure TraceContext where
  traceID : Text
  spanID : Text
  traceFlags : Text
  deriving DecidableEq

def traceContextVersion : Text := ascii "00"

def traceFlagSampled : Text := ascii "01"

def traceFlagNotSampled : Text := ascii "00"

def dash : Text := ascii "-"

/-- The length is tested before the slices are cut, so none of them is out of range. -/
def parseTraceParent (traceParent : Text) : Except Text TraceContext :=
  if traceParent = [] then .error (ascii "traceparent header is empty")
  else if traceParent.length < 55 then .error (ascii "invalid traceparent format")
  else
    let version := slice traceParent 0 2
    if version ≠ traceContextVersion then
      .error (ascii "unsupported trace context version: " ++ version)
    else
      let traceID := slice traceParent 3 35
      let spanID := slice traceParent 36 52
      let traceFlags := slice traceParent 53 55
      if traceID.length ≠ 32 then
        .error (ascii "invalid trace-id length: " ++ ascii (toString traceID.length))
      else if spanID.length ≠ 16 then
        .error (ascii "invalid span-id length: " ++ ascii (toString spanID.length))
      else if traceFlags ≠ traceFlagSampled ∧ traceFlags ≠ traceFlagNotSampled then
        .error (ascii "invalid trace-flags: " ++ traceFlags)
      else .ok ⟨traceID, spanID, traceFlags⟩

def formatTraceParent (tc : TraceContext) : Text :=
  traceContextVersion ++ dash ++ tc.traceID ++ dash ++ tc.spanID ++ dash ++ tc.traceFlags

/-- The fields have the lengths of the format and are written in the digits given. -/
structure TraceContext.WellFormed (digit : UInt8 → Bool) (tc : TraceContext) : Prop where
  traceID : tc.traceID.length = 32 ∧ ∀ b ∈ tc.traceID, digit b = true
  spanID : tc.spanID.length = 16 ∧ ∀ b ∈ tc.spanID, digit b = true
  traceFlags : tc.traceFlags = traceFlagSampled ∨ tc.traceFlags = traceFlagNotSampled

/-- `00-{trace-id}-{span-id}-{trace-flags}`, in hex digits. -/
def HasForm (s : Text) : Prop :=
  ∃ tc : TraceContext, tc.WellFormed isHexDigit ∧ s = formatTraceParent tc

/-- What the parser looks at: the length, the version and the flags. -/
structure Passes (s : Text) : Prop where
  length : 55 ≤ s.length
  version : slice s 0 2 = traceContextVersion
  traceFlags : slice s 53 55 = traceFlagSampled ∨ slice s 53 55 = traceFlagNotSampled

/-- What it does not look at: the end of the text, the separators and the digits. -/
structure Tidy (s : Text) : Prop where
  length : s.length = 55
  separators : slice s 2 3 = dash ∧ slice s 35 36 = dash ∧ slice s 52 53 = dash
  traceID : ∀ b ∈ slice s 3 35, isHexDigit b = true
  spanID : ∀ b ∈ slice s 36 52, isHexDigit b = true

theorem length_traceFlags {flags : Text} (h : flags = traceFlagSampled ∨ flags = traceFlagNotSampled) :
    flags.length = 2 := by
  rcases h with rfl | rfl
  · rfl
  · rfl

def sliced (s : Text) : TraceContext := ⟨slice s 3 35, slice s 36 52, slice s 53 55⟩

theorem parseTraceParent_eq_ok_iff {s : Text} {tc : TraceContext} :
    parseTraceParent s = .ok tc ↔ Passes s ∧ tc = sliced s := by
  unfold parseTraceParent
  constructor
  · intro h
    simp only at h
    split_ifs at h with hempty hshort hversion htrace hspan hflags
    cases h
    exact ⟨⟨by omega, not_not.mp hversion, by tauto⟩, rfl⟩
  · rintro ⟨⟨hlength, hversion, hflags⟩, rfl⟩
    have htrace : (slice s 3 35).length = 32 := length_slice (by omega)
    have hspan : (slice s 36 52).length = 16 := length_slice (by omega)
    have hempty : s ≠ [] := by
      rintro rfl
      cases hlength
    simp only
    rw [if_neg hempty, if_neg (by omega), if_neg (not_not.mpr hversion), if_neg (not_not.mpr htrace),
      if_neg (not_not.mpr hspan), if_neg (by tauto)]
    rfl

/-- A text of enough bytes is its fields, the separators between them and what follows. -/
theorem eq_slices {s : Text} (h : 55 ≤ s.length) :
    s = slice s 0 2 ++ slice s 2 3 ++ slice s 3 35 ++ slice s 35 36 ++ slice s 36 52 ++ slice s 52 53 ++
      slice s 53 55 ++ s.drop 55 := by
  rw [slice_append_slice s (by omega) (by omega), slice_append_slice s (by omega) (by omega),
    slice_append_slice s (by omega) (by omega), slice_append_slice s (by omega) (by omega),
    slice_append_slice s (by omega) (by omega), slice_append_slice s (by omega) (by omega),
    ← slice_length, slice_append_slice s (by omega) h, slice_self rfl]

/-- Fields of the same lengths are read off the text they are written to. -/
theorem fields_inj {v t p f rest v' t' p' f' rest' d1 d2 d3 : Text} (hv : v.length = v'.length)
    (hd1 : d1.length = 1) (ht : t.length = t'.length) (hd2 : d2.length = 1) (hp : p.length = p'.length)
    (hd3 : d3.length = 1) (hf : f.length = f'.length)
    (h : v ++ dash ++ t ++ dash ++ p ++ dash ++ f ++ rest =
      v' ++ d1 ++ t' ++ d2 ++ p' ++ d3 ++ f' ++ rest') :
    t = t' ∧ p = p' ∧ f = f' ∧ rest = rest' ∧ d1 = dash ∧ d2 = dash ∧ d3 = dash := by
  have hone : dash.length = 1 := rfl
  obtain ⟨h, hrest⟩ := List.append_inj h (by simp only [List.length_append]; omega)
  obtain ⟨h, hflags⟩ := List.append_inj h (by simp only [List.length_append]; omega)
  obtain ⟨h, hthird⟩ := List.append_inj h (by simp only [List.length_append]; omega)
  obtain ⟨h, hspan⟩ := List.append_inj h (by simp only [List.length_append]; omega)
  obtain ⟨h, hsecond⟩ := List.append_inj h (by simp only [List.length_append]; omega)
  obtain ⟨h, htrace⟩ := List.append_inj h (by simp only [List.length_append]; omega)
  obtain ⟨-, hfirst⟩ := List.append_inj h hv
  exact ⟨htrace, hspan, hflags, hrest, hfirst.symm, hsecond.symm, hthird.symm⟩

theorem length_formatTraceParent {digit : UInt8 → Bool} {tc : TraceContext} (h : tc.WellFormed digit) :
    (formatTraceParent tc).length = 55 := by
  have hversion : traceContextVersion.length = 2 := rfl
  have hdash : dash.length = 1 := rfl
  have htrace := h.traceID.1
  have hspan := h.spanID.1
  have hflags := length_traceFlags h.traceFlags
  simp only [formatTraceParent, List.length_append]
  omega

@[simp] theorem slice_zero_two_format (tc : TraceContext) :
    slice (formatTraceParent tc) 0 2 = traceContextVersion := rfl

theorem format_slices {digit : UInt8 → Bool} {tc : TraceContext} (h : tc.WellFormed digit) :
    sliced (formatTraceParent tc) = tc ∧ slice (formatTraceParent tc) 2 3 = dash ∧
      slice (formatTraceParent tc) 35 36 = dash ∧ slice (formatTraceParent tc) 52 53 = dash := by
  have hlength := length_formatTraceParent h
  have hsplit := eq_slices (Nat.le_of_eq hlength.symm)
  have hfields : formatTraceParent tc = traceContextVersion ++ dash ++ tc.traceID ++ dash ++ tc.spanID ++
      dash ++ tc.traceFlags ++ [] := (List.append_nil _).symm
  obtain ⟨htrace, hspan, hflags, -, hfirst, hsecond, hthird⟩ := fields_inj
    (by rw [length_slice (by omega)]; rfl) (length_slice (by omega))
    (by rw [length_slice (by omega), h.traceID.1]) (length_slice (by omega))
    (by rw [length_slice (by omega), h.spanID.1]) (length_slice (by omega))
    (by rw [length_slice (by omega), length_traceFlags h.traceFlags]) (hfields.symm.trans hsplit)
  refine ⟨?_, hfirst, hsecond, hthird⟩
  rw [sliced, ← htrace, ← hspan, ← hflags]

/-- Written back, what the parser has cut out is the text just where the text has the separators and
ends with the flags. -/
theorem format_sliced_iff {s : Text} (h : Passes s) :
    formatTraceParent (sliced s) = s ↔
      s.length = 55 ∧ slice s 2 3 = dash ∧ slice s 35 36 = dash ∧ slice s 52 53 = dash := by
  have hlength := h.length
  have hsplit := eq_slices hlength
  constructor
  · intro hformat
    have hfields : formatTraceParent (sliced s) ++ [] = _ :=
      (List.append_nil _).trans (hformat.trans hsplit)
    obtain ⟨-, -, -, hrest, hfirst, hsecond, hthird⟩ := fields_inj
      (by rw [h.version]) (length_slice (by omega)) rfl (length_slice (by omega)) rfl
      (length_slice (by omega)) rfl hfields
    have hend : s.length ≤ 55 := List.drop_eq_nil_iff.mp hrest.symm
    exact ⟨by omega, hfirst, hsecond, hthird⟩
  · rintro ⟨hend, hfirst, hsecond, hthird⟩
    rw [hfirst, hsecond, hthird, h.version, List.drop_of_length_le (by omega), List.append_nil] at hsplit
    exact hsplit.symm

theorem passes_format {digit : UInt8 → Bool} {tc : TraceContext} (h : tc.WellFormed digit) :
    Passes (formatTraceParent tc) := by
  obtain ⟨hsliced, -⟩ := format_slices h
  have hflags : slice (formatTraceParent tc) 53 55 = tc.traceFlags :=
    congrArg TraceContext.traceFlags hsliced
  exact ⟨Nat.le_of_eq (length_formatTraceParent h).symm, slice_zero_two_format tc, by
    rw [hflags]
    exact h.traceFlags⟩

theorem parse_format {digit : UInt8 → Bool} {tc : TraceContext} (h : tc.WellFormed digit) :
    parseTraceParent (formatTraceParent tc) = .ok tc :=
  parseTraceParent_eq_ok_iff.mpr ⟨passes_format h, (format_slices h).1.symm⟩

theorem Tidy.wellFormed {s : Text} (h : Tidy s) (hpasses : Passes s) :
    (sliced s).WellFormed isHexDigit := by
  have hlength := hpasses.length
  exact ⟨⟨length_slice (by omega), h.traceID⟩, ⟨length_slice (by omega), h.spanID⟩, hpasses.traceFlags⟩

theorem tidy_of_hasForm {s : Text} (h : HasForm s) : Tidy s := by
  obtain ⟨tc, hwell, rfl⟩ := h
  obtain ⟨hsliced, hseparators⟩ := format_slices hwell
  have htrace : slice (formatTraceParent tc) 3 35 = tc.traceID := congrArg TraceContext.traceID hsliced
  have hspan : slice (formatTraceParent tc) 36 52 = tc.spanID := congrArg TraceContext.spanID hsliced
  refine ⟨length_formatTraceParent hwell, hseparators, ?_, ?_⟩
  · rw [htrace]
    exact hwell.traceID.2
  · rw [hspan]
    exact hwell.spanID.2

/-- What is parsed from the text, if anything, comes from a text of the format and is written back as
that text. -/
def ReadsBack (s : Text) : Prop :=
  ∀ tc, parseTraceParent s = .ok tc → HasForm s ∧ formatTraceParent tc = s

/-- What is written is read back, whatever the digits; a text is read as it is written just where it is
refused, or has at the places that are not looked at what the format has there. -/
theorem traceParent_round_trips (digit : UInt8 → Bool) (s : Text) :
    (∀ tc : TraceContext, tc.WellFormed digit → parseTraceParent (formatTraceParent tc) = .ok tc) ∧
    (ReadsBack s ↔ (Passes s → Tidy s)) := by
  refine ⟨fun tc h => parse_format h, fun h hpasses => ?_, fun h tc hparse => ?_⟩
  · have hform := (h (sliced s) (parseTraceParent_eq_ok_iff.mpr ⟨hpasses, rfl⟩)).1
    exact tidy_of_hasForm hform
  · obtain ⟨hpasses, rfl⟩ := parseTraceParent_eq_ok_iff.mp hparse
    have htidy := h hpasses
    have hback := (format_sliced_iff hpasses).mpr ⟨htidy.length, htidy.separators⟩
    exact ⟨⟨sliced s, htidy.wellFormed hpasses, hback.symm⟩, hback⟩

/-- The example of the format, with a vendor's text behind it. -/
def trailingTraceParent : Text := ascii "00-0af7651916cd43dd8448eb211c80319c-b7ad6b7169203331-01-extra"

/-- The text is accepted, and what follows the flags is lost. -/
theorem trailing_text_accepted :
    (∃ tc, parseTraceParent trailingTraceParent = .ok tc ∧
      formatTraceParent tc = ascii "00-0af7651916cd43dd8448eb211c80319c-b7ad6b7169203331-01") ∧
    ¬ReadsBack trailingTraceParent := by
  have haccepted : parseTraceParent trailingTraceParent = .ok (sliced trailingTraceParent) :=
    parseTraceParent_eq_ok_iff.mpr ⟨⟨by decide, by decide, by decide⟩, rfl⟩
  refine ⟨⟨_, haccepted, by decide⟩, fun h => ?_⟩
  have hback := (h _ haccepted).2
  revert hback
  decide

end SupplyPlatform.Tracing
