import SupplyPlatform.Lib.Decimals
import SupplyPlatform.Lib.Strings
import SupplyPlatform.IdempotencyReplay
import SupplyPlatform.Request

namespace SupplyPlatform.Idempotency

open Relational

def parseSubjectID (subject : String) : Int :=
  match subject.toList.splitOn ':' with
  | _ :: part :: _ => (Decimals.parseInt part).1
  | _ => 0

/-- The request as `TokenVerifyMiddleware` passes it on: the tenant and the operator are in its
context. -/
def authenticated (claims : TokenClaims) (r : Request) : Request :=
  { r with tenantID := claims.tenantID, operatorID := parseSubjectID claims.subjectID }

/-- A record that `GetByKey` finds for the request or `AcquireLock` gives it. -/
def Obtains {J : Type} (t : IdempotencyTable J) (now : Time) (r : Request)
    (record : IdempotencyRecord J) : Prop :=
  ∃ key, extractIdempotencyKey r = .ok key ∧
    (getByKey t now key = .ok (some record) ∨
      (∃ ttl id t', upsert t now key ttl id = .ok (t', record)) ∨
      ∃ err, acquireExisting t now key err = .ok record)

/-- At whatever times, the requests never have a record in common. -/
def Separate (J : Type) (a b : Request) : Prop :=
  ∀ (t u : IdempotencyTable J) now later ra rb,
    Obtains t now a ra → Obtains u later b rb → ra.key ≠ rb.key

/-- The headers that `ExtractIdempotencyKey` asks for are there. -/
def Request.Accepted (r : Request) : Prop :=
  r.requestID ≠ "" ∧ 16 ≤ r.idempotencyKey.utf8ByteSize ∧ r.idempotencyKey.utf8ByteSize ≤ 128

/-- The number between the first colon of a subject and the next one; 0 stands for the lack of it. -/
def subjectNumber (subject : String) : Int :=
  Decimals.int64Of ((subject.toList.splitOn ':').getD 1 [])

/-- The paths are equal once one of them has lost the version of the API. -/
def SameApiPath (p q : String) : Prop :=
  p = q ∨ (p = "/api/v1" ++ q ∧ Strings.hasPrefix q "/api/v1" = false) ∨
    (q = "/api/v1" ++ p ∧ Strings.hasPrefix p "/api/v1" = false)

theorem parseSubjectID_eq (subject : String) : parseSubjectID subject = subjectNumber subject := by
  unfold parseSubjectID subjectNumber
  rcases subject.toList.splitOn ':' with _ | ⟨first, _ | ⟨part, rest⟩⟩
  · rfl
  · rfl
  · exact Decimals.parseInt_eq part

theorem trimApiPath_append (rest : String) : trimApiPath ("/api/v1" ++ rest) = rest := by
  have hp : "/api/v1".toList.isPrefixOf ("/api/v1" ++ rest).toList = true :=
    Strings.hasPrefix_iff.mpr ⟨rest, rfl⟩
  rw [trimApiPath, if_pos hp]
  exact String.toList_inj.mp (by simp)

theorem trimApiPath_of_not {p : String} (h : Strings.hasPrefix p "/api/v1" = false) :
    trimApiPath p = p := by
  unfold Strings.hasPrefix at h
  rw [trimApiPath, if_neg (by rw [h]; exact Bool.false_ne_true)]

theorem trimApiPath_cases (p : String) :
    p = "/api/v1" ++ trimApiPath p ∨
      (trimApiPath p = p ∧ Strings.hasPrefix p "/api/v1" = false) := by
  cases hp : Strings.hasPrefix p "/api/v1" with
  | true =>
    obtain ⟨rest, rfl⟩ := Strings.hasPrefix_iff.mp hp
    rw [trimApiPath_append]
    exact .inl rfl
  | false => exact .inr ⟨trimApiPath_of_not hp, rfl⟩

theorem trimApiPath_eq_iff {p q : String} : trimApiPath p = trimApiPath q ↔ SameApiPath p q := by
  constructor
  · intro h
    rcases trimApiPath_cases p with hp | ⟨hp, hpre⟩ <;> rcases trimApiPath_cases q with hq | ⟨hq, hqre⟩
    · exact .inl (by rw [hp, hq, h])
    · exact .inr (.inl ⟨by rw [← hq, ← h]; exact hp, hqre⟩)
    · exact .inr (.inr ⟨by rw [← hp, h]; exact hq, hpre⟩)
    · exact .inl (by rw [← hp, h, hq])
  · rintro (rfl | ⟨rfl, hq⟩ | ⟨rfl, hp⟩)
    · rfl
    · rw [trimApiPath_append, trimApiPath_of_not hq]
    · rw [trimApiPath_append, trimApiPath_of_not hp]

theorem extractIdempotencyKey_eq (r : Request) {key : IdempotencyKey} :
    extractIdempotencyKey r = .ok key ↔ r.Accepted ∧
      key = { tenantID := r.tenantID, operatorID := r.operatorID, apiPath := trimApiPath r.path,
              key := r.idempotencyKey } := by
  unfold extractIdempotencyKey Request.Accepted
  by_cases hid : r.requestID = ""
  · simp [hid]
  · by_cases hempty : r.idempotencyKey = ""
    · rw [hempty]
      simp [hid]
    · by_cases hlen : r.idempotencyKey.utf8ByteSize < 16 ∨ 128 < r.idempotencyKey.utf8ByteSize
      · rw [if_neg hid, if_neg hempty, if_pos hlen]
        constructor
        · intro h
          cases h
        · rintro ⟨⟨-, hlow, hhigh⟩, -⟩
          omega
      · rw [if_neg hid, if_neg hempty, if_neg hlen, Except.ok.injEq]
        constructor
        · rintro rfl
          exact ⟨⟨hid, by omega, by omega⟩, rfl⟩
        · rintro ⟨-, rfl⟩
          rfl

theorem getByKey_key {J : Type} {t : IdempotencyTable J} {now : Time} {key : IdempotencyKey}
    {record : IdempotencyRecord J} (h : getByKey t now key = .ok (some record)) : record.key = key := by
  unfold getByKey at h
  split at h
  next => simp at h
  next r hf =>
    have hlive := List.find?_some hf
    simp only [live, Bool.and_eq_true, decide_eq_true_eq] at hlive
    cases hcode : r.responseCode with
    | none => simp [scanRecord, scan, hcode, bind, Except.bind] at h
    | some code =>
      simp only [scanRecord, scan, hcode, bind, Except.bind, pure, Except.pure, Except.ok.injEq,
        Option.some.injEq] at h
      rw [← h]
      exact hlive.1

theorem upsert_key {J : Type} {t t' : IdempotencyTable J} {now : Time} {key : IdempotencyKey}
    {ttl id : Int} {record : IdempotencyRecord J} (h : upsert t now key ttl id = .ok (t', record)) :
    record.key = key := by
  unfold upsert at h
  split at h
  next =>
    dsimp only at h
    split at h
    next => cases Except.ok.inj h; rfl
    next => simp at h
  next =>
    split at h
    next => cases Except.ok.inj h; rfl
    next => simp at h

/-- A record that a request obtains carries the request's key. -/
theorem Obtains.key {J : Type} {t : IdempotencyTable J} {now : Time} {r : Request}
    {record : IdempotencyRecord J} (h : Obtains t now r record) :
    extractIdempotencyKey r = .ok record.key := by
  obtain ⟨key, hkey, hget | ⟨ttl, id, t', hup⟩ | ⟨err, hacq⟩⟩ := h
  · rw [getByKey_key hget]
    exact hkey
  · rw [upsert_key hup]
    exact hkey
  · unfold acquireExisting at hacq
    split at hacq
    next => simp at hacq
    next existing hget =>
      cases Except.ok.inj hacq
      rw [getByKey_key hget]
      exact hkey
    next => simp at hacq

theorem obtains_empty {J : Type} {r : Request} {key : IdempotencyKey}
    (h : extractIdempotencyKey r = .ok key) :
    ∃ record : IdempotencyRecord J, Obtains Table.empty 0 r record ∧ record.key = key :=
  ⟨lockRecord 0 key 0 1 0, ⟨key, h, .inr (.inl ⟨0, 1, _, rfl⟩)⟩, rfl⟩

theorem separate_iff (J : Type) (a b : Request) :
    Separate J a b ↔ ∀ key, extractIdempotencyKey a = .ok key → extractIdempotencyKey b ≠ .ok key := by
  constructor
  · intro h key ha hb
    obtain ⟨ra, hra, hka⟩ := obtains_empty (J := J) ha
    obtain ⟨rb, hrb, hkb⟩ := obtains_empty (J := J) hb
    exact h _ _ _ _ ra rb hra hrb (hka.trans hkb.symm)
  · intro h t u now later ra rb hra hrb heq
    refine h ra.key hra.key ?_
    rw [heq]
    exact hrb.key

/-- Requests of different callers, or to different paths, have no record in common. -/
def KeptApart (J : Type) (x y : TokenClaims) (a b : Request) : Prop :=
  a.idempotencyKey = b.idempotencyKey →
    x.tenantID ≠ y.tenantID ∨ x.subjectID ≠ y.subjectID ∨ a.path ≠ b.path →
      Separate J (authenticated x a) (authenticated y b)

/-- It is the number in the subject that tells callers apart, and the path without its version. -/
theorem callers_kept_apart_iff (J : Type) (x y : TokenClaims) (a b : Request) :
    KeptApart J x y a b ↔
      (a.Accepted → b.Accepted → a.idempotencyKey = b.idempotencyKey →
        x.tenantID ≠ y.tenantID ∨ x.subjectID ≠ y.subjectID ∨ a.path ≠ b.path →
          x.tenantID ≠ y.tenantID ∨ subjectNumber x.subjectID ≠ subjectNumber y.subjectID ∨
            ¬SameApiPath a.path b.path) := by
  have hkeys : ∀ key, extractIdempotencyKey (authenticated x a) = .ok key ↔ a.Accepted ∧
      key = ⟨x.tenantID, subjectNumber x.subjectID, trimApiPath a.path, a.idempotencyKey⟩ := by
    intro key
    rw [extractIdempotencyKey_eq, ← parseSubjectID_eq]
    rfl
  have hkeys' : ∀ key, extractIdempotencyKey (authenticated y b) = .ok key ↔ b.Accepted ∧
      key = ⟨y.tenantID, subjectNumber y.subjectID, trimApiPath b.path, b.idempotencyKey⟩ := by
    intro key
    rw [extractIdempotencyKey_eq, ← parseSubjectID_eq]
    rfl
  unfold KeptApart
  rw [separate_iff]
  constructor
  · intro h ha hb hkey hdiff
    by_contra hnone
    push Not at hnone
    obtain ⟨htenant, hnumber, hpath⟩ := hnone
    refine h hkey hdiff _ ((hkeys _).mpr ⟨ha, rfl⟩) ((hkeys' _).mpr ⟨hb, ?_⟩)
    rw [htenant, hnumber, trimApiPath_eq_iff.mpr hpath, hkey]
  · intro h hkey hdiff key hka hkb
    obtain ⟨ha, rfl⟩ := (hkeys key).mp hka
    obtain ⟨hb, heq⟩ := (hkeys' _).mp hkb
    obtain ⟨htenant, hnumber, hpath, -⟩ := IdempotencyKey.mk.inj heq
    rcases h ha hb hkey hdiff with hne | hne | hne
    · exact hne htenant
    · exact hne hnumber
    · exact hne (trimApiPath_eq_iff.mp hpath)

theorem subjects_share_record :
    ¬KeptApart String ⟨"token-1", "42", 7⟩ ⟨"token-2", "43", 7⟩ sampleRequest sampleRequest := by
  intro h
  have hsep := (separate_iff _ _ _).mp (h rfl (.inr (.inl (by decide))))
  exact hsep ⟨7, 0, "/supply/settlements/withdraw", "withdraw-2026-001"⟩ rfl rfl

end SupplyPlatform.Idempotency
