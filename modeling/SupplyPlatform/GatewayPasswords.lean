import SupplyPlatform.Kms
import SupplyPlatform.Lib.Base64

namespace SupplyPlatform.Gateway.Passwords

open Security (Bytes Gcm)

/-- An AEAD that opens under a key and a nonce only what was sealed under them. -/
structure SealingGcm extends Gcm where
  opens_sealed : ∀ key nonce ciphertext plaintext, decrypt key nonce ciphertext = .ok plaintext →
    ciphertext = encrypt key nonce plaintext

structure DatabaseConfig where
  password : Bytes
  encryptedPassword : Bytes
  deriving DecidableEq

structure RedisConfig where
  password : Bytes
  encryptedPassword : Bytes
  deriving DecidableEq

/-- The bytes of "enc:". -/
def legacyMark : Bytes := [0x65, 0x6e, 0x63, 0x3a]

/-- `aes.NewCipher` and `cipher.NewGCM`. -/
def newGCM (key : Bytes) : Except String Unit :=
  if key.length = 16 ∨ key.length = 24 ∨ key.length = 32 then .ok ()
  else .error ("crypto/aes: invalid key size " ++ toString key.length)

section

variable (g : SealingGcm) (encryptionKey : Bytes)

/-- `random` is what `rand.Read` gives. -/
def encryptPassword (random : Except String g.Nonce) (plaintext : Bytes) : Except String Bytes :=
  if plaintext = [] then .ok []
  else
    match newGCM encryptionKey with
    | .error err => .error err
    | .ok _ =>
      match random with
      | .error err => .error err
      | .ok nonce => .ok (Base64.encode (nonce.1 ++ g.encrypt encryptionKey nonce.1 plaintext))

def decryptPassword (encrypted : Bytes) : Except String Bytes :=
  if encrypted = [] then .ok []
  else if encrypted.length < 4 ∨ encrypted.take 4 ≠ legacyMark then
    match Base64.decode encrypted with
    | none => .ok encrypted
    | some ciphertext =>
      match newGCM encryptionKey with
      | .error err => .error err
      | .ok _ =>
        if ciphertext.length < g.nonceSize then .error "ciphertext too short"
        else g.decrypt encryptionKey (ciphertext.take g.nonceSize) (ciphertext.drop g.nonceSize)
  else .ok (encrypted.drop 4)

/-- The body of both `GetPassword`. -/
def readPassword (password encryptedPassword : Bytes) : Bytes :=
  if encryptedPassword ≠ [] then
    match decryptPassword g encryptionKey encryptedPassword with
    | .error _ => encryptedPassword
    | .ok decrypted => decrypted
  else password

def DatabaseConfig.getPassword (c : DatabaseConfig) : Bytes :=
  readPassword g encryptionKey c.password c.encryptedPassword

def RedisConfig.getPassword (c : RedisConfig) : Bytes :=
  readPassword g encryptionKey c.password c.encryptedPassword

/-- The text decodes to a nonce and what was sealed with it under the key. -/
def Sealed (text : Bytes) : Prop :=
  ∃ nonce plaintext, nonce.length = g.nonceSize ∧
    Base64.decode text = some (nonce ++ g.encrypt encryptionKey nonce plaintext)

/-- What is to be read back of a sealed password, of one with the mark, of another text, and of none. -/
structure ReadsPassword (getPassword : Bytes → Bytes → Bytes) : Prop where
  sealed : ∀ password random plaintext encrypted, plaintext ≠ [] →
    encryptPassword g encryptionKey random plaintext = .ok encrypted →
    getPassword password encrypted = plaintext
  legacy : ∀ password plaintext, getPassword password (legacyMark ++ plaintext) = plaintext
  other : ∀ password text, text ≠ [] → ¬legacyMark <+: text → ¬Sealed g encryptionKey text →
    getPassword password text = text
  absent : ∀ password, getPassword password [] = password

end

section

variable {g : SealingGcm} {encryptionKey : Bytes}

theorem legacy_iff {text : Bytes} :
    (text.length < 4 ∨ text.take 4 ≠ legacyMark) ↔ ¬legacyMark <+: text := by
  rw [← not_iff_not, not_not, not_or, not_not, List.prefix_iff_eq_take]
  constructor
  · rintro ⟨-, htake⟩
    exact htake.symm
  · intro htake
    refine ⟨fun hshort => ?_, htake.symm⟩
    have hlength := congrArg List.length htake
    rw [List.length_take] at hlength
    have hfour : legacyMark.length = 4 := rfl
    omega

/-- A colon is no character of the encoding. -/
theorem not_legacy_encode (bs : Bytes) : ¬legacyMark <+: Base64.encode bs := by
  rintro hstart
  have hcolon : ∀ c ∈ Base64.encode bs, c ≠ 0x3a :=
    Base64.encode_forall (by decide) (by decide) bs
  exact hcolon 0x3a (hstart.subset (by decide)) rfl

theorem encode_ne_nil {bs : Bytes} (h : bs ≠ []) : Base64.encode bs ≠ [] := by
  intro hempty
  have hdecoded := Base64.quanta_encode bs
  rw [hempty] at hdecoded
  exact h (Option.some.inj hdecoded).symm

/-- What was encrypted has the shape that the decryption takes apart. -/
theorem encryptPassword_ok {random : Except String g.Nonce} {plaintext encrypted : Bytes}
    (hne : plaintext ≠ []) (h : encryptPassword g encryptionKey random plaintext = .ok encrypted) :
    newGCM encryptionKey = .ok () ∧ ∃ nonce : g.Nonce,
      encrypted = Base64.encode (nonce.1 ++ g.encrypt encryptionKey nonce.1 plaintext) := by
  unfold encryptPassword at h
  rw [if_neg hne] at h
  cases hkey : newGCM encryptionKey with
  | error err =>
    rw [hkey] at h
    cases h
  | ok u =>
    rw [hkey] at h
    cases random with
    | error err => cases h
    | ok nonce => exact ⟨rfl, nonce, (Except.ok.inj h).symm⟩

theorem decryptPassword_sealed {text nonce plaintext : Bytes} (hne : text ≠ [])
    (hnew : ¬legacyMark <+: text) (hkey : newGCM encryptionKey = .ok ()) (hnonce : nonce.length = g.nonceSize)
    (hdecode : Base64.decode text = some (nonce ++ g.encrypt encryptionKey nonce plaintext)) :
    decryptPassword g encryptionKey text = .ok plaintext := by
  have hlong : ¬(nonce ++ g.encrypt encryptionKey nonce plaintext).length < g.nonceSize := by
    rw [List.length_append]
    omega
  unfold decryptPassword
  rw [if_neg hne, if_pos (legacy_iff.mpr hnew), hdecode]
  dsimp only
  rw [hkey]
  dsimp only
  rw [if_neg hlong, List.take_left' hnonce, List.drop_left' hnonce]
  exact g.decrypt_encrypt encryptionKey nonce plaintext

/-- Another text is handed back, or refused and then handed back by the caller. -/
theorem decryptPassword_other {text : Bytes} (hne : text ≠ []) (hnew : ¬legacyMark <+: text)
    (hother : ¬Sealed g encryptionKey text) : decryptPassword g encryptionKey text = .ok text ∨
      ∃ err, decryptPassword g encryptionKey text = .error err := by
  unfold decryptPassword
  rw [if_neg hne, if_pos (legacy_iff.mpr hnew)]
  cases hdecode : Base64.decode text with
  | none => exact .inl rfl
  | some ciphertext =>
    right
    dsimp only
    cases hkey : newGCM encryptionKey with
    | error err => exact ⟨err, rfl⟩
    | ok u =>
      dsimp only
      split
      next => exact ⟨_, rfl⟩
      next hlong =>
        cases hopen : g.decrypt encryptionKey (ciphertext.take g.nonceSize) (ciphertext.drop g.nonceSize) with
        | error err => exact ⟨err, rfl⟩
        | ok plaintext =>
          have hsealed := g.opens_sealed _ _ _ _ hopen
          refine absurd ⟨ciphertext.take g.nonceSize, plaintext, ?_, ?_⟩ hother
          · rw [List.length_take]
            omega
          · rw [← hsealed, List.take_append_drop, hdecode]

theorem readPassword_reads (g : SealingGcm) (encryptionKey : Bytes) :
    ReadsPassword g encryptionKey (readPassword g encryptionKey) where
  sealed password random plaintext encrypted hne h := by
    obtain ⟨hkey, nonce, rfl⟩ := encryptPassword_ok hne h
    have htext : Base64.encode (nonce.1 ++ g.encrypt encryptionKey nonce.1 plaintext) ≠ [] := by
      refine encode_ne_nil (fun hempty => ?_)
      have hlength := congrArg List.length hempty
      rw [List.length_append, g.length_encrypt, List.length_nil] at hlength
      omega
    have hread := decryptPassword_sealed htext (not_legacy_encode _) hkey nonce.2 (Base64.decode_encode _)
    unfold readPassword
    rw [if_pos htext, hread]
  legacy password plaintext := by
    have hmark : legacyMark ++ plaintext ≠ [] := nofun
    have hread : decryptPassword g encryptionKey (legacyMark ++ plaintext) = .ok plaintext := by
      unfold decryptPassword
      rw [if_neg hmark, if_neg (fun h => legacy_iff.mp h (List.prefix_append _ _))]
      rfl
    unfold readPassword
    rw [if_pos hmark, hread]
  other password text hne hnew hother := by
    unfold readPassword
    rw [if_pos hne]
    rcases decryptPassword_other hne hnew hother with hsame | ⟨err, herr⟩
    · rw [hsame]
    · rw [herr]
  absent password := rfl

end

/-- Both configurations read back what was encrypted, what follows the mark, and every other text that is not
sealed as it is; with no encrypted password they have the plain one. -/
theorem getPassword_reads (g : SealingGcm) (encryptionKey : Bytes) :
    ReadsPassword g encryptionKey
      (fun password encrypted => (DatabaseConfig.mk password encrypted).getPassword g encryptionKey) ∧
    ReadsPassword g encryptionKey
      (fun password encrypted => (RedisConfig.mk password encrypted).getPassword g encryptionKey) :=
  ⟨readPassword_reads g encryptionKey, readPassword_reads g encryptionKey⟩

def sampleGcm : SealingGcm where
  toGcm := Security.tagGcm.toGcm
  opens_sealed key nonce ciphertext plaintext h := by
    have h : (if ciphertext.drop (ciphertext.length - 16) = List.replicate 16 (key.headD 0) then
        Except.ok (ciphertext.take (ciphertext.length - 16))
      else Except.error "cipher: message authentication failed") = Except.ok plaintext := h
    split at h
    next htag =>
      cases h
      change ciphertext = ciphertext.take (ciphertext.length - 16) ++ List.replicate 16 (key.headD 0)
      rw [← htag, List.take_append_drop]
    next => cases h

def sampleKey : Bytes := List.replicate 32 7

/-- "p" sealed, with a line break behind it. -/
def brokenLine : Bytes :=
  Base64.encode (List.replicate 12 0 ++ sampleGcm.encrypt sampleKey (List.replicate 12 0) [0x70]) ++ [10]

/-- No encrypted password is no text that is handed back, and a line break does not keep a text from being
decrypted. -/
theorem empty_password_not_unchanged :
    (¬Sealed sampleGcm sampleKey [] ∧
      (DatabaseConfig.mk [0x70] []).getPassword sampleGcm sampleKey = [0x70]) ∧
    (∀ bs, Base64.encode bs ≠ brokenLine) ∧
      (DatabaseConfig.mk [] brokenLine).getPassword sampleGcm sampleKey = [0x70] := by
  refine ⟨⟨?_, rfl⟩, fun bs hsame => ?_, by decide⟩
  · rintro ⟨nonce, plaintext, hnonce, hdecode⟩
    have hempty : nonce ++ sampleGcm.encrypt sampleKey nonce plaintext = [] := (Option.some.inj hdecode).symm
    rw [(List.append_eq_nil_iff.mp hempty).1] at hnonce
    cases hnonce
  · have hbreak : ∀ c ∈ Base64.encode bs, c ≠ 10 := Base64.encode_forall (by decide) (by decide) bs
    exact hbreak 10 (hsame ▸ List.mem_append_right _ (List.mem_singleton.mpr rfl)) rfl

end SupplyPlatform.Gateway.Passwords
