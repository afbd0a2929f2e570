import SupplyPlatform.Lib.BigEndian

namespace SupplyPlatform.Security

open BigEndian

abbrev Bytes := List UInt8

inductive KmsError
  | keyVersion (expectedVersion actualVersion : Int)
  | decryption (reason : String)
  | message (text : String)
  deriving DecidableEq

/-- How a call ends. -/
inductive Outcome (α : Type)
  | ok (value : α)
  | error (err : KmsError)
  | panic
  deriving DecidableEq

def Outcome.bind {α β : Type} (x : Outcome α) (f : α → Outcome β) : Outcome β :=
  match x with
  | .ok value => f value
  | .error err => .error err
  | .panic => .panic

instance : Monad Outcome where
  pure := .ok
  bind := Outcome.bind

/-- `bs[lo:hi]`. -/
def slice (bs : Bytes) (lo hi : Nat) : Outcome Bytes :=
  if lo ≤ hi ∧ hi ≤ bs.length then .ok ((bs.drop lo).take (hi - lo)) else .panic

/-- `binary.BigEndian.Uint32`. -/
def readUint32 (bs : Bytes) : Outcome Nat :=
  match uint32 bs with
  | some v => .ok v
  | none => .panic

/-- AES-GCM of the standard library, as a correct AEAD. -/
structure Gcm where
  nonceSize : Nat
  encrypt : Bytes → Bytes → Bytes → Bytes
  decrypt : Bytes → Bytes → Bytes → Except String Bytes
  nonceSize_eq : nonceSize = 12
  length_encrypt : ∀ key nonce plaintext, (encrypt key nonce plaintext).length = plaintext.length + 16
  decrypt_encrypt : ∀ key nonce plaintext,
    decrypt key nonce (encrypt key nonce plaintext) = .ok plaintext

namespace Gcm

/-- A nonce that `io.ReadFull` has filled. -/
def Nonce (g : Gcm) : Type := { bytes : Bytes // bytes.length = g.nonceSize }

/-- `Seal` panics on a nonce of another length. -/
def sealed (g : Gcm) (key nonce plaintext : Bytes) : Outcome Bytes :=
  if nonce.length = g.nonceSize then .ok (g.encrypt key nonce plaintext) else .panic

/-- `Open`, with its error as `Decrypt` reports it. -/
def opened (g : Gcm) (key nonce ciphertext : Bytes) : Outcome Bytes :=
  if nonce.length = g.nonceSize then
    match g.decrypt key nonce ciphertext with
    | .ok plaintext => .ok plaintext
    | .error reason => .error (.decryption reason)
  else .panic

end Gcm

/-- The bytes of a key do not depend on its id. -/
def deriveDEK (_keyID : String) (version : Int) : Bytes :=
  (List.range 32).map (fun (i : Nat) => UInt8.ofInt (((i : Int) + version).tmod 256))

/-- `aes.NewCipher` knows three sizes of keys, and `cipher.NewGCM` takes every AES cipher. -/
def createGCM (key : Bytes) : Outcome Unit :=
  if key.length = 16 ∨ key.length = 24 ∨ key.length = 32 then .ok ()
  else .error (.message ("failed to create AES cipher: crypto/aes: invalid key size " ++
    toString key.length))

structure KMSService where
  keyID : String
  keyVersion : Int
  deriving DecidableEq

def defaultKMSConfig : KMSService := ⟨"kms/supply/default", 1⟩

namespace KMSService

def getDEKForVersion (s : KMSService) (version : Int) : Outcome Bytes :=
  if version = s.keyVersion then .ok (deriveDEK s.keyID version)
  else if version < s.keyVersion ∧ 0 < version then .ok (deriveDEK s.keyID version)
  else .error (.keyVersion s.keyVersion version)

/-- `Encrypt`, with what the random reader gives. -/
def encrypt (g : Gcm) (s : KMSService) (random : Except String g.Nonce) (plaintext : Bytes) :
    Outcome Bytes := do
  let dek ← s.getDEKForVersion s.keyVersion
  createGCM dek
  match random with
  | .error cause => .error (.message ("failed to generate nonce: " ++ cause))
  | .ok nonce =>
    let ciphertext ← g.sealed dek nonce.1 plaintext
    return putUint32 (s.keyVersion % 2 ^ 32).toNat ++ nonce.1 ++ ciphertext

def decrypt (g : Gcm) (s : KMSService) (encryptedData : Bytes) : Outcome Bytes :=
  if encryptedData.length < 4 + 12 + 16 then .error (.decryption "data too short")
  else do
    let header ← slice encryptedData 0 4
    let keyVersion ← readUint32 header
    let nonce ← slice encryptedData 4 (4 + 12)
    let ciphertext ← slice encryptedData (4 + 12) encryptedData.length
    let dek ← s.getDEKForVersion keyVersion
    createGCM dek
    g.opened dek nonce ciphertext

/-- `RotateKey`, and the id it makes of the one it is given. -/
def rotateKey (s : KMSService) (keyID : String) : KMSService × String :=
  ({ s with keyVersion := s.keyVersion + 1 }, keyID ++ "-v" ++ toString (s.keyVersion + 1))

variable {g : Gcm} {s : KMSService} {version : Int}

theorem slice_append (before part after : Bytes) {lo hi : Nat} (hlo : before.length = lo)
    (hhi : lo + part.length = hi) : slice (before ++ part ++ after) lo hi = .ok part := by
  have hlen : hi ≤ (before ++ part ++ after).length := by
    simp only [List.length_append]
    omega
  unfold slice
  rw [if_pos ⟨by omega, hlen⟩, List.append_assoc, List.drop_left' hlo, List.take_left' (by omega)]

theorem bind_ok {α β : Type} (value : α) (f : α → Outcome β) : (Outcome.ok value >>= f) = f value := rfl

theorem bind_error {α β : Type} (err : KmsError) (f : α → Outcome β) :
    (Outcome.error err >>= f) = Outcome.error err := rfl

theorem createGCM_deriveDEK (keyID : String) (version : Int) :
    createGCM (deriveDEK keyID version) = .ok () := by
  have hlen : (deriveDEK keyID version).length = 32 := by simp [deriveDEK]
  exact if_pos (.inr (.inr hlen))

theorem getDEKForVersion_ok (hpos : 0 < version) (hle : version ≤ s.keyVersion) :
    s.getDEKForVersion version = .ok (deriveDEK s.keyID version) := by
  unfold getDEKForVersion
  split
  · rfl
  next hne => rw [if_pos ⟨by omega, hpos⟩]

/-- What `Decrypt` does with data that has the layout of `Encrypt`. -/
theorem decrypt_layout {v : Nat} {nonce ciphertext : Bytes} (hv : v < 2 ^ 32)
    (hn : nonce.length = 12) (hc : 16 ≤ ciphertext.length) (hpos : 0 < v) (hle : v ≤ s.keyVersion) :
    s.decrypt g (putUint32 v ++ nonce ++ ciphertext) =
      g.opened (deriveDEK s.keyID v) nonce ciphertext := by
  have hlong : ¬ (putUint32 v ++ nonce ++ ciphertext).length < 4 + 12 + 16 := by
    simp only [List.length_append, length_putUint32]
    omega
  have header : slice (putUint32 v ++ nonce ++ ciphertext) 0 4 = .ok (putUint32 v) := by
    have := slice_append [] (putUint32 v) (nonce ++ ciphertext) rfl (Nat.zero_add 4)
    rwa [List.nil_append, ← List.append_assoc] at this
  have middle : slice (putUint32 v ++ nonce ++ ciphertext) 4 (4 + 12) = .ok nonce :=
    slice_append _ _ _ (length_putUint32 v) (by omega)
  have tail : slice (putUint32 v ++ nonce ++ ciphertext) (4 + 12)
      (putUint32 v ++ nonce ++ ciphertext).length = .ok ciphertext := by
    have hlen : (putUint32 v ++ nonce).length = 4 + 12 := by simp [hn]
    have := slice_append (putUint32 v ++ nonce) ciphertext [] hlen rfl
    rwa [List.append_nil, ← hlen, ← List.length_append, hlen] at this
  have version : readUint32 (putUint32 v) = .ok v := by
    have := uint32_putUint32 hv []
    rw [List.append_nil] at this
    rw [readUint32, this]
  unfold decrypt
  rw [if_neg hlong, header, bind_ok, version, bind_ok, middle, bind_ok, tail, bind_ok,
    getDEKForVersion_ok (by omega) hle, bind_ok, createGCM_deriveDEK, bind_ok]

theorem encrypt_ok (nonce : g.Nonce) (plaintext : Bytes) :
    s.encrypt g (.ok nonce) plaintext = .ok (putUint32 (s.keyVersion % 2 ^ 32).toNat ++ nonce.1 ++
      g.encrypt (deriveDEK s.keyID s.keyVersion) nonce.1 plaintext) := by
  have dek : s.getDEKForVersion s.keyVersion = .ok (deriveDEK s.keyID s.keyVersion) := if_pos rfl
  have sealed : g.sealed (deriveDEK s.keyID s.keyVersion) nonce.1 plaintext =
      .ok (g.encrypt (deriveDEK s.keyID s.keyVersion) nonce.1 plaintext) := if_pos nonce.2
  unfold encrypt
  rw [dek, bind_ok, createGCM_deriveDEK, bind_ok]
  dsimp only
  rw [sealed, bind_ok]
  rfl

/-- The version that data says it was encrypted with. -/
def versionField (encryptedData : Bytes) : Nat := (uint32 encryptedData).getD 0

theorem decrypt_refused {data : Bytes} (hv : 1 ≤ s.keyVersion)
    (h : data.length < 32 ∨ versionField data = 0 ∨ s.keyVersion < versionField data) :
    ∃ err, s.decrypt g data = .error err := by
  by_cases hshort : data.length < 4 + 12 + 16
  · exact ⟨_, if_pos hshort⟩
  obtain ⟨v, hread⟩ := uint32_isSome (show 4 ≤ data.length by omega)
  have field : versionField data = v := by rw [versionField, hread]; rfl
  have header : slice data 0 4 = .ok (data.take 4) := if_pos (by omega)
  have version : readUint32 (data.take 4) = .ok v := by rw [readUint32, uint32_take, hread]
  have middle : slice data 4 (4 + 12) = .ok _ := if_pos (by omega)
  have tail : slice data (4 + 12) data.length = .ok _ := if_pos (by omega)
  have refused : s.getDEKForVersion v = .error (.keyVersion s.keyVersion v) := by
    unfold getDEKForVersion
    rw [if_neg (by omega), if_neg (by omega)]
  refine ⟨.keyVersion s.keyVersion v, ?_⟩
  unfold decrypt
  rw [if_neg hshort, header, bind_ok, version, bind_ok, middle, bind_ok, tail, bind_ok, refused,
    bind_error]

/-- The service after one `RotateKey` for each of `keyIDs`. -/
def rotateAll (s : KMSService) (keyIDs : List String) : KMSService :=
  keyIDs.foldl (fun s keyID => (s.rotateKey keyID).1) s

theorem rotateAll_eq (s : KMSService) (keyIDs : List String) :
    s.rotateAll keyIDs = { s with keyVersion := s.keyVersion + keyIDs.length } := by
  induction keyIDs generalizing s with
  | nil => simp [rotateAll]
  | cons keyID keyIDs ih =>
    have step : s.rotateAll (keyID :: keyIDs) = (s.rotateKey keyID).1.rotateAll keyIDs := rfl
    rw [step, ih, rotateKey]
    simp only [List.length_cons, KMSService.mk.injEq, true_and]
    omega

theorem opened_encrypt {key : Bytes} (nonce : g.Nonce) (plaintext : Bytes) :
    g.opened key nonce.1 (g.encrypt key nonce.1 plaintext) = .ok plaintext := by
  unfold Gcm.opened
  rw [if_pos nonce.2, g.decrypt_encrypt]

end KMSService

open KMSService

theorem decrypt_encrypt_rotated (g : Gcm) (s : KMSService) (keyIDs : List String) (nonce : g.Nonce)
    (plaintext : Bytes) (hv : 1 ≤ s.keyVersion) (hb : s.keyVersion + keyIDs.length < 2 ^ 32) :
    (∃ data, s.encrypt g (.ok nonce) plaintext = .ok data ∧
      (s.rotateAll keyIDs).decrypt g data = .ok plaintext) ∧
    ∀ data : Bytes, data.length < 32 ∨ versionField data = 0 ∨
        (s.rotateAll keyIDs).keyVersion < versionField data →
      ∃ err, (s.rotateAll keyIDs).decrypt g data = .error err := by
  rw [rotateAll_eq]
  constructor
  · refine ⟨_, encrypt_ok nonce plaintext, ?_⟩
    have hcast : (((s.keyVersion % 2 ^ 32).toNat : Nat) : Int) = s.keyVersion := by omega
    rw [decrypt_layout (by omega) (nonce.2.trans g.nonceSize_eq) (by rw [g.length_encrypt]; omega)
      (by omega) (by rw [hcast]; exact Int.le_add_of_nonneg_right (Int.natCast_nonneg _)), hcast]
    exact opened_encrypt nonce plaintext
  · intro data h
    exact decrypt_refused (by simp only; omega) h

theorem ofInt_tmod_eq_iff {x y : Int} :
    UInt8.ofInt (x.tmod 256) = UInt8.ofInt (y.tmod 256) ↔ x % 256 = y % 256 := by
  have byte : ∀ z : Int, (UInt8.ofInt (z.tmod 256)).toNat = (z % 256).toNat := by
    intro z
    have same : z.tmod 256 % 256 = z % 256 := by
      rw [Int.tmod_eq_emod]
      split <;> simp
    rw [UInt8.ofInt, UInt8.toNat_ofNat', show (2 : Int) ^ 8 = 256 by decide, same]
    omega
  rw [← UInt8.toNat_inj, byte, byte]
  omega

theorem deriveDEK_eq_iff {keyID keyID' : String} {v v' : Int} :
    deriveDEK keyID v = deriveDEK keyID' v' ↔ v % 256 = v' % 256 := by
  constructor
  · intro h
    have first := congrArg List.head? h
    simp only [deriveDEK, List.head?_map, List.head?_range, Option.map_some, Option.some.injEq,
      Nat.reduceEqDiff, if_false, ofInt_tmod_eq_iff] at first
    omega
  · intro h
    refine List.map_congr_left (fun i _ => ofInt_tmod_eq_iff.mpr ?_)
    omega

/-- An AEAD that opens under no key of the service but the one it was sealed with. -/
structure SeparatingGcm extends Gcm where
  rejects : ∀ keyID v keyID' v' nonce plaintext, deriveDEK keyID v ≠ deriveDEK keyID' v' →
    ∃ reason, decrypt (deriveDEK keyID' v') nonce (encrypt (deriveDEK keyID v) nonce plaintext) =
      .error reason

/-- Encrypted data with another version in its version field. -/
def withVersion (v : Nat) (encryptedData : Bytes) : Bytes := putUint32 v ++ encryptedData.drop 4

/-- Data that `s` encrypts is not decrypted by `s'` as data of its version `v'`, if that is another
key. -/
def KeysSeparated (g : SeparatingGcm) (s s' : KMSService) (v' : Nat) (nonce : g.Nonce)
    (plaintext : Bytes) : Prop :=
  (s.keyID, s.keyVersion) ≠ (s'.keyID, (v' : Int)) →
    ∀ data, s.encrypt g.toGcm (.ok nonce) plaintext = .ok data →
      ∃ err, s'.decrypt g.toGcm (withVersion v' data) = .error err

theorem decrypt_withVersion {g : SeparatingGcm} {s s' : KMSService} {v' : Nat} {nonce : g.Nonce}
    {plaintext data : Bytes} (hv : v' < 2 ^ 32) (hpos : 0 < v') (hle : v' ≤ s'.keyVersion)
    (h : s.encrypt g.toGcm (.ok nonce) plaintext = .ok data) :
    s'.decrypt g.toGcm (withVersion v' data) = g.opened (deriveDEK s'.keyID v') nonce.1
      (g.encrypt (deriveDEK s.keyID s.keyVersion) nonce.1 plaintext) := by
  rw [encrypt_ok] at h
  cases h
  rw [withVersion, List.append_assoc, List.drop_left' (length_putUint32 _), ← List.append_assoc]
  exact decrypt_layout hv (nonce.2.trans g.nonceSize_eq) (by rw [g.length_encrypt]; omega) hpos hle

theorem keysSeparated_iff (g : SeparatingGcm) (s s' : KMSService) (v' : Nat) (nonce : g.Nonce)
    (plaintext : Bytes) (hv : v' < 2 ^ 32) (hpos : 0 < v') (hle : v' ≤ s'.keyVersion) :
    KeysSeparated g s s' v' nonce plaintext ↔
      (s.keyID = s'.keyID ∧ s.keyVersion = v') ∨ s.keyVersion % 256 ≠ v' % 256 := by
  have opens := decrypt_withVersion hv hpos hle (encrypt_ok (s := s) nonce plaintext)
  constructor
  · intro h
    by_cases hkeys : (s.keyID, s.keyVersion) = (s'.keyID, (v' : Int))
    · exact .inl (Prod.mk.inj hkeys)
    · obtain ⟨err, herr⟩ := h hkeys _ (encrypt_ok nonce plaintext)
      refine .inr (fun hmod => ?_)
      rw [opens, deriveDEK_eq_iff.mpr hmod, opened_encrypt] at herr
      cases herr
  · intro h hkeys data hdata
    have hmod := h.resolve_left (fun hsame => hkeys (Prod.ext hsame.1 hsame.2))
    obtain ⟨reason, hreason⟩ := g.rejects s.keyID s.keyVersion s'.keyID v' nonce.1 plaintext
      (fun heq => hmod (deriveDEK_eq_iff.mp heq))
    rw [decrypt_withVersion hv hpos hle hdata]
    refine ⟨.decryption reason, ?_⟩
    unfold Gcm.opened
    rw [if_pos nonce.2, hreason]

/-- The first byte of the key, 16 times, as the tag. -/
def tagGcm : SeparatingGcm where
  nonceSize := 12
  encrypt key _ plaintext := plaintext ++ List.replicate 16 (key.headD 0)
  decrypt key _ ciphertext :=
    if ciphertext.drop (ciphertext.length - 16) = List.replicate 16 (key.headD 0) then
      .ok (ciphertext.take (ciphertext.length - 16))
    else .error "cipher: message authentication failed"
  nonceSize_eq := rfl
  length_encrypt _ _ _ := by simp
  decrypt_encrypt _ _ _ := by simp
  rejects keyID v keyID' v' _ plaintext hne := by
    have head : ∀ keyID v, (deriveDEK keyID v).headD 0 = UInt8.ofInt ((0 + v).tmod 256) :=
      fun _ _ => rfl
    refine ⟨_, if_neg ?_⟩
    rw [head, head]
    intro h
    simp only [List.length_append, List.length_replicate, Nat.add_sub_cancel, List.drop_left'] at h
    have same := (List.replicate_inj.mp h).2.resolve_left (by decide)
    rw [ofInt_tmod_eq_iff, Int.zero_add, Int.zero_add] at same
    exact hne (deriveDEK_eq_iff.mpr same)

def sampleNonce : tagGcm.Nonce := ⟨List.replicate 12 7, rfl⟩

theorem decrypt_encrypt_rotated_twice :
    ∃ data, defaultKMSConfig.encrypt tagGcm.toGcm (.ok sampleNonce) [1, 2, 3] = .ok data ∧
      (defaultKMSConfig.rotateAll ["k", "k"]).decrypt tagGcm.toGcm data = .ok [1, 2, 3] :=
  (decrypt_encrypt_rotated tagGcm.toGcm defaultKMSConfig ["k", "k"] sampleNonce [1, 2, 3]
    (by decide) (by decide)).1

theorem keysSeparated_next_version :
    KeysSeparated tagGcm defaultKMSConfig ⟨"kms/supply/default", 2⟩ 2 sampleNonce [1, 2, 3] :=
  (keysSeparated_iff tagGcm defaultKMSConfig ⟨"kms/supply/default", 2⟩ 2 sampleNonce [1, 2, 3]
    (by decide) (by decide) (by decide)).mpr (.inr (by decide))

/-- Another key id decrypts the data, and so does the version 256 later. -/
theorem keys_not_separated :
    ¬ KeysSeparated tagGcm defaultKMSConfig ⟨"kms/other", 1⟩ 1 sampleNonce [1, 2, 3] ∧
      ¬ KeysSeparated tagGcm defaultKMSConfig ⟨"kms/supply/default", 257⟩ 257 sampleNonce [1, 2, 3] := by
  have opened : ∀ s' ∈ [(⟨"kms/other", 1⟩ : KMSService), ⟨"kms/supply/default", 257⟩],
      s'.decrypt tagGcm.toGcm (withVersion s'.keyVersion.toNat (putUint32 1 ++ sampleNonce.1 ++
        tagGcm.encrypt (deriveDEK "kms/supply/default" 1) sampleNonce.1 [1, 2, 3])) =
          .ok [1, 2, 3] := by
    decide
  constructor
  · intro h
    obtain ⟨err, herr⟩ := h (by decide) _ rfl
    have := (opened ⟨"kms/other", 1⟩ (by simp)).symm.trans herr
    cases this
  · intro h
    obtain ⟨err, herr⟩ := h (by decide) _ rfl
    have := (opened ⟨"kms/supply/default", 257⟩ (by simp)).symm.trans herr
    cases this

end SupplyPlatform.Security
