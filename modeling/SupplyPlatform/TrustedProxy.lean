import SupplyPlatform.Lib.Ipv4
import SupplyPlatform.Lib.Strings
import SupplyPlatform.Request

namespace SupplyPlatform.TrustedProxy

open Ipv4 (Addr Network decimal)
open Strings (hasPrefix trimSpace firstPart)

/-- A request as `getClientIP` reads it; a header that is absent is empty. -/
structure ProxiedRequest where
  remoteAddr : String
  xForwardedFor : String
  xRealIP : String
  deriving DecidableEq

/-- What stands before the last colon and after it. -/
def cutLastColon (s : String) : Option (String × String) :=
  match s.toList.reverse.dropWhile (fun c => c ≠ ':') with
  | [] => none
  | _ :: before =>
    some (String.ofList before.reverse,
      String.ofList (s.toList.reverse.takeWhile (fun c => c ≠ ':')).reverse)

def extractIPFromAddr (addr : String) : String :=
  match cutLastColon addr with
  | none => addr
  | some (host, _) => host

def containsCIDR (ip cidr : String) : Bool :=
  if hasPrefix cidr "10." then hasPrefix ip "10."
  else if hasPrefix cidr "172." then hasPrefix ip "172."
  else if hasPrefix cidr "192.168." then hasPrefix ip "192.168."
  else ip = cidr

def isTrustedProxy (remoteAddr : String) (trustedProxies : List String) : Bool :=
  if trustedProxies.length = 0 then false
  else trustedProxies.any (containsCIDR (extractIPFromAddr remoteAddr))

def cleanIP (ip : String) : String :=
  match cutLastColon ip with
  | none => trimSpace ip
  | some (host, port) => if port.toList.all Char.isDigit then trimSpace host else trimSpace ip

def getClientIP (r : ProxiedRequest) (trustedProxies : List String) : String :=
  if isTrustedProxy r.remoteAddr trustedProxies then
    if r.xForwardedFor ≠ "" then cleanIP (trimSpace (firstPart r.xForwardedFor ','))
    else if r.xRealIP ≠ "" then cleanIP r.xRealIP
    else extractIPFromAddr r.remoteAddr
  else extractIPFromAddr r.remoteAddr

/-- Without trusted proxies it is what every middleware calls. -/
theorem getClientIP_nil (r : ProxiedRequest) (request : HttpRequest)
    (h : request.remoteAddr = r.remoteAddr) : getClientIP r [] = SupplyPlatform.getClientIP request := by
  change extractIPFromAddr r.remoteAddr = _
  unfold extractIPFromAddr cutLastColon SupplyPlatform.getClientIP
  rw [h]
  cases r.remoteAddr.toList.reverse.dropWhile (fun c => c ≠ ':') with
  | nil => rfl
  | cons c before => rfl

def LiesIn (ip : String) (entries : List Network) : Prop :=
  ∃ a : Addr, ip = a.text ∧ ∃ e ∈ entries, e.Contains a

/-- The start that the text of an address is compared by, if it is not compared whole. -/
def privateStart (x : Addr) : Option String :=
  if x.a = 10 then some "10."
  else if x.a = 172 then some "172."
  else if x.a = 192 ∧ x.b = 168 then some "192.168."
  else none

theorem base_chars_text (e : Network) : ∃ rest, e.text.toList = e.base.chars ++ rest := by
  cases e with
  | address x => exact ⟨[], by simp [Network.text, Network.base, Addr.text]⟩
  | cidr x bits => exact ⟨'/' :: decimal bits, by simp [Network.text, Network.base, Addr.text]⟩

theorem hasPrefix_starts {s : String} {x : Addr} {rest : List Char} (hs : s.toList = x.chars ++ rest) :
    (hasPrefix s "10." = true ↔ x.a = 10) ∧ (hasPrefix s "172." = true ↔ x.a = 172) ∧
      (hasPrefix s "192.168." = true ↔ x.a = 192 ∧ x.b = 168) := by
  unfold hasPrefix
  rw [hs, Addr.chars, List.append_assoc, List.cons_append, List.append_assoc, Fin.ext_iff, Fin.ext_iff,
    Fin.ext_iff, Fin.ext_iff]
  exact ⟨Ipv4.octet_isPrefix_iff 10, Ipv4.octet_isPrefix_iff 172, Ipv4.two_octets_isPrefix_iff 192 168⟩

/-- An entry is compared by the start of its base, and whole where the base has none. -/
theorem containsCIDR_entry (ip : String) (e : Network) :
    containsCIDR ip e.text = true ↔
      (∃ start, privateStart e.base = some start ∧ hasPrefix ip start = true) ∨
        privateStart e.base = none ∧ ip = e.text := by
  obtain ⟨rest, hrest⟩ := base_chars_text e
  obtain ⟨hten, h172, h192⟩ := hasPrefix_starts hrest
  unfold containsCIDR privateStart
  by_cases ha : e.base.a = 10
  · simp [hten.mpr ha, ha]
  · rw [if_neg (hten.not.mpr ha), if_neg ha]
    by_cases hb : e.base.a = 172
    · simp [h172.mpr hb, hb]
    · rw [if_neg (h172.not.mpr hb), if_neg hb]
      by_cases hc : e.base.a = 192 ∧ e.base.b = 168
      · simp [h192.mpr hc, hc]
      · rw [if_neg (h192.not.mpr hc), if_neg hc]
        simp

/-- Both addresses have the start of one private network. -/
def SameBlock (x y : Addr) : Prop := (privateStart x).isSome ∧ privateStart y = privateStart x

instance (x y : Addr) : Decidable (SameBlock x y) := inferInstanceAs (Decidable (_ ∧ _))

theorem hasPrefix_privateStart {s : String} {x y : Addr} {rest : List Char} (hs : s.toList = y.chars ++ rest)
    {start : String} (hx : privateStart x = some start) :
    hasPrefix s start = true ↔ privateStart y = some start := by
  obtain ⟨hten, h172, h192⟩ := hasPrefix_starts hs
  have hstart : start = "10." ∨ start = "172." ∨ start = "192.168." := by
    unfold privateStart at hx
    split_ifs at hx <;> simp_all
  unfold privateStart
  rcases hstart with rfl | rfl | rfl
  · rw [hten]
    split_ifs <;> simp_all
  · rw [h172]
    split_ifs <;> simp_all
  · rw [h192]
    split_ifs <;> simp_all

theorem addr_chars_text (a : Addr) : a.text.toList = a.chars ++ [] := by simp [Addr.text]

theorem text_eq_entry (a : Addr) (e : Network) : a.text = e.text ↔ e = .address a := by
  cases e with
  | address x =>
    change a.text = x.text ↔ _
    rw [Addr.text_inj, Network.address.injEq, eq_comm]
  | cidr x bits => exact ⟨fun h => absurd h (Ipv4.Network.cidr_text_ne a x bits), fun h => by cases h⟩

/-- What the comparison of texts amounts to, between an address and an entry. -/
theorem containsCIDR_addr (a : Addr) (e : Network) :
    containsCIDR a.text e.text = true ↔ SameBlock e.base a ∨ e = .address a := by
  rw [containsCIDR_entry, text_eq_entry]
  constructor
  · rintro (⟨start, hstart, hstarts⟩ | ⟨-, he⟩)
    · refine .inl ⟨by rw [hstart]; rfl, ?_⟩
      rw [(hasPrefix_privateStart (addr_chars_text a) hstart).mp hstarts, hstart]
    · exact .inr he
  · rintro (⟨hsome, hsame⟩ | he)
    · obtain ⟨start, hstart⟩ := Option.isSome_iff_exists.mp hsome
      exact .inl ⟨start, hstart, (hasPrefix_privateStart (addr_chars_text a) hstart).mpr (hsame.trans hstart)⟩
    · cases hstart : privateStart e.base with
      | none => exact .inr ⟨rfl, he⟩
      | some start =>
        refine .inl ⟨start, rfl, (hasPrefix_privateStart (addr_chars_text a) hstart).mpr ?_⟩
        rw [he] at hstart
        exact hstart

theorem containsCIDR_false_iff (ip : String) (e : Network) :
    containsCIDR ip e.text = false ↔
      ip ≠ e.text ∧ ∀ start, privateStart e.base = some start → hasPrefix ip start = false := by
  obtain ⟨rest, hrest⟩ := base_chars_text e
  rw [← Bool.not_eq_true, containsCIDR_entry, not_or]
  constructor
  · rintro ⟨hstarts, hwhole⟩
    have hnone : ∀ start, privateStart e.base = some start → hasPrefix ip start = false :=
      fun start hstart => Bool.eq_false_iff.mpr fun h => hstarts ⟨start, hstart, h⟩
    refine ⟨?_, hnone⟩
    rintro rfl
    cases hstart : privateStart e.base with
    | none => exact hwhole ⟨hstart, rfl⟩
    | some start =>
      have hstarts := (hasPrefix_privateStart hrest hstart).mpr hstart
      exact absurd (hnone start hstart) (by rw [hstarts]; decide)
  · rintro ⟨hne, hnone⟩
    refine ⟨?_, fun h => hne h.2⟩
    rintro ⟨start, hstart, hstarts⟩
    rw [hnone start hstart] at hstarts
    cases hstarts

theorem isTrustedProxy_iff (remoteAddr : String) (entries : List Network) :
    isTrustedProxy remoteAddr (entries.map Network.text) = true ↔
      ∃ e ∈ entries, containsCIDR (extractIPFromAddr remoteAddr) e.text = true := by
  unfold isTrustedProxy
  cases entries with
  | nil => simp
  | cons e entries =>
    rw [if_neg (by simp), List.any_map, List.any_eq_true]
    rfl

/-- Proxies are trusted for what they are, and nobody else's headers are read. -/
structure TrustsProxies (r : ProxiedRequest) (entries : List Network) : Prop where
  trusted : isTrustedProxy r.remoteAddr (entries.map Network.text) = true ↔
    LiesIn (extractIPFromAddr r.remoteAddr) entries
  headers : ¬LiesIn (extractIPFromAddr r.remoteAddr) entries → ∀ xForwardedFor xRealIP,
    getClientIP ⟨r.remoteAddr, xForwardedFor, xRealIP⟩ (entries.map Network.text) =
      extractIPFromAddr r.remoteAddr

/-- Comparing texts tells whether a remote IP lies in the networks. -/
structure Comparable (ip : String) (entries : List Network) : Prop where
  /-- No address of an entry's private network is outside of all entries. -/
  wide : ∀ a : Addr, ip = a.text → ∀ e ∈ entries, SameBlock e.base a → ∃ e' ∈ entries, e'.Contains a
  /-- No address lies in an entry only, and not in a private network of one, unless it is an entry itself. -/
  narrow : ∀ a : Addr, ip = a.text → ∀ e ∈ entries, e.Contains a →
    (∃ e' ∈ entries, SameBlock e'.base a) ∨ .address a ∈ entries
  /-- What is no address has no start of an entry's private network, and is no entry's text. -/
  other : (∀ a : Addr, ip ≠ a.text) → ∀ e ∈ entries, ip ≠ e.text ∧
    ∀ start, privateStart e.base = some start → hasPrefix ip start = false

theorem getClientIP_untrusted {remoteAddr : String} {trustedProxies : List String}
    (h : isTrustedProxy remoteAddr trustedProxies = false) (xForwardedFor xRealIP : String) :
    getClientIP ⟨remoteAddr, xForwardedFor, xRealIP⟩ trustedProxies = extractIPFromAddr remoteAddr := by
  unfold getClientIP
  rw [h]
  rfl

/-- Whom the middleware takes for a proxy, among the addresses. -/
theorem trusted_addr_iff (a : Addr) (entries : List Network) :
    (∃ e ∈ entries, containsCIDR a.text e.text = true) ↔
      (∃ e ∈ entries, SameBlock e.base a) ∨ .address a ∈ entries := by
  simp only [containsCIDR_addr, and_or_left, exists_or, exists_eq_right]

theorem trusts_proxies_iff (r : ProxiedRequest) (entries : List Network) :
    TrustsProxies r entries ↔ Comparable (extractIPFromAddr r.remoteAddr) entries := by
  have htrusted := isTrustedProxy_iff r.remoteAddr entries
  have hlies : ∀ a : Addr, extractIPFromAddr r.remoteAddr = a.text →
      (LiesIn (extractIPFromAddr r.remoteAddr) entries ↔ ∃ e ∈ entries, e.Contains a) := by
    intro a ha
    rw [ha]
    constructor
    · rintro ⟨b, hb, hin⟩
      rwa [Ipv4.Addr.text_inj.mp hb]
    · exact fun hin => ⟨a, rfl, hin⟩
  constructor
  · rintro ⟨hexact, -⟩
    rw [htrusted] at hexact
    constructor
    · intro a ha e he hblock
      rw [hlies a ha, ha, trusted_addr_iff] at hexact
      exact hexact.mp (.inl ⟨e, he, hblock⟩)
    · intro a ha e he hin
      rw [hlies a ha, ha, trusted_addr_iff] at hexact
      exact hexact.mpr ⟨e, he, hin⟩
    · intro hother e he
      refine (containsCIDR_false_iff _ e).mp (Bool.eq_false_iff.mpr fun h => ?_)
      obtain ⟨a, ha, -⟩ := hexact.mp ⟨e, he, h⟩
      exact hother a ha
  · intro h
    have hexact : isTrustedProxy r.remoteAddr (entries.map Network.text) = true ↔
        LiesIn (extractIPFromAddr r.remoteAddr) entries := by
      rw [htrusted]
      by_cases haddr : ∃ a : Addr, extractIPFromAddr r.remoteAddr = a.text
      · obtain ⟨a, ha⟩ := haddr
        rw [hlies a ha, ha, trusted_addr_iff]
        constructor
        · rintro (⟨e, he, hblock⟩ | hmem)
          · exact h.wide a ha e he hblock
          · exact ⟨_, hmem, rfl⟩
        · rintro ⟨e, he, hin⟩
          exact h.narrow a ha e he hin
      · have hother := not_exists.mp haddr
        constructor
        · rintro ⟨e, he, hcontains⟩
          rw [(containsCIDR_false_iff _ e).mpr (h.other hother e he)] at hcontains
          cases hcontains
        · rintro ⟨a, ha, -⟩
          exact absurd ha (hother a)
    refine ⟨hexact, fun hnot => getClientIP_untrusted ?_⟩
    exact Bool.eq_false_iff.mpr (hexact.not.mpr hnot)

/-- The entries that the comparison is made for: a private network whole, with 172.0.0.0/8 for one, and
single addresses elsewhere. -/
inductive Whole : Network → Prop
  | single {x : Addr} (h : privateStart x = none) : Whole (.address x)
  | ten {x : Addr} (h : x.a = 10) : Whole (.cidr x 8)
  | oneSevenTwo {x : Addr} (h : x.a = 172) : Whole (.cidr x 8)
  | oneNineTwo {x : Addr} (h : x.a = 192 ∧ x.b = 168) : Whole (.cidr x 16)

theorem privateStart_iff (x : Addr) :
    (privateStart x = some "10." ↔ x.a = 10) ∧ (privateStart x = some "172." ↔ x.a = 172) ∧
      (privateStart x = some "192.168." ↔ x.a = 192 ∧ x.b = 168) := by
  unfold privateStart
  split_ifs <;> simp_all

theorem sameBlock_iff {x y : Addr} {start : String} (hx : privateStart x = some start) :
    SameBlock x y ↔ privateStart y = some start := by
  unfold SameBlock
  rw [hx]
  exact and_iff_right rfl

theorem Whole.contains_iff {e : Network} (h : Whole e) (a : Addr) :
    e.Contains a ↔ SameBlock e.base a ∨ e = .address a := by
  cases h with
  | single hx =>
    rename_i x
    have hblock : ¬SameBlock x a := fun hb => by
      have hsome := hb.1
      rw [hx] at hsome
      cases hsome
    change a = x ↔ SameBlock x a ∨ Network.address x = .address a
    rw [Network.address.injEq, or_iff_right hblock, eq_comm]
  | ten hx =>
    rename_i x
    change _ ↔ SameBlock x a ∨ Network.cidr x 8 = .address a
    rw [Ipv4.contains_eight, hx, ← (privateStart_iff a).1, sameBlock_iff ((privateStart_iff x).1.mpr hx)]
    simp
  | oneSevenTwo hx =>
    rename_i x
    change _ ↔ SameBlock x a ∨ Network.cidr x 8 = .address a
    rw [Ipv4.contains_eight, hx, ← (privateStart_iff a).2.1, sameBlock_iff ((privateStart_iff x).2.1.mpr hx)]
    simp
  | oneNineTwo hx =>
    rename_i x
    change _ ↔ SameBlock x a ∨ Network.cidr x 16 = .address a
    rw [Ipv4.contains_sixteen, hx.1, hx.2, ← (privateStart_iff a).2.2,
      sameBlock_iff ((privateStart_iff x).2.2.mpr hx)]
    simp

theorem comparable_of_whole {entries : List Network} (h : ∀ e ∈ entries, Whole e) (a : Addr) :
    Comparable a.text entries where
  wide b hb e he hblock := by
    exact ⟨e, he, ((h e he).contains_iff b).mpr (.inl hblock)⟩
  narrow b hb e he hin := by
    rcases ((h e he).contains_iff b).mp hin with hblock | rfl
    · exact .inl ⟨e, he, hblock⟩
    · exact .inr he
  other hother := absurd rfl (hother a)

/-- A request from outside of the one network, in the /8 that its entry is taken for. -/
def outsider : ProxiedRequest := ⟨"172.217.1.1:4711", "198.51.100.7", ""⟩

theorem outsider_trusted :
    ¬TrustsProxies outsider [.cidr ⟨172, 16, 0, 0⟩ 12] ∧
      getClientIP outsider (List.map Network.text [.cidr ⟨172, 16, 0, 0⟩ 12]) = "198.51.100.7" := by
  refine ⟨fun h => ?_, by decide⟩
  obtain ⟨a, ha, e, he, hin⟩ := h.trusted.mp (by decide)
  have hremote : extractIPFromAddr outsider.remoteAddr = Addr.text ⟨172, 217, 1, 1⟩ := by
    decide
  have haddr := Ipv4.Addr.text_inj.mp (hremote.symm.trans ha)
  rw [List.mem_singleton.mp he, ← haddr] at hin
  exact absurd hin (by decide)

end SupplyPlatform.TrustedProxy
