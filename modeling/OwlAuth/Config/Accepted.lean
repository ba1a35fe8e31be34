import OwlAuth.Config.Rings

/-!
# What an accepted environment says of its key rings

* `RingsSound`  the object of retained keys and the ring agree, in every ring, and no
    root is used twice;
* `VersionsNamedOnce`  the objects that are read as maps name no version twice;
* `parseRing_ok`  what a parsed ring holds;
* `insertFingerprint_ok`  the loop over all roots;
* `config_rings_sound_iff`  the rings are sound exactly if no version is named twice.
-/

namespace OwlAuth

open Fallible

/-! ## the object and the ring agree -/

/-- the members of the object have versions of their own, positive and other than the active one,
and every key given is in the ring -/
structure Retains {ρ α : Type} (entries : List (Int × ρ)) (parse : ρ → Except ConfigError α)
    (r : Ring α) : Prop where
  distinct : (entries.map Prod.fst).Nodup
  positive : ∀ e ∈ entries, 0 < e.1 ∧ e.1 ≠ r.activeVersion
  present : ∀ e ∈ entries, ∃ k, parse e.2 = .ok k ∧ r.retained[e.1]? = some k

/-- the object was read and the ring holds what it says -/
def RingSound {ρ α : Type} (values : Values) (k : RingKeys)
    (members : Text → Option (List (Int × ρ))) (parse : ρ → Except ConfigError α) (r : Ring α) :
    Prop :=
  ∃ entries, members (retainedText values k.retained) = some entries ∧ Retains entries parse r

/-- the object names no version twice -/
def NamedOnce {ρ : Type} (values : Values) (k : RingKeys)
    (members : Text → Option (List (Int × ρ))) : Prop :=
  ∀ entries, members (retainedText values k.retained) = some entries → (entries.map Prod.fst).Nodup

variable (lib : ConfigLibrary)

/-- the rings that the mode composes, and their roots -/
structure RingsSound (values : Values) (c : ServerConfig) : Prop where
  runtime : ∀ r ∈ c.runtimeProtection, RingSound values runtimeRing lib.pairs (runtimeKey lib) r
  emailIdentity : ∀ r ∈ c.emailIdentityProtection,
    RingSound values emailIdentityRing lib.pairs (emailIdentityKey lib) r
  projectionEmail : RingSound values projectionEmailRing lib.keys (projectionEmailKey lib)
    c.projectionEmailProtection
  managedCredential : ∀ r ∈ c.managedCredentialProtection,
    RingSound values managedCredentialRing lib.keys (managedCredentialKey lib) r
  managedReauthorization : RingSound values managedReauthorizationRing lib.pairs
    (parseManagedReauthorizationTargetKey lib) c.managedReauthorizationTargetProtection
  identityEvidence : RingSound values identityEvidenceRing lib.pairs (identityEvidenceKey lib)
    c.identityMutationEvidenceProtection
  serverKey : ∀ r ∈ c.serverKeyDigest,
    RingSound values serverKeyRing lib.keys (serverKeyDigestKey lib) r
  roots : (c.roots.map fun root => root.1.bytes).Nodup

/-- the objects that the mode and the variables have read as maps name no version twice -/
structure VersionsNamedOnce (values : Values) (mode : ProcessMode) : Prop where
  runtime : mode.hasAuth = true → NamedOnce values runtimeRing lib.pairs
  emailIdentity : emailIdentityConfigured values = true →
    NamedOnce values emailIdentityRing lib.pairs
  managedCredential : mode.hasAuth = true → NamedOnce values managedCredentialRing lib.keys
  managedReauthorization : NamedOnce values managedReauthorizationRing lib.pairs
  identityEvidence : NamedOnce values identityEvidenceRing lib.pairs
  serverKey : NamedOnce values serverKeyRing lib.keys

variable {bound : Option (Nat × String)}

section
variable {ρ α : Type}

variable {members : Text → Option (List (Int × ρ))}

theorem RingSound.namedOnce {values k} {parse : ρ → Except ConfigError α}
    {r} (h : RingSound values k members parse r) : NamedOnce values k members := by
  intro entries hentries
  obtain ⟨_, hentries', hr⟩ := h
  cases hentries.symm.trans hentries'
  exact hr.distinct

theorem pairwise_versions {l : List (Int × ρ)} :
    l.Pairwise (fun a b => ¬ compare a.1 b.1 = .eq) ↔ (l.map Prod.fst).Nodup := by
  rw [List.Nodup, List.pairwise_map]
  refine List.Pairwise.iff fun a b => ?_
  rw [Int.compare_eq_eq]

theorem getElem?_ofList {l : List (Int × ρ)} (h : (l.map Prod.fst).Nodup) {e : Int × ρ}
    (he : e ∈ l) : (Std.TreeMap.ofList l compare)[e.1]? = some e.2 :=
  Std.TreeMap.getElem?_ofList_of_mem (Int.compare_eq_eq.mpr rfl) (pairwise_versions.mpr h) he

theorem insertUnique_ok {entries} : ∀ {keys m : Std.TreeMap Int ρ},
    insertUnique keys entries = some m →
      (entries.map Prod.fst).Nodup ∧ (∀ e ∈ entries, m[e.1]? = some e.2)
        ∧ ∀ v ∈ keys, v ∉ entries.map Prod.fst ∧ m[v]? = keys[v]? := by
  induction entries with
  | nil =>
    intro keys m h
    cases h
    exact ⟨List.nodup_nil, nofun, fun v _ => ⟨nofun, rfl⟩⟩
  | cons e entries ih =>
    intro keys m h
    unfold insertUnique at h
    split at h
    · cases h
    · rename_i hnew
      obtain ⟨hnodup, hall, hkept⟩ := ih h
      have hself := hkept e.1 Std.TreeMap.mem_insert_self
      refine ⟨List.nodup_cons.mpr ⟨hself.1, hnodup⟩, ?_, ?_⟩
      · intro x hx
        rcases List.mem_cons.mp hx with rfl | hx
        · rw [hself.2, Std.TreeMap.getElem?_insert_self]
        · exact hall x hx
      · intro v hv
        have hne : e.1 ≠ v := by
          rintro rfl
          exact hnew hv
        obtain ⟨hnot, hsame⟩ := hkept v (Std.TreeMap.mem_insert.mpr (.inr hv))
        refine ⟨?_, ?_⟩
        · rw [List.map_cons, List.mem_cons, not_or]
          exact ⟨hne.symm, hnot⟩
        · rw [hsame, Std.TreeMap.getElem?_insert, if_neg (mt Int.compare_eq_eq.mp hne)]

theorem retainKey_ok {key active} {parse : ρ → Except ConfigError α}
    {e e'} (h : retainKey key active parse e = .ok e') :
    (0 < e.1 ∧ e.1 ≠ active) ∧ parse e.2 = .ok e'.2 ∧ e'.1 = e.1 := by
  obtain ⟨_, hpos, _, ha, h⟩ := peel₂ h
  cases h
  exact ⟨ensure_ok.mp hpos, ha, rfl⟩

theorem parseRetained_ok {key : String} {active : Int} {parse : ρ → Except ConfigError α}
    {serialized : Std.TreeMap Int ρ} {retained : Std.TreeMap Int α}
    (h : parseRetained key active parse serialized = .ok retained) {e : Int × ρ}
    (he : serialized[e.1]? = some e.2) :
    (0 < e.1 ∧ e.1 ≠ active) ∧ ∃ a, parse e.2 = .ok a ∧ retained[e.1]? = some a := by
  obtain ⟨entries, hentries, h⟩ := bind_ok.mp h
  cases h
  have hversions : entries.map Prod.fst = serialized.toList.map Prod.fst :=
    mapM_map (fun _ _ hk => (retainKey_ok hk).2.2) hentries
  have hnodup : (entries.map Prod.fst).Nodup := by
    rw [hversions]
    exact pairwise_versions.mp Std.TreeMap.distinct_keys_toList
  have hmem : e ∈ serialized.toList := Std.TreeMap.mem_toList_iff_getElem?_eq_some.mpr he
  obtain ⟨e', he', hone⟩ := mapM_ok hentries e hmem
  obtain ⟨hpos, hparse, hfst⟩ := retainKey_ok hone
  have hget := getElem?_ofList hnodup he'
  rw [hfst] at hget
  exact ⟨hpos, e'.2, hparse, hget⟩

variable {active : Except ConfigError α}

theorem parseRing_ok {values k read parse} {r}
    (h : parseRing values k active read parse bound = .ok r) :
    ∃ serialized, read (retainedText values k.retained) = some serialized
      ∧ ∀ e : Int × ρ, serialized[e.1]? = some e.2 →
        (0 < e.1 ∧ e.1 ≠ r.activeVersion) ∧ ∃ a, parse e.2 = .ok a ∧ r.retained[e.1]? = some a := by
  obtain ⟨_, _, active, _, serialized, hread, h⟩ := peel₃ h
  obtain ⟨_, hretained, _, _, h⟩ := peel₂ h
  cases h
  exact ⟨serialized, require_ok.mp hread, fun e he => parseRetained_ok hretained he⟩

theorem parseRing_sound {values k parse r}
    (h : parseRing values k active (versionedKeys members) parse bound = .ok r)
    (honce : NamedOnce values k members) : RingSound values k members parse r := by
  obtain ⟨_, hread, hall⟩ := parseRing_ok h
  obtain ⟨entries, hentries, rfl⟩ := Option.map_eq_some_iff.mp hread
  have hnodup := honce entries hentries
  refine ⟨entries, hentries, hnodup, ?_, ?_⟩
  · intro e he
    exact (hall e (getElem?_ofList hnodup he)).1
  · intro e he
    exact (hall e (getElem?_ofList hnodup he)).2

theorem parseRing_sound_of_unique {values k parse r}
    (h : parseRing values k active (uniqueVersionedKeys members) parse bound = .ok r) :
    RingSound values k members parse r := by
  obtain ⟨_, hread, hall⟩ := parseRing_ok h
  obtain ⟨entries, hentries, hinsert⟩ := Option.bind_eq_some_iff.mp hread
  obtain ⟨hnodup, hget, _⟩ := insertUnique_ok hinsert
  exact ⟨entries, hentries, hnodup, fun e he => (hall e (hget e he)).1,
    fun e he => (hall e (hget e he)).2⟩

end

/-! ## roots -/

theorem insertFingerprint_ok {sha256 roots} : ∀ {seen out},
    foldOk (insertFingerprint sha256) seen roots = .ok out →
      (∀ r ∈ roots, sha256 r.1.bytes ∉ seen) ∧ (roots.map fun r => sha256 r.1.bytes).Nodup := by
  induction roots with
  | nil => exact fun _ => ⟨nofun, List.nodup_nil⟩
  | cons r roots ih =>
    intro seen out h
    rw [foldOk_cons] at h
    obtain ⟨_, hnext, h⟩ := bind_ok.mp h
    obtain ⟨_, hnew, hnext⟩ := bind_ok.mp hnext
    cases hnext
    obtain ⟨hrest, hnodup⟩ := ih h
    refine ⟨?_, ?_⟩
    · intro x hx
      rcases List.mem_cons.mp hx with rfl | hx
      · exact ensure_ok.mp hnew
      · exact fun hseen => hrest x hx (List.mem_cons_of_mem _ hseen)
    · refine List.nodup_cons.mpr ⟨?_, hnodup⟩
      intro hmem
      obtain ⟨x, hx, hsame⟩ := List.mem_map.mp hmem
      exact hrest x hx (hsame ▸ List.mem_cons_self)

theorem validateProtectionRootSeparation_ok {sha256 c u}
    (h : validateProtectionRootSeparation sha256 c = .ok u) :
    (c.roots.map fun root => root.1.bytes).Nodup := by
  obtain ⟨_, hfold, _⟩ := bind_ok.mp h
  have hnodup := (insertFingerprint_ok hfold).2
  have hmap : (c.roots.map fun r => sha256 r.1.bytes)
      = (c.roots.map fun r => r.1.bytes).map sha256 := by
    rw [List.map_map]
    rfl
  rw [hmap] at hnodup
  exact List.Pairwise.of_map sha256 (fun a b h hsame => h (congrArg sha256 hsame)) hnodup

/-! ## the configuration -/

theorem composed_ok {α : Type} {composed : Bool} {x : Except ConfigError α} {o : Option α}
    (h : (if composed then some <$> x else .ok none) = .ok o) :
    (composed = true → ∃ r, r ∈ o) ∧ ∀ r ∈ o, composed = true ∧ x = .ok r := by
  cases composed with
  | false =>
    cases h
    exact ⟨nofun, nofun⟩
  | true =>
    cases x with
    | error e => cases h
    | ok a =>
      cases h
      refine ⟨fun _ => ⟨a, rfl⟩, fun r hr => ?_⟩
      cases hr
      exact ⟨rfl, rfl⟩

structure Accepted (sha256 : List UInt8 → List UInt8) (values : Values) (mode : ProcessMode)
    (c : ServerConfig) : Prop where
  runtime : parseRuntimeProtection lib mode values = .ok c.runtimeProtection
  emailIdentity : parseEmailIdentityProtection lib values = .ok c.emailIdentityProtection
  projectionEmail : parseProjectionEmailProtection lib values = .ok c.projectionEmailProtection
  managedReauthorization : parseManagedReauthorizationTargetProtection lib values
    = .ok c.managedReauthorizationTargetProtection
  identityEvidence : parseIdentityMutationEvidenceProtection lib values
    = .ok c.identityMutationEvidenceProtection
  managedCredential : parseManagedCredentialProtection lib mode values
    = .ok c.managedCredentialProtection
  serverKey : parseServerKeyDigest lib mode values = .ok c.serverKeyDigest
  separate : validateProtectionRootSeparation sha256 c = .ok ()

variable {lib} {sha256 : List UInt8 → List UInt8} {others : Values → Except ConfigError Unit}
  {values : Values} {requireSoftwareCustody : Bool} {c : ServerConfig}

theorem fromValues_ok
    (h : ServerConfig.fromValues lib sha256 others values requireSoftwareCustody = .ok c) :
    ∃ mode, processMode values = .ok mode ∧ Accepted lib sha256 values mode c := by
  obtain ⟨mode, hmode, _, _, _, hruntime, h⟩ := peel₃ h
  obtain ⟨_, hemail, _, hprojection, _, htarget, h⟩ := peel₃ h
  obtain ⟨_, hevidence, _, hcredential, _, hserver, h⟩ := peel₃ h
  obtain ⟨_, hseparate, _, _, h⟩ := peel₂ h
  cases h
  exact ⟨mode, hmode, hruntime, hemail, hprojection, htarget, hevidence, hcredential, hserver,
    hseparate⟩

theorem hasAuth_or_hasControl (mode : ProcessMode) : (mode.hasAuth || mode.hasControl) = true := by
  cases mode <;> rfl

/-- **The key rings of an accepted environment.**  The retained keys of every ring are given under
distinct positive versions other than the active one, every key given is in the ring, and all roots
are distinct, exactly if no object of retained keys that is read as a map names a version twice. -/
theorem config_rings_sound_iff
    (h : ServerConfig.fromValues lib sha256 others values requireSoftwareCustody = .ok c) :
    ∃ mode, processMode values = .ok mode
      ∧ (RingsSound lib values c ↔ VersionsNamedOnce lib values mode) := by
  obtain ⟨mode, hmode, a⟩ := fromValues_ok h
  have hruntime := composed_ok a.runtime
  have hemail := composed_ok a.emailIdentity
  have hcredential := composed_ok a.managedCredential
  have hserver := composed_ok a.serverKey
  rw [federatedProjectAuthAvailable, Bool.and_true] at hcredential
  refine ⟨mode, hmode, fun s => ?_, fun n => ?_⟩
  · refine ⟨?_, ?_, ?_, s.managedReauthorization.namedOnce, s.identityEvidence.namedOnce, ?_⟩
    · intro hauth
      obtain ⟨r, hr⟩ := hruntime.1 hauth
      exact (s.runtime r hr).namedOnce
    · intro hgiven
      obtain ⟨r, hr⟩ := hemail.1 hgiven
      exact (s.emailIdentity r hr).namedOnce
    · intro hauth
      obtain ⟨r, hr⟩ := hcredential.1 hauth
      exact (s.managedCredential r hr).namedOnce
    · obtain ⟨r, hr⟩ := hserver.1 (hasAuth_or_hasControl mode)
      exact (s.serverKey r hr).namedOnce
  · refine ⟨?_, ?_, parseRing_sound_of_unique a.projectionEmail, ?_,
      parseRing_sound a.managedReauthorization n.managedReauthorization,
      parseRing_sound a.identityEvidence n.identityEvidence, ?_,
      validateProtectionRootSeparation_ok a.separate⟩
    · intro r hr
      exact parseRing_sound (hruntime.2 r hr).2 (n.runtime (hruntime.2 r hr).1)
    · intro r hr
      exact parseRing_sound (hemail.2 r hr).2 (n.emailIdentity (hemail.2 r hr).1)
    · intro r hr
      exact parseRing_sound (hcredential.2 r hr).2 (n.managedCredential (hcredential.2 r hr).1)
    · intro r hr
      exact parseRing_sound (hserver.2 r hr).2 n.serverKey

namespace Demo

def rootWords : List String :=
  ["AQEB", "AgIC", "AwMD", "BAQE", "BQUF", "BgYG", "BwcH", "CAgI", "CQkJ"]

/-- the text of a root of 32 equal bytes -/
def rootText (b : Nat) : Text :=
  let word := ascii (rootWords.getD (b - 1) "")
  (List.replicate 10 word).flatten ++ word.take 3

def serverKeys (second : String) : Text :=
  ascii "\x7b\"2\":\"" ++ rootText 8 ++ ascii "\",\"" ++ ascii second ++ ascii "\":\"" ++ rootText 9
    ++ ascii "\"\x7d"

def once : Text := serverKeys "3"

def twice : Text := serverKeys "2"

/-- a reader of nine roots and of three objects -/
def ringLibrary : ConfigLibrary where
  decode text :=
    ((List.range' 1 9).find? fun b => rootText b = text).map fun b => .replicate 32 (UInt8.ofNat b)
  keys text :=
    if text = ascii "\x7b\x7d" then some []
    else if text = once then some [(2, rootText 8), (3, rootText 9)]
    else if text = twice then some [(2, rootText 8), (2, rootText 9)]
    else none
  pairs text := if text = ascii "\x7b\x7d" then some [] else none

/-- an environment of the control mode; the retained server keys are open -/
def controlValues (serverKeys : Text) : Values := fun key =>
  match key with
  | "OWLAUTH_MODE" => some (ascii "control")
  | "OWLAUTH_SOFTWARE_CUSTODY_KEY" => some (rootText 1)
  | "OWLAUTH_PROJECTION_EMAIL_KEY_VERSION" => some (ascii "1")
  | "OWLAUTH_PROJECTION_EMAIL_PROTECTION_KEY" => some (rootText 2)
  | "OWLAUTH_MANAGED_REAUTHORIZATION_KEY_VERSION" => some (ascii "1")
  | "OWLAUTH_MANAGED_REAUTHORIZATION_DIGEST_KEY" => some (rootText 3)
  | "OWLAUTH_MANAGED_REAUTHORIZATION_PROTECTION_KEY" => some (rootText 4)
  | "OWLAUTH_IDENTITY_MUTATION_EVIDENCE_KEY_VERSION" => some (ascii "1")
  | "OWLAUTH_IDENTITY_MUTATION_EVIDENCE_DIGEST_KEY" => some (rootText 5)
  | "OWLAUTH_IDENTITY_MUTATION_EVIDENCE_PROTECTION_KEY" => some (rootText 6)
  | "OWLAUTH_SERVER_KEY_DIGEST_KEY_VERSION" => some (ascii "1")
  | "OWLAUTH_SERVER_KEY_DIGEST_KEY" => some (rootText 7)
  | "OWLAUTH_SERVER_KEY_DIGEST_RETAINED_KEYS" => some serverKeys
  | _ => none

def controlConfig (serverKeys : Text) : Except ConfigError ServerConfig :=
  ServerConfig.fromValues ringLibrary id (fun _ => .ok ()) (controlValues serverKeys) true

theorem controlConfig_ok {serverKeys} (h : (controlConfig serverKeys).isOk = true) :
    ∃ c, controlConfig serverKeys = .ok c := by
  cases hc : controlConfig serverKeys with
  | ok c => exact ⟨c, rfl⟩
  | error e =>
    rw [hc] at h
    cases h

theorem namedOnce_of {ρ : Type} {values : Values} {k : RingKeys}
    {members : Text → Option (List (Int × ρ))} {l : List (Int × ρ)}
    (hread : members (retainedText values k.retained) = some l)
    (hnodup : (l.map Prod.fst).Nodup) : NamedOnce values k members := by
  intro entries hentries
  cases hread.symm.trans hentries
  exact hnodup

end Demo

open Demo

theorem config_rings_sound_iff_once :
    ∃ c, controlConfig once = .ok c ∧ RingsSound ringLibrary (controlValues once) c := by
  obtain ⟨c, hc⟩ : ∃ c, controlConfig once = .ok c := controlConfig_ok (by decide +kernel)
  obtain ⟨mode, _, hiff⟩ := config_rings_sound_iff hc
  refine ⟨c, hc, hiff.mpr ?_⟩
  have hpairs : ∀ k : RingKeys, controlValues once k.retained = none →
      NamedOnce (controlValues once) k ringLibrary.pairs := by
    intro k hk
    refine namedOnce_of (l := []) ?_ List.nodup_nil
    rw [retainedText, optional, hk]
    rfl
  refine ⟨fun _ => hpairs _ rfl, fun _ => hpairs _ rfl, fun _ => ?_, hpairs _ rfl, hpairs _ rfl, ?_⟩
  · exact namedOnce_of (l := []) rfl List.nodup_nil
  · exact namedOnce_of (l := [(2, rootText 8), (3, rootText 9)]) (by decide +kernel) (by decide)

/-- an accepted environment whose retained server keys name version 2 twice -/
theorem repeated_version_is_accepted :
    ∃ c, controlConfig twice = .ok c ∧ ¬ RingsSound ringLibrary (controlValues twice) c := by
  obtain ⟨c, hc⟩ : ∃ c, controlConfig twice = .ok c := controlConfig_ok (by decide +kernel)
  refine ⟨c, hc, ?_⟩
  intro h
  have hsome : c.serverKeyDigest.isSome = true := by
    have hall : (controlConfig twice).toOption.any (·.serverKeyDigest.isSome) = true := by
      decide +kernel
    rw [hc] at hall
    exact hall
  have honce := (h.serverKey _ (Option.get_mem hsome)).namedOnce
  have htwice := honce [(2, rootText 8), (2, rootText 9)] (by decide +kernel)
  exact absurd htwice (by decide)

end OwlAuth
