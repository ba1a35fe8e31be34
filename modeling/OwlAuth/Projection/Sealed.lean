import OwlAuth.Projection.FanOut

/-!
# Stored projections read back

A projection and its events are stored without the verified address; the address stands beside them,
sealed under one version of a key and bound to the project, the application, the user and the revision.

* `ProjectionKeys`  what every version of the key opens, whoever holds it;
* `HoldsKeys`  a replica that seals with its write version and opens what it may read;
* `SealedMaterial`  material whose address opens to the one in its document;
* `Backs`  a row that holds the material;
* `wire_of_backs`  such a row is read back as the document, by every replica that may read it;
* `Derived.settles`  a second repair finds nothing to do.
-/

namespace OwlAuth

open Fallible

/-! ## keys -/

/-- what the versions of the projection key open: under a version, bound to a project, an application,
a user and a revision -/
abbrev ProjectionKeys : Type :=
  (projectId applicationId userId : Uuid) → (revision : Int) → ProtectedValue → Tx String

/-- the replica seals under its write version, and opens whatever its readable versions open -/
structure HoldsKeys (keys : ProjectionKeys) (env : Environment) : Prop where
  opened : ∀ p a u r value, value.keyVersion ∈ env.projectionReadableVersions →
    env.unprotectProjectionEmail p a u r value = keys p a u r value
  sealedUnder : ∀ p a u r email value, env.protectProjectionEmail p a u r email = .ok value →
    value.keyVersion = env.projectionWriteVersion ∧ keys p a u r value = .ok email

/-- two replicas run the same code over the same durable addresses -/
structure SameService (env env' : Environment) : Prop where
  documentDigest : env'.documentDigest = env.documentDigest
  bodyDigest : env'.bodyDigest = env.bodyDigest
  displayNameParses : env'.displayNameParses = env.displayNameParses
  pictureUrlParses : env'.pictureUrlParses = env.pictureUrlParses
  localeParses : env'.localeParses = env.localeParses
  readDurableEmail : env'.readDurableEmail = env.readDurableEmail

/-- the three columns of a sealed address: all empty without an address, and otherwise under a version
that is positive and opens to it -/
inductive SealedEmail (opens : ProtectedValue → Tx String) :
    Option Uuid → Option (List UInt8) → Option Int → Option String → Prop
  | absent : SealedEmail opens none none none none
  | present (source : Uuid) (ciphertext : List UInt8) (keyVersion : Int) (email : String)
      (positive : 0 < keyVersion) (opened : opens ⟨ciphertext, keyVersion⟩ = .ok email) :
      SealedEmail opens (some source) (some ciphertext) (some keyVersion) (some email)

/-! ## material -/

structure SealedMaterial (keys : ProjectionKeys) (env : Environment) (applicationId : Uuid)
    (user : ProjectUser) (m : ProjectionMaterial) : Prop where
  digest : m.digest = env.documentDigest m.document
  stored : m.storageDocument = safeProjectionDocument m.document
  email : SealedEmail (keys user.projectId applicationId user.id m.revision)
    m.verifiedEmailSourceIdentityId m.verifiedEmailCiphertext m.verifiedEmailKeyVersion
    m.document.verifiedEmail
  version : ∀ v ∈ m.verifiedEmailKeyVersion, v = env.projectionWriteVersion

structure Backs (row : ApplicationUserProjection) (applicationId : Uuid) (user : ProjectUser)
    (m : ProjectionMaterial) : Prop where
  projectId : row.projectId = user.projectId
  applicationId : row.applicationId = applicationId
  userId : row.userId = user.id
  projectionRevision : row.projectionRevision = m.revision
  sourceUserRevision : row.sourceUserRevision = user.userRevision
  canonicalDigest : row.canonicalDigest = m.digest
  sourceBaseProfileDigest : row.sourceBaseProfileDigest = user.baseProfileDigest
  verifiedEmailSourceIdentityId : row.verifiedEmailSourceIdentityId = m.verifiedEmailSourceIdentityId
  verifiedEmailCiphertext : row.verifiedEmailCiphertext = m.verifiedEmailCiphertext
  verifiedEmailKeyVersion : row.verifiedEmailKeyVersion = m.verifiedEmailKeyVersion
  document : row.document = m.storageDocument

variable {existing : Option ApplicationUserProjection} {q : ApplicationUserProjection}
  {sourceEmail : Option (Uuid × String)}

section
variable {keys : ProjectionKeys} {env env' : Environment} {db : Database} {applicationId : Uuid}
  {user : ProjectUser} {row : ApplicationUserProjection} {m : ProjectionMaterial}

structure Derived (env : Environment) (db : Database) (existing : Option ApplicationUserProjection)
    (applicationId : Uuid) (user : ProjectUser) (m : ProjectionMaterial)
    (sourceEmail : Option (Uuid × String)) (writeVersion : Option Int) : Prop where
  source : primaryVerifiedEmail env db user = .ok sourceEmail
  version : projectionWriteVersion env existing sourceEmail = .ok writeVersion
  changed : m.semanticChange = semanticChange existing user sourceEmail
  revision : materialRevision existing m.semanticChange = .ok m.revision
  protectedEmail : protectSourceEmail env existing
    (canReuseProtected existing m.semanticChange sourceEmail writeVersion) applicationId user
    m.revision sourceEmail = .ok (m.verifiedEmailCiphertext, m.verifiedEmailKeyVersion)
  material : projectionMaterialWithVerifiedEmail env user m.revision (sourceEmail.map Prod.snd)
    = .ok (m.document, m.digest)
  reused : checkReused env existing
    (canReuseProtected existing m.semanticChange sourceEmail writeVersion)
    (sourceEmail.map Prod.snd) = .ok ()
  stored : m.storageDocument = safeProjectionDocument m.document
  sourceIdentity : m.verifiedEmailSourceIdentityId = sourceEmail.map Prod.fst
  repair : m.storageRepairRequired = storageRepairRequired existing user m.semanticChange
    m.storageDocument m.digest m.verifiedEmailSourceIdentityId m.verifiedEmailCiphertext
    m.verifiedEmailKeyVersion

theorem authoritative_iff :
    authoritativeRuntimeProjectionMaterial env db existing applicationId user = .ok m
      ↔ ∃ sourceEmail writeVersion,
        Derived env db existing applicationId user m sourceEmail writeVersion := by
  constructor
  · intro h
    obtain ⟨sourceEmail, hsource, writeVersion, hversion, revision, hrevision, h⟩ := peel₃ h
    obtain ⟨stored, hstored, material, hmaterial, _, hreused, h⟩ := peel₃ h
    cases h
    exact ⟨sourceEmail, writeVersion, hsource, hversion, rfl, hrevision, hstored, hmaterial, hreused,
      rfl, rfl, rfl⟩
  · rintro ⟨sourceEmail, writeVersion, h⟩
    obtain ⟨revision, document, storageDocument, digest, source, ciphertext, keyVersion, changed,
      required⟩ := m
    obtain ⟨hsource, hversion, hchanged, hrevision, hstored, hmaterial, hreused, hdocument, hid,
      hrequired⟩ := h
    dsimp only at hchanged hrevision hstored hmaterial hreused hdocument hid hrequired
    subst hchanged hdocument hid hrequired
    exact bind_ok.mpr ⟨_, hsource, bind_ok.mpr ⟨_, hversion, bind_ok.mpr ⟨_, hrevision,
      bind_ok.mpr ⟨_, hstored, bind_ok.mpr ⟨_, hmaterial, bind_ok.mpr ⟨_, hreused, rfl⟩⟩⟩⟩⟩⟩

theorem projectionMaterial_ok {revision email r}
    (h : projectionMaterialWithVerifiedEmail env user revision email = .ok r) :
    r.2 = env.documentDigest r.1 ∧ r.1.verifiedEmail = email := by
  obtain ⟨_, _, _, h⟩ := later₃ h
  obtain ⟨_, _, _, h⟩ := later₃ h
  obtain ⟨_, _, _, h⟩ := later₃ h
  cases h
  exact ⟨rfl, rfl⟩

theorem semanticChange_false :
    semanticChange (some q) user sourceEmail = false ↔ q.userId = user.id
      ∧ q.sourceUserRevision = user.userRevision
      ∧ q.verifiedEmailSourceIdentityId = sourceEmail.map Prod.fst
      ∧ q.verifiedEmailCiphertext.isSome = sourceEmail.isSome
      ∧ q.verifiedEmailKeyVersion.isSome = sourceEmail.isSome := by
  unfold semanticChange
  rw [decide_eq_false_iff_not]
  push Not
  exact Iff.rfl

theorem projectionWriteVersion_some {version}
    (h : projectionWriteVersion env existing sourceEmail = .ok (some version)) :
    version = env.projectionWriteVersion ∧ 0 < version
      ∧ version ∈ env.projectionReadableVersions := by
  unfold projectionWriteVersion at h
  split at h
  · obtain ⟨_, hv, h⟩ := bind_ok.mp h
    obtain ⟨_, hvalid, hv⟩ := bind_ok.mp hv
    cases h
    cases hv
    exact ⟨rfl, ensure_ok.mp hvalid⟩
  · cases h

theorem projectionWriteVersion_source {source version}
    (h : projectionWriteVersion env existing (some source) = .ok version) :
    version = some env.projectionWriteVersion := by
  unfold projectionWriteVersion at h
  rw [if_pos (.inl rfl)] at h
  obtain ⟨_, hv, h⟩ := bind_ok.mp h
  obtain ⟨_, hv⟩ := later hv
  cases h
  cases hv
  rfl

theorem decrypted_some {email} (h : decryptedProjectionVerifiedEmail env q = .ok (some email)) :
    ∃ source ciphertext keyVersion, q.verifiedEmailSourceIdentityId = some source
      ∧ q.verifiedEmailCiphertext = some ciphertext ∧ q.verifiedEmailKeyVersion = some keyVersion
      ∧ 0 < keyVersion ∧ env.unprotectProjectionEmail q.projectId q.applicationId q.userId
        q.projectionRevision ⟨ciphertext, keyVersion⟩ = .ok email := by
  unfold decryptedProjectionVerifiedEmail at h
  split at h
  · cases h
  · rename_i source ciphertext keyVersion hs hc hv
    obtain ⟨_, hpositive, plaintext, hopen, h⟩ := peel₂ h
    cases h
    exact ⟨source, ciphertext, keyVersion, hs, hc, hv, ensure_ok.mp hpositive, hopen⟩
  · cases h

/-- **Material is sealed**: whether the ciphertext was kept or made anew, it opens to the address of the
document under the project, application, user and revision of the material. -/
theorem authoritative_sealed (hk : HoldsKeys keys env)
    (hscope : ∀ q ∈ existing, q.projectId = user.projectId ∧ q.applicationId = applicationId)
    (h : authoritativeRuntimeProjectionMaterial env db existing applicationId user = .ok m) :
    SealedMaterial keys env applicationId user m := by
  obtain ⟨sourceEmail, writeVersion, hd⟩ := authoritative_iff.mp h
  obtain ⟨hdigest, hemail⟩ := projectionMaterial_ok hd.material
  have hprotected := hd.protectedEmail
  suffices SealedEmail (keys user.projectId applicationId user.id m.revision)
      (sourceEmail.map Prod.fst) m.verifiedEmailCiphertext m.verifiedEmailKeyVersion
      (sourceEmail.map Prod.snd) ∧ ∀ v ∈ m.verifiedEmailKeyVersion, v = env.projectionWriteVersion by
    refine ⟨hdigest, hd.stored, ?_, this.2⟩
    rw [hemail, hd.sourceIdentity]
    exact this.1
  cases sourceEmail with
  | none =>
    obtain ⟨hc, hv⟩ := Prod.mk.injEq _ _ _ _ ▸ Except.ok.inj hprotected
    rw [← hc, ← hv]
    exact ⟨.absent, fun v hv => nomatch hv⟩
  | some source =>
    obtain ⟨id, email⟩ := source
    have hversion := hd.version
    rw [projectionWriteVersion_source hversion] at hversion
    obtain ⟨_, hpositive, hreadable⟩ := projectionWriteVersion_some hversion
    unfold protectSourceEmail at hprotected
    dsimp only at hprotected
    split at hprotected
    · -- the ciphertext was kept
      rename_i hreuse
      obtain ⟨q, hq, hstored⟩ := bind_ok.mp hprotected
      obtain rfl := require_ok.mp hq
      obtain ⟨hc, hv⟩ := Prod.mk.injEq _ _ _ _ ▸ Except.ok.inj hstored
      have hchecked := hd.reused
      rw [checkReused, if_pos hreuse] at hchecked
      obtain ⟨q', hq', hchecked⟩ := bind_ok.mp hchecked
      obtain rfl := Option.some.inj (require_ok.mp hq')
      obtain ⟨plaintext, hplain, hchecked⟩ := bind_ok.mp hchecked
      obtain rfl := ensure_ok.mp hchecked
      obtain ⟨src, ciphertext, keyVersion, _, hqc, hqv, hkeyPositive, hopen⟩ := decrypted_some hplain
      have hfacts := of_decide_eq_true hreuse
      obtain ⟨hsame, _, _, _, hwrite⟩ := hfacts
      rw [projectionWriteVersion_source hd.version, hqv] at hwrite
      have hsameUser : q.userId = user.id := by
        have hchanged := hd.changed
        rw [hsame] at hchanged
        exact (semanticChange_false.mp hchanged.symm).1
      have hrevision := hd.revision
      rw [hsame] at hrevision
      have hrev : q.projectionRevision = m.revision := Except.ok.inj hrevision
      obtain ⟨hp, ha⟩ := hscope q rfl
      rw [← hc, ← hv, hqc, hqv]
      refine ⟨.present id ciphertext keyVersion email hkeyPositive ?_,
        fun v hv => (Option.some.inj hv).symm.trans (Option.some.inj hwrite)⟩
      rw [← hk.opened _ _ _ _ _ (by rw [Option.some.inj hwrite]; exact hreadable), ← hp, ← ha,
        ← hsameUser, ← hrev]
      exact hopen
    · -- the address was sealed anew
      obtain ⟨value, hvalue, hstored⟩ := bind_ok.mp hprotected
      obtain ⟨hc, hv⟩ := Prod.mk.injEq _ _ _ _ ▸ Except.ok.inj hstored
      obtain ⟨hkeyVersion, hopened⟩ := hk.sealedUnder _ _ _ _ _ _ hvalue
      rw [← hc, ← hv]
      exact ⟨.present id value.ciphertext value.keyVersion email
        (by rw [hkeyVersion]; exact hpositive) hopened,
        fun v hv => (Option.some.inj hv).symm.trans hkeyVersion⟩

/-! ## rows -/

theorem repaired_backs (now)
    (hscope : q.projectId = user.projectId ∧ q.applicationId = applicationId)
    (h : authoritativeRuntimeProjectionMaterial env db (some q) applicationId user = .ok m) :
    Backs (repairedProjection q user m now) applicationId user m := by
  obtain ⟨sourceEmail, writeVersion, hd⟩ := authoritative_iff.mp h
  unfold repairedProjection
  split
  · exact ⟨hscope.1, hscope.2, rfl, rfl, rfl, rfl, rfl, rfl, rfl, rfl, rfl⟩
  · rename_i hnone
    have hrepair := hd.repair
    rw [Bool.eq_false_iff.mpr hnone] at hrepair
    have hkept := of_decide_eq_false hrepair.symm
    push Not at hkept
    obtain ⟨hsame, hdocument, hsource, hciphertext, hversion, hdigest, hprofile⟩ := hkept
    have hchanged := hd.changed
    have hsame : m.semanticChange = false := Bool.eq_false_iff.mpr hsame
    rw [hsame] at hchanged
    obtain ⟨huser, hrevision, _⟩ := semanticChange_false.mp hchanged.symm
    have hrev := hd.revision
    rw [hsame] at hrev
    exact ⟨hscope.1, hscope.2, huser, Except.ok.inj hrev, hrevision, hdigest, hprofile, hsource,
      hciphertext, hversion, hdocument⟩

theorem Backs.opens (hb : Backs row applicationId user m) (hk : HoldsKeys keys env')
    (hm : SealedMaterial keys env applicationId user m)
    (hread : ∀ v ∈ row.verifiedEmailKeyVersion, v ∈ env'.projectionReadableVersions) :
    decryptedProjectionVerifiedEmail env' row = .ok m.document.verifiedEmail := by
  have h := hm.email
  rw [← hb.verifiedEmailSourceIdentityId, ← hb.verifiedEmailCiphertext,
    ← hb.verifiedEmailKeyVersion] at h
  unfold decryptedProjectionVerifiedEmail
  rw [hb.projectId, hb.applicationId, hb.userId, hb.projectionRevision]
  generalize row.verifiedEmailSourceIdentityId = source at h
  generalize row.verifiedEmailCiphertext = ciphertext at h
  generalize row.verifiedEmailKeyVersion = keyVersion at h hread
  generalize m.document.verifiedEmail = email at h
  cases h with
  | absent => rfl
  | present source ciphertext keyVersion email positive opened =>
    have hopen := hk.opened user.projectId applicationId user.id m.revision
      ⟨ciphertext, keyVersion⟩ (hread keyVersion rfl)
    exact bind_ok.mpr ⟨(), ensure_ok.mpr positive, bind_ok.mpr ⟨email, hopen.trans opened, rfl⟩⟩

/-- **A row that holds sealed material is read back as its document** by every replica that may read the
version of its key. -/
theorem wire_of_backs (hk : HoldsKeys keys env') (hcode : env'.documentDigest = env.documentDigest)
    (hb : Backs row applicationId user m) (hm : SealedMaterial keys env applicationId user m)
    (hread : ∀ v ∈ row.verifiedEmailKeyVersion, v ∈ env'.projectionReadableVersions) :
    wireProjectionDocument env' row = .ok m.document := by
  have hdocument : { row.document with verifiedEmail := m.document.verifiedEmail } = m.document := by
    rw [hb.document, hm.stored]
    rfl
  refine bind_ok.mpr ⟨_, hb.opens hk hm hread, bind_ok.mpr ⟨(), ensure_ok.mpr ?_, ?_⟩⟩
  · rw [hb.canonicalDigest, hm.digest, hcode, hdocument]
  · rw [hdocument]
    rfl

/-! ## a second repair -/

theorem SealedEmail.isSome {opens source ciphertext keyVersion email}
    (h : SealedEmail opens source ciphertext keyVersion email) :
    ciphertext.isSome = email.isSome ∧ keyVersion.isSome = email.isSome := by
  cases h with
  | absent => exact ⟨rfl, rfl⟩
  | present => exact ⟨rfl, rfl⟩

theorem projectionMaterial_same (hcode : SameService env env') (revision : Int)
    (email : Option String) :
    projectionMaterialWithVerifiedEmail env' user revision email
      = projectionMaterialWithVerifiedEmail env user revision email := by
  unfold projectionMaterialWithVerifiedEmail
  rw [hcode.displayNameParses, hcode.pictureUrlParses, hcode.localeParses, hcode.documentDigest]

section
variable {db₁ : Database} {existing : Option ApplicationUserProjection}
  {sourceEmail : Option (Uuid × String)} {writeVersion : Option Int}

theorem Derived.unchanged
    (hd : Derived env db existing applicationId user m sourceEmail writeVersion)
    (hm : SealedMaterial keys env applicationId user m) (hb : Backs row applicationId user m) :
    semanticChange (some row) user sourceEmail = false := by
  obtain ⟨_, hemail⟩ := projectionMaterial_ok hd.material
  have hsome := hm.email.isSome
  rw [hemail, Option.isSome_map] at hsome
  refine semanticChange_false.mpr ⟨hb.userId, hb.sourceUserRevision, ?_, ?_, ?_⟩
  · rw [hb.verifiedEmailSourceIdentityId, hd.sourceIdentity]
  · rw [hb.verifiedEmailCiphertext, hsome.1]
  · rw [hb.verifiedEmailKeyVersion, hsome.2]

/-- **A repair of a row that was just repaired** derives the same document at the same revision, and
reports no change, under whatever write version. -/
theorem Derived.again (hd : Derived env db existing applicationId user m sourceEmail writeVersion)
    (hm : SealedMaterial keys env applicationId user m) (hb : Backs row applicationId user m)
    (hcode : SameService env env') (hsource : primaryVerifiedEmail env' db₁ user = .ok sourceEmail)
    {m'}
    (h : authoritativeRuntimeProjectionMaterial env' db₁ (some row) applicationId user = .ok m') :
    m'.semanticChange = false ∧ m'.revision = m.revision ∧ m'.document = m.document
      ∧ m'.digest = m.digest := by
  obtain ⟨source', _, hd'⟩ := authoritative_iff.mp h
  obtain rfl : source' = sourceEmail := Except.ok.inj (hd'.source.symm.trans hsource)
  have hchanged : m'.semanticChange = false := hd'.changed.trans (hd.unchanged hm hb)
  have hrevision := hd'.revision
  rw [hchanged] at hrevision
  have hrev : m'.revision = m.revision := (Except.ok.inj hrevision).symm.trans hb.projectionRevision
  have hmaterial := hd'.material
  rw [projectionMaterial_same hcode, hrev, hd.material] at hmaterial
  obtain ⟨hdocument, hdigest⟩ := Prod.mk.injEq _ _ _ _ ▸ Except.ok.inj hmaterial
  exact ⟨hchanged, hrev, hdocument.symm, hdigest.symm⟩

/-- **Under the same write version a second repair finds nothing to do.** -/
theorem Derived.settles (hd : Derived env db existing applicationId user m sourceEmail writeVersion)
    (hm : SealedMaterial keys env applicationId user m) (hb : Backs row applicationId user m)
    (hcode : SameService env env') (hk : HoldsKeys keys env')
    (hsource : primaryVerifiedEmail env' db₁ user = .ok sourceEmail)
    (hread : ∀ v ∈ row.verifiedEmailKeyVersion, v ∈ env'.projectionReadableVersions)
    (hwrite : env'.projectionWriteVersion = env.projectionWriteVersion) :
    authoritativeRuntimeProjectionMaterial env' db₁ (some row) applicationId user
      = .ok { m with semanticChange := false, storageRepairRequired := false } := by
  obtain ⟨_, hemail⟩ := projectionMaterial_ok hd.material
  have hunchanged := hd.unchanged hm hb
  obtain ⟨_, _, hrowSource, hrowCiphertext, hrowVersion⟩ := semanticChange_false.mp hunchanged
  have hopens := hb.opens hk hm hread
  rw [hemail] at hopens
  -- the version asked for is the one the row is under
  have hversion : projectionWriteVersion env' (some row) sourceEmail
      = .ok row.verifiedEmailKeyVersion := by
    unfold projectionWriteVersion
    cases sourceEmail with
    | none =>
      have hno : ¬ ((none : Option (Uuid × String)).isSome = true
          ∨ ((some row).any fun q => q.verifiedEmailCiphertext.isSome) = true) := by
        rintro (h | h)
        · cases h
        · change row.verifiedEmailCiphertext.isSome = true at h
          rw [hrowCiphertext] at h
          cases h
      have hnone : row.verifiedEmailKeyVersion = none :=
        Option.not_isSome_iff_eq_none.mp (by rw [hrowVersion]; exact Bool.false_ne_true)
      rw [if_neg hno, hnone]
      rfl
    | some source =>
      obtain ⟨v, hv⟩ := Option.isSome_iff_exists.mp hrowVersion
      have hw : v = env.projectionWriteVersion :=
        hm.version v (hb.verifiedEmailKeyVersion.symm.trans hv)
      have hpositive : 0 < env.projectionWriteVersion := by
        have h := hd.version
        rw [projectionWriteVersion_source h] at h
        exact (projectionWriteVersion_some h).2.1
      rw [if_pos (.inl rfl), hv]
      refine bind_ok.mpr ⟨v, bind_ok.mpr ⟨(), ensure_ok.mpr ⟨by rw [hwrite]; exact hpositive, ?_⟩, ?_⟩,
        rfl⟩
      · rw [hwrite, ← hw]
        exact hread v hv
      · rw [hwrite, ← hw]
        rfl
  have hreuse : canReuseProtected (some row) false sourceEmail row.verifiedEmailKeyVersion = true :=
    decide_eq_true ⟨rfl, hrowSource, hrowCiphertext, hrowVersion, rfl⟩
  refine authoritative_iff.mpr ⟨sourceEmail, row.verifiedEmailKeyVersion, hsource, hversion,
    hunchanged.symm, congrArg Except.ok hb.projectionRevision, ?_, ?_, ?_, hd.stored,
    hd.sourceIdentity, ?_⟩
  · show protectSourceEmail env' (some row) (canReuseProtected (some row) false sourceEmail
      row.verifiedEmailKeyVersion) applicationId user m.revision sourceEmail = _
    rw [hreuse]
    cases sourceEmail with
    | none =>
      have hsealed := hm.email.isSome
      rw [hemail] at hsealed
      have hciphertext : m.verifiedEmailCiphertext = none :=
        Option.not_isSome_iff_eq_none.mp (by rw [hsealed.1]; exact Bool.false_ne_true)
      have hkeyVersion : m.verifiedEmailKeyVersion = none :=
        Option.not_isSome_iff_eq_none.mp (by rw [hsealed.2]; exact Bool.false_ne_true)
      show Except.ok (none, none) = Except.ok (m.verifiedEmailCiphertext, m.verifiedEmailKeyVersion)
      rw [hciphertext, hkeyVersion]
    | some source =>
      rw [← hb.verifiedEmailCiphertext, ← hb.verifiedEmailKeyVersion]
      rfl
  · rw [projectionMaterial_same hcode]
    exact hd.material
  · show checkReused env' (some row) (canReuseProtected (some row) false sourceEmail
      row.verifiedEmailKeyVersion) _ = _
    rw [hreuse]
    exact bind_ok.mpr ⟨row, rfl, bind_ok.mpr ⟨_, hopens, ensure_ok.mpr rfl⟩⟩
  · refine (decide_eq_false ?_).symm
    push Not
    exact ⟨Bool.false_ne_true, hb.document, hb.verifiedEmailSourceIdentityId,
      hb.verifiedEmailCiphertext, hb.verifiedEmailKeyVersion, hb.canonicalDigest,
      hb.sourceBaseProfileDigest⟩

end

end

end OwlAuth
