import Mathlib.Data.Finset.Dedup
import Mathlib.Data.String.Basic
import OwlAuth.Managed.Workers

/-!
# Sets of scopes

Scopes come as sequences of strings and, from a provider, as one text.  The adapter and a capability
compare them by sorting; the proof of an identity builds a set and counts.

* `canonicalScopeSet`, `parseScopes`, `scopesMatchSorted`  the comparisons that sort;
* `insertsAll`  the set that is built, scope by scope;
* `scope_comparisons_agree`  every comparison is equality of sets, with what each of them refuses.
-/

namespace OwlAuth

open Fallible

/-! ## the adapter -/

variable (scopes : List String)

/-- `sort_unstable`; equal strings cannot be told apart, so any sort will do -/
def sorted : List String := scopes.insertionSort (· ≤ ·)

def sortedOnce : Option (List String) :=
  let canonical := dedupAdjacent (sorted scopes)
  if canonical.length = (sorted scopes).length then some canonical else none

def canonicalScopeSet : Option (List String) :=
  if scopes.isEmpty || 16 < scopes.length || scopes.any String.isEmpty then none
  else sortedOnce scopes

/-- split at every whitespace; the empty parts are dropped -/
def splitAsciiWhitespace (value : String) : List String :=
  ((value.toList.splitOnP isAsciiWhitespace).filter (! ·.isEmpty)).map String.ofList

def parseScopes (value : String) : Except Unit (List String) := do
  ensure (value ≠ "" ∧ value.utf8ByteSize ≤ 1024) ()
  let scopes := splitAsciiWhitespace value
  ensure (scopes ≠ [] ∧ scopes.length ≤ 16 ∧ scopes.all (·.utf8ByteSize ≤ 128) = true) ()
  require (sortedOnce scopes) ()

/-! ## the domain -/

def maxManagedScopes : Nat := 16

/-- `char::is_whitespace` -/
def isWhitespace (c : Char) : Bool :=
  let n := c.toNat
  (9 ≤ n && n ≤ 13) || (0x2000 ≤ n && n ≤ 0x200a)
    || [0x20, 0x85, 0xa0, 0x1680, 0x2028, 0x2029, 0x202f, 0x205f, 0x3000].contains n

def validManagedScope (scope : String) : Bool :=
  !scope.isEmpty && scope.utf8ByteSize ≤ 128 && !scope.toList.any isWhitespace

/-- a capability with the rest of what is checked of it -/
structure ReviewedCapability extends ManagedProfileCapability where
  profileSchema : String
  (maximumBodyBytes maximumLatencySeconds : Nat)

def ReviewedCapability.validate (c : ReviewedCapability) : Checked Unit := do
  ensure (c.adapterKey ≠ "" ∧ 0 < c.adapterRevision ∧ c.profileSchema = "owlauth.provider-profile.v1"
    ∧ c.oidcNonceRequired = true ∧ c.exactScopes ≠ [] ∧ c.exactScopes.length ≤ maxManagedScopes
    ∧ (0 < c.maximumBodyBytes ∧ c.maximumBodyBytes ≤ 64 * 1024)
    ∧ (0 < c.maximumLatencySeconds ∧ c.maximumLatencySeconds ≤ 15)
    ∧ c.exactScopes.all validManagedScope = true) .invalidTransition
  ensure ((dedupAdjacent (sorted c.exactScopes)).length = c.exactScopes.length) .invalidTransition

/-- `scopes_match` as it computes -/
def ManagedProfileCapability.scopesMatchSorted (c : ManagedProfileCapability)
    (returned : List String) : Bool :=
  let actual := dedupAdjacent (sorted returned)
  actual.length == (sorted returned).length && actual == sorted c.exactScopes

/-- the walk over the scopes, with those already in the set -/
def insertsAll (seen : List String) : List String → Bool
  | [] => true
  | scope :: rest => validScope scope && !seen.contains scope && insertsAll (scope :: seen) rest

/-- what `exactScopeSetsMatch` takes for a scope, `offline_access` apart -/
def ScopeToken (scope : String) : Prop :=
  scope ≠ "" ∧ scope.utf8ByteSize ≤ 128
    ∧ ∀ c ∈ scope.toList, c = '!' ∨ ('#' ≤ c ∧ c ≤ '[') ∨ (']' ≤ c ∧ c ≤ '~')

/-! ## a sorted list is a set -/

variable {a b r q : List String}

theorem sorted_perm (a) : (sorted a).Perm a := List.perm_insertionSort _ a

theorem length_dedupAdjacent : (dedupAdjacent (sorted a)).length = (sorted a).length ↔ a.Nodup := by
  have hdedup : dedupAdjacent (sorted a) = (sorted a).dedup :=
    (List.pairwise_insertionSort (· ≤ ·) a).destutter_eq_dedup
  rw [hdedup, (List.dedup_sublist _).length_eq, List.dedup_eq_self, (sorted_perm a).nodup_iff]

theorem dedupAdjacent_sorted (h : a.Nodup) : dedupAdjacent (sorted a) = sorted a :=
  (List.destutter_sublist _ _).eq_of_length (length_dedupAdjacent.mpr h)

theorem sorted_eq_iff : sorted a = sorted b ↔ a.Perm b := by
  constructor
  · intro h
    exact (sorted_perm a).symm.trans (h ▸ sorted_perm b)
  · intro h
    exact (((sorted_perm a).trans h).trans (sorted_perm b).symm).eq_of_pairwise'
      (List.pairwise_insertionSort (· ≤ ·) a) (List.pairwise_insertionSort (· ≤ ·) b)

theorem perm_iff_toFinset (h : a.Nodup) (h' : b.Nodup) : a.Perm b ↔ a.toFinset = b.toFinset :=
  ⟨List.toFinset_eq_of_perm _ _, List.perm_of_nodup_nodup_toFinset_eq h h'⟩

theorem sortedOnce_eq : sortedOnce a = some r ↔ a.Nodup ∧ r = sorted a := by
  by_cases h : a.Nodup
  · rw [sortedOnce, if_pos (length_dedupAdjacent.mpr h), dedupAdjacent_sorted h]
    simp [h, eq_comm]
  · rw [sortedOnce, if_neg (mt length_dedupAdjacent.mp h)]
    simp [h]

/-! ## what is accepted -/

/-- what the adapter takes for a set of scopes -/
def IsScopeSet : Prop :=
  scopes ≠ [] ∧ scopes.length ≤ 16 ∧ "" ∉ scopes ∧ scopes.Nodup

theorem canonicalScopeSet_eq : canonicalScopeSet a = some r ↔ IsScopeSet a ∧ r = sorted a := by
  have hrefused : (a.isEmpty || 16 < a.length || a.any String.isEmpty) = true
      ↔ a = [] ∨ 16 < a.length ∨ "" ∈ a := by simp [or_assoc]
  unfold canonicalScopeSet IsScopeSet
  split
  · grind
  · rw [sortedOnce_eq]
    grind

theorem parseScopes_eq {value} : parseScopes value = .ok r
    ↔ (IsScopeSet (splitAsciiWhitespace value) ∧ value.utf8ByteSize ≤ 1024
        ∧ ∀ scope ∈ splitAsciiWhitespace value, scope.utf8ByteSize ≤ 128)
      ∧ r = sorted (splitAsciiWhitespace value) := by
  have hempty : splitAsciiWhitespace value ≠ [] → value ≠ "" := by
    rintro h rfl
    exact h (by decide +kernel)
  have hparts : "" ∉ splitAsciiWhitespace value := by simp [splitAsciiWhitespace]
  rw [parseScopes, unit_bind, unit_bind, ensure_ok, ensure_ok, require_ok, sortedOnce_eq]
  grind [IsScopeSet]

theorem scopesMatchSorted_iff {c : ManagedProfileCapability} :
    c.scopesMatchSorted a = true ↔ a.Nodup ∧ a.Perm c.exactScopes := by
  unfold ManagedProfileCapability.scopesMatchSorted
  simp only [Bool.and_eq_true, beq_iff_eq, length_dedupAdjacent]
  refine and_congr_right fun h => ?_
  rw [dedupAdjacent_sorted h, sorted_eq_iff]

/-- the workers compare as the source does -/
theorem scopesMatch_eq (c : ManagedProfileCapability) (a) :
    c.scopesMatch a = c.scopesMatchSorted a := by
  rw [Bool.eq_iff_iff, scopesMatchSorted_iff]
  simp [ManagedProfileCapability.scopesMatch, List.isPerm_iff]

theorem ReviewedCapability.validate_ok {c : ReviewedCapability} (h : c.validate = .ok ()) :
    IsScopeSet c.exactScopes ∧ ∀ scope ∈ c.exactScopes, validManagedScope scope = true := by
  obtain ⟨hchecked, honce⟩ := unit_bind.mp h
  obtain ⟨_, _, _, _, hne, hle, _, _, hscopes⟩ := ensure_ok.mp hchecked
  have hvalid := List.all_eq_true.mp hscopes
  refine ⟨⟨hne, hle, fun hmem => absurd (hvalid "" hmem) (by decide), ?_⟩, hvalid⟩
  rw [← length_dedupAdjacent, (sorted_perm _).length_eq]
  exact ensure_ok.mp honce

theorem insertsAll_iff : insertsAll q a = true
    ↔ (∀ scope ∈ a, validScope scope = true) ∧ a.Nodup ∧ a.Disjoint q := by
  induction a generalizing q with
  | nil => simp [insertsAll]
  | cons scope rest ih =>
    simp only [insertsAll, Bool.and_eq_true, ih]
    grind [List.Disjoint]

theorem validScope_iff {scope} : validScope scope = true
    ↔ scope ≠ "offline_access" ∧ ScopeToken scope := by
  simp only [validScope, ScopeToken, Bool.and_eq_true, Bool.or_eq_true, List.all_eq_true,
    decide_eq_true_eq, beq_iff_eq, bne_iff_ne]
  grind [String.isEmpty_iff]

theorem validExactScopeSet_iff : validExactScopeSet a = true
    ↔ IsScopeSet a ∧ "offline_access" ∉ a ∧ ∀ scope ∈ a, ScopeToken scope := by
  have hvalid : (∀ scope ∈ a, validScope scope = true)
      ↔ "offline_access" ∉ a ∧ ∀ scope ∈ a, ScopeToken scope := by grind [validScope_iff]
  have hempty : validScope "" = false := by decide +kernel
  grind [validExactScopeSet, maxProviderProofScopes, IsScopeSet]

/-- a set of scopes is valid when the walk gets through -/
theorem validExactScopeSet_eq (a) : validExactScopeSet a
    = (!a.isEmpty && a.length ≤ maxProviderProofScopes && insertsAll [] a) := by
  rw [Bool.eq_iff_iff]
  simp [validExactScopeSet, insertsAll_iff, and_assoc]

/-- a sequence, or the parts of a text, with its canonical form -/
def CanonicalForm (scopes r : List String) : Prop :=
  canonicalScopeSet scopes = some r
    ∨ ∃ value, splitAsciiWhitespace value = scopes ∧ parseScopes value = .ok r

theorem CanonicalForm.eq (h : CanonicalForm a r) : a.Nodup ∧ r = sorted a := by
  rcases h with h | ⟨value, rfl, h⟩
  · obtain ⟨hset, hr⟩ := canonicalScopeSet_eq.mp h
    exact ⟨hset.2.2.2, hr⟩
  · obtain ⟨⟨hset, _⟩, hr⟩ := parseScopes_eq.mp h
    exact ⟨hset.2.2.2, hr⟩

/-- **Comparisons of scopes are equality of sets.**  What the adapter accepts, as a sequence or as a
text, is a set, and two canonical forms are equal exactly when they are of the same scopes; both
comparisons of the domain hold exactly for two sets with the same scopes.  Malformed scopes are
refused by the proof of an identity only: the adapter does not look at them (of a text it bounds the
lengths), and a capability answers for its scopes when it is validated.  The proof of an identity
refuses the scope `offline_access` too, which is well formed and which the others take. -/
theorem scope_comparisons_agree :
    (∀ scopes, (∃ r, canonicalScopeSet scopes = some r) ↔ IsScopeSet scopes)
      ∧ (∀ value, (∃ r, parseScopes value = .ok r)
          ↔ IsScopeSet (splitAsciiWhitespace value) ∧ value.utf8ByteSize ≤ 1024
            ∧ ∀ scope ∈ splitAsciiWhitespace value, scope.utf8ByteSize ≤ 128)
      ∧ (∀ a b r q, CanonicalForm a r → CanonicalForm b q → (r = q ↔ a.toFinset = b.toFinset))
      ∧ (∀ (c : ManagedProfileCapability) (returned : List String),
          c.scopesMatchSorted returned = true
            ↔ c.exactScopes.Nodup ∧ returned.Nodup ∧ returned.toFinset = c.exactScopes.toFinset)
      ∧ (∀ c : ReviewedCapability, c.validate = .ok () →
          IsScopeSet c.exactScopes ∧ ∀ scope ∈ c.exactScopes, validManagedScope scope = true)
      ∧ ∀ requested declared, exactScopeSetsMatch requested declared = true
          ↔ (∀ scopes ∈ [requested, declared],
              IsScopeSet scopes ∧ "offline_access" ∉ scopes ∧ ∀ scope ∈ scopes, ScopeToken scope)
            ∧ requested.toFinset = declared.toFinset := by
  refine ⟨?_, ?_, ?_, ?_, fun c => c.validate_ok, ?_⟩
  · intro scopes
    simp [canonicalScopeSet_eq]
  · intro value
    simp [parseScopes_eq]
  · intro a b r q ha hb
    rw [ha.eq.2, hb.eq.2, sorted_eq_iff, perm_iff_toFinset ha.eq.1 hb.eq.1]
  · intro c returned
    rw [scopesMatchSorted_iff]
    constructor
    · rintro ⟨h, hperm⟩
      exact ⟨hperm.nodup_iff.mp h, h, List.toFinset_eq_of_perm _ _ hperm⟩
    · rintro ⟨hc, h, heq⟩
      exact ⟨h, (perm_iff_toFinset h hc).mpr heq⟩
  · intro requested declared
    simp only [List.forall_mem_cons, List.not_mem_nil, false_imp_iff, implies_true, and_true,
      ← validExactScopeSet_iff, exactScopeSetsMatch, Bool.and_eq_true, beq_iff_eq, List.all_eq_true,
      List.contains_iff_mem, and_assoc]
    refine and_congr_right fun hr => and_congr_right fun hd => ?_
    have nodup := fun {s} (h : validExactScopeSet s = true) => (validExactScopeSet_iff.mp h).1.2.2.2
    rw [← perm_iff_toFinset (nodup hr) (nodup hd)]
    constructor
    · rintro ⟨hlength, hsub⟩
      exact ((nodup hr).subperm hsub).perm_of_length_le hlength.ge
    · intro h
      exact ⟨h.length_eq, fun scope => h.mem_iff.mp⟩

theorem reordered_scopes_agree :
    (["email", "openid"] = ["email", "openid"]
        ↔ ["openid", "email"].toFinset = ["email", "openid"].toFinset)
      ∧ IsScopeSet ["openid"] := by
  obtain ⟨_, _, hforms, _, hvalidated, _⟩ := scope_comparisons_agree
  refine ⟨hforms _ _ _ _ (.inl (by decide +kernel))
    (.inr ⟨"email  openid", by decide +kernel, by decide +kernel⟩), ?_⟩
  exact (hvalidated ⟨⟨"google", 1, ["openid"], true, true, false, true⟩,
    "owlauth.provider-profile.v1", 65536, 15⟩ (by decide +kernel)).1

/-- scopes with a blank or a quotation mark in them are accepted by the adapter, and refused by the
proof of an identity; so is `offline_access`, a scope as it should be, which is not even equal to
itself there -/
theorem malformed_scopes_accepted :
    canonicalScopeSet ["open id"] = some ["open id"] ∧ parseScopes "open\"id" = .ok ["open\"id"]
      ∧ validScope "open id" = false ∧ validScope "open\"id" = false
      ∧ ScopeToken "offline_access"
      ∧ canonicalScopeSet ["offline_access"] = some ["offline_access"]
      ∧ parseScopes "offline_access" = .ok ["offline_access"]
      ∧ (∀ c : ManagedProfileCapability, c.exactScopes = ["offline_access"] →
          c.scopesMatchSorted ["offline_access"] = true)
      ∧ exactScopeSetsMatch ["offline_access"] ["offline_access"] = false := by
  refine ⟨by decide +kernel, by decide +kernel, by decide +kernel, by decide +kernel,
    ⟨by decide, by decide +kernel, by simp⟩, by decide +kernel, by decide +kernel, fun c hc => ?_,
    by decide +kernel⟩
  rw [ManagedProfileCapability.scopesMatchSorted, hc]
  decide +kernel

end OwlAuth
