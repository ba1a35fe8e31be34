import Mathlib.Data.FinEnum
import Mathlib.Data.List.Forall2
import OwlAuth.Custody.Context

/-!
# Canonical mailboxes

`CanonicalEmail::parse_v1` admits printable ASCII only.  It keeps the local part as it is and puts
the domain in lowercase; nothing else is rewritten.  A text is the list of its bytes.

* `parseV1`  the checks, in the order of the source;
* `parseV1_ok`  what is accepted, and what it becomes;
* `AcceptedParts.lowered`  every check says of the lowered domain what it says of the domain;
* `canonicalEmail_normal_form`  the main result.
-/

namespace OwlAuth

open Fallible

def emailMaxBytes : Nat := 254

structure EmailValidationError
  deriving DecidableEq

structure CanonicalEmail where
  expose : List UInt8
  deriving DecidableEq

def isAsciiControl (b : UInt8) : Bool := b < 0x20 || b == 0x7f

def isAsciiAlphanumeric (b : UInt8) : Bool :=
  isAsciiLowercase b || isAsciiUppercase b || isAsciiDigit b

def toAsciiLowercase (b : UInt8) : UInt8 := if isAsciiUppercase b then b + 0x20 else b

/-- what stands before and after the last separator -/
def rsplitOnce (sep : UInt8) : List UInt8 → Option (List UInt8 × List UInt8)
  | [] => none
  | b :: rest =>
    match rsplitOnce sep rest with
    | some (before, after) => some (b :: before, after)
    | none => if b = sep then some ([], rest) else none

def split (sep : UInt8) : List UInt8 → List (List UInt8)
  | [] => [[]]
  | b :: rest => if b = sep then [] :: split sep rest else (split sep rest).modifyHead (b :: ·)

/-- no dot at either end, and no two in a row -/
def WellDotted (part : List UInt8) : Prop :=
  part.head? ≠ some 0x2e ∧ part.getLast? ≠ some 0x2e ∧ ¬ [0x2e, 0x2e] <:+: part
  deriving Decidable

def localPunctuation : List UInt8 := ascii "!#$%&'*+-/=?^_`\x7b|\x7d~."

def ValidLocal (part : List UInt8) : Prop :=
  ∀ b ∈ part, isAsciiAlphanumeric b = true ∨ b ∈ localPunctuation
  deriving Decidable

def ValidLabel (label : List UInt8) : Prop :=
  label ≠ [] ∧ label.length ≤ 63 ∧ label.head? ≠ some 0x2d ∧ label.getLast? ≠ some 0x2d
    ∧ ∀ b ∈ label, isAsciiAlphanumeric b = true ∨ b = 0x2d
  deriving Decidable

def ValidDomain (domain : List UInt8) : Prop :=
  ∀ label ∈ split 0x2e domain, ValidLabel label
  deriving Decidable

def parseV1 (input : List UInt8) : Except EmailValidationError CanonicalEmail := do
  ensure (input ≠ [] ∧ input.length ≤ emailMaxBytes ∧ (∀ b ∈ input, b < 0x80)
    ∧ ∀ b ∈ input, isAsciiControl b = false ∧ b ≠ 0x20) ⟨⟩
  let (part, domain) ← require (rsplitOnce 0x40 input) ⟨⟩
  ensure (part ≠ [] ∧ part.length ≤ 64 ∧ domain ≠ [] ∧ domain.length ≤ 253 ∧ 0x40 ∉ part
    ∧ WellDotted part ∧ WellDotted domain) ⟨⟩
  ensure (ValidLocal part ∧ ValidDomain domain ∧ 0x2e ∈ domain) ⟨⟩
  .ok ⟨part ++ 0x40 :: domain.map toAsciiLowercase⟩

/-! ## what is accepted -/

structure AcceptedParts (part domain : List UInt8) : Prop where
  bounded : (part ++ 0x40 :: domain).length ≤ emailMaxBytes
  printable : ∀ b ∈ part ++ 0x40 :: domain, b < 0x80 ∧ isAsciiControl b = false ∧ b ≠ 0x20
  lengths : part ≠ [] ∧ part.length ≤ 64 ∧ domain ≠ [] ∧ domain.length ≤ 253
  once : 0x40 ∉ part ∧ 0x40 ∉ domain
  dots : WellDotted part ∧ WellDotted domain
  valid : ValidLocal part ∧ ValidDomain domain ∧ 0x2e ∈ domain

variable {input input' part domain : List UInt8} {sep c : UInt8} {e e' : CanonicalEmail}

theorem rsplitOnce_none : rsplitOnce sep input = none ↔ sep ∉ input := by
  induction input with
  | nil => exact ⟨fun _ => List.not_mem_nil, fun _ => rfl⟩
  | cons b rest ih =>
    unfold rsplitOnce
    split <;> grind

theorem rsplitOnce_some :
    rsplitOnce sep input = some (part, domain) ↔ input = part ++ sep :: domain ∧ sep ∉ domain := by
  induction input generalizing part with
  | nil => simp [rsplitOnce]
  | cons b rest ih =>
    unfold rsplitOnce
    cases h : rsplitOnce sep rest with
    | none =>
      have hrest := rsplitOnce_none.mp h
      cases part <;> grind
    | some p =>
      have hrest : sep ∈ rest := by
        by_contra hn
        cases h.symm.trans (rsplitOnce_none.mpr hn)
      cases part <;> grind

theorem AcceptedParts.split (h : AcceptedParts part domain) :
    rsplitOnce 0x40 (part ++ 0x40 :: domain) = some (part, domain) :=
  rsplitOnce_some.mpr ⟨rfl, h.once.2⟩

theorem parseV1_ok : parseV1 input = .ok e ↔ ∃ part domain, input = part ++ 0x40 :: domain
    ∧ AcceptedParts part domain ∧ e = ⟨part ++ 0x40 :: domain.map toAsciiLowercase⟩ := by
  constructor
  · intro h
    obtain ⟨htext, hrest⟩ := unit_bind.mp h
    obtain ⟨_, hbound, hascii, hprint⟩ := ensure_ok.mp htext
    obtain ⟨⟨part, domain⟩, hsplit, h⟩ := bind_ok.mp hrest
    obtain ⟨hparts, h⟩ := unit_bind.mp h
    obtain ⟨hp, hpl, hd, hdl, hpart, hdots⟩ := ensure_ok.mp hparts
    obtain ⟨hvalid, h⟩ := unit_bind.mp h
    cases h
    obtain ⟨rfl, hdomain⟩ := rsplitOnce_some.mp (require_ok.mp hsplit)
    exact ⟨part, domain, rfl, ⟨hbound, fun b hb => ⟨hascii b hb, hprint b hb⟩, ⟨hp, hpl, hd, hdl⟩,
      ⟨hpart, hdomain⟩, hdots, ensure_ok.mp hvalid⟩, rfl⟩
  · rintro ⟨part, domain, rfl, h, rfl⟩
    obtain ⟨hp, hpl, hd, hdl⟩ := h.lengths
    refine unit_bind.mpr ⟨ensure_of _ ?_, bind_ok.mpr ⟨(part, domain), ?_, ?_⟩⟩
    · exact ⟨by simp, h.bounded, fun b hb => (h.printable b hb).1, fun b hb => (h.printable b hb).2⟩
    · exact require_ok.mpr h.split
    · exact unit_bind.mpr ⟨ensure_of _ ⟨hp, hpl, hd, hdl, h.once.1, h.dots⟩,
        unit_bind.mpr ⟨ensure_of _ h.valid, rfl⟩⟩

/-! ## lowering the domain -/

/-- the byte has no other case -/
def Caseless (c : UInt8) : Prop := ∀ b, toAsciiLowercase b = c ↔ b = c

theorem caseless_of (h : isAsciiAlphanumeric c = false) : Caseless c := by
  intro b
  simp only [isAsciiAlphanumeric, isAsciiLowercase, isAsciiUppercase, Bool.or_eq_false_iff,
    Bool.and_eq_false_iff, decide_eq_false_iff_not] at h
  unfold toAsciiLowercase isAsciiUppercase
  grind

theorem isAsciiAlphanumeric_lower (b : UInt8) :
    isAsciiAlphanumeric (toAsciiLowercase b) = isAsciiAlphanumeric b := by
  unfold toAsciiLowercase
  split
  · unfold isAsciiAlphanumeric isAsciiLowercase isAsciiUppercase isAsciiDigit at *
    grind
  · rfl

theorem Caseless.mem (hc : Caseless c) : c ∈ domain.map toAsciiLowercase ↔ c ∈ domain := by
  simp only [List.mem_map, hc _, exists_eq_right]

theorem Caseless.head (hc : Caseless c) :
    (domain.map toAsciiLowercase).head? = some c ↔ domain.head? = some c := by
  simp only [List.head?_map, Option.map_eq_some_iff, hc _, exists_eq_right]

theorem Caseless.last (hc : Caseless c) :
    (domain.map toAsciiLowercase).getLast? = some c ↔ domain.getLast? = some c := by
  simp only [List.getLast?_map, Option.map_eq_some_iff, hc _, exists_eq_right]

theorem Caseless.split (hc : Caseless c) :
    split c (domain.map toAsciiLowercase) = (split c domain).map (List.map toAsciiLowercase) := by
  induction domain with
  | nil => rfl
  | cons b rest ih =>
    simp only [List.map_cons, OwlAuth.split, hc b, ih]
    split
    · rfl
    · cases OwlAuth.split c rest <;> rfl

theorem Caseless.twice (hc : Caseless c) (h : [c, c] <:+: domain.map toAsciiLowercase) :
    [c, c] <:+: domain := by
  obtain ⟨_, hin, hl⟩ := List.infix_map_iff.mp h
  obtain ⟨a, _, rfl, ha, hl⟩ := List.map_eq_cons_iff.mp hl.symm
  obtain ⟨b, _, rfl, hb, hl⟩ := List.map_eq_cons_iff.mp hl
  rw [(hc a).mp ha, (hc b).mp hb, List.map_eq_nil_iff.mp hl] at hin
  exact hin

theorem WellDotted.lowered (h : WellDotted domain) : WellDotted (domain.map toAsciiLowercase) := by
  have hdot : Caseless 0x2e := caseless_of rfl
  exact ⟨mt hdot.head.mp h.1, mt hdot.last.mp h.2.1, mt hdot.twice h.2.2⟩

theorem ValidLabel.lowered (h : ValidLabel domain) : ValidLabel (domain.map toAsciiLowercase) := by
  have hhyphen : Caseless 0x2d := caseless_of rfl
  obtain ⟨hne, hlen, hhead, hlast, hbytes⟩ := h
  refine ⟨mt List.map_eq_nil_iff.mp hne, by rw [List.length_map]; exact hlen,
    mt hhyphen.head.mp hhead, mt hhyphen.last.mp hlast, ?_⟩
  rw [List.forall_mem_map]
  intro b hb
  rw [isAsciiAlphanumeric_lower, hhyphen b]
  exact hbytes b hb

theorem ValidDomain.lowered (h : ValidDomain domain) :
    ValidDomain (domain.map toAsciiLowercase) := by
  unfold ValidDomain
  rw [(caseless_of rfl : Caseless 0x2e).split, List.forall_mem_map]
  exact fun label hlabel => (h label hlabel).lowered

theorem AcceptedParts.lowered (h : AcceptedParts part domain) :
    AcceptedParts part (domain.map toAsciiLowercase) := by
  obtain ⟨hp, hpl, hd, hdl⟩ := h.lengths
  have hat : Caseless 0x40 := caseless_of rfl
  have hdot : Caseless 0x2e := caseless_of rfl
  refine ⟨?_, ?_, ⟨hp, hpl, mt List.map_eq_nil_iff.mp hd, ?_⟩, ⟨h.once.1, mt hat.mem.mp h.once.2⟩,
    ⟨h.dots.1, h.dots.2.lowered⟩, h.valid.1, h.valid.2.1.lowered, hdot.mem.mpr h.valid.2.2⟩
  · have hb := h.bounded
    simp only [List.length_append, List.length_cons, List.length_map] at hb ⊢
    exact hb
  · have hb := h.printable
    simp only [List.forall_mem_append, List.forall_mem_cons, List.forall_mem_map] at hb ⊢
    refine ⟨hb.1, hb.2.1, fun b hmem => ?_⟩
    have hprint := hb.2.2 b hmem
    unfold toAsciiLowercase isAsciiUppercase
    unfold isAsciiControl at hprint ⊢
    grind
  · rw [List.length_map]
    exact hdl

/-! ## the normal form -/

/-- the bytes are equal, or the two cases of one letter -/
def SameLetter (a b : UInt8) : Prop :=
  a = b ∨ (isAsciiUppercase a = true ∧ b = a + 0x20) ∨ (isAsciiUppercase b = true ∧ a = b + 0x20)

theorem sameLetters_iff {domain'} : List.Forall₂ SameLetter domain domain'
    ↔ domain.map toAsciiLowercase = domain'.map toAsciiLowercase := by
  have hsame : SameLetter = fun a b => toAsciiLowercase a = toAsciiLowercase b := by
    funext a b
    refine propext ?_
    unfold SameLetter toAsciiLowercase isAsciiUppercase
    grind
  rw [hsame, ← List.forall₂_eq_eq_eq, List.forall₂_map_left_iff, List.forall₂_map_right_iff]

/-- Two accepted texts have the same canonical form just when their local parts are the same bytes
and their domains the same up to ASCII case; a canonical form is accepted, as it is. -/
theorem canonicalEmail_normal_form (h : parseV1 input = .ok e) (h' : parseV1 input' = .ok e') :
    (∃ part domain part' domain', input = part ++ 0x40 :: domain ∧ 0x40 ∉ part ++ domain
      ∧ input' = part' ++ 0x40 :: domain' ∧ 0x40 ∉ part' ++ domain'
      ∧ (e = e' ↔ part = part' ∧ List.Forall₂ SameLetter domain domain'))
      ∧ parseV1 e.expose = .ok e := by
  obtain ⟨part, domain, rfl, hp, rfl⟩ := parseV1_ok.mp h
  obtain ⟨part', domain', rfl, hp', rfl⟩ := parseV1_ok.mp h'
  refine ⟨⟨part, domain, part', domain', rfl, ?_, rfl, ?_, ?_⟩, ?_⟩
  · rw [List.mem_append, not_or]; exact hp.once
  · rw [List.mem_append, not_or]; exact hp'.once
  · rw [CanonicalEmail.mk.injEq, sameLetters_iff]
    constructor
    · intro heq
      have hsplit := hp.lowered.split
      rw [heq, hp'.lowered.split] at hsplit
      obtain ⟨hpart, hdomain⟩ := Prod.mk.inj (Option.some.inj hsplit)
      exact ⟨hpart.symm, hdomain.symm⟩
    · rintro ⟨rfl, hd⟩
      rw [hd]
  · refine parseV1_ok.mpr ⟨part, _, rfl, hp.lowered, ?_⟩
    have hidem : toAsciiLowercase ∘ toAsciiLowercase = toAsciiLowercase :=
      funext fun b => by unfold toAsciiLowercase isAsciiUppercase Function.comp; grind
    rw [List.map_map, hidem]

theorem shouted_domain_canonical :
    parseV1 (ascii "Owl@NEST.test") = .ok ⟨ascii "Owl@nest.test"⟩
      ∧ parseV1 (ascii "Owl@nest.test") = .ok ⟨ascii "Owl@nest.test"⟩ := by
  have h : parseV1 (ascii "Owl@NEST.test") = .ok ⟨ascii "Owl@nest.test"⟩ := by decide +kernel
  exact ⟨h, (canonicalEmail_normal_form h h).2⟩

end OwlAuth
