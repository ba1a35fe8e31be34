import Mathlib.Algebra.Order.Ring.Nat
import Mathlib.Data.List.Induction
import Mathlib.Tactic.IntervalCases

/-!
# Numbers as octets, and framed fields

A number below `256 ^ n` has `n` octets, the first one the most significant.

* `octet n v i`  octet `i` of `v`;
* `number l`  the number with the octets `l`;
* `startsWith_iff`  the first octets of a number are its quotient by a power of 256;
* `bigEndian n v`  the octets as bytes, and `bigEndian_inj`;
* `InBlock w v base len`  the first `len` bits of `v` are those of `base`; `inBlock_iff` says so octet
    by octet;
* `field tag value`  a tag, the length of a value in four bytes and the value; `field_append_inj`
    reads the first field of a sequence back;
* `frame value`  the same without a tag and with eight bytes; `frame_append_inj`.
-/

namespace Octets

def octet (n v i : Nat) : Nat := v / 256 ^ (n - 1 - i) % 256

def number (l : List Nat) : Nat := l.foldl (fun acc o => 256 * acc + o) 0

/-- the octets of `v` from the `i`th on are those of the list -/
def AgreesFrom (n v : Nat) : Nat → List Nat → Prop
  | _, [] => True
  | i, o :: l => octet n v i = o ∧ AgreesFrom n v (i + 1) l

instance AgreesFrom.decidable (n v : Nat) : ∀ (i : Nat) (l : List Nat), Decidable (AgreesFrom n v i l)
  | _, [] => isTrue trivial
  | i, o :: l =>
    have := AgreesFrom.decidable n v (i + 1) l
    inferInstanceAs (Decidable (octet n v i = o ∧ AgreesFrom n v (i + 1) l))

/-- the first octets of `v` are those of the list -/
def StartsWith (n v : Nat) (l : List Nat) : Prop := AgreesFrom n v 0 l

instance (n v : Nat) (l : List Nat) : Decidable (StartsWith n v l) :=
  AgreesFrom.decidable n v 0 l

theorem octet_lt (n v i : Nat) : octet n v i < 256 := Nat.mod_lt _ (by decide)

theorem number_concat (l : List Nat) (o : Nat) : number (l ++ [o]) = 256 * number l + o := by
  unfold number
  rw [List.foldl_append, List.foldl_cons, List.foldl_nil]

variable {n v o v' k : Nat} {l : List Nat}

theorem agreesFrom_concat : ∀ {i : Nat},
    AgreesFrom n v i (l ++ [o]) ↔ AgreesFrom n v i l ∧ octet n v (i + l.length) = o := by
  induction l with
  | nil =>
    intro i
    exact ⟨fun h => ⟨trivial, h.1⟩, fun h => ⟨h.2, trivial⟩⟩
  | cons x l ih =>
    intro i
    have hi : i + 1 + l.length = i + (x :: l).length := by rw [List.length_cons]; omega
    show octet n v i = x ∧ AgreesFrom n v (i + 1) (l ++ [o])
      ↔ (octet n v i = x ∧ AgreesFrom n v (i + 1) l) ∧ octet n v (i + (x :: l).length) = o
    rw [ih, hi, and_assoc]

theorem startsWith_concat :
    StartsWith n v (l ++ [o]) ↔ StartsWith n v l ∧ octet n v l.length = o := by
  unfold StartsWith
  rw [agreesFrom_concat, Nat.zero_add]

theorem startsWith_octets (k : Nat) (h : ∀ i < k, octet n v' i = octet n v i) :
    StartsWith n v' ((List.range k).map (octet n v)) := by
  induction k with
  | zero => exact trivial
  | succ k ih =>
    rw [List.range_succ, List.map_append, List.map_singleton, startsWith_concat]
    refine ⟨ih fun i hi => h i (by omega), ?_⟩
    rw [List.length_map, List.length_range]
    exact h k (by omega)

theorem startsWith_iff (hv : v < 256 ^ n) (hl : l.length ≤ n) (ho : ∀ o ∈ l, o < 256) :
    StartsWith n v l ↔ v / 256 ^ (n - l.length) = number l := by
  induction l using List.reverseRecOn with
  | nil =>
    rw [List.length_nil, Nat.sub_zero, Nat.div_eq_of_lt hv]
    exact ⟨fun _ => rfl, fun _ => trivial⟩
  | append_singleton l o ih =>
    rw [List.length_append, List.length_singleton] at hl ⊢
    have hlt : o < 256 := ho o (List.mem_append_right l (List.mem_singleton.mpr rfl))
    have hrest := ih (by omega) fun x hx => ho x (List.mem_append_left [o] hx)
    -- one octet further, the quotient has one digit more
    have hpow : 256 ^ (n - l.length) = 256 ^ (n - (l.length + 1)) * 256 := by
      rw [← Nat.pow_succ]
      congr 1
      omega
    have hq : v / 256 ^ (n - l.length) = v / 256 ^ (n - (l.length + 1)) / 256 := by
      rw [hpow, Nat.div_div_eq_div_mul]
    have hi : n - 1 - l.length = n - (l.length + 1) := by omega
    rw [startsWith_concat, hrest, number_concat, octet, hi, hq]
    generalize v / 256 ^ (n - (l.length + 1)) = q
    omega

/-! ## bytes -/

def bigEndian (n v : Nat) : List UInt8 := (List.range n).map fun i => UInt8.ofNat (octet n v i)

@[simp] theorem length_bigEndian (n v : Nat) : (bigEndian n v).length = n := by
  simp [bigEndian]

theorem octet_of_bigEndian (h : bigEndian n v = bigEndian n v') {i} (hi : i < n) :
    octet n v i = octet n v' i := by
  have hbyte : UInt8.ofNat (octet n v i) = UInt8.ofNat (octet n v' i) :=
    List.map_inj_left.mp h i (List.mem_range.mpr hi)
  have hnat := congrArg UInt8.toNat hbyte
  rw [UInt8.toNat_ofNat', UInt8.toNat_ofNat', Nat.mod_eq_of_lt (octet_lt n v i),
    Nat.mod_eq_of_lt (octet_lt n v' i)] at hnat
  exact hnat

theorem bigEndian_inj (hv : v < 256 ^ n) (hv' : v' < 256 ^ n) (h : bigEndian n v = bigEndian n v') :
    v = v' := by
  have hlen : ((List.range n).map (octet n v)).length = n := by simp
  have hoct : ∀ o ∈ (List.range n).map (octet n v), o < 256 := by
    intro o ho
    obtain ⟨i, _, rfl⟩ := List.mem_map.mp ho
    exact octet_lt n v i
  have hstart : StartsWith n v ((List.range n).map (octet n v)) :=
    startsWith_octets n fun _ _ => rfl
  have hstart' : StartsWith n v' ((List.range n).map (octet n v)) :=
    startsWith_octets n fun i hi => (octet_of_bigEndian h hi).symm
  have hn := (startsWith_iff hv (by omega) hoct).mp hstart
  have hn' := (startsWith_iff hv' (by omega) hoct).mp hstart'
  rw [hlen, Nat.sub_self, Nat.pow_zero, Nat.div_one] at hn hn'
  rw [hn, hn']

/-! ## blocks of numbers -/

/-- the numbers of `w` bits whose first `len` bits are those of `base` -/
def InBlock (w v base len : Nat) : Prop := v / 2 ^ (w - len) = base / 2 ^ (w - len)
  deriving Decidable

theorem inBlock_iff (hv : v < 256 ^ n) (hl : l.length < n) (ho : ∀ x ∈ l ++ [o], x < 256)
    (hk : k ≤ 8) :
    InBlock (8 * n) v (number (l ++ [o]) * 256 ^ (n - (l.length + 1))) (8 * l.length + k)
      ↔ StartsWith n v l ∧ octet n v l.length / 2 ^ (8 - k) = o / 2 ^ (8 - k) := by
  have hpow : 2 ^ (8 * n - (8 * l.length + k)) = 256 ^ (n - (l.length + 1)) * 2 ^ (8 - k) := by
    rw [show (256 : Nat) = 2 ^ 8 from rfl, ← Nat.pow_mul, ← Nat.pow_add]
    congr 1
    omega
  have hnext : 256 ^ (n - l.length) = 256 ^ (n - (l.length + 1)) * 256 := by
    rw [← Nat.pow_succ]
    congr 1
    omega
  have hpos : 0 < 256 ^ (n - (l.length + 1)) := Nat.pow_pos (by decide)
  have hlast : o < 256 := ho o (List.mem_append_right l (List.mem_singleton.mpr rfl))
  rw [startsWith_iff hv (Nat.le_of_lt hl) fun x hx => ho x (List.mem_append_left [o] hx), InBlock,
    hpow, hnext, ← Nat.div_div_eq_div_mul, ← Nat.div_div_eq_div_mul, ← Nat.div_div_eq_div_mul,
    Nat.mul_div_cancel _ hpos, number_concat, octet,
    show n - 1 - l.length = n - (l.length + 1) by omega]
  clear hpow
  interval_cases k <;> omega

theorem inBlock_octets (hv : v < 256 ^ n) (hl : l.length ≤ n) (ho : ∀ x ∈ l, x < 256) :
    InBlock (8 * n) v (number l * 256 ^ (n - l.length)) (8 * l.length) ↔ StartsWith n v l := by
  have hpow : 2 ^ (8 * n - 8 * l.length) = 256 ^ (n - l.length) := by
    rw [show (256 : Nat) = 2 ^ 8 from rfl, ← Nat.pow_mul, Nat.mul_sub]
  have hpos : 0 < 256 ^ (n - l.length) := Nat.pow_pos (by decide)
  rw [startsWith_iff hv hl ho, InBlock, hpow, Nat.mul_div_cancel _ hpos]

theorem land_mask : ∀ x : Fin 256, ∀ k : Fin 9,
    x.val &&& (256 - 2 ^ k.val) = x.val / 2 ^ k.val * 2 ^ k.val := by
  decide +kernel

theorem octet_land {i} (k : Nat) (hk : k < 9) :
    octet n v i &&& (256 - 2 ^ k) = octet n v i / 2 ^ k * 2 ^ k :=
  land_mask ⟨octet n v i, octet_lt n v i⟩ ⟨k, hk⟩

/-! ## framed fields -/

def field (tag : UInt8) (value : List UInt8) : List UInt8 :=
  tag :: bigEndian 4 value.length ++ value

theorem length_field (tag : UInt8) (value : List UInt8) :
    (field tag value).length = 5 + value.length := by
  simp [field]
  omega

theorem field_append_inj {t t' value value' rest rest'}
    (hl : value.length < 256 ^ 4) (hl' : value'.length < 256 ^ 4)
    (h : field t value ++ rest = field t' value' ++ rest') :
    t = t' ∧ value = value' ∧ rest = rest' := by
  unfold field at h
  rw [List.cons_append, List.cons_append, List.append_assoc, List.append_assoc] at h
  obtain ⟨ht, h⟩ := List.cons.inj h
  obtain ⟨hsize, h⟩ := List.append_inj h (by simp)
  have hlen : value.length = value'.length := bigEndian_inj hl hl' hsize
  obtain ⟨hvalue, hrest⟩ := List.append_inj h hlen
  exact ⟨ht, hvalue, hrest⟩

/-- the length of a value in eight bytes and the value -/
def frame (value : List UInt8) : List UInt8 := bigEndian 8 value.length ++ value

theorem frame_append_inj {value value' rest rest'} (hl : value.length < 2 ^ 64)
    (hl' : value'.length < 2 ^ 64) (h : frame value ++ rest = frame value' ++ rest') :
    value = value' ∧ rest = rest' := by
  unfold frame at h
  rw [List.append_assoc, List.append_assoc] at h
  obtain ⟨hsize, h⟩ := List.append_inj h (by simp)
  exact List.append_inj h (bigEndian_inj hl hl' hsize)

end Octets
