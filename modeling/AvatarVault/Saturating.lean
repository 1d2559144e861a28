/-!
Arithmetic on 64-bit counters that stops at the largest value instead of wrapping.
The lemmas say what each operation is in exact integers.
-/
namespace AvatarVault

/-- The 64-bit counter nearest to a natural number. -/
def clampUInt64 (n : Nat) : UInt64 := if n < UInt64.size then n.toUInt64 else 0xffffffffffffffff

/-- The sum, or the largest counter where the sum does not fit. -/
def saturatingAdd (a b : UInt64) : UInt64 := clampUInt64 (a.toNat + b.toNat)

/-- The product, or the largest counter where the product does not fit. -/
def saturatingMul (a b : UInt64) : UInt64 := clampUInt64 (a.toNat * b.toNat)

/-- The sum, where it fits. -/
def checkedAdd (a b : UInt64) : Option UInt64 :=
  if a.toNat + b.toNat < UInt64.size then some (a + b) else none

/-- The product, where it fits. -/
def checkedMul (a b : UInt64) : Option UInt64 :=
  if a.toNat * b.toNat < UInt64.size then some (a * b) else none

theorem toNat_clampUInt64 (n : Nat) : (clampUInt64 n).toNat = min n (UInt64.size - 1) := by
  unfold clampUInt64
  split
  · rename_i h
    simp only [Nat.toUInt64, UInt64.toNat_ofNat', UInt64.size] at *
    omega
  · rename_i h
    simp only [UInt64.size, UInt64.reduceToNat] at *
    omega

@[simp] theorem toNat_saturatingAdd (a b : UInt64) :
    (saturatingAdd a b).toNat = min (a.toNat + b.toNat) (UInt64.size - 1) :=
  toNat_clampUInt64 _

@[simp] theorem toNat_saturatingMul (a b : UInt64) :
    (saturatingMul a b).toNat = min (a.toNat * b.toNat) (UInt64.size - 1) :=
  toNat_clampUInt64 _

theorem toNat_of_checkedAdd {a b c : UInt64} (h : checkedAdd a b = some c) :
    c.toNat = a.toNat + b.toNat := by
  unfold checkedAdd at h
  split at h
  · rename_i hf
    rw [Option.some.injEq] at h
    rw [← h, UInt64.toNat_add, Nat.mod_eq_of_lt hf]
  · simp at h

theorem toNat_of_checkedMul {a b c : UInt64} (h : checkedMul a b = some c) :
    c.toNat = a.toNat * b.toNat := by
  unfold checkedMul at h
  split at h
  · rename_i hf
    rw [Option.some.injEq] at h
    rw [← h, UInt64.toNat_mul, Nat.mod_eq_of_lt hf]
  · simp at h

end AvatarVault
