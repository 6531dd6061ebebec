import Mathlib.Data.List.Rotate
import Mathlib.Data.Nat.ModEq

set_option autoImplicit false

namespace Storage

-- Two positions less than one lap apart share a slot only if they are equal.
theorem lap_unique (size low high : Nat) (ordered : low ≤ high) (near : high < low + size)
    (same : low % size = high % size) : low = high := by
  have divides : size ∣ high - low := (Nat.modEq_iff_dvd' ordered).mp same
  have zero : high - low = 0 := Nat.eq_zero_of_dvd_of_lt divides (by omega)
  omega

-- The one position of a slot in the lap that starts at base.
def lapPosition (size base slot : Nat) : Nat := base + (slot + size - base % size) % size

theorem lap_position_slot (size base slot : Nat) (bound : slot < size) : lapPosition size base slot % size = slot := by
  have low : base % size < size := Nat.mod_lt _ (by omega)
  unfold lapPosition
  rw [Nat.add_mod, Nat.mod_mod, ← Nat.add_mod_mod]
  rw [Nat.mod_mod, Nat.add_mod_mod, show base % size + (slot + size - base % size) = slot + size by omega,
    Nat.add_mod_right, Nat.mod_eq_of_lt bound]

theorem lap_position_near (size base slot : Nat) (pos : 0 < size) :
    base ≤ lapPosition size base slot ∧ lapPosition size base slot < base + size := by
  have low := Nat.mod_lt (slot + size - base % size) pos
  unfold lapPosition
  omega

-- The distance the ring code computes between two slots.
theorem ring_distance (size low high : Nat) (pos : 0 < size) (ordered : low ≤ high) :
    (high % size + size - low % size) % size = (high - low) % size := by
  have lowBound := Nat.mod_lt low pos
  have split : high % size + size - low % size = high % size + (size - low % size) := by omega
  have whole : high + (size - low % size) = (high - low) + size * (low / size + 1) := by
    have parts := Nat.div_add_mod low size
    rw [Nat.mul_add, Nat.mul_one]
    omega
  rw [split, Nat.mod_add_mod, whole, Nat.add_mul_mod_self_left]

theorem lap_rotation (size base : Nat) :
    ((List.range size).map fun k => (base + k) % size).Perm (List.range size) := by
  have rotated : ((List.range size).map fun k => (base + k) % size) = (List.range size).rotate base := by
    apply List.ext_getElem
    · simp
    · intro k left right
      simp [List.getElem_rotate, Nat.add_comm]
  rw [rotated]
  exact List.rotate_perm _ _

end Storage
