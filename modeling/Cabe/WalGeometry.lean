import Cabe.WalRecover
import Cabe.Storage.Ring

set_option autoImplicit false

namespace Cabe

open Storage

-- The ring in blocks. Frame numbers and block numbers here are virtual: they
-- never wrap, and the position on the device is the number modulo the ring.
structure Ring where
  blocks : Nat
  room : 2 ≤ blocks

def Ring.slots (g : Ring) : Nat := 32 * g.blocks
def Ring.bytes (g : Ring) : Nat := 4096 * g.blocks
def Ring.blockOff (g : Ring) (b : Nat) : Nat := 8192 + 4096 * (b % g.blocks)
def Ring.slotOff (g : Ring) (v : Nat) : Nat := 8192 + 128 * (v % g.slots)

-- Blocks from this one up to the physical end of the ring.
def Ring.toSeam (g : Ring) (b : Nat) : Nat := g.blocks - b % g.blocks

def slotBytes (img : Image) (p : Nat) : Bytes := read img (8192 + 128 * p) 128

@[simp] theorem slot_bytes_length (img : Image) (p : Nat) : (slotBytes img p).length = 128 := by
  simp [slotBytes]

theorem Ring.blocks_pos (g : Ring) : 0 < g.blocks := Nat.lt_of_lt_of_le (by decide) g.room

theorem Ring.slots_pos (g : Ring) : 0 < g.slots := Nat.mul_pos (by decide) g.blocks_pos

theorem Ring.slot_lt (g : Ring) (v : Nat) : v % g.slots < g.slots := Nat.mod_lt _ g.slots_pos

theorem Ring.block_lt (g : Ring) (b : Nat) : b % g.blocks < g.blocks := Nat.mod_lt _ g.blocks_pos

theorem Ring.slot_run (g : Ring) (b i : Nat) (inside : 32 * (b % g.blocks) + i < g.slots) :
    (32 * b + i) % g.slots = 32 * (b % g.blocks) + i := by
  have whole : 32 * b + i = 32 * g.blocks * (b / g.blocks) + (32 * (b % g.blocks) + i) := by
    have parts := Nat.div_add_mod b g.blocks
    calc 32 * b + i = 32 * (g.blocks * (b / g.blocks) + b % g.blocks) + i := by rw [parts]
      _ = 32 * g.blocks * (b / g.blocks) + (32 * (b % g.blocks) + i) := by rw [Nat.mul_add, Nat.mul_assoc, Nat.add_assoc]
  rw [Ring.slots] at inside ⊢
  rw [whole, Nat.mul_add_mod_self_left, Nat.mod_eq_of_lt inside]

theorem Ring.slot_parts (g : Ring) (v : Nat) : v % g.slots = 32 * (v / 32 % g.blocks) + v % 32 := by
  have bound := g.block_lt (v / 32)
  rw [← g.slot_run (v / 32) (v % 32) (by rw [Ring.slots]; omega), Nat.div_add_mod]

theorem Ring.slot_off_parts (g : Ring) (v : Nat) : g.slotOff v = g.blockOff (v / 32) + 128 * (v % 32) := by
  rw [Ring.slotOff, Ring.blockOff, g.slot_parts v]
  omega

theorem Ring.block_floor_slot (g : Ring) (v : Nat) : blockFloor (g.slotOff v) = g.blockOff (v / 32) := by
  rw [g.slot_off_parts v, Ring.blockOff, blockFloor, kWalBlockSize]
  omega

theorem Ring.block_off_bounds (g : Ring) (b : Nat) : 8192 ≤ g.blockOff b ∧ g.blockOff b + 4096 ≤ 8192 + g.bytes := by
  have bound := g.block_lt b
  rw [Ring.blockOff, Ring.bytes]
  omega

theorem Ring.block_off_aligned (g : Ring) (b : Nat) : g.blockOff b % 4096 = 0 := by
  rw [Ring.blockOff]
  omega

-- The wrap of the source: at the physical end the next position is the start.
theorem Ring.block_off_add (g : Ring) (b k : Nat) (fits : k ≤ g.toSeam b) :
    g.blockOff (b + k) = if g.blockOff b + 4096 * k = 8192 + g.bytes then 8192 else g.blockOff b + 4096 * k := by
  have bound := g.block_lt b
  unfold Ring.toSeam at fits
  unfold Ring.blockOff Ring.bytes
  rw [Nat.add_mod]
  by_cases seam : b % g.blocks + k = g.blocks
  · have wrapped : (b % g.blocks + k % g.blocks) % g.blocks = 0 := by
      rw [Nat.add_mod_mod, seam, Nat.mod_self]
    rw [if_pos (by omega), wrapped]
  · have inside : (b % g.blocks + k % g.blocks) % g.blocks = b % g.blocks + k := by
      rw [Nat.add_mod_mod, Nat.mod_eq_of_lt (by omega)]
    rw [if_neg (by omega), inside]
    omega

theorem Ring.to_seam_pos (g : Ring) (b : Nat) : 0 < g.toSeam b := by
  have bound := g.block_lt b
  unfold Ring.toSeam
  omega

theorem Ring.to_seam_add (g : Ring) (b k : Nat) (fits : k < g.toSeam b) : g.toSeam (b + k) = g.toSeam b - k := by
  have bound := g.block_lt b
  unfold Ring.toSeam at fits ⊢
  rw [Nat.add_mod, Nat.add_mod_mod, Nat.mod_eq_of_lt (show b % g.blocks + k < g.blocks by omega)]
  omega

theorem Ring.seam_off (g : Ring) (b : Nat) : 8192 + g.bytes - g.blockOff b = 4096 * g.toSeam b := by
  have bound := g.block_lt b
  unfold Ring.toSeam Ring.blockOff Ring.bytes
  omega

theorem Ring.slot_off_next (g : Ring) (v : Nat) :
    g.slotOff (v + 1) = if g.slotOff v + 128 = 8192 + g.bytes then 8192 else g.slotOff v + 128 := by
  have bound := g.slot_lt v
  have size : g.bytes = 128 * g.slots := by
    rw [Ring.bytes, Ring.slots]
    omega
  have two : 1 < g.slots := by
    have := g.room
    rw [Ring.slots]
    omega
  unfold Ring.slotOff
  rw [size, Nat.add_mod, Nat.mod_eq_of_lt two]
  by_cases seam : v % g.slots + 1 = g.slots
  · rw [seam, Nat.mod_self, if_pos (by omega)]
  · rw [Nat.mod_eq_of_lt (show v % g.slots + 1 < g.slots by omega), if_neg (by omega)]
    omega

theorem Ring.slot_off_bounds (g : Ring) (v : Nat) : 8192 ≤ g.slotOff v ∧ g.slotOff v + 128 ≤ 8192 + g.bytes := by
  have bound := g.slot_lt v
  rw [Ring.slotOff, Ring.bytes]
  unfold Ring.slots at bound ⊢
  omega

-- The distances WindowAt, ReclaimUpTo and the self-check compute.
theorem Ring.block_distance (g : Ring) (head b : Nat) (ordered : head ≤ b) :
    (g.blockOff b + g.bytes - g.blockOff head) % g.bytes = 4096 * ((b - head) % g.blocks) := by
  have bound := g.block_lt head
  have same : g.blockOff b + g.bytes - g.blockOff head = 4096 * (b % g.blocks + g.blocks - head % g.blocks) := by
    rw [Ring.blockOff, Ring.blockOff, Ring.bytes]
    omega
  rw [same, Ring.bytes, Nat.mul_mod_mul_left, ring_distance g.blocks head b g.blocks_pos ordered]

theorem Ring.same_slot (g : Ring) (u v : Nat) (ordered : u ≤ v) (near : v < u + g.slots)
    (same : u % g.slots = v % g.slots) : u = v := lap_unique g.slots u v ordered near same

-- A frame never crosses a sector.
theorem slot_in_sector (p i : Nat) (bound : i < 128) :
    (8192 + 128 * p + i) / kSectorSize = (8192 + 128 * p) / kSectorSize := by
  rw [kSectorSize]
  omega

end Cabe
