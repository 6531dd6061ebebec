import Mathlib.Data.List.Basic

set_option autoImplicit false

namespace Checksum

variable {w : Nat}

-- A reflected shift register. Its lowest bit leaves, and a set one takes the
-- polynomial with it.
def shiftStep (poly c : BitVec w) : BitVec w := (c >>> 1) ^^^ (if c.getLsbD 0 then poly else 0#w)

def shifts (poly : BitVec w) : Nat → BitVec w → BitVec w
  | 0, c => c
  | n + 1, c => shifts poly n (shiftStep poly c)

def bitWord (bit : Bool) : BitVec w := (BitVec.ofBool bit).setWidth w

def feedBits (poly : BitVec w) (c : BitVec w) (bits : List Bool) : BitVec w :=
  bits.foldl (fun c bit => shiftStep poly (c ^^^ bitWord bit)) c

-- Bits as one word, the first of them lowest.
def packed : List Bool → BitVec w
  | [] => 0#w
  | bit :: rest => bitWord bit ^^^ (packed rest <<< 1)

theorem bit_word_bit (bit : Bool) (i : Nat) :
    (bitWord bit : BitVec w).getLsbD i = (decide (i < w) && decide (i = 0) && bit) := by
  cases i <;> simp [bitWord, BitVec.getLsbD_setWidth]

theorem packed_bit (bits : List Bool) (i : Nat) (inside : i < w) :
    (packed bits : BitVec w).getLsbD i = (bits[i]?).getD false := by
  induction bits generalizing i with
  | nil => simp [packed]
  | cons bit rest ih =>
      rw [packed, BitVec.getLsbD_xor, bit_word_bit, BitVec.getLsbD_shiftLeft]
      cases i with
      | zero => simp [inside]
      | succ i =>
          rw [Nat.add_sub_cancel, ih i (by omega)]
          simp [inside]

theorem packed_past (bits : List Bool) (i : Nat) (past : bits.length ≤ i) : (packed bits : BitVec w).getLsbD i = false := by
  by_cases inside : i < w
  · rw [packed_bit bits i inside, List.getElem?_eq_none past]
    rfl
  · exact BitVec.getLsbD_of_ge _ _ (Nat.le_of_not_lt inside)

theorem packed_injective (a b : List Bool) (len : a.length = b.length) (short : a.length ≤ w)
    (same : (packed a : BitVec w) = packed b) : a = b := by
  apply List.ext_getElem len
  intro i left right
  have bit := congrArg (fun word => BitVec.getLsbD word i) same
  simpa [packed_bit _ i (Nat.lt_of_lt_of_le left short), left, right] using bit

theorem shift_step_bit (poly c : BitVec w) (i : Nat) :
    (shiftStep poly c).getLsbD i = (c.getLsbD (1 + i) ^^ (c.getLsbD 0 && poly.getLsbD i)) := by
  rw [shiftStep, BitVec.getLsbD_xor, BitVec.getLsbD_ushiftRight]
  cases c.getLsbD 0 <;> simp

theorem shift_step_xor (poly a b : BitVec w) : shiftStep poly (a ^^^ b) = shiftStep poly a ^^^ shiftStep poly b := by
  apply BitVec.eq_of_getLsbD_eq
  intro i _
  simp only [BitVec.getLsbD_xor, shift_step_bit]
  cases a.getLsbD (1 + i) <;> cases b.getLsbD (1 + i) <;> cases a.getLsbD 0 <;> cases b.getLsbD 0 <;> cases poly.getLsbD i <;> rfl

theorem shifts_xor (poly a b : BitVec w) (n : Nat) : shifts poly n (a ^^^ b) = shifts poly n a ^^^ shifts poly n b := by
  induction n generalizing a b with
  | zero => rfl
  | succ n ih => rw [shifts, shifts, shifts, shift_step_xor, ih]

-- A bit that has just come in from below leaves again unseen.
theorem shift_step_up (poly c : BitVec w) (room : c.getLsbD (w - 1) = false) : shiftStep poly (c <<< 1) = c := by
  apply BitVec.eq_of_getLsbD_eq
  intro i inside
  rw [shift_step_bit, BitVec.getLsbD_shiftLeft, BitVec.getLsbD_shiftLeft, Nat.add_sub_cancel_left]
  by_cases last : 1 + i < w
  · simp [last]
  · have top : i = w - 1 := by omega
    rw [top, room]
    simp

-- Low bits that are all clear only move the others down.
theorem shifts_clear (poly c : BitVec w) (n : Nat) (clear : ∀ i < n, c.getLsbD i = false) : shifts poly n c = c >>> n := by
  induction n generalizing c with
  | zero => simp [shifts]
  | succ n ih =>
      have low : c.getLsbD 0 = false := clear 0 (by omega)
      have step : shiftStep poly c = c >>> 1 := by simp [shiftStep, low]
      rw [shifts, step, ih, ← BitVec.shiftRight_add, Nat.add_comm]
      intro i bound
      rw [BitVec.getLsbD_ushiftRight]
      exact clear (1 + i) (by omega)

-- Only the bits that leave meet the polynomial.
theorem shifts_split (poly c low : BitVec w) (n : Nat) (agree : ∀ i < n, low.getLsbD i = c.getLsbD i)
    (clear : ∀ i, n ≤ i → low.getLsbD i = false) : shifts poly n c = shifts poly n low ^^^ (c >>> n) := by
  have parts : c = low ^^^ (c ^^^ low) := by
    rw [BitVec.xor_comm c low, ← BitVec.xor_assoc, BitVec.xor_self, BitVec.zero_xor]
  have high : shifts poly n (c ^^^ low) = c >>> n := by
    rw [shifts_clear]
    · apply BitVec.eq_of_getLsbD_eq
      intro i _
      simp [clear (n + i) (by omega)]
    · intro i bound
      simp [agree i bound]
  calc shifts poly n c = shifts poly n (low ^^^ (c ^^^ low)) := by rw [← parts]
    _ = shifts poly n low ^^^ (c >>> n) := by rw [shifts_xor, high]

theorem feed_bits_append (poly c : BitVec w) (a b : List Bool) :
    feedBits poly c (a ++ b) = feedBits poly (feedBits poly c a) b := by
  simp [feedBits]

-- Bits that fit the register may be added all at once.
theorem feed_bits_packed (poly c : BitVec w) (bits : List Bool) (short : bits.length ≤ w) :
    feedBits poly c bits = shifts poly bits.length (c ^^^ packed bits) := by
  induction bits generalizing c with
  | nil => simp [feedBits, shifts, packed]
  | cons bit rest ih =>
      have len : rest.length + 1 ≤ w := short
      have room : (packed rest : BitVec w).getLsbD (w - 1) = false := packed_past rest (w - 1) (by omega)
      have later := ih (shiftStep poly (c ^^^ bitWord bit)) (by omega)
      rw [feedBits, List.foldl_cons, ← feedBits, later, List.length_cons, shifts, packed, ← BitVec.xor_assoc,
        shift_step_xor poly (c ^^^ bitWord bit), shift_step_up poly _ room]

section Invertible

-- The highest bit of the polynomial records the bit that left.
variable (poly : BitVec w) (top : poly.getLsbD (w - 1) = true)

include top

theorem shift_step_injective (a b : BitVec w) (same : shiftStep poly a = shiftStep poly b) : a = b := by
  have low : a.getLsbD 0 = b.getLsbD 0 := by
    have bit := congrArg (fun word => BitVec.getLsbD word (w - 1)) same
    have high (c : BitVec w) : c.getLsbD (1 + (w - 1)) = false := BitVec.getLsbD_of_ge _ _ (by omega)
    simpa [shift_step_bit, top, high] using bit
  apply BitVec.eq_of_getLsbD_eq
  intro i _
  cases i with
  | zero => exact low
  | succ i =>
      have bit := congrArg (fun word => BitVec.getLsbD word i) same
      simpa [shift_step_bit, low, Nat.add_comm 1 i] using bit

theorem shifts_injective (n : Nat) (a b : BitVec w) (same : shifts poly n a = shifts poly n b) : a = b := by
  induction n generalizing a b with
  | zero => exact same
  | succ n ih => exact shift_step_injective poly top a b (ih _ _ same)

theorem feed_bits_injective (bits : List Bool) (a b : BitVec w) (same : feedBits poly a bits = feedBits poly b bits) : a = b := by
  induction bits generalizing a b with
  | nil => exact same
  | cons bit rest ih =>
      have before := shift_step_injective poly top _ _ (ih _ _ same)
      have undone := congrArg (fun word => word ^^^ bitWord bit) before
      simpa [BitVec.xor_assoc] using undone

-- Two messages that differ in a stretch no longer than the register leave
-- different registers.
theorem burst_apart (c : BitVec w) (a b : List Bool) (len : a.length = b.length) (from_ : Nat)
    (outside : ∀ i, i < from_ ∨ from_ + w ≤ i → a[i]? = b[i]?) (same : feedBits poly c a = feedBits poly c b) : a = b := by
  have split (bits : List Bool) : bits = bits.take from_ ++ ((bits.drop from_).take w ++ bits.drop (from_ + w)) := by
    rw [← List.drop_drop, List.take_append_drop, List.take_append_drop]
  have before : a.take from_ = b.take from_ := by
    apply List.ext_getElem?
    intro i
    rw [List.getElem?_take, List.getElem?_take]
    split
    · exact outside i (.inl (by assumption))
    · rfl
  have after : a.drop (from_ + w) = b.drop (from_ + w) := by
    apply List.ext_getElem?
    intro i
    rw [List.getElem?_drop, List.getElem?_drop]
    exact outside _ (.inr (by omega))
  have burst : (a.drop from_).take w = (b.drop from_).take w := by
    have lens : ((a.drop from_).take w).length = ((b.drop from_).take w).length := by simp [len]
    have short : ((a.drop from_).take w).length ≤ w := List.length_take_le ..
    rw [split a, split b, before, after] at same
    simp only [feed_bits_append] at same
    have middle := feed_bits_injective poly top _ _ _ same
    generalize feedBits poly c (b.take from_) = register at middle
    rw [feed_bits_packed _ _ _ short, feed_bits_packed _ _ _ (lens ▸ short), lens] at middle
    have words := shifts_injective poly top _ _ _ middle
    have undone := congrArg (fun word => register ^^^ word) words
    simp only [← BitVec.xor_assoc, BitVec.xor_self, BitVec.zero_xor] at undone
    exact packed_injective _ _ lens short undone
  rw [split a, split b, before, burst, after]

-- A message with the complement of its own register behind it leaves the same
-- register whatever the message is, and no other last word does.
theorem residue_iff (c : BitVec w) (body stored : List Bool) (len : stored.length = w) :
    feedBits poly c (body ++ stored) = shifts poly w (BitVec.allOnes w) ↔ packed stored = ~~~ feedBits poly c body := by
  rw [feed_bits_append, feed_bits_packed _ _ _ (Nat.le_of_eq len), len]
  constructor
  · intro same
    have sum := shifts_injective poly top _ _ _ same
    have undone := congrArg (fun word => feedBits poly c body ^^^ word) sum
    rw [← BitVec.xor_assoc, BitVec.xor_self, BitVec.zero_xor, BitVec.xor_allOnes] at undone
    exact undone
  · intro same
    rw [same, ← BitVec.xor_allOnes, ← BitVec.xor_assoc, BitVec.xor_self, BitVec.zero_xor]

end Invertible

end Checksum
