import Mathlib.Algebra.Group.Nat.Defs
import Mathlib.Data.List.Basic

set_option autoImplicit false

namespace Storage

abbrev Bytes := List UInt8

-- The whole content of a device, one byte for each offset.
abbrev Image := Nat → UInt8

def read (img : Image) (off len : Nat) : Bytes := (List.range len).map fun i => img (off + i)

def write (img : Image) (off : Nat) (bytes : Bytes) : Image :=
  fun o => if off ≤ o then (bytes[o - off]?).getD (img o) else img o

-- The part of a byte string that a fixed-size record at this offset occupies.
def slice (bytes : Bytes) (at_ len : Nat) : Bytes := (bytes.drop at_).take len

def zeros (len : Nat) : Bytes := List.replicate len 0

@[simp] theorem read_length (img : Image) (off len : Nat) : (read img off len).length = len := by
  simp [read]

@[simp] theorem zeros_length (len : Nat) : (zeros len).length = len := by
  simp [zeros]

theorem zeros_drop (len count : Nat) : (zeros len).drop count = zeros (len - count) := by
  simp [zeros]

theorem read_getElem? (img : Image) (off len i : Nat) (bound : i < len) :
    (read img off len)[i]? = some (img (off + i)) := by
  simp [read, bound]

theorem read_congr (a b : Image) (off len : Nat) (same : ∀ i < len, a (off + i) = b (off + i)) :
    read a off len = read b off len := by
  unfold read
  apply List.map_congr_left
  intro i member
  exact same i (by simpa using member)

theorem read_eq_at (a b : Image) (off len i : Nat) (same : read a off len = read b off len) (bound : i < len) :
    a (off + i) = b (off + i) := by
  have both := congrArg (fun bytes => bytes[i]?) same
  simpa [read_getElem? _ _ _ _ bound] using both

theorem read_zeros (img : Image) (off len : Nat) (zero : ∀ i < len, img (off + i) = 0) : read img off len = zeros len := by
  apply List.ext_getElem (by simp)
  intro i left right
  have bound : i < len := by simpa using left
  simp [read, zeros, zero i bound]

theorem read_append (img : Image) (off a b : Nat) :
    read img off (a + b) = read img off a ++ read img (off + a) b := by
  simp [read, List.range_add, Nat.add_assoc]

theorem read_take (img : Image) (off len count : Nat) (fits : count ≤ len) :
    (read img off len).take count = read img off count := by
  rw [show len = count + (len - count) by omega, read_append, List.take_left' (by simp)]

theorem slice_length (bytes : Bytes) (off len : Nat) (fits : off + len ≤ bytes.length) :
    (slice bytes off len).length = len := by
  simp only [slice, List.length_take, List.length_drop]
  omega

theorem slice_getElem? (bytes : Bytes) (off len i : Nat) (bound : i < len) :
    (slice bytes off len)[i]? = bytes[off + i]? := by
  simp [slice, bound]

theorem slice_ext (a b : Bytes) (offA offB len : Nat) (fitsA : offA + len ≤ a.length)
    (fitsB : offB + len ≤ b.length) (same : ∀ i < len, a[offA + i]? = b[offB + i]?) :
    slice a offA len = slice b offB len := by
  apply List.ext_getElem?
  intro i
  by_cases bound : i < len
  · simpa only [slice_getElem? _ _ _ _ bound] using same i bound
  · rw [List.getElem?_eq_none (by rw [slice_length _ _ _ fitsA]; omega),
      List.getElem?_eq_none (by rw [slice_length _ _ _ fitsB]; omega)]

theorem slice_read (img : Image) (off len at_ size : Nat) (fits : at_ + size ≤ len) :
    slice (read img off len) at_ size = read img (off + at_) size := by
  apply List.ext_getElem?
  intro i
  by_cases bound : i < size
  · rw [slice_getElem? _ _ _ _ bound, read_getElem? _ _ _ _ (by omega), read_getElem? _ _ _ _ bound, Nat.add_assoc]
  · rw [List.getElem?_eq_none (by rw [slice_length _ _ _ (by simpa using fits)]; omega),
      List.getElem?_eq_none (by simp; omega)]

theorem slice_take (bytes : Bytes) (off len total : Nat) (fits : off + len ≤ total) :
    slice (bytes.take total) off len = slice bytes off len := by
  apply List.ext_getElem?
  intro i
  by_cases bound : i < len
  · rw [slice_getElem? _ _ _ _ bound, slice_getElem? _ _ _ _ bound, List.getElem?_take_of_lt (by omega)]
  · rw [List.getElem?_eq_none (by simp [slice]; omega), List.getElem?_eq_none (by simp [slice]; omega)]

theorem write_inside (img : Image) (off o : Nat) (bytes : Bytes) (lower : off ≤ o) (upper : o < off + bytes.length) :
    write img off bytes o = (bytes[o - off]?).getD 0 := by
  have bound : o - off < bytes.length := by omega
  simp [write, lower, List.getElem?_eq_getElem bound]

theorem write_outside (img : Image) (off o : Nat) (bytes : Bytes) (outside : o < off ∨ off + bytes.length ≤ o) :
    write img off bytes o = img o := by
  unfold write
  split
  · rw [List.getElem?_eq_none (by omega), Option.getD_none]
  · rfl

theorem read_write_inside (img : Image) (off at_ len : Nat) (bytes : Bytes) (lower : off ≤ at_)
    (upper : at_ + len ≤ off + bytes.length) :
    read (write img off bytes) at_ len = slice bytes (at_ - off) len := by
  apply List.ext_getElem?
  intro i
  by_cases bound : i < len
  · have inside : at_ - off + i < bytes.length := by omega
    rw [read_getElem? _ _ _ _ bound, slice_getElem? _ _ _ _ bound, write_inside _ _ _ _ (by omega) (by omega),
      show at_ + i - off = at_ - off + i by omega, List.getElem?_eq_getElem inside, Option.getD_some]
  · rw [List.getElem?_eq_none (by simp; omega),
      List.getElem?_eq_none (by rw [slice_length _ _ _ (by omega)]; omega)]

theorem read_write_disjoint (img : Image) (off at_ len : Nat) (bytes : Bytes)
    (apart : at_ + len ≤ off ∨ off + bytes.length ≤ at_) :
    read (write img off bytes) at_ len = read img at_ len := by
  apply read_congr
  intro i bound
  exact write_outside img off (at_ + i) bytes (by omega)

theorem slice_zeros (len off size : Nat) (fits : off + size ≤ len) : slice (zeros len) off size = zeros size := by
  simp only [slice, zeros, List.drop_replicate, List.take_replicate]
  congr 1
  omega

end Storage
