import Cabe.Storage.Image

set_option autoImplicit false

namespace Storage

def leBytes : Nat → Nat → Bytes
  | 0, _ => []
  | len + 1, value => UInt8.ofNat value :: leBytes len (value / 256)

def leNat : Bytes → Nat
  | [] => 0
  | byte :: rest => byte.toNat + 256 * leNat rest

@[simp] theorem leBytes_length (len value : Nat) : (leBytes len value).length = len := by
  induction len generalizing value with
  | zero => rfl
  | succ len ih => simp [leBytes, ih]

theorem leNat_leBytes (len value : Nat) : leNat (leBytes len value) = value % 256 ^ len := by
  induction len generalizing value with
  | zero => simp [leBytes, leNat, Nat.mod_one]
  | succ len ih =>
      have here : (UInt8.ofNat value).toNat = value % 256 := UInt8.toNat_ofNat'
      rw [leBytes, leNat, ih, here, Nat.pow_succ, Nat.mul_comm (256 ^ len), Nat.mod_mul]

theorem leNat_leBytes_fits (len value : Nat) (fits : value < 256 ^ len) : leNat (leBytes len value) = value := by
  rw [leNat_leBytes, Nat.mod_eq_of_lt fits]

theorem leBytes_leNat (bytes : Bytes) : leBytes bytes.length (leNat bytes) = bytes := by
  induction bytes with
  | nil => rfl
  | cons byte rest ih =>
      have low : byte.toNat < 256 := byte.toNat_lt
      have high : (byte.toNat + 256 * leNat rest) / 256 = leNat rest := by omega
      have here : UInt8.ofNat (byte.toNat + 256 * leNat rest) = byte := by
        apply UInt8.toNat_inj.mp
        have same : (UInt8.ofNat (byte.toNat + 256 * leNat rest)).toNat = (byte.toNat + 256 * leNat rest) % 256 :=
          UInt8.toNat_ofNat'
        omega
      simp only [List.length_cons, leBytes, leNat, high, here, ih]

theorem leNat_lt (bytes : Bytes) : leNat bytes < 256 ^ bytes.length := by
  induction bytes with
  | nil => simp [leNat]
  | cons byte rest ih =>
      have low : byte.toNat < 256 := byte.toNat_lt
      simp only [leNat, List.length_cons, Nat.pow_succ]
      omega

-- Fields laid out one after another are read back by their own slices.
theorem slice_append_left (a b : Bytes) (off len : Nat) (fits : off + len ≤ a.length) :
    slice (a ++ b) off len = slice a off len := by
  apply slice_ext
  · simp; omega
  · exact fits
  · intro i bound
    rw [List.getElem?_append_left (by omega)]

theorem slice_append_right (a b : Bytes) (off len : Nat) (past : a.length ≤ off) :
    slice (a ++ b) off len = slice b (off - a.length) len := by
  simp only [slice, List.drop_append, List.drop_eq_nil_of_le past, List.nil_append]

theorem slice_all (bytes : Bytes) : slice bytes 0 bytes.length = bytes := by
  simp [slice]

theorem slice_left_exact (a b : Bytes) (len : Nat) (exact_ : a.length = len) : slice (a ++ b) 0 len = a := by
  subst exact_
  rw [slice_append_left _ _ _ _ (by omega), slice_all]

end Storage
