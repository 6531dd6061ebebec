import Cabe.WalGeometry

set_option autoImplicit false

namespace Cabe

open Storage

-- Frame v of a history is the one with sequence number v + 1.
def frameAt (entries : List WalEntry) (v : Nat) : Bytes :=
  (encodeFrame ((entries[v]?).getD default) (v + 1)).toBytes

def framesFrom (entries : List WalEntry) (base count : Nat) : Bytes :=
  (List.range count).flatMap fun i => frameAt entries (base + i)

-- The window buffer: the frames of the tail, then zeros.
def windowBuf (entries : List WalEntry) (base count size : Nat) : Bytes :=
  framesFrom entries base count ++ zeros (size - 128 * count)

@[simp] theorem frame_at_length (entries : List WalEntry) (v : Nat) : (frameAt entries v).length = 128 := by
  simp [frameAt]

theorem frame_at_append (entries more : List WalEntry) (v : Nat) (bound : v < entries.length) :
    frameAt (entries ++ more) v = frameAt entries v := by
  simp [frameAt, List.getElem?_append_left bound]

theorem frame_at_last (entries : List WalEntry) (e : WalEntry) :
    frameAt (entries ++ [e]) entries.length = (encodeFrame e (entries.length + 1)).toBytes := by
  simp [frameAt]

theorem frame_at_take (entries : List WalEntry) (count v : Nat) (bound : v < count) :
    frameAt (entries.take count) v = frameAt entries v := by
  simp [frameAt, List.getElem?_take_of_lt bound]

theorem frame_at_seq (entries : List WalEntry) (v : Nat) (fits : v + 1 < 2 ^ 64) :
    (WalFrame.ofBytes (frameAt entries v)).seq.toNat = v + 1 := by
  rw [frameAt, of_bytes_to_bytes]
  exact encode_seq _ _ fits

theorem frame_at_injective (entries : List WalEntry) (u v : Nat) (fitsU : u + 1 < 2 ^ 64) (fitsV : v + 1 < 2 ^ 64)
    (same : frameAt entries u = frameAt entries v) : u = v := by
  have left := frame_at_seq entries u fitsU
  rw [same, frame_at_seq entries v fitsV] at left
  omega

theorem frame_at_entry (entries : List WalEntry) (v : Nat) (e : WalEntry) (found : entries[v]? = some e) :
    frameAt entries v = (encodeFrame e (v + 1)).toBytes := by
  simp [frameAt, found]

@[simp] theorem frames_from_length (entries : List WalEntry) (base count : Nat) :
    (framesFrom entries base count).length = 128 * count := by
  induction count with
  | zero => rfl
  | succ count ih =>
      simp only [framesFrom, List.length_flatMap] at ih ⊢
      simp [List.range_succ] at ih ⊢
      omega

theorem frames_from_succ (entries : List WalEntry) (base count : Nat) :
    framesFrom entries base (count + 1) = framesFrom entries base count ++ frameAt entries (base + count) := by
  simp [framesFrom, List.range_succ]

theorem frames_from_add (entries : List WalEntry) (base a b : Nat) :
    framesFrom entries base (a + b) = framesFrom entries base a ++ framesFrom entries (base + a) b := by
  simp [framesFrom, List.range_add, List.flatMap_map, Nat.add_assoc]

theorem frames_from_append (entries more : List WalEntry) (base count : Nat) (bound : base + count ≤ entries.length) :
    framesFrom (entries ++ more) base count = framesFrom entries base count := by
  induction count with
  | zero => simp [framesFrom]
  | succ count ih =>
      rw [frames_from_succ, frames_from_succ, ih (by omega), frame_at_append _ _ _ (by omega)]

theorem frames_from_take (entries : List WalEntry) (total base count : Nat) (bound : base + count ≤ total) :
    framesFrom (entries.take total) base count = framesFrom entries base count := by
  induction count with
  | zero => simp [framesFrom]
  | succ count ih =>
      rw [frames_from_succ, frames_from_succ, ih (by omega), frame_at_take _ _ _ (by omega)]

theorem frames_from_slice (entries : List WalEntry) (base count i : Nat) (bound : i < count) :
    slice (framesFrom entries base count) (128 * i) 128 = frameAt entries (base + i) := by
  have split : framesFrom entries base count =
      framesFrom entries base i ++ (frameAt entries (base + i) ++ framesFrom entries (base + i + 1) (count - (i + 1))) := by
    rw [← List.append_assoc, ← frames_from_succ, Nat.add_assoc base i 1, ← frames_from_add]
    congr 1
    omega
  rw [split, slice_append_right _ _ _ _ (by simp), frames_from_length, Nat.sub_self, slice_left_exact _ _ _ (by simp)]

theorem window_buf_length (entries : List WalEntry) (base count size : Nat) (fits : 128 * count ≤ size) :
    (windowBuf entries base count size).length = size := by
  simp only [windowBuf, List.length_append, frames_from_length, zeros_length]
  omega

theorem window_buf_frame (entries : List WalEntry) (base count size i : Nat) (bound : i < count) :
    slice (windowBuf entries base count size) (128 * i) 128 = frameAt entries (base + i) := by
  rw [windowBuf, slice_append_left _ _ _ _ (by simp; omega), frames_from_slice _ _ _ _ bound]

theorem window_buf_padding (entries : List WalEntry) (base count size i : Nat) (bound : count ≤ i)
    (fits : 128 * i + 128 ≤ size) : slice (windowBuf entries base count size) (128 * i) 128 = zeros 128 := by
  rw [windowBuf, slice_append_right _ _ _ _ (by simp; omega), frames_from_length, slice_zeros _ _ _ (by omega)]

theorem window_buf_empty (entries : List WalEntry) (base size : Nat) : windowBuf entries base 0 size = zeros size := by
  simp [windowBuf, framesFrom]

theorem memcpy_window (entries : List WalEntry) (e : WalEntry) (base count size : Nat)
    (tail : base + count = entries.length) (fits : 128 * (count + 1) ≤ size) :
    memcpy (windowBuf entries base count size) (count * 128) (encodeFrame e (entries.length + 1)).toBytes =
      windowBuf (entries ++ [e]) base (count + 1) size := by
  have front : (windowBuf entries base count size).take (count * 128) = framesFrom entries base count := by
    rw [windowBuf, List.take_append_of_le_length (by simp; omega), List.take_of_length_le (by simp; omega)]
  have back : (windowBuf entries base count size).drop (count * 128 + 128) = zeros (size - 128 * (count + 1)) := by
    rw [windowBuf, List.drop_append, List.drop_eq_nil_of_le (by simp; omega), List.nil_append, frames_from_length, zeros_drop,
      show size - 128 * count - (count * 128 + 128 - 128 * count) = size - 128 * (count + 1) by omega]
  rw [memcpy, to_bytes_length, front, back, windowBuf, frames_from_succ, frames_from_append _ _ _ _ (by omega), tail,
    frame_at_last]

theorem memset_window (entries : List WalEntry) (base count keep size : Nat) (fewer : keep ≤ count)
    (fits : 128 * count ≤ size) :
    memsetZero (windowBuf entries base count size) (keep * 128) = windowBuf entries base keep size := by
  have split : framesFrom entries base count = framesFrom entries base keep ++ framesFrom entries (base + keep) (count - keep) := by
    rw [← frames_from_add]
    congr 1
    omega
  have front : (windowBuf entries base count size).take (keep * 128) = framesFrom entries base keep := by
    rw [windowBuf, split, List.append_assoc, List.take_append_of_le_length (by simp; omega),
      List.take_of_length_le (by simp; omega)]
  rw [memsetZero, front, window_buf_length _ _ _ _ fits, windowBuf, Nat.mul_comm keep]

theorem memmove_window (entries : List WalEntry) (base gone keep size : Nat) (fits : 128 * (gone + keep) ≤ size) :
    memsetZero (memmoveFront (windowBuf entries base (gone + keep) size) (gone * 128) (keep * 128)) (keep * 128) =
      windowBuf entries (base + gone) keep size := by
  have moved : slice (windowBuf entries base (gone + keep) size) (gone * 128) (keep * 128) =
      framesFrom entries (base + gone) keep := by
    rw [windowBuf, frames_from_add, List.append_assoc, slice_append_right _ _ _ _ (by simp; omega), frames_from_length,
      Nat.mul_comm gone, Nat.sub_self, slice_left_exact _ _ _ (by simp; omega)]
  have front : (memmoveFront (windowBuf entries base (gone + keep) size) (gone * 128) (keep * 128)).take (keep * 128) =
      framesFrom entries (base + gone) keep := by
    rw [memmoveFront, moved, List.take_append_of_le_length (by simp; omega), List.take_of_length_le (by simp; omega)]
  have total : (memmoveFront (windowBuf entries base (gone + keep) size) (gone * 128) (keep * 128)).length = size := by
    rw [memmoveFront, moved]
    simp only [List.length_append, frames_from_length, List.length_drop, window_buf_length _ _ _ _ fits]
    omega
  rw [memsetZero, front, total, windowBuf, Nat.mul_comm keep]

-- What happened on the ring: the slots' content before the run, the entries
-- written since, and the oldest frame that is still needed. Frames from gone up
-- to lo were erased by an earlier recovery.
structure History where
  prior : Nat → Bytes
  entries : List WalEntry
  gone : Nat
  lo : Nat

structure SlotOk (g : Ring) (h : History) (kept written p : Nat) (bytes : Bytes) : Prop where
  holds : ∀ v, h.lo ≤ v → v < kept → v % g.slots = p → bytes = frameAt h.entries v
  genuine : verifyFrame (.ofBytes bytes) = true → bytes = h.prior p ∨
    ∃ v, v < written ∧ (v < h.gone ∨ h.lo ≤ v) ∧ v % g.slots = p ∧ bytes = frameAt h.entries v

-- Every frame from lo up to kept is in its slot, and what verifies in a slot is
-- a frame below written or was there before the run.
def RingOk (g : Ring) (h : History) (kept written : Nat) (img : Image) : Prop :=
  ∀ p < g.slots, SlotOk g h kept written p (slotBytes img p)

theorem ring_ok_mono (g : Ring) (h : History) (kept kept' written written' : Nat) (img : Image) (less : kept' ≤ kept)
    (more : written ≤ written') (ok : RingOk g h kept written img) : RingOk g h kept' written' img := by
  intro p bound
  refine ⟨fun v lower upper => (ok p bound).holds v lower (by omega), fun valid => ?_⟩
  rcases (ok p bound).genuine valid with old | ⟨v, upper, place, slot, same⟩
  · exact .inl old
  · exact .inr ⟨v, by omega, place, slot, same⟩

theorem ring_ok_append (g : Ring) (h : History) (more : List WalEntry) (kept written : Nat) (img : Image)
    (keptIn : kept ≤ h.entries.length) (writtenIn : written ≤ h.entries.length) (ok : RingOk g h kept written img) :
    RingOk g { h with entries := h.entries ++ more } kept written img := by
  intro p bound
  refine ⟨fun v lower upper slot => ?_, fun valid => ?_⟩
  · rw [frame_at_append _ _ _ (by omega)]
    exact (ok p bound).holds v lower upper slot
  · rcases (ok p bound).genuine valid with old | ⟨v, upper, place, slot, same⟩
    · exact .inl old
    · refine .inr ⟨v, upper, place, slot, ?_⟩
      rw [frame_at_append _ _ _ (by omega)]
      exact same

-- Raising lo asks for less, as long as nothing in between was said to be gone.
theorem ring_ok_raise (g : Ring) (h : History) (lo kept written : Nat) (img : Image) (up : h.lo ≤ lo)
    (ok : RingOk g h kept written img) : RingOk g { h with gone := max h.gone lo, lo := lo } kept written img := by
  intro p bound
  refine ⟨fun v lower upper slot => (ok p bound).holds v (Nat.le_trans up lower) upper slot, fun valid => ?_⟩
  rcases (ok p bound).genuine valid with old | ⟨v, upper, place, slot, same⟩
  · exact .inl old
  · exact .inr ⟨v, upper, by show v < max h.gone lo ∨ lo ≤ v; omega, slot, same⟩

theorem ring_ok_mix (g : Ring) (h : History) (kept written : Nat) (versions : List Image) (img : Image)
    (mix : Mix kSectorSize versions img) (every : ∀ v ∈ versions, RingOk g h kept written v) :
    RingOk g h kept written img := by
  intro p bound
  obtain ⟨v, member, same⟩ := mix_read kSectorSize versions img mix (8192 + 128 * p) 128 (slot_in_sector p)
  have ok := every v member p bound
  rwa [slotBytes, ← same] at ok

theorem window_buf_take (entries : List WalEntry) (base count size total : Nat) (fits : 128 * count ≤ total)
    (less : total ≤ size) : (windowBuf entries base count size).take total = windowBuf entries base count total := by
  rw [windowBuf, windowBuf, List.take_append, List.take_of_length_le (by simp; omega), frames_from_length, zeros, zeros,
    List.take_replicate, Nat.min_eq_left (by omega)]

-- Writing whole blocks puts frames into the first count slots and clears the
-- others of these blocks. The rest of the ring stays.
theorem window_write_slot (g : Ring) (img : Image) (entries : List WalEntry) (b count k p : Nat)
    (fits : b % g.blocks + k ≤ g.blocks) (few : count ≤ 32 * k) (bound : p < g.slots) :
    (∃ v, 32 * b ≤ v ∧ v < 32 * (b + k) ∧ v % g.slots = p ∧
      slotBytes (write img (g.blockOff b) (windowBuf entries (32 * b) count (4096 * k))) p =
        if v < 32 * b + count then frameAt entries v else zeros 128) ∨
    ((∀ v, 32 * b ≤ v → v < 32 * (b + k) → v % g.slots ≠ p) ∧
      slotBytes (write img (g.blockOff b) (windowBuf entries (32 * b) count (4096 * k))) p = slotBytes img p) := by
  have total := window_buf_length entries (32 * b) count (4096 * k) (by omega)
  by_cases inside : 32 * (b % g.blocks) ≤ p ∧ p < 32 * (b % g.blocks + k)
  · refine .inl ⟨32 * b + (p - 32 * (b % g.blocks)), by omega, by omega, ?_, ?_⟩
    · rw [g.slot_run _ _ (by omega)]
      omega
    · have place : 8192 + 128 * p - g.blockOff b = 128 * (p - 32 * (b % g.blocks)) := by
        rw [Ring.blockOff]
        omega
      rw [slotBytes, read_write_inside _ _ _ _ _ (by rw [Ring.blockOff]; omega) (by rw [total, Ring.blockOff]; omega), place]
      by_cases frame : p - 32 * (b % g.blocks) < count
      · rw [window_buf_frame _ _ _ _ _ frame, if_pos (by omega)]
      · rw [window_buf_padding _ _ _ _ _ (by omega) (by omega), if_neg (by omega)]
  · refine .inr ⟨fun v lower upper same => inside ?_, ?_⟩
    · have run := g.slot_run b (v - 32 * b) (by rw [Ring.slots]; omega)
      rw [show 32 * b + (v - 32 * b) = v by omega, same] at run
      omega
    · rw [slotBytes, read_write_disjoint _ _ _ _ _ (by rw [total, Ring.blockOff]; omega), slotBytes]

-- The blocks of a window never hold a frame that is still needed, so writing it
-- leaves every such frame in its slot.
theorem ring_ok_write (g : Ring) (h : History) (img : Image) (b count k kept written : Nat)
    (fits : b % g.blocks + k ≤ g.blocks) (few : count ≤ 32 * k) (room : 32 * (b + k) ≤ h.lo + g.slots)
    (base : h.lo ≤ 32 * b) (reach : 32 * b ≤ kept) (upTo : 32 * b + count ≤ written) (ok : RingOk g h kept written img) :
    RingOk g h (32 * b + count) written (write img (g.blockOff b) (windowBuf h.entries (32 * b) count (4096 * k))) := by
  intro p bound
  rcases window_write_slot g img h.entries b count k p fits few bound with ⟨v, lower, upper, slot, bytes⟩ | ⟨apart, bytes⟩
  · rw [bytes]
    refine ⟨fun u from_ below same => ?_, fun valid => ?_⟩
    · have equal : u = v := by
        rcases Nat.le_total u v with less | less
        · exact g.same_slot u v less (by omega) (same.trans slot.symm)
        · exact (g.same_slot v u less (by rw [Ring.slots]; omega) (slot.trans same.symm)).symm
      rw [equal, if_pos (by omega)]
    · by_cases frame : v < 32 * b + count
      · exact .inr ⟨v, by omega, .inr (by omega), slot, by rw [if_pos frame]⟩
      · rw [if_neg frame, verify_zeros] at valid
        cases valid
  · rw [bytes]
    refine ⟨fun u from_ below same => ?_, (ok p bound).genuine⟩
    by_cases old : u < kept
    · exact (ok p bound).holds u from_ old same
    · exact absurd same (apart u (by omega) (by omega))

-- The ring exactly: block after block of what has been written since it held the
-- base image, the last block filled up with zeros. How the frames were divided
-- into windows does not show.
def Laid (g : Ring) (entries : List WalEntry) (base : Image) (visible : Nat) (img : Image) : Prop :=
  ∀ p < g.slots,
    (∃ v, v < 32 * ((visible + 31) / 32) ∧ 32 * ((visible + 31) / 32) ≤ v + g.slots ∧ v % g.slots = p ∧
      slotBytes img p = if v < visible then frameAt entries v else zeros 128) ∨
    (32 * ((visible + 31) / 32) ≤ p ∧ slotBytes img p = slotBytes base p)

theorem laid_base (g : Ring) (base : Image) : Laid g [] base 0 base := fun _ _ => .inr ⟨Nat.zero_le _, rfl⟩

theorem laid_append (g : Ring) (entries more : List WalEntry) (base : Image) (visible : Nat) (img : Image)
    (bound : visible ≤ entries.length) (laid : Laid g entries base visible img) : Laid g (entries ++ more) base visible img := by
  intro p inside
  rcases laid p inside with ⟨v, below, last, slot, bytes⟩ | old
  · refine .inl ⟨v, below, last, slot, ?_⟩
    rw [bytes]
    split
    · rw [frame_at_append _ _ _ (by omega)]
    · rfl
  · exact .inr old

theorem laid_write (g : Ring) (entries : List WalEntry) (base img : Image) (b count k visible : Nat)
    (fits : b % g.blocks + k ≤ g.blocks) (whole : k = (count + 31) / 32) (reach : 32 * b ≤ visible) (more : visible ≤ 32 * b + count)
    (laid : Laid g entries base visible img) :
    Laid g entries base (32 * b + count) (write img (g.blockOff b) (windowBuf entries (32 * b) count (4096 * k))) := by
  have size : g.slots = 32 * g.blocks := rfl
  have total : 32 * ((32 * b + count + 31) / 32) = 32 * (b + k) := by omega
  intro p bound
  rw [total]
  rcases window_write_slot g img entries b count k p fits (by omega) bound with ⟨v, lower, upper, slot, bytes⟩ | ⟨apart, bytes⟩
  · exact .inl ⟨v, upper, by omega, slot, bytes⟩
  · rw [bytes]
    rcases laid p bound with ⟨v, below, last, slot, same⟩ | ⟨beyond, same⟩
    · have early : v < 32 * b := by
        by_contra late
        exact apart v (by omega) (by omega) slot
      refine .inl ⟨v, by omega, ?_, slot, by rw [same, if_pos (by omega), if_pos (by omega)]⟩
      by_contra short
      exact apart (v + g.slots) (by omega) (by omega) (by rw [Nat.add_mod_right, slot])
    · refine .inr ⟨?_, same⟩
      by_contra short
      exact apart p (by omega) (by omega) (Nat.mod_eq_of_lt bound)

theorem laid_unique (g : Ring) (entries : List WalEntry) (base : Image) (visible : Nat) (a b : Image)
    (left : Laid g entries base visible a) (right : Laid g entries base visible b) :
    ∀ p < g.slots, slotBytes a p = slotBytes b p := by
  intro p bound
  rcases left p bound with ⟨v, below, last, slot, bytes⟩ | ⟨beyond, bytes⟩ <;>
    rcases right p bound with ⟨u, below', last', slot', bytes'⟩ | ⟨beyond', bytes'⟩
  · have equal : v = u := by
      rcases Nat.le_total v u with less | less
      · exact g.same_slot v u less (by omega) (slot.trans slot'.symm)
      · exact (g.same_slot u v less (by omega) (slot'.trans slot.symm)).symm
    rw [bytes, bytes', equal]
  · have least := Nat.mod_le v g.slots
    omega
  · have least := Nat.mod_le u g.slots
    omega
  · rw [bytes, bytes']

end Cabe
