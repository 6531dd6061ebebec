import Cabe.Storage.Medium

set_option autoImplicit false

namespace Storage

variable {sector : Nat}

-- The sectors that begin below a limit.
def below (sector limit : Nat) (k : Nat) : Bool := decide (k * sector < limit)

theorem below_mono (few many k : Nat) (le : few ≤ many) (inside : below sector few k = true) : below sector many k = true := by
  simp only [below, decide_eq_true_eq] at inside ⊢
  omega

-- A border of sectors splits no sector.
theorem below_border (limit o : Nat) (border : limit % sector = 0) : below sector limit (o / sector) = true ↔ o < limit := by
  simp only [below, decide_eq_true_eq]
  obtain ⟨count, rfl⟩ := Nat.dvd_of_mod_eq_zero border
  have start : o / sector * sector ≤ o := Nat.div_mul_le_self o sector
  constructor
  · intro inside
    rw [Nat.mul_comm sector count] at inside ⊢
    have fewer : o / sector < count := Nat.lt_of_mul_lt_mul_right inside
    exact Nat.lt_mul_of_div_lt fewer (Nat.pos_of_ne_zero fun zero => by simp [zero] at inside)
  · intro inside
    omega

theorem write_take (img : Image) (off count : Nat) (bytes : Bytes) (o : Nat) :
    write img off (bytes.take count) o = if o < off + count then write img off bytes o else img o := by
  unfold write
  by_cases lower : off ≤ o
  · rw [if_pos lower, if_pos lower]
    by_cases inside : o < off + count
    · rw [if_pos inside, List.getElem?_take_of_lt (by omega)]
    · rw [if_neg inside, List.getElem?_eq_none (by simp only [List.length_take]; omega), Option.getD_none]
  · rw [if_neg lower, if_neg lower, ite_self]

theorem write_drop (img : Image) (off count : Nat) (bytes : Bytes) (o : Nat) :
    write img (off + count) (bytes.drop count) o = if off + count ≤ o then write img off bytes o else img o := by
  unfold write
  by_cases lower : off + count ≤ o
  · rw [if_pos lower, if_pos lower, if_pos (by omega), List.getElem?_drop, show count + (o - (off + count)) = o - off by omega]
  · rw [if_neg lower, if_neg lower]

theorem write_congr (a b : Image) (off : Nat) (bytes : Bytes) (o : Nat) (same : a o = b o) : write a off bytes o = write b off bytes o := by
  unfold write
  rw [same]

-- The next transfer carries on where the last one stopped.
theorem write_take_more (img : Image) (off count next : Nat) (bytes : Bytes) :
    write (write img off (bytes.take count)) (off + count) ((bytes.drop count).take next) = write img off (bytes.take (count + next)) := by
  funext o
  simp only [write_take, write_drop]
  by_cases inside : o < off + count
  · have beyond : ¬off + count ≤ o := by omega
    have later : o < off + (count + next) := by omega
    simp only [inside, beyond, later, if_true, if_false, ite_self]
  · have beyond : off + count ≤ o := by omega
    have kept : write img off (bytes.take count) o = img o := by rw [write_take, if_neg inside]
    simp only [inside, beyond, if_true, if_false, Nat.add_assoc, write_congr _ img off bytes o kept]

-- A transfer that ends on a border is a write of some of the sectors, and so
-- is one that reaches the end of the buffer.
theorem write_take_some (img : Image) (off count : Nat) (bytes : Bytes)
    (ends : (off + count) % sector = 0 ∨ bytes.length ≤ count) :
    write img off (bytes.take count) = writeSome sector img off bytes (below sector (off + count)) := by
  funext o
  rw [write_take]
  unfold writeSome
  rcases ends with border | whole
  · simp only [below_border _ _ border]
  · by_cases inside : o < off + count
    · have start : o / sector * sector ≤ o := Nat.div_mul_le_self o sector
      rw [if_pos inside, if_pos (by simp only [below, decide_eq_true_eq]; omega)]
    · rw [if_neg inside, write_outside img off o bytes (by omega), ite_self]

theorem write_some_rest (img : Image) (off count : Nat) (bytes : Bytes) (mask : Nat → Bool)
    (border : (off + count) % sector = 0) :
    writeSome sector (write img off (bytes.take count)) (off + count) (bytes.drop count) mask =
      writeSome sector img off bytes (fun k => below sector (off + count) k || mask k) := by
  funext o
  simp only [writeSome, write_drop, Bool.or_eq_true, below_border _ _ border]
  by_cases inside : o < off + count
  · have beyond : ¬off + count ≤ o := by omega
    simp only [inside, beyond, write_take, if_true, if_false, true_or, ite_self]
  · have beyond : off + count ≤ o := by omega
    have kept : write img off (bytes.take count) o = img o := by rw [write_take, if_neg inside]
    simp only [inside, beyond, if_true, false_or, write_congr _ img off bytes o kept, kept]

-- What a write in several transfers leaves behind: every version since its
-- start holds some of the sectors the last one holds.
structure Partway (sector : Nat) (old m : Medium) (off : Nat) (bytes : Bytes) (mask : Nat → Bool) : Prop where
  cur : m.cur = writeSome sector old.cur off bytes mask
  versions : ∀ v ∈ m.versions, v ∈ old.versions ∨
    ∃ fewer, (∀ k, fewer k = true → mask k = true) ∧ v = writeSome sector old.cur off bytes fewer
  stable : m.stable = old.stable

variable {old m : Medium} {off : Nat} {bytes : Bytes} {mask more : Nat → Bool}

theorem partway_start (old : Medium) (none : ∀ o, off ≤ o → o < off + bytes.length → mask (o / sector) = false) :
    Partway sector old old off bytes mask := by
  refine ⟨?_, fun v member => .inl member, rfl⟩
  funext o
  unfold writeSome
  by_cases inside : off ≤ o ∧ o < off + bytes.length
  · rw [none o inside.1 inside.2]
    rfl
  · rw [write_outside old.cur off o bytes (by omega), ite_self]

theorem partway_put (partway : Partway sector old m off bytes mask) (grows : ∀ k, mask k = true → more k = true) :
    Partway sector old (m.put (writeSome sector old.cur off bytes more)) off bytes more := by
  refine ⟨rfl, fun v member => ?_, by rw [medium_stable_put, partway.stable]⟩
  rw [medium_versions_put] at member
  rcases List.mem_cons.mp member with rfl | earlier
  · exact .inr ⟨more, fun _ holds => holds, rfl⟩
  · rcases partway.versions v earlier with before | ⟨fewer, within, same⟩
    · exact .inl before
    · exact .inr ⟨fewer, fun k holds => grows k (within k holds), same⟩

-- Power loss amid the transfers leaves what it may leave after one write of
-- the sectors they reach in the end.
theorem partway_survives (partway : Partway sector old m off bytes mask) (grows : ∀ k, mask k = true → more k = true)
    (img : Image) (alive : m.Survives sector img) :
    (old.put (writeSome sector old.cur off bytes more)).Survives sector img := by
  intro k
  obtain ⟨v, member, same⟩ := alive k
  rcases partway.versions v member with before | ⟨fewer, within, rfl⟩
  · exact ⟨v, List.mem_cons_of_mem _ before, same⟩
  · cases reached : fewer k with
    | true =>
        refine ⟨_, List.mem_cons_self, fun o inside => ?_⟩
        rw [same o inside]
        have kept : more k = true := grows k (within k reached)
        simp only [medium_put_cur, writeSome, inside, reached, kept, if_true]
    | false =>
        refine ⟨old.cur, List.mem_cons_of_mem _ (medium_cur_mem old), fun o inside => ?_⟩
        rw [same o inside]
        simp [writeSome, inside, reached]

end Storage
