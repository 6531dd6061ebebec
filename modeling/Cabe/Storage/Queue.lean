import Cabe.Storage.Ring

set_option autoImplicit false

namespace Storage

-- A circular buffer. One slot is always left free, so that equal ends mean that
-- it is empty.
structure CircularQueue (α : Type) where
  slots : List α
  capacity : Nat
  head : Nat
  tail : Nat
deriving DecidableEq, Repr

variable {α : Type} [Inhabited α]

def CircularQueue.empty (capacity : Nat) : CircularQueue α := ⟨List.replicate capacity default, capacity, 0, 0⟩

def CircularQueue.push (q : CircularQueue α) (a : α) : CircularQueue α :=
  { q with slots := q.slots.set q.tail a, tail := (q.tail + 1) % q.capacity }

def CircularQueue.pop (q : CircularQueue α) : Option (α × CircularQueue α) :=
  if q.head = q.tail then none
  else some ((q.slots[q.head]?).getD default, { q with head := (q.head + 1) % q.capacity })

def CircularQueue.size (q : CircularQueue α) : Nat := (q.tail + q.capacity - q.head) % q.capacity

def CircularQueue.items (q : CircularQueue α) : List α :=
  (List.range q.size).map fun i => (q.slots[(q.head + i) % q.capacity]?).getD default

-- The elements from the head on, with their wrapped slots.
structure CircularQueue.Holds (q : CircularQueue α) (items : List α) : Prop where
  slots : q.slots.length = q.capacity
  room : items.length < q.capacity
  head : q.head < q.capacity
  tail : q.tail = (q.head + items.length) % q.capacity
  at_ : ∀ i < items.length, q.slots[(q.head + i) % q.capacity]? = items[i]?

omit [Inhabited α] in
theorem queue_slot_injective (q : CircularQueue α) (i j : Nat) (boundI : i < q.capacity) (boundJ : j < q.capacity)
    (same : (q.head + i) % q.capacity = (q.head + j) % q.capacity) : i = j := by
  rcases Nat.le_total i j with le | le
  · have unique := lap_unique q.capacity (q.head + i) (q.head + j) (by omega) (by omega) same
    omega
  · have unique := lap_unique q.capacity (q.head + j) (q.head + i) (by omega) (by omega) same.symm
    omega

theorem queue_empty (capacity : Nat) (pos : 0 < capacity) : (CircularQueue.empty capacity : CircularQueue α).Holds [] where
  slots := by simp [CircularQueue.empty]
  room := by simpa [CircularQueue.empty] using pos
  head := by simpa [CircularQueue.empty] using pos
  tail := by simp [CircularQueue.empty]
  at_ := by simp

omit [Inhabited α] in
theorem queue_push (q : CircularQueue α) (items : List α) (a : α) (held : q.Holds items)
    (room : items.length + 1 < q.capacity) : (q.push a).Holds (items ++ [a]) := by
  have bound : q.tail < q.slots.length := by
    rw [held.slots, held.tail]
    exact Nat.mod_lt _ (by omega)
  refine ⟨?_, ?_, held.head, ?_, ?_⟩
  · simp [CircularQueue.push, held.slots]
  · simpa [CircularQueue.push] using room
  · show (q.tail + 1) % q.capacity = (q.head + (items ++ [a]).length) % q.capacity
    rw [held.tail, List.length_append, List.length_singleton, Nat.mod_add_mod, Nat.add_assoc]
  · intro i inside
    rw [List.length_append, List.length_singleton] at inside
    show (q.slots.set q.tail a)[(q.head + i) % q.capacity]? = (items ++ [a])[i]?
    by_cases old : i < items.length
    · have apart : q.tail ≠ (q.head + i) % q.capacity := by
        intro same
        rw [held.tail] at same
        have unique := queue_slot_injective q items.length i (by omega) (by omega) same
        omega
      rw [List.getElem?_set_ne apart, held.at_ i old, List.getElem?_append_left old]
    · have last : i = items.length := by omega
      rw [last, ← held.tail, List.getElem?_set_self bound, List.getElem?_concat_length]

theorem queue_pop_nil (q : CircularQueue α) (held : q.Holds []) : q.pop = none := by
  have same : q.head = q.tail := by
    rw [held.tail, List.length_nil, Nat.add_zero, Nat.mod_eq_of_lt held.head]
  simp [CircularQueue.pop, same]

theorem queue_pop_cons (q : CircularQueue α) (a : α) (rest : List α) (held : q.Holds (a :: rest)) :
    ∃ next, q.pop = some (a, next) ∧ next.Holds rest ∧ next.capacity = q.capacity := by
  have room := held.room
  rw [List.length_cons] at room
  have apart : q.head ≠ q.tail := by
    intro same
    rw [held.tail] at same
    have unique := queue_slot_injective q 0 (a :: rest).length (by omega) held.room (by
      rw [Nat.add_zero, Nat.mod_eq_of_lt held.head]
      exact same)
    simp at unique
  have first := held.at_ 0 (by simp)
  rw [Nat.add_zero, Nat.mod_eq_of_lt held.head, List.getElem?_cons_zero] at first
  refine ⟨{ q with head := (q.head + 1) % q.capacity }, by simp [CircularQueue.pop, apart, first], ⟨held.slots, by
    show rest.length < q.capacity
    omega, Nat.mod_lt _ (by omega), ?_, ?_⟩, rfl⟩
  · show q.tail = ((q.head + 1) % q.capacity + rest.length) % q.capacity
    rw [held.tail, Nat.mod_add_mod, List.length_cons]
    congr 1
    omega
  · intro i inside
    show q.slots[((q.head + 1) % q.capacity + i) % q.capacity]? = rest[i]?
    rw [Nat.mod_add_mod, Nat.add_assoc, Nat.add_comm 1 i, held.at_ (i + 1) (by simpa using inside), List.getElem?_cons_succ]

-- The elements can be read off the buffer.
theorem queue_items (q : CircularQueue α) (items : List α) (held : q.Holds items) : q.items = items := by
  have size : q.size = items.length := by
    have room := held.room
    have head := held.head
    unfold CircularQueue.size
    rw [held.tail]
    by_cases wrap : q.head + items.length < q.capacity
    · rw [Nat.mod_eq_of_lt wrap, show q.head + items.length + q.capacity - q.head = items.length + q.capacity by omega,
        Nat.add_mod_right, Nat.mod_eq_of_lt room]
    · have wrapped : (q.head + items.length) % q.capacity = q.head + items.length - q.capacity := by
        rw [Nat.mod_eq_sub_mod (by omega), Nat.mod_eq_of_lt (by omega)]
      rw [wrapped, show q.head + items.length - q.capacity + q.capacity - q.head = items.length by omega, Nat.mod_eq_of_lt room]
  apply List.ext_getElem?
  intro i
  unfold CircularQueue.items
  by_cases inside : i < items.length
  · rw [List.getElem?_map, List.getElem?_range (by rw [size]; exact inside), Option.map_some, held.at_ i inside,
      List.getElem?_eq_getElem inside, Option.getD_some]
  · rw [List.getElem?_eq_none (by simp [size]; omega), List.getElem?_eq_none (by omega)]

omit [Inhabited α] in
-- Pushing a list of elements one after another.
theorem queue_push_all (more : List α) : ∀ (q : CircularQueue α) (items : List α), q.Holds items →
    items.length + more.length < q.capacity →
    (more.foldl CircularQueue.push q).Holds (items ++ more) ∧ (more.foldl CircularQueue.push q).capacity = q.capacity := by
  induction more with
  | nil =>
      intro q items held _
      exact ⟨by simpa using held, rfl⟩
  | cons a rest ih =>
      intro q items held room
      rw [List.length_cons] at room
      have pushed := queue_push q items a held (by omega)
      obtain ⟨all, same⟩ := ih (q.push a) (items ++ [a]) pushed (by
        rw [List.length_append, List.length_singleton]
        show items.length + 1 + rest.length < q.capacity
        omega)
      rw [List.append_assoc] at all
      exact ⟨all, same⟩

end Storage
