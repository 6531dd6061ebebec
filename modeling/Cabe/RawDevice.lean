import Cabe.Common
import Cabe.Storage.Medium

set_option autoImplicit false

namespace Cabe

open Storage

-- What the next WriteAt or Sync call of a device does. A failing write may
-- still have put any of its sectors on the medium.
inductive Outcome where
  | ok
  | fail (mask : Nat → Bool)

-- The medium outlives power loss; the outcomes are those of the coming calls
-- and a call past their end succeeds. The trace records the medium after every
-- call, so that a crash point of a run is an element of it.
structure RawDevice where
  isOpen : Bool
  sizeBytes : Nat
  medium : Medium
  outcomes : List Outcome
  unreadable : Nat → Bool
  trace : List Medium

def RawDevice.outcome (d : RawDevice) : Outcome := d.outcomes.head?.getD .ok

def RawDevice.record (d : RawDevice) (m : Medium) : RawDevice :=
  { d with medium := m, outcomes := d.outcomes.tail, trace := d.trace ++ [m] }

def RawDevice.openDevice (d : RawDevice) : Rc × RawDevice :=
  if d.isOpen then (Err.kIoBase, d) else (Err.kSuccess, { d with isOpen := true })

def RawDevice.close (d : RawDevice) : Rc × RawDevice := (Err.kSuccess, { d with isOpen := false })

def RawDevice.readAt (d : RawDevice) (offset len : Nat) : Option Bytes :=
  if d.isOpen = true ∧ offset + len ≤ d.sizeBytes ∧ (List.range len).all (fun i => !d.unreadable ((offset + i) / kSectorSize))
  then some (read d.medium.cur offset len) else none

def RawDevice.writeAt (d : RawDevice) (offset : Nat) (buf : Bytes) : Rc × RawDevice :=
  if d.isOpen = true ∧ offset + buf.length ≤ d.sizeBytes then
    match d.outcome with
    | .ok => (Err.kSuccess, d.record (d.medium.put (write d.medium.cur offset buf)))
    | .fail mask => (Err.kIoBase, d.record (d.medium.put (writeSome kSectorSize d.medium.cur offset buf mask)))
  else (Err.kIoBase, d)

def RawDevice.sync (d : RawDevice) : Rc × RawDevice :=
  if d.isOpen = true then
    match d.outcome with
    | .ok => (Err.kSuccess, d.record d.medium.flush)
    | .fail _ => (Err.kIoBase, d.record d.medium)
  else (Err.kIoBase, d)

-- The device as the next process finds it after power loss left this image.
def RawDevice.reboot (d : RawDevice) (img : Image) : RawDevice :=
  { d with isOpen := false, medium := .ofImage img, outcomes := [], trace := [] }

-- No call of the device will fail.
structure RawDevice.Healthy (d : RawDevice) : Prop where
  opened : d.isOpen = true
  succeeds : d.outcomes = []
  readable : ∀ k, d.unreadable k = false

theorem read_at_readable (d : RawDevice) (offset len : Nat) (opened : d.isOpen = true)
    (readable : ∀ k, d.unreadable k = false) (fits : offset + len ≤ d.sizeBytes) :
    d.readAt offset len = some (read d.medium.cur offset len) := by
  simp [RawDevice.readAt, opened, fits, readable]

-- The three things a WriteAt can do to the device.
theorem write_at_cases (d : RawDevice) (offset : Nat) (buf : Bytes) (opened : d.isOpen = true)
    (fits : offset + buf.length ≤ d.sizeBytes) :
    (d.outcome = .ok ∧ d.writeAt offset buf = (Err.kSuccess, d.record (d.medium.put (write d.medium.cur offset buf)))) ∨
    (∃ mask, d.outcome = .fail mask ∧
      d.writeAt offset buf = (Err.kIoBase, d.record (d.medium.put (writeSome kSectorSize d.medium.cur offset buf mask)))) := by
  cases outcome : d.outcome with
  | ok => exact .inl ⟨rfl, by simp [RawDevice.writeAt, opened, fits, outcome]⟩
  | fail mask => exact .inr ⟨mask, rfl, by simp [RawDevice.writeAt, opened, fits, outcome]⟩

theorem sync_cases (d : RawDevice) (opened : d.isOpen = true) :
    (d.outcome = .ok ∧ d.sync = (Err.kSuccess, d.record d.medium.flush)) ∨
    (∃ mask, d.outcome = .fail mask ∧ d.sync = (Err.kIoBase, d.record d.medium)) := by
  cases outcome : d.outcome with
  | ok => exact .inl ⟨rfl, by simp [RawDevice.sync, opened, outcome]⟩
  | fail mask => exact .inr ⟨mask, rfl, by simp [RawDevice.sync, opened, outcome]⟩

-- A call that reports success has done all it was asked for.
theorem write_at_ok (d : RawDevice) (offset : Nat) (buf : Bytes) (done : (d.writeAt offset buf).1 = Err.kSuccess) :
    d.isOpen = true ∧ offset + buf.length ≤ d.sizeBytes ∧
      (d.writeAt offset buf).2 = d.record (d.medium.put (write d.medium.cur offset buf)) := by
  unfold RawDevice.writeAt at done ⊢
  by_cases fits : d.isOpen = true ∧ offset + buf.length ≤ d.sizeBytes
  · rw [if_pos fits] at done ⊢
    refine ⟨fits.1, fits.2, ?_⟩
    cases outcome : d.outcome with
    | ok => rfl
    | fail mask =>
        rw [outcome] at done
        exact absurd (show Err.kIoBase = Err.kSuccess from done) (by decide)
  · rw [if_neg fits] at done
    exact absurd (show Err.kIoBase = Err.kSuccess from done) (by decide)

theorem sync_ok (d : RawDevice) (done : d.sync.1 = Err.kSuccess) : d.isOpen = true ∧ d.sync.2 = d.record d.medium.flush := by
  unfold RawDevice.sync at done ⊢
  by_cases opened : d.isOpen = true
  · rw [if_pos opened] at done ⊢
    refine ⟨opened, ?_⟩
    cases outcome : d.outcome with
    | ok => rfl
    | fail mask =>
        rw [outcome] at done
        exact absurd (show Err.kIoBase = Err.kSuccess from done) (by decide)
  · rw [if_neg opened] at done
    exact absurd (show Err.kIoBase = Err.kSuccess from done) (by decide)

theorem sync_failed (d : RawDevice) (failed : d.sync.1 ≠ Err.kSuccess) : d.sync.2 = d ∨ d.sync.2 = d.record d.medium := by
  unfold RawDevice.sync at failed ⊢
  split
  · split
    · rename_i opened _ outcome
      rw [if_pos opened, outcome] at failed
      exact absurd rfl failed
    · exact .inr rfl
  · exact .inl rfl

theorem healthy_outcome (d : RawDevice) (healthy : d.Healthy) : d.outcome = .ok := by
  simp [RawDevice.outcome, healthy.succeeds]

theorem healthy_write (d : RawDevice) (offset : Nat) (buf : Bytes) (healthy : d.Healthy)
    (fits : offset + buf.length ≤ d.sizeBytes) :
    d.writeAt offset buf = (Err.kSuccess, d.record (d.medium.put (write d.medium.cur offset buf))) := by
  simp [RawDevice.writeAt, healthy.opened, fits, healthy_outcome d healthy]

theorem healthy_sync (d : RawDevice) (healthy : d.Healthy) :
    d.sync = (Err.kSuccess, d.record d.medium.flush) := by
  simp [RawDevice.sync, healthy.opened, healthy_outcome d healthy]

theorem healthy_record (d : RawDevice) (m : Medium) (healthy : d.Healthy) : (d.record m).Healthy :=
  ⟨healthy.opened, by simp [RawDevice.record, healthy.succeeds], healthy.readable⟩

@[simp] theorem record_medium (d : RawDevice) (m : Medium) : (d.record m).medium = m := rfl
@[simp] theorem record_size (d : RawDevice) (m : Medium) : (d.record m).sizeBytes = d.sizeBytes := rfl
@[simp] theorem record_open (d : RawDevice) (m : Medium) : (d.record m).isOpen = d.isOpen := rfl
@[simp] theorem record_unreadable (d : RawDevice) (m : Medium) : (d.record m).unreadable = d.unreadable := rfl
@[simp] theorem record_trace (d : RawDevice) (m : Medium) : (d.record m).trace = d.trace ++ [m] := rfl

-- The calls between two states of a device, with what holds of each medium
-- they left behind.
def Traced (before after : RawDevice) (P : Medium → Prop) : Prop :=
  ∃ calls, after.trace = before.trace ++ calls ∧ after.medium = (calls.getLast?).getD before.medium ∧ ∀ m ∈ calls, P m

theorem traced_refl (d : RawDevice) (P : Medium → Prop) : Traced d d P := ⟨[], by simp⟩

theorem traced_record (d : RawDevice) (m : Medium) (P : Medium → Prop) (here : P m) : Traced d (d.record m) P :=
  ⟨[m], by simp, by simp, by simpa using here⟩

theorem traced_trans (a b c : RawDevice) (P : Medium → Prop) (first : Traced a b P) (second : Traced b c P) : Traced a c P := by
  obtain ⟨calls, trace, medium, every⟩ := first
  obtain ⟨more, trace', medium', every'⟩ := second
  refine ⟨calls ++ more, by rw [trace', trace, List.append_assoc], ?_, ?_⟩
  · rw [medium', medium]
    cases last : more.getLast? <;> simp [List.getLast?_append, last]
  · intro m member
    rcases List.mem_append.mp member with old | new
    · exact every m old
    · exact every' m new

theorem traced_mono (before after : RawDevice) (P Q : Medium → Prop) (weaker : ∀ m, P m → Q m)
    (traced : Traced before after P) : Traced before after Q := by
  obtain ⟨calls, trace, medium, every⟩ := traced
  exact ⟨calls, trace, medium, fun m member => weaker m (every m member)⟩

inductive DeviceCall where
  | write (offset : Nat) (buf : Bytes)
  | sync

def RawDevice.call (d : RawDevice) : DeviceCall → RawDevice
  | .write offset buf => (d.writeAt offset buf).2
  | .sync => d.sync.2

-- The calls that lead from one state of a device to another, with what holds
-- of every WriteAt among them.
def Driven (before after : RawDevice) (P : Nat → Bytes → Prop) : Prop :=
  ∃ calls : List DeviceCall, after = calls.foldl RawDevice.call before ∧ ∀ offset buf, .write offset buf ∈ calls → P offset buf

theorem driven_refl (d : RawDevice) (P : Nat → Bytes → Prop) : Driven d d P := ⟨[], rfl, fun _ _ member => nomatch member⟩

theorem driven_write (d : RawDevice) (offset : Nat) (buf : Bytes) (P : Nat → Bytes → Prop) (here : P offset buf) :
    Driven d (d.writeAt offset buf).2 P := by
  refine ⟨[.write offset buf], rfl, fun offset' buf' member => ?_⟩
  cases List.mem_singleton.mp member
  exact here

theorem driven_sync (d : RawDevice) (P : Nat → Bytes → Prop) : Driven d d.sync.2 P := by
  refine ⟨[.sync], rfl, fun _ _ member => ?_⟩
  cases List.mem_singleton.mp member

theorem driven_trans (a b c : RawDevice) (P : Nat → Bytes → Prop) (first : Driven a b P) (second : Driven b c P) : Driven a c P := by
  obtain ⟨calls, rfl, every⟩ := first
  obtain ⟨more, rfl, every'⟩ := second
  refine ⟨calls ++ more, by rw [List.foldl_append], fun offset buf member => ?_⟩
  rcases List.mem_append.mp member with old | new
  · exact every offset buf old
  · exact every' offset buf new

theorem driven_mono (before after : RawDevice) (P Q : Nat → Bytes → Prop) (weaker : ∀ offset buf, P offset buf → Q offset buf)
    (driven : Driven before after P) : Driven before after Q := by
  obtain ⟨calls, rfl, every⟩ := driven
  exact ⟨calls, rfl, fun offset buf member => weaker offset buf (every offset buf member)⟩

theorem call_healthy (d : RawDevice) (call : DeviceCall) (healthy : d.Healthy) : (d.call call).Healthy := by
  cases call with
  | write offset buf =>
      by_cases fits : offset + buf.length ≤ d.sizeBytes
      · simp only [RawDevice.call, healthy_write d offset buf healthy fits]
        exact healthy_record d _ healthy
      · simp only [RawDevice.call, RawDevice.writeAt, fits, and_false, if_false]
        exact healthy
  | sync =>
      simp only [RawDevice.call, healthy_sync d healthy]
      exact healthy_record d _ healthy

theorem driven_healthy (before after : RawDevice) (P : Nat → Bytes → Prop) (driven : Driven before after P) (healthy : before.Healthy) :
    after.Healthy := by
  obtain ⟨calls, rfl, _⟩ := driven
  clear * - healthy
  induction calls generalizing before with
  | nil => exact healthy
  | cons call calls ih => exact ih _ (call_healthy before call healthy)

theorem write_at_same (d : RawDevice) (offset : Nat) (buf : Bytes) :
    (d.writeAt offset buf).2.sizeBytes = d.sizeBytes ∧ (d.writeAt offset buf).2.isOpen = d.isOpen ∧
      (d.writeAt offset buf).2.unreadable = d.unreadable := by
  unfold RawDevice.writeAt
  split
  · split <;> exact ⟨rfl, rfl, rfl⟩
  · exact ⟨rfl, rfl, rfl⟩

theorem sync_same (d : RawDevice) :
    d.sync.2.sizeBytes = d.sizeBytes ∧ d.sync.2.isOpen = d.isOpen ∧ d.sync.2.unreadable = d.unreadable := by
  unfold RawDevice.sync
  split
  · split <;> exact ⟨rfl, rfl, rfl⟩
  · exact ⟨rfl, rfl, rfl⟩

theorem driven_same (before after : RawDevice) (P : Nat → Bytes → Prop) (driven : Driven before after P) :
    after.sizeBytes = before.sizeBytes ∧ after.isOpen = before.isOpen ∧ after.unreadable = before.unreadable := by
  obtain ⟨calls, rfl, _⟩ := driven
  clear * -
  induction calls generalizing before with
  | nil => exact ⟨rfl, rfl, rfl⟩
  | cons call calls ih =>
      obtain ⟨size, opened, unreadable⟩ := ih (before.call call)
      rw [List.foldl_cons, size, opened, unreadable]
      cases call with
      | write offset buf => exact write_at_same before offset buf
      | sync => exact sync_same before

-- A call leaves the bytes outside its buffer alone, even when it fails.
theorem call_outside (d : RawDevice) (call : DeviceCall) (o : Nat)
    (outside : ∀ offset buf, call = .write offset buf → o < offset ∨ offset + buf.length ≤ o) :
    (d.call call).medium.cur o = d.medium.cur o := by
  cases call with
  | write offset buf =>
      have away := write_outside d.medium.cur offset o buf (outside offset buf rfl)
      simp only [RawDevice.call, RawDevice.writeAt]
      split
      · split
        · exact away
        · simp only [record_medium, medium_put_cur, writeSome]
          split
          · exact away
          · rfl
      · rfl
  | sync =>
      simp only [RawDevice.call, RawDevice.sync]
      split
      · split <;> rfl
      · rfl

theorem driven_outside (before after : RawDevice) (P : Nat → Bytes → Prop) (driven : Driven before after P) (o : Nat)
    (outside : ∀ offset buf, P offset buf → o < offset ∨ offset + buf.length ≤ o) : after.medium.cur o = before.medium.cur o := by
  obtain ⟨calls, rfl, every⟩ := driven
  induction calls generalizing before with
  | nil => rfl
  | cons call calls ih =>
      rw [List.foldl_cons, ih (before.call call) fun offset buf member => every offset buf (List.mem_cons_of_mem _ member)]
      exact call_outside before call o fun offset buf same => outside offset buf (every offset buf (by simp [same]))

-- The same for WriteAt calls alone.
def Written (before after : RawDevice) (P : Nat → Bytes → Prop) : Prop :=
  ∃ writes : List (Nat × Bytes), after = writes.foldl (fun d w => (d.writeAt w.1 w.2).2) before ∧ ∀ w ∈ writes, P w.1 w.2

theorem written_refl (d : RawDevice) (P : Nat → Bytes → Prop) : Written d d P := ⟨[], rfl, fun _ member => nomatch member⟩

theorem written_write (d : RawDevice) (offset : Nat) (buf : Bytes) (P : Nat → Bytes → Prop) (here : P offset buf) :
    Written d (d.writeAt offset buf).2 P := by
  refine ⟨[(offset, buf)], rfl, fun w member => ?_⟩
  cases List.mem_singleton.mp member
  exact here

theorem written_trans (a b c : RawDevice) (P : Nat → Bytes → Prop) (first : Written a b P) (second : Written b c P) : Written a c P := by
  obtain ⟨writes, rfl, every⟩ := first
  obtain ⟨more, rfl, every'⟩ := second
  refine ⟨writes ++ more, by rw [List.foldl_append], fun w member => ?_⟩
  rcases List.mem_append.mp member with old | new
  · exact every w old
  · exact every' w new

theorem written_mono (before after : RawDevice) (P Q : Nat → Bytes → Prop) (weaker : ∀ offset buf, P offset buf → Q offset buf)
    (written : Written before after P) : Written before after Q := by
  obtain ⟨writes, rfl, every⟩ := written
  exact ⟨writes, rfl, fun w member => weaker w.1 w.2 (every w member)⟩

theorem written_driven (before after : RawDevice) (P : Nat → Bytes → Prop) (written : Written before after P) : Driven before after P := by
  obtain ⟨writes, rfl, every⟩ := written
  refine ⟨writes.map fun w => .write w.1 w.2, by rw [List.foldl_map]; rfl, fun offset buf member => ?_⟩
  obtain ⟨w, there, same⟩ := List.mem_map.mp member
  cases same
  exact every w there

-- What a WriteAt leaves of the medium, whether it succeeds, fails or is refused.
theorem write_at_medium (d : RawDevice) (offset : Nat) (buf : Bytes) :
    (d.writeAt offset buf).2 = d ∨ ∃ img, (d.writeAt offset buf).2 = d.record (d.medium.put img) ∧
      ∀ o, (o < offset ∨ offset + buf.length ≤ o) → img o = d.medium.cur o := by
  unfold RawDevice.writeAt
  split
  · split
    · exact .inr ⟨_, rfl, fun o outside => write_outside _ _ _ _ outside⟩
    · refine .inr ⟨_, rfl, fun o outside => ?_⟩
      unfold writeSome
      split
      · exact write_outside _ _ _ _ outside
      · rfl
  · exact .inl rfl

-- What every WriteAt keeps of the medium holds at each point in between.
theorem written_traced (before after : RawDevice) (P : Nat → Bytes → Prop) (Q : Medium → Prop) (written : Written before after P)
    (start : Q before.medium) (kept : ∀ m img, Q m → (∃ offset buf, P offset buf ∧ ∀ o, (o < offset ∨ offset + buf.length ≤ o) →
      img o = m.cur o) → Q (m.put img)) : Traced before after Q ∧ Q after.medium := by
  obtain ⟨writes, rfl, every⟩ := written
  induction writes generalizing before with
  | nil => exact ⟨traced_refl before Q, start⟩
  | cons w rest ih =>
      have others : ∀ w' ∈ rest, P w'.1 w'.2 := fun w' member => every w' (List.mem_cons_of_mem _ member)
      rw [List.foldl_cons]
      rcases write_at_medium before w.1 w.2 with same | ⟨img, put, outside⟩
      · rw [same]
        exact ih before start others
      · have here : Q (before.medium.put img) := kept _ _ start ⟨w.1, w.2, every w (by simp), outside⟩
        rw [put]
        obtain ⟨traced, last⟩ := ih (before.record (before.medium.put img)) here others
        exact ⟨traced_trans _ _ _ Q (traced_record before _ Q here) traced, last⟩

end Cabe
