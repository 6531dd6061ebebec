import Cabe.RawDevice
import Cabe.Storage.Partial

set_option autoImplicit false

namespace Cabe

open Storage

-- What a pread or pwrite comes back with. A transfer is never longer than the
-- call asked for, and a failing pwrite may still have put any of its sectors
-- on the medium.
inductive Transfer where
  | interrupted
  | error (reached : Nat → Bool)
  | moved (n : Nat)

-- O_DIRECT moves whole sectors.
def Transfer.Whole : Transfer → Prop
  | .interrupted => True
  | .error _ => True
  | .moved n => n % kSectorSize = 0

-- WriteExact from `done` on, against the answers the kernel has given so far;
-- without a result it waits for the next one.
def writeExact (buf : Bytes) (offset : Nat) : Nat → Medium → List Transfer → Option Bool × Medium
  | done, m, [] => (if done < buf.length then none else some true, m)
  | done, m, answer :: answers =>
      if done < buf.length then
        match answer with
        | .interrupted => writeExact buf offset done m answers
        | .error reached => (some false, m.put (writeSome kSectorSize m.cur (offset + done) (buf.drop done) reached))
        | .moved n =>
            if n = 0 then (some false, m)
            else
              writeExact buf offset (done + min n (buf.length - done))
                (m.put (write m.cur (offset + done) ((buf.drop done).take (min n (buf.length - done))))) answers
      else (some true, m)

-- ReadExact: the bytes in the buffer so far are the first argument that changes.
def readExact (img : Image) (offset len : Nat) : Bytes → List Transfer → Option (Option Bytes)
  | buf, [] => if buf.length < len then none else some (some buf)
  | buf, answer :: answers =>
      if buf.length < len then
        match answer with
        | .interrupted => readExact img offset len buf answers
        | .error _ => some none
        | .moved n =>
            if n = 0 then some none
            else readExact img offset len (buf ++ read img (offset + buf.length) (min n (len - buf.length))) answers
      else some (some buf)

-- WriteAt and ReadAt as the source has them, over the loops.
def RawDevice.writeAtBy (d : RawDevice) (offset : Nat) (buf : Bytes) (answers : List Transfer) : Option Rc × Medium :=
  if d.isOpen = true then
    match writeExact buf offset 0 d.medium answers with
    | (none, m) => (none, m)
    | (some false, m) => (some Err.kIoBase, m)
    | (some true, m) => (some Err.kSuccess, m)
  else (some Err.kIoBase, d.medium)

def RawDevice.readAtBy (d : RawDevice) (offset len : Nat) (answers : List Transfer) : Option (Option Bytes) :=
  if d.isOpen = true then readExact d.medium.cur offset len [] answers else some none

-- The same call with its outcome decided in advance.
def RawDevice.writeAtWith (d : RawDevice) (outcome : Outcome) (offset : Nat) (buf : Bytes) : Rc × RawDevice :=
  { d with outcomes := [outcome] }.writeAt offset buf

def RawDevice.readAtWith (d : RawDevice) (unreadable : Nat → Bool) (offset len : Nat) : Option Bytes :=
  { d with unreadable := unreadable }.readAt offset len

-- The loop has put the first `done` bytes on the medium, each transfer up to a
-- border of sectors unless it reached the end of the buffer.
structure Halfway (old m : Medium) (offset : Nat) (buf : Bytes) (done : Nat) : Prop where
  fits : done ≤ buf.length
  ends : (offset + done) % kSectorSize = 0 ∨ done = buf.length
  cur : m.cur = write old.cur offset (buf.take done)
  partway : Partway kSectorSize old m offset buf (below kSectorSize (offset + done))

variable {old m : Medium} {offset : Nat} {buf : Bytes} {done : Nat}

theorem halfway_start (old : Medium) (offset : Nat) (buf : Bytes) (aligned : offset % kSectorSize = 0) :
    Halfway old old offset buf 0 := by
  refine ⟨Nat.zero_le _, .inl aligned, ?_, partway_start old fun o lower _ => ?_⟩
  · funext o
    simp [write]
  · have outside : ¬below kSectorSize (offset + 0) (o / kSectorSize) = true := by
      rw [below_border _ _ (by exact aligned)]
      omega
    simpa using outside

-- The spec of one transfer.
theorem halfway_moved (halfway : Halfway old m offset buf done) (n : Nat) (short : done < buf.length) (whole : n % kSectorSize = 0) :
    Halfway old (m.put (write m.cur (offset + done) ((buf.drop done).take (min n (buf.length - done))))) offset buf
      (done + min n (buf.length - done)) := by
  have border : (offset + done) % kSectorSize = 0 := by
    rcases halfway.ends with border | full
    · exact border
    · omega
  have image : write m.cur (offset + done) ((buf.drop done).take (min n (buf.length - done))) =
      write old.cur offset (buf.take (done + min n (buf.length - done))) := by
    rw [halfway.cur, write_take_more]
  have ends : (offset + (done + min n (buf.length - done))) % kSectorSize = 0 ∨ done + min n (buf.length - done) = buf.length := by
    rcases Nat.le_total n (buf.length - done) with less | rest
    · rw [Nat.min_eq_left less, ← Nat.add_assoc, Nat.add_mod, border, whole]
      exact .inl rfl
    · rw [Nat.min_eq_right rest]
      exact .inr (by omega)
  refine ⟨by omega, ends, image, ?_⟩
  have sectors : write old.cur offset (buf.take (done + min n (buf.length - done))) =
      writeSome kSectorSize old.cur offset buf (below kSectorSize (offset + (done + min n (buf.length - done)))) :=
    write_take_some old.cur offset _ buf (ends.imp_right fun full => by omega)
  rw [image, sectors]
  exact partway_put halfway.partway fun k => below_mono _ _ k (by omega)

theorem halfway_failed (halfway : Halfway old m offset buf done) (short : done < buf.length) (reached : Nat → Bool) :
    Partway kSectorSize old (m.put (writeSome kSectorSize m.cur (offset + done) (buf.drop done) reached)) offset buf
      (fun k => below kSectorSize (offset + done) k || reached k) := by
  have border : (offset + done) % kSectorSize = 0 := by
    rcases halfway.ends with border | full
    · exact border
    · omega
  rw [halfway.cur, write_some_rest _ _ _ _ _ border]
  exact partway_put halfway.partway fun k inside => by simp only [inside, Bool.true_or]

theorem halfway_complete (halfway : Halfway old m offset buf done) (full : ¬done < buf.length) :
    m.cur = write old.cur offset buf := by
  rw [halfway.cur, List.take_of_length_le (by omega)]

-- Whatever the answers so far, the medium holds some of the sectors of the
-- buffer, and all of it once the loop reports success.
theorem write_exact_leaves (halfway : Halfway old m offset buf done) (answers : List Transfer) (whole : ∀ t ∈ answers, t.Whole) :
    ∃ mask, Partway kSectorSize old (writeExact buf offset done m answers).2 offset buf mask ∧
      ((writeExact buf offset done m answers).1 = some true → (writeExact buf offset done m answers).2.cur = write old.cur offset buf) := by
  induction answers generalizing done m with
  | nil =>
      refine ⟨_, halfway.partway, fun returned => ?_⟩
      by_cases short : done < buf.length
      · simp only [writeExact, short, if_true] at returned
        cases returned
      · exact halfway_complete halfway short
  | cons answer answers ih =>
      have later : ∀ t ∈ answers, t.Whole := fun t member => whole t (List.mem_cons_of_mem _ member)
      by_cases short : done < buf.length
      · cases answer with
        | interrupted =>
            simp only [writeExact, short, if_true]
            exact ih halfway later
        | error reached =>
            simp only [writeExact, short, if_true]
            exact ⟨_, halfway_failed halfway short reached, nofun⟩
        | moved n =>
            by_cases eof : n = 0
            · simp only [writeExact, short, eof, if_true]
              exact ⟨_, halfway.partway, nofun⟩
            · simp only [writeExact, short, eof, if_true, if_false]
              exact ih (halfway_moved halfway n short (whole _ List.mem_cons_self)) later
      · simp only [writeExact, short, if_false]
        exact ⟨_, halfway.partway, fun _ => halfway_complete halfway short⟩

def Transfer.answered : Transfer → Bool
  | .interrupted => false
  | .error _ => true
  | .moved _ => true

-- Every answer but EINTR ends the loop or moves a sector.
theorem write_exact_waits (buf : Bytes) (offset done : Nat) (m : Medium) (answers : List Transfer) (whole : ∀ t ∈ answers, t.Whole)
    (waits : (writeExact buf offset done m answers).1 = none) :
    done + kSectorSize * (answers.filter Transfer.answered).length < buf.length := by
  induction answers generalizing done m with
  | nil =>
      by_cases short : done < buf.length
      · simpa using short
      · simp only [writeExact, short, if_false] at waits
        cases waits
  | cons answer answers ih =>
      have later : ∀ t ∈ answers, t.Whole := fun t member => whole t (List.mem_cons_of_mem _ member)
      by_cases short : done < buf.length
      · cases answer with
        | interrupted =>
            simp only [writeExact, short, if_true] at waits
            exact ih done m later waits
        | error reached =>
            simp only [writeExact, short, if_true] at waits
            cases waits
        | moved n =>
            by_cases eof : n = 0
            · simp only [writeExact, short, eof, if_true] at waits
              cases waits
            · simp only [writeExact, short, eof, if_true, if_false] at waits
              have rest := ih _ _ later waits
              have sectors : n % kSectorSize = 0 := whole _ List.mem_cons_self
              have sector : kSectorSize ≤ n := Nat.le_of_dvd (Nat.pos_of_ne_zero eof) (Nat.dvd_of_mod_eq_zero sectors)
              rw [List.filter_cons_of_pos (by rfl), List.length_cons, Nat.mul_succ]
              omega
      · simp only [writeExact, short, if_false] at waits
        cases waits

-- A read loop that returns has read the range or failed; it never hands out
-- part of it.
theorem read_exact_whole (img : Image) (offset len : Nat) (count : Nat) (fits : count ≤ len) (answers : List Transfer) (buf : Bytes)
    (returned : readExact img offset len (read img offset count) answers = some (some buf)) : buf = read img offset len := by
  induction answers generalizing count with
  | nil =>
      by_cases short : count < len
      · simp only [readExact, read_length, short, if_true] at returned
        cases returned
      · simp only [readExact, read_length, short, if_false, Option.some.injEq] at returned
        rw [← returned, show count = len by omega]
  | cons answer answers ih =>
      by_cases short : count < len
      · cases answer with
        | interrupted =>
            simp only [readExact, read_length, short, if_true] at returned
            exact ih count fits returned
        | error reached =>
            simp only [readExact, read_length, short, if_true] at returned
            cases returned
        | moved n =>
            by_cases eof : n = 0
            · simp only [readExact, read_length, short, eof, if_true] at returned
              cases returned
            · simp only [readExact, read_length, short, eof, if_true, if_false, ← read_append] at returned
              exact ih (count + min n (len - count)) (by omega) returned
      · simp only [readExact, read_length, short, if_false, Option.some.injEq] at returned
        rw [← returned, show count = len by omega]

-- The range is not empty where the loop fails.
theorem read_exact_failed (img : Image) (offset len : Nat) (buf : Bytes) (answers : List Transfer)
    (failed : readExact img offset len buf answers = some none) : buf.length < len := by
  cases answers with
  | nil =>
      by_cases short : buf.length < len
      · exact short
      · simp only [readExact, short, if_false] at failed
        cases failed
  | cons answer answers =>
      by_cases short : buf.length < len
      · exact short
      · simp only [readExact, short, if_false] at failed
        cases failed

-- How a loop, returned or still waiting, looks beside one call: the same
-- result and content once it returns, and at any time nothing more durable and
-- no image after power loss that the call could not leave.
structure Explains (call : Rc × RawDevice) (loop : Option Rc × Medium) : Prop where
  returned : ∀ rc, loop.1 = some rc → rc = call.1 ∧ loop.2.cur = call.2.medium.cur
  stable : loop.2.stable = call.2.medium.stable
  survivors : ∀ img, loop.2.Survives kSectorSize img → call.2.medium.Survives kSectorSize img

theorem write_some_every (img : Image) (offset : Nat) (buf : Bytes) :
    writeSome kSectorSize img offset buf (fun _ => true) = write img offset buf := by
  funext o
  simp only [writeSome, if_true]

theorem write_with_ok (d : RawDevice) (offset : Nat) (buf : Bytes) (opened : d.isOpen = true) (fits : offset + buf.length ≤ d.sizeBytes) :
    (d.writeAtWith .ok offset buf).1 = Err.kSuccess ∧
      (d.writeAtWith .ok offset buf).2.medium = d.medium.put (write d.medium.cur offset buf) := by
  simp [RawDevice.writeAtWith, RawDevice.writeAt, RawDevice.outcome, opened, fits]

theorem write_with_fail (d : RawDevice) (mask : Nat → Bool) (offset : Nat) (buf : Bytes) (opened : d.isOpen = true)
    (fits : offset + buf.length ≤ d.sizeBytes) :
    (d.writeAtWith (.fail mask) offset buf).1 = Err.kIoBase ∧
      (d.writeAtWith (.fail mask) offset buf).2.medium = d.medium.put (writeSome kSectorSize d.medium.cur offset buf mask) := by
  simp [RawDevice.writeAtWith, RawDevice.writeAt, RawDevice.outcome, opened, fits]

-- A loop that waits or has written everything is a call that succeeds; one
-- that failed is a call that failed on the sectors it did not reach.
theorem write_loop_explained (d : RawDevice) (offset : Nat) (buf : Bytes) (answers : List Transfer) (opened : d.isOpen = true)
    (fits : offset + buf.length ≤ d.sizeBytes) (aligned : offset % kSectorSize = 0) (whole : ∀ t ∈ answers, t.Whole) :
    ∃ outcome, Explains (d.writeAtWith outcome offset buf) (d.writeAtBy offset buf answers) := by
  obtain ⟨mask, partway, complete⟩ := write_exact_leaves (halfway_start d.medium offset buf aligned) answers whole
  unfold RawDevice.writeAtBy
  rw [if_pos opened]
  rcases loop : writeExact buf offset 0 d.medium answers with ⟨result, m⟩
  simp only [loop] at partway complete
  obtain ⟨done, put⟩ := write_with_ok d offset buf opened fits
  have alive : ∀ img, m.Survives kSectorSize img → (d.writeAtWith .ok offset buf).2.medium.Survives kSectorSize img := by
    intro img survives
    rw [put, ← write_some_every]
    exact partway_survives partway (fun _ _ => rfl) img survives
  have stable : m.stable = (d.writeAtWith .ok offset buf).2.medium.stable := by rw [put, medium_stable_put, partway.stable]
  cases result with
  | none => exact ⟨.ok, nofun, stable, alive⟩
  | some written =>
      cases written with
      | true =>
          refine ⟨.ok, fun rc same => ?_, stable, alive⟩
          cases same
          exact ⟨done.symm, by rw [put, medium_put_cur, complete rfl]⟩
      | false =>
          obtain ⟨failed, put⟩ := write_with_fail d mask offset buf opened fits
          refine ⟨.fail mask, fun rc same => ?_, by rw [put, medium_stable_put, partway.stable], fun img survives => ?_⟩
          · cases same
            exact ⟨failed.symm, by rw [put, medium_put_cur, partway.cur]⟩
          · rw [put]
            exact partway_survives partway (fun _ holds => holds) img survives

-- Every outcome of the call is one of the loop.
theorem write_call_explained (d : RawDevice) (outcome : Outcome) (offset : Nat) (buf : Bytes) (opened : d.isOpen = true)
    (fits : offset + buf.length ≤ d.sizeBytes) (filled : buf ≠ []) :
    ∃ answers, (∀ t ∈ answers, t.Whole) ∧
      d.writeAtBy offset buf answers = (some (d.writeAtWith outcome offset buf).1, (d.writeAtWith outcome offset buf).2.medium) := by
  have short : 0 < buf.length := List.length_pos_iff.mpr filled
  cases outcome with
  | ok =>
      obtain ⟨done, put⟩ := write_with_ok d offset buf opened fits
      refine ⟨[.moved (kSectorSize * buf.length)], fun t member => ?_, ?_⟩
      · cases List.mem_singleton.mp member
        exact Nat.mul_mod_right kSectorSize buf.length
      · have all : min (kSectorSize * buf.length) buf.length = buf.length := by
          simp only [kSectorSize]
          omega
        have more : kSectorSize * buf.length ≠ 0 := by
          simp only [kSectorSize]
          omega
        simp [RawDevice.writeAtBy, writeExact, opened, short, more, all, done, put]
  | fail mask =>
      obtain ⟨failed, put⟩ := write_with_fail d mask offset buf opened fits
      refine ⟨[.error mask], fun t member => ?_, ?_⟩
      · cases List.mem_singleton.mp member
        trivial
      · simp [RawDevice.writeAtBy, writeExact, opened, short, failed, put]

theorem read_loop_explained (d : RawDevice) (offset len : Nat) (answers : List Transfer) (result : Option Bytes) (opened : d.isOpen = true)
    (fits : offset + len ≤ d.sizeBytes) (returned : d.readAtBy offset len answers = some result) :
    ∃ unreadable, result = d.readAtWith unreadable offset len := by
  unfold RawDevice.readAtBy at returned
  rw [if_pos opened] at returned
  cases result with
  | none =>
      have short : 0 < len := read_exact_failed _ _ _ _ _ returned
      refine ⟨fun _ => true, ?_⟩
      have filled : ∃ x, x < len := ⟨0, short⟩
      simp [RawDevice.readAtWith, RawDevice.readAt, opened, fits, filled]
  | some buf =>
      have same := read_exact_whole d.medium.cur offset len 0 (Nat.zero_le _) answers buf (by exact returned)
      exact ⟨fun _ => false, by simp [RawDevice.readAtWith, RawDevice.readAt, opened, fits, same]⟩

-- The retry loops of one WriteAt or ReadAt on an open device, over whatever
-- the kernel answers: at any moment, power loss in the middle included, they
-- are one call of the device with some outcome; every outcome is reached; only
-- a kernel that goes on with EINTR keeps them.
theorem retry_loops_are_calls (d : RawDevice) (offset : Nat) (opened : d.isOpen = true) (aligned : offset % kSectorSize = 0) :
    (∀ buf : Bytes, offset + buf.length ≤ d.sizeBytes → buf ≠ [] →
      (∀ answers, (∀ t ∈ answers, t.Whole) →
        (∃ outcome, Explains (d.writeAtWith outcome offset buf) (d.writeAtBy offset buf answers)) ∧
        ((d.writeAtBy offset buf answers).1 = none → kSectorSize * (answers.filter Transfer.answered).length < buf.length)) ∧
      (∀ outcome, ∃ answers, (∀ t ∈ answers, t.Whole) ∧
        d.writeAtBy offset buf answers = (some (d.writeAtWith outcome offset buf).1, (d.writeAtWith outcome offset buf).2.medium))) ∧
    (∀ len answers result, offset + len ≤ d.sizeBytes → d.readAtBy offset len answers = some result →
      ∃ unreadable, result = d.readAtWith unreadable offset len) := by
  refine ⟨fun buf fits filled => ⟨fun answers whole => ⟨?_, fun waits => ?_⟩, fun outcome => ?_⟩, fun len answers result fits returned => ?_⟩
  · exact write_loop_explained d offset buf answers opened fits aligned whole
  · have loop : (writeExact buf offset 0 d.medium answers).1 = none := by
      unfold RawDevice.writeAtBy at waits
      rw [if_pos opened] at waits
      split at waits
      · rename_i same
        rw [same]
      · cases waits
      · cases waits
    simpa only [Nat.zero_add] using write_exact_waits buf offset 0 d.medium answers whole loop
  · exact write_call_explained d outcome offset buf opened fits filled
  · exact read_loop_explained d offset len answers result opened fits returned

-- A transfer of one sector, a signal, and an error that reached nothing more.
def stopped : List Transfer := [.moved kSectorSize, .interrupted, .error fun _ => false]

theorem retry_loops_are_calls_stopped :
    ∃ outcome, Explains (RawDevice.writeAtWith ⟨true, 4096, .ofImage fun _ => 0, [], fun _ => false, []⟩ outcome 512 (List.replicate 1024 7))
      (RawDevice.writeAtBy ⟨true, 4096, .ofImage fun _ => 0, [], fun _ => false, []⟩ 512 (List.replicate 1024 7) stopped) := by
  have calls := retry_loops_are_calls ⟨true, 4096, .ofImage fun _ => 0, [], fun _ => false, []⟩ 512 rfl rfl
  have whole : ∀ t ∈ stopped, t.Whole := by
    intro t member
    simp only [stopped, List.mem_cons, List.not_mem_nil, or_false] at member
    rcases member with rfl | rfl | rfl
    · exact Nat.mod_self kSectorSize
    · trivial
    · trivial
  have length : (List.replicate 1024 (7 : UInt8)).length = 1024 := List.length_replicate
  have fits : 512 + (List.replicate 1024 (7 : UInt8)).length ≤ 4096 := by omega
  have filled : List.replicate 1024 (7 : UInt8) ≠ [] := List.ne_nil_of_length_pos (by omega)
  exact ((calls.1 (List.replicate 1024 7) fits filled).1 stopped whole).1

end Cabe
