import Cabe.Storage.Image

set_option autoImplicit false

namespace Storage

-- A device with a volatile write cache. The versions run from the current
-- content back to the one the last completed flush made durable.
structure Medium where
  cur : Image
  unsynced : List Image

def Medium.versions (m : Medium) : List Image := m.cur :: m.unsynced

def Medium.stable (m : Medium) : Image := (m.unsynced.getLast?).getD m.cur

def Medium.put (m : Medium) (img : Image) : Medium := ⟨img, m.cur :: m.unsynced⟩

def Medium.flush (m : Medium) : Medium := ⟨m.cur, []⟩

def Medium.ofImage (img : Image) : Medium := ⟨img, []⟩

-- Every sector of the image comes whole from one of the versions.
def Mix (sector : Nat) (versions : List Image) (img : Image) : Prop :=
  ∀ k, ∃ v ∈ versions, ∀ o, o / sector = k → img o = v o

-- What power loss may leave: each sector keeps its durable content or that of
-- any write issued after the last flush.
def Medium.Survives (sector : Nat) (m : Medium) (img : Image) : Prop := Mix sector m.versions img

-- A write of which only the sectors in the mask reached the device.
def writeSome (sector : Nat) (img : Image) (off : Nat) (bytes : Bytes) (mask : Nat → Bool) : Image :=
  fun o => if mask (o / sector) then write img off bytes o else img o

@[simp] theorem medium_put_cur (m : Medium) (img : Image) : (m.put img).cur = img := rfl
@[simp] theorem medium_flush_cur (m : Medium) : m.flush.cur = m.cur := rfl
@[simp] theorem medium_versions_put (m : Medium) (img : Image) : (m.put img).versions = img :: m.versions := rfl
@[simp] theorem medium_versions_flush (m : Medium) : m.flush.versions = [m.cur] := rfl
@[simp] theorem medium_versions_ofImage (img : Image) : (Medium.ofImage img).versions = [img] := rfl

theorem medium_cur_mem (m : Medium) : m.cur ∈ m.versions := List.mem_cons_self

theorem medium_stable_flush (m : Medium) : m.flush.stable = m.cur := rfl

theorem medium_stable_put (m : Medium) (img : Image) : (m.put img).stable = m.stable := by
  unfold Medium.stable Medium.put
  cases rest : m.unsynced with
  | nil => rfl
  | cons head tail => rw [List.getLast?_cons_cons, List.getLast?_cons]; rfl

theorem survives_self (sector : Nat) (m : Medium) : m.Survives sector m.cur :=
  fun _ => ⟨m.cur, medium_cur_mem m, fun _ _ => rfl⟩

theorem mix_singleton (sector : Nat) (img v : Image) (mix : Mix sector [v] img) : img = v := by
  funext o
  obtain ⟨u, member, same⟩ := mix (o / sector)
  have only : u = v := by simpa using member
  rw [same o rfl, only]

theorem survives_flushed (sector : Nat) (m : Medium) (img : Image) (clean : m.unsynced = [])
    (alive : m.Survives sector img) : img = m.cur := by
  apply mix_singleton sector
  simpa only [Medium.Survives, Medium.versions, clean] using alive

theorem write_some_mix (sector : Nat) (img : Image) (off : Nat) (bytes : Bytes) (mask : Nat → Bool) :
    Mix sector [write img off bytes, img] (writeSome sector img off bytes mask) := by
  intro k
  cases chosen : mask k with
  | true =>
      refine ⟨write img off bytes, by simp, ?_⟩
      intro o inside
      simp [writeSome, inside, chosen]
  | false =>
      refine ⟨img, by simp, ?_⟩
      intro o inside
      simp [writeSome, inside, chosen]

-- A record that lies within one sector is read whole from one version.
theorem mix_read (sector : Nat) (versions : List Image) (img : Image) (mix : Mix sector versions img)
    (off len : Nat) (within : ∀ i < len, (off + i) / sector = off / sector) :
    ∃ v ∈ versions, read img off len = read v off len := by
  obtain ⟨v, member, same⟩ := mix (off / sector)
  exact ⟨v, member, read_congr img v off len (fun i bound => same (off + i) (within i bound))⟩

-- A range on which all versions agree survives whatever its length.
theorem mix_read_agree (sector : Nat) (versions : List Image) (img : Image) (mix : Mix sector versions img)
    (off len : Nat) (bytes : Bytes) (every : ∀ v ∈ versions, read v off len = bytes) :
    read img off len = bytes := by
  obtain ⟨first, member, _⟩ := mix 0
  rw [← every first member]
  apply read_congr
  intro i bound
  obtain ⟨v, other, same⟩ := mix ((off + i) / sector)
  rw [same (off + i) rfl]
  exact read_eq_at v first off len i ((every v other).trans (every first member).symm) bound

end Storage
