import Mathlib.Data.List.AList
import Cabe.Common

set_option autoImplicit false

namespace Cabe

abbrev IndexEntry := Sigma fun _ : Key => ValueMeta

abbrev MetaIndex := AList fun _ : Key => ValueMeta

def MetaIndex.insertMeta (m : MetaIndex) (key : Key) (meta_ : ValueMeta) : Rc × MetaIndex :=
  (Err.kSuccess, m.insert key meta_)

def MetaIndex.lookupMeta (m : MetaIndex) (key : Key) : Except Rc ValueMeta :=
  match m.lookup key with
  | none => .error Err.kIndexKeyNotFound
  | some meta_ => .ok meta_

def MetaIndex.deleteMeta (m : MetaIndex) (key : Key) : Rc × MetaIndex :=
  match m.lookup key with
  | none => (Err.kIndexKeyNotFound, m)
  | some _ => (Err.kSuccess, m.erase key)

-- A hash map promises nothing about the order it is walked in.
structure Walk where
  order : MetaIndex → List IndexEntry
  perm : ∀ m : MetaIndex, (order m).Perm m.entries

abbrev MetaIndexVisitor (σ : Type) := σ → Key → ValueMeta → Rc × σ

def visitAll {σ : Type} (visitor : MetaIndexVisitor σ) : σ → List IndexEntry → Rc × σ
  | st, [] => (Err.kSuccess, st)
  | st, e :: rest =>
      match visitor st e.1 e.2 with
      | (rc, st1) => if rc ≠ Err.kSuccess then (rc, st1) else visitAll visitor st1 rest

def MetaIndex.forEach {σ : Type} (m : MetaIndex) (walk : Walk) (visitor : MetaIndexVisitor σ) (st : σ) : Rc × σ :=
  visitAll visitor st (walk.order m)

-- The blocks the entries name.
def MetaIndex.blocks (m : MetaIndex) : List BlockId := m.entries.map fun e => e.2.block

theorem lookup_extract (key : Key) (meta_ : ValueMeta) (entries : List IndexEntry)
    (found : entries.dlookup key = some meta_) : entries.Perm (⟨key, meta_⟩ :: entries.kerase key) := by
  induction entries with
  | nil => cases found
  | cons e rest ih =>
      obtain ⟨other, meta'⟩ := e
      by_cases same : key = other
      · subst same
        rw [List.dlookup_cons_eq, Option.some.injEq] at found
        rw [List.kerase_cons_eq (s := (⟨key, meta'⟩ : IndexEntry)) rfl, found]
      · rw [List.dlookup_cons_ne rest _ same] at found
        rw [List.kerase_cons_ne same]
        exact ((ih found).cons _).trans (List.Perm.swap _ _ _)

theorem blocks_insert_fresh (m : MetaIndex) (key : Key) (meta_ : ValueMeta) (fresh : m.lookup key = none) :
    MetaIndex.blocks (m.insert key meta_) = meta_.block :: m.blocks := by
  have absent : key ∉ m.entries.keys := by
    rw [AList.lookup_eq_none] at fresh
    exact fresh
  unfold MetaIndex.blocks
  rw [AList.entries_insert, List.kerase_of_notMem_keys absent]
  rfl

theorem blocks_insert_over (m : MetaIndex) (key : Key) (meta_ old : ValueMeta) (found : m.lookup key = some old) :
    (old.block :: MetaIndex.blocks (m.insert key meta_)).Perm (meta_.block :: m.blocks) := by
  have split := (lookup_extract key old m.entries found).map fun e : IndexEntry => e.2.block
  unfold MetaIndex.blocks
  rw [AList.entries_insert, List.map_cons]
  exact (List.Perm.swap _ _ _).trans (split.symm.cons _)

theorem blocks_erase (m : MetaIndex) (key : Key) (old : ValueMeta) (found : m.lookup key = some old) :
    (old.block :: MetaIndex.blocks (m.erase key)).Perm m.blocks :=
  ((lookup_extract key old m.entries found).map fun e : IndexEntry => e.2.block).symm

theorem mem_blocks (m : MetaIndex) (key : Key) (meta_ : ValueMeta) (found : m.lookup key = some meta_) : meta_.block ∈ m.blocks :=
  List.mem_map_of_mem (f := fun e : IndexEntry => e.2.block) (AList.mem_lookup_iff.mp found)

-- Distinct blocks mean that no two keys share one.
theorem blocks_injective (m : MetaIndex) (nodup : m.blocks.Nodup) (a b : Key) (metaA metaB : ValueMeta)
    (foundA : m.lookup a = some metaA) (foundB : m.lookup b = some metaB) (same : metaA.block = metaB.block) : a = b := by
  have memA : (⟨a, metaA⟩ : IndexEntry) ∈ m.entries := AList.mem_lookup_iff.mp foundA
  have memB : (⟨b, metaB⟩ : IndexEntry) ∈ m.entries := AList.mem_lookup_iff.mp foundB
  have unique := List.inj_on_of_nodup_map nodup memA memB same
  exact congrArg Sigma.fst unique

theorem walk_blocks (m : MetaIndex) (walk : Walk) :
    ((walk.order m).map fun e => e.2.block).Perm m.blocks :=
  (walk.perm m).map fun e : IndexEntry => e.2.block

-- A visitor that never refuses sees every entry.
theorem visit_all_accepting {σ : Type} (visitor : MetaIndexVisitor σ) (entries : List IndexEntry)
    (accepts : ∀ st, ∀ e ∈ entries, (visitor st e.1 e.2).1 = Err.kSuccess) :
    ∀ st, visitAll visitor st entries = (Err.kSuccess, entries.foldl (fun st e => (visitor st e.1 e.2).2) st) := by
  induction entries with
  | nil => exact fun _ => rfl
  | cons e rest ih =>
      intro st
      have here := accepts st e (by simp)
      have later := ih (fun st e member => accepts st e (List.mem_cons_of_mem _ member)) (visitor st e.1 e.2).2
      simp only [visitAll, here, ne_eq, not_true_eq_false, if_false, later, List.foldl_cons]

end Cabe
