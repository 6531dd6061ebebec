import Mathlib.Data.List.Nodup
import Mathlib.Data.Set.Card
import Mathlib.Logic.Function.Basic

set_option autoImplicit false

namespace Concurrency

variable {α K : Type}

-- Links lead from a head through a list of items to the end.
def Chain (next : α → Option α) : Option α → List α → Prop
  | head, [] => head = none
  | head, i :: rest => head = some i ∧ Chain next (next i) rest

theorem chain_congr (next other : α → Option α) (items : List α) : ∀ head, (∀ i ∈ items, other i = next i) →
    Chain next head items → Chain other head items := by
  induction items with
  | nil =>
      intro head _ chain
      exact chain
  | cons i rest ih =>
      intro head same chain
      refine ⟨chain.1, ?_⟩
      rw [same i List.mem_cons_self]
      exact ih _ (fun j member => same j (List.mem_cons_of_mem i member)) chain.2

theorem chain_pop (next : α → Option α) (i : α) (items : List α) (chain : Chain next (some i) items) :
    ∃ rest, items = i :: rest ∧ Chain next (next i) rest := by
  cases items with
  | nil => cases chain
  | cons j rest =>
      cases chain.1
      exact ⟨rest, rfl, chain.2⟩

theorem chain_end (next : α → Option α) (items : List α) (chain : Chain next none items) : items = [] := by
  cases items with
  | nil => rfl
  | cons i rest => cases chain.1

theorem chain_unique (next : α → Option α) (items : List α) : ∀ (others : List α) (head : Option α),
    Chain next head items → Chain next head others → items = others := by
  induction items with
  | nil =>
      intro others head first second
      cases first
      exact (chain_end next others second).symm
  | cons i rest ih =>
      intro others head first second
      cases first.1
      obtain ⟨more, rfl, chain⟩ := chain_pop next i others second
      rw [ih more _ first.2 chain]

-- Every item of a kind lies on the list or is kept by one keeper, and never
-- both.
structure Kept (item : α → Prop) (free : List α) (keeps : K → Option α) : Prop where
  once : free.Nodup
  apart : ∀ k i, keeps k = some i → i ∉ free
  alone : ∀ k l i, keeps k = some i → keeps l = some i → k = l
  whole : ∀ i, (i ∈ free ∨ ∃ k, keeps k = some i) ↔ item i

section Handing

variable [DecidableEq K] (item : α → Prop) (free : List α) (keeps : K → Option α)

theorem kept_take (i : α) (k : K) (kept : Kept item (i :: free) keeps) (empty : keeps k = none) :
    Kept item free (Function.update keeps k (some i)) := by
  obtain ⟨out, once⟩ := List.nodup_cons.mp kept.once
  refine ⟨once, ?_, ?_, ?_⟩
  · intro l j holds
    by_cases same : l = k
    · rw [same, Function.update_self] at holds
      cases holds
      exact out
    · rw [Function.update_of_ne same] at holds
      exact fun member => kept.apart l j holds (List.mem_cons_of_mem i member)
  · intro l m j first second
    by_cases left : l = k
    · by_cases right : m = k
      · rw [left, right]
      · rw [left, Function.update_self] at first
        rw [Function.update_of_ne right] at second
        cases first
        exact absurd List.mem_cons_self (kept.apart m i second)
    · rw [Function.update_of_ne left] at first
      by_cases right : m = k
      · rw [right, Function.update_self] at second
        cases second
        exact absurd List.mem_cons_self (kept.apart l i first)
      · rw [Function.update_of_ne right] at second
        exact kept.alone l m j first second
  · intro j
    rw [← kept.whole j]
    constructor
    · rintro (member | ⟨l, holds⟩)
      · exact .inl (List.mem_cons_of_mem i member)
      · by_cases same : l = k
        · rw [same, Function.update_self] at holds
          cases holds
          exact .inl List.mem_cons_self
        · rw [Function.update_of_ne same] at holds
          exact .inr ⟨l, holds⟩
    · rintro (member | ⟨l, holds⟩)
      · rcases List.mem_cons.mp member with rfl | rest
        · exact .inr ⟨k, Function.update_self ..⟩
        · exact .inl rest
      · refine .inr ⟨l, ?_⟩
        rw [Function.update_of_ne]
        · exact holds
        · rintro rfl
          rw [empty] at holds
          cases holds

theorem kept_give (i : α) (k : K) (kept : Kept item free keeps) (holds : keeps k = some i) :
    Kept item (i :: free) (Function.update keeps k none) := by
  have other (l : K) (j : α) (holds : Function.update keeps k none l = some j) : l ≠ k ∧ keeps l = some j := by
    by_cases same : l = k
    · rw [same, Function.update_self] at holds
      cases holds
    · rw [Function.update_of_ne same] at holds
      exact ⟨same, holds⟩
  refine ⟨List.nodup_cons.mpr ⟨kept.apart k i holds, kept.once⟩, ?_, ?_, ?_⟩
  · intro l j keeper
    obtain ⟨apart, keeper⟩ := other l j keeper
    intro member
    rcases List.mem_cons.mp member with rfl | rest
    · exact apart (kept.alone l k j keeper holds)
    · exact kept.apart l j keeper rest
  · intro l m j first second
    exact kept.alone l m j (other l j first).2 (other m j second).2
  · intro j
    rw [← kept.whole j]
    constructor
    · rintro (member | ⟨l, keeper⟩)
      · rcases List.mem_cons.mp member with rfl | rest
        · exact .inr ⟨k, holds⟩
        · exact .inl rest
      · exact .inr ⟨l, (other l j keeper).2⟩
    · rintro (member | ⟨l, keeper⟩)
      · exact .inl (List.mem_cons_of_mem i member)
      · by_cases same : l = k
        · rw [same, holds] at keeper
          cases keeper
          exact .inl List.mem_cons_self
        · refine .inr ⟨l, ?_⟩
          rw [Function.update_of_ne same]
          exact keeper

theorem kept_hand (i : α) (k l : K) (kept : Kept item free keeps) (holds : keeps k = some i) (empty : keeps l = none) :
    Kept item free (Function.update (Function.update keeps k none) l (some i)) := by
  have given := kept_give item free keeps i k kept holds
  refine kept_take item free (Function.update keeps k none) i l given ?_
  by_cases same : l = k
  · rw [same, Function.update_self]
  · rw [Function.update_of_ne same]
    exact empty

end Handing

end Concurrency
