import Mathlib.Order.Lattice
import Mathlib.Data.List.Nodup
import Mathlib.Tactic.Common

/-!
# `LocHal.Lib.SortedMap`: maps that are iterated in the order of their keys

A `SortedMap` lists its entries with increasing keys, so the order of a loop over the map is the
order of the keys. `insert` keeps the order and replaces the entry of an equal key.

`mem_insert` and `mem_erase` give the entries after a change, `find_eq_some` says that `find` is
membership, and `mem_unique` that a key has one entry.

A map carries the proof that it is sorted, so the two operations that change it prove it once
(`sorted_insertList` for the insertion; the removal is a filter). The later lemmas are about
membership only, and do not look at the list.

`flatMap_key` is for a loop over the map that does something at a single key. `eq_of_size_one` and
`exists_other` are what a program knows that looks at the size of a map before it changes it.
-/

set_option autoImplicit false

/-- A map with its entries in the order of the keys. -/
structure SortedMap (κ ν : Type*) [LinearOrder κ] where
  toList : List (κ × ν)
  sorted : toList.Pairwise fun a b => a.1 < b.1

namespace SortedMap

variable {κ ν : Type*} [LinearOrder κ]

instance : Membership (κ × ν) (SortedMap κ ν) where
  mem m e := e ∈ m.toList

instance : EmptyCollection (SortedMap κ ν) where
  emptyCollection := ⟨[], List.Pairwise.nil⟩

@[simp] theorem not_mem_empty (e : κ × ν) : e ∉ (∅ : SortedMap κ ν) := List.not_mem_nil

/-- The value of a key. -/
def find (m : SortedMap κ ν) (key : κ) : Option ν :=
  (m.toList.find? fun e => e.1 = key).map Prod.snd

/-- The number of entries. -/
def size (m : SortedMap κ ν) : Nat := m.toList.length

/-- Whether the map has no entry. -/
def isEmpty (m : SortedMap κ ν) : Bool := m.toList.isEmpty

/-- The entries after an insertion. -/
def insertList (key : κ) (val : ν) : List (κ × ν) → List (κ × ν)
  | [] => [(key, val)]
  | e :: rest =>
      if key < e.1 then (key, val) :: e :: rest
      else if key = e.1 then (key, val) :: rest
      else e :: insertList key val rest

variable {m : SortedMap κ ν} {key k : κ} {val v : ν}

/-- An inserted entry is the new one or an old one with another key. -/
theorem mem_insertList {e : κ × ν} : ∀ {l : List (κ × ν)},
    l.Pairwise (fun a b => a.1 < b.1) →
      (e ∈ insertList key val l ↔ e = (key, val) ∨ e.1 ≠ key ∧ e ∈ l) := by
  intro l
  -- on the sorted list, as the insertion walks along it
  induction l with
  | nil =>
      intro _
      simp [insertList]
  | cons a rest ih =>
      intro hsorted
      obtain ⟨hhead, hrest⟩ := List.pairwise_cons.mp hsorted
      unfold insertList
      split
      · -- every key of the list is larger
        rename_i hlt
        have hne : e ∈ a :: rest → e.1 ≠ key := by
          intro he heq
          rcases List.mem_cons.mp he with rfl | he
          · exact absurd heq hlt.ne'
          · exact absurd heq (hlt.trans (hhead e he)).ne'
        rw [List.mem_cons]
        exact or_congr_right ⟨fun he => ⟨hne he, he⟩, And.right⟩
      · split
        · -- the key stands here, and its value is replaced
          rename_i heq
          have hne : e ∈ rest → e.1 ≠ key := by
            intro he hkey
            rw [heq] at hkey
            exact absurd hkey (hhead e he).ne'
          rw [List.mem_cons, List.mem_cons]
          refine or_congr_right ⟨fun he => ⟨hne he, Or.inr he⟩, ?_⟩
          rintro ⟨hkey, rfl | he⟩
          · exact absurd heq.symm hkey
          · exact he
        · -- the key belongs further on
          rename_i hneq
          rw [List.mem_cons, ih hrest, List.mem_cons]
          constructor
          · rintro (rfl | hnew | ⟨hkey, he⟩)
            · exact Or.inr ⟨Ne.symm hneq, Or.inl rfl⟩
            · exact Or.inl hnew
            · exact Or.inr ⟨hkey, Or.inr he⟩
          · rintro (hnew | ⟨hkey, rfl | he⟩)
            · exact Or.inr (Or.inl hnew)
            · exact Or.inl rfl
            · exact Or.inr (Or.inr ⟨hkey, he⟩)

theorem sorted_insertList (key : κ) (val : ν) : ∀ {l : List (κ × ν)},
    l.Pairwise (fun a b => a.1 < b.1) →
      (insertList key val l).Pairwise fun a b => a.1 < b.1 := by
  intro l
  induction l with
  | nil =>
      intro _
      exact List.pairwise_singleton _ _
  | cons a rest ih =>
      intro hsorted
      obtain ⟨hhead, hrest⟩ := List.pairwise_cons.mp hsorted
      unfold insertList
      split
      · rename_i hlt
        refine List.pairwise_cons.mpr ⟨fun e he => ?_, hsorted⟩
        rcases List.mem_cons.mp he with rfl | he
        · exact hlt
        · exact hlt.trans (hhead e he)
      · split
        · rename_i heq
          refine List.pairwise_cons.mpr ⟨fun e he => ?_, hrest⟩
          show key < e.1
          rw [heq]
          exact hhead e he
        · rename_i hnlt hneq
          refine List.pairwise_cons.mpr ⟨fun e he => ?_, ih hrest⟩
          rcases (mem_insertList hrest).mp he with rfl | ⟨-, he⟩
          · exact lt_of_le_of_ne (not_lt.mp hnlt) (Ne.symm hneq)
          · exact hhead e he

/-- The map with the value at the key. -/
def insert (m : SortedMap κ ν) (key : κ) (val : ν) : SortedMap κ ν :=
  ⟨insertList key val m.toList, sorted_insertList key val m.sorted⟩

/-- The map without the entry of the key. -/
def erase (m : SortedMap κ ν) (key : κ) : SortedMap κ ν :=
  ⟨m.toList.filter fun e => e.1 ≠ key, m.sorted.filter _⟩

theorem mem_insert : (k, v) ∈ m.insert key val ↔ k = key ∧ v = val ∨ k ≠ key ∧ (k, v) ∈ m := by
  refine (mem_insertList m.sorted).trans ?_
  rw [Prod.mk.injEq]
  rfl

theorem mem_erase : (k, v) ∈ m.erase key ↔ k ≠ key ∧ (k, v) ∈ m := by
  show (k, v) ∈ m.toList.filter _ ↔ _
  rw [List.mem_filter, decide_eq_true_iff, and_comm]
  rfl

/-- The keys are distinct. -/
theorem nodup_keys (m : SortedMap κ ν) : (m.toList.map Prod.fst).Nodup := by
  show (m.toList.map Prod.fst).Pairwise (· ≠ ·)
  rw [List.pairwise_map]
  exact m.sorted.imp fun h => h.ne

/-- A key has one entry. -/
theorem mem_unique (hv : (k, v) ∈ m) (hval : (k, val) ∈ m) : v = val := by
  have heq : (k, v) = (k, val) := List.inj_on_of_nodup_map m.nodup_keys hv hval rfl
  exact (Prod.mk.inj heq).2

/-- `find` is membership. -/
theorem find_eq_some : m.find k = some v ↔ (k, v) ∈ m := by
  unfold find
  rw [Option.map_eq_some_iff]
  constructor
  · rintro ⟨⟨k', v'⟩, hfind, rfl⟩
    have hkey : k' = k := by simpa using List.find?_some hfind
    subst hkey
    exact List.mem_of_find?_eq_some hfind
  · intro hmem
    have hsome : (m.toList.find? fun e => e.1 = k).isSome = true := by
      rw [List.find?_isSome]
      exact ⟨(k, v), hmem, by simp⟩
    obtain ⟨⟨k', v'⟩, hfind⟩ := Option.isSome_iff_exists.mp hsome
    have hkey : k' = k := by simpa using List.find?_some hfind
    subst hkey
    exact ⟨_, hfind, mem_unique (List.mem_of_find?_eq_some hfind) hmem⟩

theorem find_insert : (m.insert key val).find k = if k = key then some val else m.find k := by
  refine Option.ext fun v => ?_
  rw [find_eq_some, mem_insert]
  split
  · rename_i heq
    simp [heq, eq_comm]
  · rename_i hne
    simp [hne, find_eq_some]

theorem find_erase : (m.erase key).find k = if k = key then none else m.find k := by
  refine Option.ext fun v => ?_
  rw [find_eq_some, mem_erase]
  split
  · rename_i heq
    simp [heq]
  · rename_i hne
    simp [hne, find_eq_some]

/-- A loop over the map that does something at one key only. -/
theorem flatMap_key {α : Type*} (f : ν → List α) :
    (m.toList.flatMap fun e => if e.1 = k then f e.2 else []) = (m.find k).elim [] f := by
  cases hfind : m.find k with
  | none =>
      refine List.flatMap_eq_nil_iff.mpr fun e he => if_neg fun hkey => ?_
      have hsome := find_eq_some.mpr (show (k, e.2) ∈ m from hkey ▸ he)
      rw [hfind] at hsome
      cases hsome
  | some v =>
      obtain ⟨before, after, hlist⟩ := List.append_of_mem (find_eq_some.mp hfind)
      have hkeys := m.nodup_keys
      rw [hlist, List.map_append, List.map_cons, List.nodup_append, List.nodup_cons] at hkeys
      obtain ⟨-, ⟨hafter, -⟩, hbefore⟩ := hkeys
      have hnone : ∀ l : List (κ × ν), (∀ e ∈ l, e.1 ≠ k) →
          (l.flatMap fun e => if e.1 = k then f e.2 else []) = [] :=
        fun l hl => List.flatMap_eq_nil_iff.mpr fun e he => if_neg (hl e he)
      rw [hlist, List.flatMap_append, List.flatMap_cons, if_pos rfl,
        hnone before fun e he => hbefore _ (List.mem_map_of_mem he) _ List.mem_cons_self,
        hnone after fun e he hkey => hafter (List.mem_map.mpr ⟨e, he, hkey⟩), List.append_nil]
      rfl

theorem isEmpty_iff : m.isEmpty = true ↔ ∀ e, e ∉ m := by
  show m.toList.isEmpty = true ↔ ∀ e, e ∉ m.toList
  rw [List.isEmpty_iff, List.eq_nil_iff_forall_not_mem]

theorem isEmpty_eq_false_iff : m.isEmpty = false ↔ ∃ e, e ∈ m := by
  rw [Bool.eq_false_iff, Ne, isEmpty_iff, not_forall_not]

/-- The only entry of a map of size 1. -/
theorem eq_of_size_one {e e' : κ × ν} (hsize : m.size = 1) (he : e ∈ m) (he' : e' ∈ m) :
    e = e' := by
  obtain ⟨a, ha⟩ := List.length_eq_one_iff.mp hsize
  have hmem : ∀ x ∈ m, x = a := by
    intro x hx
    exact List.mem_singleton.mp (ha ▸ hx)
  rw [hmem e he, hmem e' he']

/-- A map of another size with an entry has a second one. -/
theorem exists_other (hsize : m.size ≠ 1) (hmem : (k, v) ∈ m) : ∃ k' v', (k', v') ∈ m ∧ k' ≠ k := by
  by_contra hnone
  push Not at hnone
  have hall : ∀ e ∈ m.toList, e = (k, v) := by
    rintro ⟨k', v'⟩ he
    obtain rfl := hnone k' v' he
    rw [mem_unique (m := m) he hmem]
  have hnodup : m.toList.Nodup := List.Nodup.of_map _ m.nodup_keys
  have hsubset : m.toList ⊆ [(k, v)] := fun e he => List.mem_singleton.mpr (hall e he)
  refine hsize ?_
  show m.toList.length = 1
  have hsub : m.toList.length ≤ 1 := hnodup.length_le_of_subset hsubset
  have hpos : 0 < m.toList.length := List.length_pos_of_mem hmem
  omega

end SortedMap
