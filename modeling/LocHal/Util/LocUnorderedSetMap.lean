import LocHal.Lib.UnorderedSet
import Mathlib.Data.List.AList

/-!
# `LocHal.Util.LocUnorderedSetMap`: the map of sets of `LocUnorderedSetMap.h`

`LocUnorderedSetMap` maps keys to sets of values. `getValSet` is the whole view of it: a key
without an entry has the empty set. `NoEmpty` says that no entry has an empty set.

The source passes sets by reference and changes them. Here a changed argument is returned after
the result. An optional output set is always computed, and a caller that passes `nullptr` in the
source drops it.

`removeAndReturnInterset` advances its iterator after it has erased the element under it. Here the
loop goes on with the next element.

`trimOrRemove` erases an entry and then reads `iter->first` for `goneKeys`. The entry is freed by
then, so what it reads is not determined by the source. The parameter `freed` is this read: it gives
for the key of each erased entry the value that the memory has afterwards. A theorem for every
`freed` holds whatever the allocator leaves there, and with `id` for `freed` the old key is still in
place. The two maps of a caller never depend on `freed`, only the reported keys do
(`mem_goneKeys_trimOrRemove`).

* `mem_trimOrRemove`, `mem_add`, `mem_addKeys` and `mem_update_*`: the effect of each operation on
  the sets.
* `mem_goneVals_trimOrRemove`: the collected values.
* `mem_newKeys_addKeys` and `mem_goneKeys_trimOrRemove`: the keys that get an entry, and the keys
  that lose theirs, each read through `freed`.
* `replacesVals_update_iff`: `update` returns the values that it removes only for a key without
  values, since otherwise it returns those that it keeps.
* `NoEmpty.trimOrRemove`, `NoEmpty.addKeys`, `NoEmpty.update`, `NoEmpty.remove`: no operation
  leaves an entry with an empty set.
-/

set_option autoImplicit false

namespace LocHal.Util

variable {α κ ν : Type} [DecidableEq α] [DecidableEq κ]

/-- The body of the loop of `trimSet`. -/
def trimStep (sets : UnorderedSet α × UnorderedSet α) (val : α) :
    UnorderedSet α × UnorderedSet α :=
  if val ∈ sets.1 then (sets.1.erase val, sets.2.insert val) else sets

/-- `trimSet`: `fromSet` and `goneVals` afterwards. -/
def trimSet (fromSet rVals goneVals : UnorderedSet α) : UnorderedSet α × UnorderedSet α :=
  rVals.toList.foldl trimStep (fromSet, goneVals)

/-- The body of the loop of `removeAndReturnInterset`: `common`, `s1` and `s2`. -/
def intersetStep (sets : UnorderedSet α × UnorderedSet α × UnorderedSet α) (b : α) :
    UnorderedSet α × UnorderedSet α × UnorderedSet α :=
  if b ∈ sets.2.1 then (sets.1.insert b, sets.2.1.erase b, sets.2.2.erase b) else sets

/-- `removeAndReturnInterset`: the result, `s1` and `s2`. -/
def removeAndReturnInterset (s1 s2 : UnorderedSet α) :
    UnorderedSet α × UnorderedSet α × UnorderedSet α :=
  s2.toList.foldl intersetStep (∅, s1, s2)

/-- `LocUnorderedSetMap`. -/
structure LocUnorderedSetMap (κ ν : Type) where
  mMap : AList fun _ : κ => UnorderedSet ν
  deriving DecidableEq

namespace LocUnorderedSetMap

/-- The constructor. -/
def new : LocUnorderedSetMap κ ν := ⟨∅⟩

/-- `LocUnorderedSetMap::empty`. -/
def empty (m : LocUnorderedSetMap κ ν) : Bool := m.mMap.keys.isEmpty

/-- `LocUnorderedSetMap::getValSet`. -/
def getValSet (m : LocUnorderedSetMap κ ν) (key : κ) : UnorderedSet ν :=
  (m.mMap.lookup key).getD ∅

/-- `LocUnorderedSetMap::getKeys`. -/
def getKeys (m : LocUnorderedSetMap κ ν) : UnorderedSet κ := ⟨m.mMap.keys, m.mMap.keys_nodup⟩

/-- `LocUnorderedSetMap::remove`, without its return value. -/
def remove (m : LocUnorderedSetMap κ ν) (key : κ) : LocUnorderedSetMap κ ν :=
  ⟨m.mMap.erase key⟩

section Ops
variable [DecidableEq ν]

/-- The private `LocUnorderedSetMap::trimOrRemove` for the entry of `key` with the set `vals`.
The last component says whether the entry was removed. -/
def trimOrRemoveEntry (m : LocUnorderedSetMap κ ν) (key : κ)
    (vals rVals goneVals : UnorderedSet ν) : LocUnorderedSetMap κ ν × UnorderedSet ν × Bool :=
  let (vals', goneVals') := trimSet vals rVals goneVals
  if vals'.isEmpty then (⟨m.mMap.erase key⟩, goneVals', true)
  else (⟨m.mMap.insert key vals'⟩, goneVals', false)

/-- The body of the loop of the public `trimOrRemove`: the map, `goneKeys` and `goneVals`. The key
that goes into `goneKeys` is read from the entry after its removal. -/
def trimOrRemoveStep (freed : κ → κ) (rVals : UnorderedSet ν)
    (st : LocUnorderedSetMap κ ν × UnorderedSet κ × UnorderedSet ν) (key : κ) :
    LocUnorderedSetMap κ ν × UnorderedSet κ × UnorderedSet ν :=
  match st.1.mMap.lookup key with
  | none => st
  | some vals =>
      let (m', goneVals', removed) := st.1.trimOrRemoveEntry key vals rVals st.2.2
      (m', if removed then st.2.1.insert (freed key) else st.2.1, goneVals')

/-- The public `LocUnorderedSetMap::trimOrRemove`: the map, `goneKeys` and `goneVals`. A key is
looked up once, so `freed` can answer each read of the call on its own. -/
def trimOrRemove (m : LocUnorderedSetMap κ ν) (freed : κ → κ) (keys : UnorderedSet κ)
    (rVals : UnorderedSet ν) (goneKeys : UnorderedSet κ) (goneVals : UnorderedSet ν) :
    LocUnorderedSetMap κ ν × UnorderedSet κ × UnorderedSet ν :=
  keys.toList.foldl (trimOrRemoveStep freed rVals) (m, goneKeys, goneVals)

/-- `LocUnorderedSetMap::add` for one key. -/
def add (m : LocUnorderedSetMap κ ν) (key : κ) (newVals : UnorderedSet ν) :
    LocUnorderedSetMap κ ν × Bool :=
  if newVals.isEmpty then (m, false)
  else
    match m.mMap.lookup key with
    | some vals => (⟨m.mMap.insert key (newVals.toList.foldl .insert vals)⟩, false)
    | none => (⟨m.mMap.insert key newVals⟩, true)

/-- The body of the loop of `add` for a set of keys: the map and `newKeys`. -/
def addStep (newVals : UnorderedSet ν) (st : LocUnorderedSetMap κ ν × UnorderedSet κ) (key : κ) :
    LocUnorderedSetMap κ ν × UnorderedSet κ :=
  let (m', newEntryAdded) := st.1.add key newVals
  (m', if newEntryAdded then st.2.insert key else st.2)

/-- `LocUnorderedSetMap::add` for a set of keys: the map and `newKeys`. -/
def addKeys (m : LocUnorderedSetMap κ ν) (keys : UnorderedSet κ) (newVals : UnorderedSet ν)
    (newKeys : UnorderedSet κ) : LocUnorderedSetMap κ ν × UnorderedSet κ :=
  keys.toList.foldl (addStep newVals) (m, newKeys)

/-- `LocUnorderedSetMap::update`: the map, the return value and `newVals`. -/
def update (m : LocUnorderedSetMap κ ν) (key : κ) (newVals : UnorderedSet ν) :
    LocUnorderedSetMap κ ν × UnorderedSet ν × UnorderedSet ν :=
  if newVals.isEmpty then (⟨m.mMap.erase key⟩, ∅, newVals)
  else
    let curVals := m.getValSet key
    let (goneVals, _, newVals') := removeAndReturnInterset curVals newVals
    (⟨m.mMap.insert key newVals⟩, goneVals, newVals')

end Ops

end LocUnorderedSetMap

/-! ### Trimming sets -/

/-- `trimSet` removes the values. -/
theorem mem_trimSet {fromSet rVals goneVals : UnorderedSet α} {a : α} :
    a ∈ (trimSet fromSet rVals goneVals).1 ↔ a ∈ fromSet ∧ a ∉ rVals := by
  have hbody : ∀ sets val, a ∈ (trimStep sets val).1 ↔ a ∈ sets.1 ∧ a ≠ val := by
    intro sets val
    unfold trimStep
    split
    · rw [UnorderedSet.mem_erase, and_comm]
    · rename_i hval
      exact ⟨fun ha => ⟨ha, fun heq => hval (heq ▸ ha)⟩, And.left⟩
  refine (UnorderedSet.foldl_and_iff (P := fun sets => a ∈ sets.1) hbody rVals.toList
    (fromSet, goneVals)).trans ?_
  exact and_congr_right fun _ => ⟨fun hne ha => hne a ha rfl, fun hnot val hval heq =>
    hnot (heq ▸ hval)⟩

/-- `trimSet` collects what it removes. The induction is on the values that are left; a value
that has been removed is in `goneVals`. -/
theorem mem_goneVals_trimSet {rVals : UnorderedSet α} {a : α} (fromSet goneVals : UnorderedSet α) :
    a ∈ (trimSet fromSet rVals goneVals).2 ↔ a ∈ goneVals ∨ a ∈ fromSet ∧ a ∈ rVals := by
  have hloop : ∀ (l : List α) (sets : UnorderedSet α × UnorderedSet α),
      a ∈ (l.foldl trimStep sets).2 ↔ a ∈ sets.2 ∨ a ∈ sets.1 ∧ a ∈ l := by
    intro l
    induction l with
    | nil => intro sets; simp
    | cons val l ih =>
        intro sets
        rw [List.foldl_cons, ih]
        unfold trimStep
        split
        · rename_i hval
          by_cases heq : a = val
          · subst heq
            simp [hval]
          · simp [heq]
        · rename_i hval
          by_cases heq : a = val
          · subst heq
            simp [hval]
          · simp [heq]
  exact hloop rVals.toList (fromSet, goneVals)

/-- The result of `removeAndReturnInterset` is the intersection, and `s2` loses it. -/
theorem mem_removeAndReturnInterset {s1 s2 : UnorderedSet α} {a : α} :
    (a ∈ (removeAndReturnInterset s1 s2).1 ↔ a ∈ s1 ∧ a ∈ s2) ∧
    (a ∈ (removeAndReturnInterset s1 s2).2.2 ↔ a ∈ s2 ∧ a ∉ s1) := by
  have hloop : ∀ (l : List α) (sets : UnorderedSet α × UnorderedSet α × UnorderedSet α),
      (a ∈ (l.foldl intersetStep sets).1 ↔ a ∈ sets.1 ∨ a ∈ sets.2.1 ∧ a ∈ l) ∧
      (a ∈ (l.foldl intersetStep sets).2.2 ↔ a ∈ sets.2.2 ∧ ¬ (a ∈ sets.2.1 ∧ a ∈ l)) := by
    intro l
    induction l with
    | nil => intro sets; simp
    | cons b l ih =>
        intro sets
        rw [List.foldl_cons]
        obtain ⟨hcommon, hrest⟩ := ih (intersetStep sets b)
        rw [hcommon, hrest]
        unfold intersetStep
        split
        · rename_i hb
          by_cases heq : a = b
          · subst heq
            simp [hb]
          · simp [heq]
        · rename_i hb
          by_cases heq : a = b
          · subst heq
            simp [hb]
          · simp [heq]
  obtain ⟨hcommon, hrest⟩ := hloop s2.toList (∅, s1, s2)
  refine ⟨hcommon.trans ?_, hrest.trans ?_⟩
  · show a ∈ (∅ : UnorderedSet α) ∨ a ∈ s1 ∧ a ∈ s2 ↔ a ∈ s1 ∧ a ∈ s2
    simp
  · show a ∈ s2 ∧ ¬ (a ∈ s1 ∧ a ∈ s2) ↔ a ∈ s2 ∧ a ∉ s1
    exact and_congr_right fun ha => not_congr ⟨And.left, fun h => ⟨h, ha⟩⟩

namespace LocUnorderedSetMap

variable {m : LocUnorderedSetMap κ ν} {key k : κ} {keys : UnorderedSet κ} {v : ν}
  {vals rVals newVals : UnorderedSet ν} {freed : κ → κ}

/-! ### Single entries -/

@[simp] theorem not_mem_new (k : κ) (v : ν) : v ∉ (new : LocUnorderedSetMap κ ν).getValSet k :=
  UnorderedSet.not_mem_empty v

/-- The sets after an entry has been set. -/
theorem mem_insert : v ∈ (⟨m.mMap.insert key vals⟩ : LocUnorderedSetMap κ ν).getValSet k ↔
    if k = key then v ∈ vals else v ∈ m.getValSet k := by
  unfold getValSet
  by_cases hk : k = key
  · subst hk
    rw [AList.lookup_insert, if_pos rfl]
    rfl
  · rw [AList.lookup_insert_ne hk, if_neg hk]

/-- The sets after an entry has been removed. -/
theorem mem_remove : v ∈ (m.remove key).getValSet k ↔ v ∈ m.getValSet k ∧ k ≠ key := by
  unfold getValSet remove
  by_cases hk : k = key
  · subst hk
    rw [AList.lookup_erase]
    simp
  · rw [AList.lookup_erase_ne hk]
    simp [hk]

/-- No entry has an empty set. -/
def NoEmpty (m : LocUnorderedSetMap κ ν) : Prop :=
  ∀ k vals, m.mMap.lookup k = some vals → ∃ v, v ∈ vals

theorem noEmpty_new : NoEmpty (new : LocUnorderedSetMap κ ν) := by
  intro k vals hlookup
  cases hlookup

/-- An entry with a nonempty set. -/
theorem NoEmpty.insert (h : m.NoEmpty) (hvals : ∃ v, v ∈ vals) :
    NoEmpty (⟨m.mMap.insert key vals⟩ : LocUnorderedSetMap κ ν) := by
  intro k vals' hlookup
  by_cases hk : k = key
  · subst hk
    rw [AList.lookup_insert] at hlookup
    cases hlookup
    exact hvals
  · rw [AList.lookup_insert_ne hk] at hlookup
    exact h k vals' hlookup

theorem NoEmpty.remove (h : m.NoEmpty) (key : κ) : NoEmpty (m.remove key) := by
  intro k vals hlookup
  by_cases hk : k = key
  · subst hk
    have hnone : (m.mMap.erase k).lookup k = none := AList.lookup_erase k m.mMap
    rw [show (m.remove k).mMap = m.mMap.erase k from rfl, hnone] at hlookup
    cases hlookup
  · have hsame : (m.mMap.erase key).lookup k = m.mMap.lookup k := AList.lookup_erase_ne hk
    exact h k vals (hsame.symm.trans hlookup)

theorem getValSet_of_lookup (hlookup : m.mMap.lookup key = some vals) : m.getValSet key = vals := by
  unfold getValSet
  rw [hlookup]
  rfl

theorem not_mem_of_lookup_none (hlookup : m.mMap.lookup key = none) : v ∉ m.getValSet key := by
  unfold getValSet
  rw [hlookup]
  exact UnorderedSet.not_mem_empty v

/-- A key without values has no entry. -/
theorem NoEmpty.lookup_eq_none (h : m.NoEmpty) (hnone : ∀ v, v ∉ m.getValSet key) :
    m.mMap.lookup key = none := by
  cases hlookup : m.mMap.lookup key with
  | none => rfl
  | some vals =>
      obtain ⟨v, hv⟩ := h key vals hlookup
      rw [← getValSet_of_lookup hlookup] at hv
      exact absurd hv (hnone v)

/-- The invariant rule for the loops of this module. -/
theorem NoEmpty.foldl {β : Type} {f : LocUnorderedSetMap κ ν × β → κ → LocUnorderedSetMap κ ν × β}
    (hbody : ∀ st key, st.1.NoEmpty → (f st key).1.NoEmpty) :
    ∀ (l : List κ) (st : LocUnorderedSetMap κ ν × β), st.1.NoEmpty → (l.foldl f st).1.NoEmpty := by
  intro l
  induction l with
  | nil => intro st h; exact h
  | cons key l ih => intro st h; exact ih _ (hbody st key h)

/-! ### The operations -/

variable [DecidableEq ν]

/-- One round of `trimOrRemove`. -/
theorem mem_trimOrRemoveStep {st : LocUnorderedSetMap κ ν × UnorderedSet κ × UnorderedSet ν} :
    v ∈ (trimOrRemoveStep freed rVals st key).1.getValSet k ↔
      v ∈ st.1.getValSet k ∧ ¬ (k = key ∧ v ∈ rVals) := by
  unfold trimOrRemoveStep
  cases hlookup : st.1.mMap.lookup key with
  | none =>
      dsimp only
      refine ⟨fun hv => ⟨hv, fun ⟨hk, _⟩ => ?_⟩, And.left⟩
      subst hk
      exact not_mem_of_lookup_none hlookup hv
  | some vals =>
      have hvals : st.1.getValSet key = vals := getValSet_of_lookup hlookup
      unfold trimOrRemoveEntry
      dsimp only
      split
      · -- the entry is removed, since nothing is left of its set
        rename_i hempty
        rw [UnorderedSet.isEmpty_iff] at hempty
        show v ∈ (st.1.remove key).getValSet k ↔ _
        rw [mem_remove]
        refine and_congr_right fun hv => not_congr ⟨fun hk => ⟨hk, ?_⟩, And.left⟩
        subst hk
        rw [hvals] at hv
        by_contra hnot
        exact hempty v (mem_trimSet.mpr ⟨hv, hnot⟩)
      · rw [mem_insert]
        by_cases hk : k = key
        · subst hk
          rw [if_pos rfl, mem_trimSet, hvals]
          simp
        · rw [if_neg hk]
          simp [hk]

/-- `trimOrRemove` removes the values from the sets of the keys. -/
theorem mem_trimOrRemove {goneKeys : UnorderedSet κ} {goneVals : UnorderedSet ν} :
    v ∈ (m.trimOrRemove freed keys rVals goneKeys goneVals).1.getValSet k ↔
      v ∈ m.getValSet k ∧ ¬ (k ∈ keys ∧ v ∈ rVals) := by
  refine (UnorderedSet.foldl_and_iff
    (P := fun st : LocUnorderedSetMap κ ν × UnorderedSet κ × UnorderedSet ν =>
      v ∈ st.1.getValSet k)
    (f := trimOrRemoveStep freed rVals) (fun _ _ => mem_trimOrRemoveStep) keys.toList
    (m, goneKeys, goneVals)).trans ?_
  refine and_congr_right fun _ => ⟨fun hall hand => hall k hand.1 ⟨rfl, hand.2⟩, ?_⟩
  rintro hnot key hkey ⟨rfl, hv⟩
  exact hnot ⟨hkey, hv⟩

/-- `trimOrRemove` collects the values that it removes. The induction is on the keys that are
left; what the body takes out of the map it puts into `goneVals`. -/
theorem mem_goneVals_trimOrRemove {goneKeys : UnorderedSet κ} {goneVals : UnorderedSet ν} :
    v ∈ (m.trimOrRemove freed keys rVals goneKeys goneVals).2.2 ↔
      v ∈ goneVals ∨ ∃ k ∈ keys, v ∈ m.getValSet k ∧ v ∈ rVals := by
  have hloop : ∀ (l : List κ) (st : LocUnorderedSetMap κ ν × UnorderedSet κ × UnorderedSet ν),
      v ∈ (l.foldl (trimOrRemoveStep freed rVals) st).2.2 ↔
        v ∈ st.2.2 ∨ ∃ k ∈ l, v ∈ st.1.getValSet k ∧ v ∈ rVals := by
    intro l
    induction l with
    | nil => intro st; simp
    | cons key l ih =>
        intro st
        have hbody : v ∈ (trimOrRemoveStep freed rVals st key).2.2 ↔
            v ∈ st.2.2 ∨ v ∈ st.1.getValSet key ∧ v ∈ rVals := by
          unfold trimOrRemoveStep
          cases hlookup : st.1.mMap.lookup key with
          | none => simp [not_mem_of_lookup_none hlookup]
          | some vals =>
              rw [getValSet_of_lookup hlookup, ← mem_goneVals_trimSet]
              unfold trimOrRemoveEntry
              dsimp only
              split <;> rfl
        rw [List.foldl_cons, ih, hbody]
        simp only [mem_trimOrRemoveStep, List.mem_cons, exists_eq_or_imp, or_assoc]
        by_cases hkey : v ∈ st.1.getValSet key ∧ v ∈ rVals
        · simp [hkey]
        · refine or_congr_right (or_congr_right ?_)
          refine exists_congr fun k => and_congr_right fun _ => ?_
          constructor
          · rintro ⟨⟨hv, -⟩, hr⟩
            exact ⟨hv, hr⟩
          · rintro ⟨hv, hr⟩
            refine ⟨⟨hv, fun ⟨hk, _⟩ => hkey ?_⟩, hr⟩
            subst hk
            exact ⟨hv, hr⟩
  exact hloop keys.toList (m, goneKeys, goneVals)

/-- `add` for one key. -/
theorem mem_add : v ∈ (m.add key newVals).1.getValSet k ↔
    v ∈ m.getValSet k ∨ k = key ∧ v ∈ newVals := by
  unfold add
  split
  · rename_i hempty
    rw [UnorderedSet.isEmpty_iff] at hempty
    simp [hempty]
  · cases hlookup : m.mMap.lookup key with
    | none =>
        show v ∈ (⟨m.mMap.insert key newVals⟩ : LocUnorderedSetMap κ ν).getValSet k ↔ _
        rw [mem_insert]
        by_cases hk : k = key
        · subst hk
          simp [not_mem_of_lookup_none hlookup]
        · simp [hk]
    | some vals =>
        show v ∈ (⟨m.mMap.insert key _⟩ : LocUnorderedSetMap κ ν).getValSet k ↔ _
        rw [mem_insert]
        by_cases hk : k = key
        · subst hk
          rw [if_pos rfl, UnorderedSet.mem_foldl_insert, getValSet_of_lookup hlookup]
          simp [UnorderedSet.mem_iff]
        · simp [hk]

/-- `add` for a set of keys. -/
theorem mem_addKeys {newKeys : UnorderedSet κ} :
    v ∈ (m.addKeys keys newVals newKeys).1.getValSet k ↔
      v ∈ m.getValSet k ∨ k ∈ keys ∧ v ∈ newVals := by
  refine (UnorderedSet.foldl_or_iff
    (P := fun st : LocUnorderedSetMap κ ν × UnorderedSet κ => v ∈ st.1.getValSet k)
    (f := addStep newVals) (fun _ _ => mem_add) keys.toList (m, newKeys)).trans ?_
  refine or_congr_right ⟨?_, fun ⟨hk, hv⟩ => ⟨k, hk, rfl, hv⟩⟩
  rintro ⟨key, hkey, rfl, hv⟩
  exact ⟨hkey, hv⟩

/-- `update` sets the entry. -/
theorem mem_update : v ∈ (m.update key newVals).1.getValSet k ↔
    if k = key then v ∈ newVals else v ∈ m.getValSet k := by
  unfold update
  split
  · rename_i hempty
    rw [UnorderedSet.isEmpty_iff] at hempty
    show v ∈ (m.remove key).getValSet k ↔ _
    rw [mem_remove]
    by_cases hk : k = key
    · simp [hk, hempty]
    · simp [hk]
  · exact mem_insert

/-- `update` with a nonempty set returns the values that are in the old set and in the new one,
and leaves the others in `newVals`. -/
theorem mem_update_sets (hnonempty : newVals.isEmpty = false) (key : κ) (v : ν) :
    (v ∈ (m.update key newVals).2.1 ↔ v ∈ m.getValSet key ∧ v ∈ newVals) ∧
    (v ∈ (m.update key newVals).2.2 ↔ v ∈ newVals ∧ v ∉ m.getValSet key) := by
  unfold update
  rw [if_neg (by simp [hnonempty])]
  exact mem_removeAndReturnInterset

/-! ### The keys that an operation reports -/

/-- The entries after a key has been added: the key has one, the others are as before. -/
theorem lookup_add_eq_none (hnonempty : newVals.isEmpty = false) :
    (m.add key newVals).1.mMap.lookup k = none ↔ m.mMap.lookup k = none ∧ k ≠ key := by
  have hne : ¬ newVals.isEmpty = true := by simp [hnonempty]
  unfold add
  rw [if_neg hne]
  cases hlookup : m.mMap.lookup key with
  | none =>
      by_cases hk : k = key
      · subst hk
        simp [AList.lookup_insert]
      · simp [AList.lookup_insert_ne hk, hk]
  | some vals =>
      by_cases hk : k = key
      · subst hk
        simp [AList.lookup_insert]
      · simp [AList.lookup_insert_ne hk, hk]

/-- `add` reports the keys of the list that had no entry. The induction is on the keys that are
left; a key that has been added has an entry from then on. -/
theorem mem_newKeys_addKeys (hnonempty : newVals.isEmpty = false) {newKeys : UnorderedSet κ} :
    k ∈ (m.addKeys keys newVals newKeys).2 ↔
      k ∈ newKeys ∨ k ∈ keys ∧ m.mMap.lookup k = none := by
  have hne : ¬ newVals.isEmpty = true := by simp [hnonempty]
  have hloop : ∀ (l : List κ) (st : LocUnorderedSetMap κ ν × UnorderedSet κ),
      k ∈ (l.foldl (addStep newVals) st).2 ↔
        k ∈ st.2 ∨ k ∈ l ∧ st.1.mMap.lookup k = none := by
    intro l
    induction l with
    | nil => intro st; simp
    | cons key l ih =>
        intro st
        have hentry : (addStep newVals st key).1.mMap.lookup k = none ↔
            st.1.mMap.lookup k = none ∧ k ≠ key := lookup_add_eq_none hnonempty
        have hnew : k ∈ (addStep newVals st key).2 ↔
            k ∈ st.2 ∨ k = key ∧ st.1.mMap.lookup k = none := by
          unfold addStep add
          rw [if_neg hne]
          cases hlookup : st.1.mMap.lookup key with
          | none =>
              simp only [if_true, UnorderedSet.mem_insert]
              by_cases hk : k = key
              · subst hk
                simp [hlookup]
              · simp [hk]
          | some vals =>
              by_cases hk : k = key
              · subst hk
                simp [hlookup]
              · simp [hk]
        rw [List.foldl_cons, ih, hentry, hnew, List.mem_cons]
        by_cases hk : k = key
        · simp [hk]
        · simp [hk]
  exact hloop keys.toList (m, newKeys)

/-- One round of `trimOrRemove` makes no entry, and when it removes an entry it reports the value
that is read for it. -/
theorem trimOrRemoveStep_goneKeys (freed : κ → κ) (rVals : UnorderedSet ν)
    (st : LocUnorderedSetMap κ ν × UnorderedSet κ × UnorderedSet ν) (key x : κ) :
    (∀ k, st.1.mMap.lookup k = none →
      (trimOrRemoveStep freed rVals st key).1.mMap.lookup k = none) ∧
    (x ∈ (trimOrRemoveStep freed rVals st key).2.1 ↔ x ∈ st.2.1 ∨ ∃ k, freed k = x ∧
      st.1.mMap.lookup k ≠ none ∧
        (trimOrRemoveStep freed rVals st key).1.mMap.lookup k = none) := by
  unfold trimOrRemoveStep
  cases hlookup : st.1.mMap.lookup key with
  | none =>
      refine ⟨fun k hk => hk, ⟨Or.inl, fun h => h.resolve_right ?_⟩⟩
      rintro ⟨k, -, hsome, hnone⟩
      exact hsome hnone
  | some vals =>
      unfold trimOrRemoveEntry
      dsimp only
      split
      · -- the entry of `key` is the one that goes
        refine ⟨fun k hk => ?_, ?_⟩
        · by_cases heq : k = key
          · rw [heq, AList.lookup_erase]
          · rw [AList.lookup_erase_ne heq, hk]
        · rw [if_pos rfl, UnorderedSet.mem_insert, or_comm]
          refine or_congr_right ⟨?_, ?_⟩
          · rintro rfl
            exact ⟨key, rfl, by simp [hlookup], AList.lookup_erase key _⟩
          · rintro ⟨k, rfl, hsome, hnone⟩
            by_cases heq : k = key
            · rw [heq]
            · rw [AList.lookup_erase_ne heq] at hnone
              exact absurd hnone hsome
      · -- every entry stays
        have hstays : ∀ k, (st.1.mMap.insert key (trimSet vals rVals st.2.2).1).lookup k = none →
            st.1.mMap.lookup k = none := by
          intro k hk
          by_cases heq : k = key
          · rw [heq, AList.lookup_insert] at hk
            cases hk
          · rwa [AList.lookup_insert_ne heq] at hk
        refine ⟨fun k hk => ?_, ⟨fun hx => Or.inl hx, fun h => h.resolve_right ?_⟩⟩
        · have heq : k ≠ key := by
            rintro rfl
            rw [hlookup] at hk
            cases hk
          rw [AList.lookup_insert_ne heq, hk]
        · rintro ⟨k, -, hsome, hnone⟩
          exact hsome (hstays k hnone)

/-- `trimOrRemove` reports, for the keys that had an entry and have none afterwards, what is read
from the freed entries. The induction is on the keys that are left; an entry that is gone does not
come back. -/
theorem mem_goneKeys_trimOrRemove {goneKeys : UnorderedSet κ} {goneVals : UnorderedSet ν} {x : κ} :
    x ∈ (m.trimOrRemove freed keys rVals goneKeys goneVals).2.1 ↔ x ∈ goneKeys ∨
      ∃ k, freed k = x ∧ m.mMap.lookup k ≠ none ∧
        (m.trimOrRemove freed keys rVals goneKeys goneVals).1.mMap.lookup k = none := by
  have hloop : ∀ (l : List κ) (st : LocUnorderedSetMap κ ν × UnorderedSet κ × UnorderedSet ν),
      (∀ k, st.1.mMap.lookup k = none →
        (l.foldl (trimOrRemoveStep freed rVals) st).1.mMap.lookup k = none) ∧
      (x ∈ (l.foldl (trimOrRemoveStep freed rVals) st).2.1 ↔ x ∈ st.2.1 ∨ ∃ k, freed k = x ∧
        st.1.mMap.lookup k ≠ none ∧
          (l.foldl (trimOrRemoveStep freed rVals) st).1.mMap.lookup k = none) := by
    intro l
    induction l with
    | nil =>
        refine fun st => ⟨fun k hk => hk, ⟨Or.inl, fun h => h.resolve_right ?_⟩⟩
        rintro ⟨k, -, hsome, hnone⟩
        exact hsome hnone
    | cons key l ih =>
        intro st
        obtain ⟨hkeep, hgone⟩ := trimOrRemoveStep_goneKeys freed rVals st key x
        obtain ⟨hkeep', hgone'⟩ := ih (trimOrRemoveStep freed rVals st key)
        rw [List.foldl_cons]
        refine ⟨fun k hnone => hkeep' k (hkeep k hnone), ?_⟩
        rw [hgone', hgone, or_assoc, ← exists_or]
        refine or_congr_right (exists_congr fun k => ?_)
        by_cases hnone : st.1.mMap.lookup k = none
        · simp [hnone, hkeep k hnone]
        · by_cases hmid : (trimOrRemoveStep freed rVals st key).1.mMap.lookup k = none
          · simp [hnone, hmid, hkeep' k hmid]
          · simp [hnone, hmid]
  exact (hloop keys.toList (m, goneKeys, goneVals)).2

/-! ### No empty entries -/

theorem NoEmpty.trimOrRemoveStep {st : LocUnorderedSetMap κ ν × UnorderedSet κ × UnorderedSet ν}
    (h : st.1.NoEmpty) (key : κ) : (trimOrRemoveStep freed rVals st key).1.NoEmpty := by
  unfold LocUnorderedSetMap.trimOrRemoveStep
  cases hlookup : st.1.mMap.lookup key with
  | none => exact h
  | some vals =>
      unfold trimOrRemoveEntry
      dsimp only
      split
      · exact h.remove key
      · rename_i hempty
        rw [UnorderedSet.isEmpty_iff] at hempty
        push Not at hempty
        exact h.insert hempty

theorem NoEmpty.trimOrRemove (h : m.NoEmpty) (freed : κ → κ) (keys : UnorderedSet κ)
    (rVals : UnorderedSet ν) (goneKeys : UnorderedSet κ) (goneVals : UnorderedSet ν) :
    (m.trimOrRemove freed keys rVals goneKeys goneVals).1.NoEmpty :=
  NoEmpty.foldl (fun _ key h => h.trimOrRemoveStep key) keys.toList (m, goneKeys, goneVals) h

theorem NoEmpty.add (h : m.NoEmpty) (key : κ) (newVals : UnorderedSet ν) :
    (m.add key newVals).1.NoEmpty := by
  unfold LocUnorderedSetMap.add
  split
  · exact h
  · rename_i hempty
    rw [UnorderedSet.isEmpty_iff] at hempty
    push Not at hempty
    obtain ⟨v, hv⟩ := hempty
    cases hlookup : m.mMap.lookup key with
    | none => exact h.insert ⟨v, hv⟩
    | some vals =>
        refine h.insert ⟨v, ?_⟩
        exact (UnorderedSet.mem_foldl_insert newVals.toList).mpr (Or.inr hv)

theorem NoEmpty.addKeys (h : m.NoEmpty) (keys : UnorderedSet κ) (newVals : UnorderedSet ν)
    (newKeys : UnorderedSet κ) : (m.addKeys keys newVals newKeys).1.NoEmpty :=
  NoEmpty.foldl (f := addStep newVals) (fun _ key h => h.add key newVals) keys.toList
    (m, newKeys) h

theorem NoEmpty.update (h : m.NoEmpty) (key : κ) (newVals : UnorderedSet ν) :
    (m.update key newVals).1.NoEmpty := by
  unfold LocUnorderedSetMap.update
  split
  · exact h.remove key
  · rename_i hempty
    rw [UnorderedSet.isEmpty_iff] at hempty
    push Not at hempty
    exact h.insert hempty

/-! ### What the callers of `update` rely on -/

/-- The values of the key are replaced: what is returned are the old values that are given up,
`newVals` keeps the values that are new, and no other entry changes. A caller goes by these two
sets, to tell whoever is behind a value that it was given up or is new. -/
structure ReplacesVals (m : LocUnorderedSetMap κ ν) (key : κ) (newVals : UnorderedSet ν)
    (result : LocUnorderedSetMap κ ν × UnorderedSet ν × UnorderedSet ν) : Prop where
  goneVals : ∀ v, v ∈ result.2.1 ↔ v ∈ m.getValSet key ∧ v ∉ newVals
  leftVals : ∀ v, v ∈ result.2.2 ↔ v ∈ newVals ∧ v ∉ m.getValSet key
  entry : result.1.mMap.lookup key = if newVals.isEmpty then none else some newVals
  others : ∀ k ≠ key, result.1.mMap.lookup k = m.mMap.lookup k

/-- The entry and the other entries are right in any case. -/
theorem lookup_update (m : LocUnorderedSetMap κ ν) (key : κ) (newVals : UnorderedSet ν) (k : κ) :
    (m.update key newVals).1.mMap.lookup k =
      if k = key then if newVals.isEmpty then none else some newVals else m.mMap.lookup k := by
  unfold update
  by_cases hempty : newVals.isEmpty = true
  · rw [if_pos hempty, if_pos hempty]
    by_cases hk : k = key
    · rw [if_pos hk, hk]
      exact AList.lookup_erase key m.mMap
    · rw [if_neg hk]
      exact AList.lookup_erase_ne hk
  · rw [if_neg hempty, if_neg hempty]
    by_cases hk : k = key
    · rw [if_pos hk, hk]
      exact AList.lookup_insert m.mMap
    · rw [if_neg hk]
      exact AList.lookup_insert_ne hk

/-- So are the values that `newVals` keeps. -/
theorem mem_newVals_update (m : LocUnorderedSetMap κ ν) (key : κ) (newVals : UnorderedSet ν)
    (v : ν) : v ∈ (m.update key newVals).2.2 ↔ v ∈ newVals ∧ v ∉ m.getValSet key := by
  cases hempty : newVals.isEmpty with
  | false => exact (mem_update_sets hempty key v).2
  | true =>
      have hnot : v ∉ newVals := UnorderedSet.isEmpty_iff.mp hempty v
      unfold update
      rw [if_pos hempty]
      exact ⟨fun hv => absurd hv hnot, fun hv => absurd hv.1 hnot⟩

/-- What is returned are the old values that are kept. -/
theorem mem_goneVals_update (m : LocUnorderedSetMap κ ν) (key : κ) (newVals : UnorderedSet ν)
    (v : ν) : v ∈ (m.update key newVals).2.1 ↔ v ∈ m.getValSet key ∧ v ∈ newVals := by
  cases hempty : newVals.isEmpty with
  | false => exact (mem_update_sets hempty key v).1
  | true =>
      have hnot : v ∉ newVals := UnorderedSet.isEmpty_iff.mp hempty v
      unfold update
      rw [if_pos hempty]
      exact ⟨fun hv => absurd hv (UnorderedSet.not_mem_empty v), fun hv => absurd hv.2 hnot⟩

/-- `update` does what its callers rely on exactly when the key has no values before.

The map itself is right in any case. What is returned are the values that are kept, and the callers,
like the comment, take them for those that were removed. -/
theorem replacesVals_update_iff (m : LocUnorderedSetMap κ ν) (key : κ)
    (newVals : UnorderedSet ν) :
    ReplacesVals m key newVals (m.update key newVals) ↔ ∀ v, v ∉ m.getValSet key := by
  constructor
  · intro h v hv
    have hgone := h.goneVals v
    rw [mem_goneVals_update] at hgone
    -- a value is either kept or given up
    by_cases hnew : v ∈ newVals
    · exact (hgone.mp ⟨hv, hnew⟩).2 hnew
    · exact hnew (hgone.mpr ⟨hv, hnew⟩).2
  · intro hnone
    refine ⟨fun v => ?_, mem_newVals_update m key newVals, ?_, fun k hk => ?_⟩
    · rw [mem_goneVals_update]
      exact ⟨fun hv => absurd hv.1 (hnone v), fun hv => absurd hv.1 (hnone v)⟩
    · rw [lookup_update, if_pos rfl]
    · rw [lookup_update, if_neg hk]

/-- A map with one entry. -/
def oneEntry (key : κ) (v : ν) : LocUnorderedSetMap κ ν := (new.add key (.singleton v)).1

/-- The value that is given up is not returned. -/
theorem not_replacesVals_oneEntry :
    ¬ ReplacesVals (oneEntry 0 1 : LocUnorderedSetMap Nat Nat) 0 (.singleton 2)
      ((oneEntry 0 1 : LocUnorderedSetMap Nat Nat).update 0 (.singleton 2)) := by
  have hold : 1 ∈ (oneEntry 0 1 : LocUnorderedSetMap Nat Nat).getValSet 0 :=
    mem_add.mpr (Or.inr ⟨rfl, UnorderedSet.mem_singleton.mpr rfl⟩)
  intro h
  have hgone := (h.goneVals 1).mpr ⟨hold, fun hnew => absurd hnew (by decide)⟩
  rw [mem_goneVals_update] at hgone
  exact absurd hgone.2 (by decide)

end LocUnorderedSetMap

end LocHal.Util
