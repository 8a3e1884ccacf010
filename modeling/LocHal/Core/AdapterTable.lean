import LocHal.Core.LocApiBase
import LocHal.Lib.CheckedArray

/-!
# `LocHal.Core.AdapterTable`: the array of the adapters

`addAdapter` and `removeAdapter` go through `mLocAdapters` with an index. Here the accesses are
checked and the loops have fuel, an adapter may be `NULL`, and the calls that a method makes are
listed. `addAdapterLoop_eq` and `removeAdapterLoop_eq` say that the loops are those of `LocApiBase`
on the slots.

`run_packed` holds for every sequence of the two calls: the array stays packed, its adapters are the
ones that were added and not removed, and `close` is called with the removal of the last one.

The model of the array in `LocHal.Core.LocApiBase` has the loops as recursions over the slots. Here
they are the loops of the source, with their index and their early exits, and a checked access that
fails gives no result. So the theorem says as well that no index runs out of the array, and that the
fuel is enough.

`addAdapter_packed` and `removeAdapter_packed` are the two step lemmas. The adapter may be `NULL` or
may not be there; the array may be full, which refuses the adapter. After a removal the last adapter
takes the free place, so the array stays without gaps.
-/

set_option autoImplicit false

namespace LocHal.Core

open CheckedArray LabelledRun LocApiBase PackedSlots

variable {α : Type} [DecidableEq α]

/-- What the methods call: `sendMsg` with a `LocOpenMsg`, or `close`. -/
inductive AdapterEffect where
  | LocOpenMsg
  | close
  deriving DecidableEq, Repr

/-- The calls, with a pointer that may be `NULL`. -/
inductive AdapterCall (α : Type) where
  | addAdapter (adapter : Option α)
  | removeAdapter (adapter : Option α)
  deriving DecidableEq, Repr

namespace AdapterTable

/-- The loop of `addAdapter`. -/
def addAdapterLoop (adapter : Option α) :
    Nat → Nat → List (Option α) → Option (List (Option α) × List AdapterEffect)
  | 0, _, _ => none
  | fuel + 1, i, mLocAdapters =>
      if i < maxAdapters then do
        let slot ← read mLocAdapters i
        if slot ≠ adapter then
          if slot = none then
            let mLocAdapters ← write mLocAdapters i adapter
            some (mLocAdapters, [.LocOpenMsg])
          else addAdapterLoop adapter fuel (i + 1) mLocAdapters
        else some (mLocAdapters, [])
      else some (mLocAdapters, [])

/-- `LocApiBase::addAdapter`. -/
def addAdapter (adapter : Option α) (mLocAdapters : List (Option α)) :
    Option (List (Option α) × List AdapterEffect) :=
  addAdapterLoop adapter (maxAdapters + 1) 0 mLocAdapters

/-- The inner loop of `removeAdapter`, `while (++i < MAX_ADAPTERS && mLocAdapters[i] != NULL)`. -/
def lastLoop (mLocAdapters : List (Option α)) : Nat → Nat → Option Nat
  | 0, _ => none
  | fuel + 1, i =>
      if i + 1 < maxAdapters then do
        let slot ← read mLocAdapters (i + 1 : Nat)
        if slot ≠ none then lastLoop mLocAdapters fuel (i + 1) else some (i + 1)
      else some (i + 1)

/-- The loop of `removeAdapter`. -/
def removeAdapterLoop (adapter : Option α) :
    Nat → Nat → List (Option α) → List AdapterEffect →
      Option (List (Option α) × List AdapterEffect)
  | 0, _, _, _ => none
  | fuel + 1, i, mLocAdapters, effects =>
      if i < maxAdapters then do
        let slot ← read mLocAdapters i
        if slot = none then some (mLocAdapters, effects)
        else if slot = adapter then
          let mLocAdapters ← write mLocAdapters i none
          let j := i
          let next ← lastLoop mLocAdapters (maxAdapters + 1) i
          let i := next - 1
          let last ← read mLocAdapters i
          let mLocAdapters ← write mLocAdapters j last
          let mLocAdapters ← write mLocAdapters i none
          let effects := effects ++ [if i = 0 then .close else .LocOpenMsg]
          removeAdapterLoop adapter fuel (i + 1) mLocAdapters effects
        else removeAdapterLoop adapter fuel (i + 1) mLocAdapters effects
      else some (mLocAdapters, effects)

/-- `LocApiBase::removeAdapter`. -/
def removeAdapter (adapter : Option α) (mLocAdapters : List (Option α)) :
    Option (List (Option α) × List AdapterEffect) :=
  removeAdapterLoop adapter (maxAdapters + 1) 0 mLocAdapters []

/-- One call. -/
def step (mLocAdapters : List (Option α)) : AdapterCall α → Option (List (Option α))
  | .addAdapter adapter => (addAdapter adapter mLocAdapters).map Prod.fst
  | .removeAdapter adapter => (removeAdapter adapter mLocAdapters).map Prod.fst

/-- The adapters that should be registered after a call. -/
def registeredAfter (registered : Finset α) : AdapterCall α → Finset α
  | .addAdapter (some adapter) =>
      if registered.card < maxAdapters then insert adapter registered else registered
  | .removeAdapter (some adapter) => registered.erase adapter
  | .addAdapter none => registered
  | .removeAdapter none => registered

/-! ### The loops -/

variable {fuel : Nat} {a : α} {front back : List (Option α)}

theorem addAdapterLoop_eq (hlength : front.length + back.length = maxAdapters)
    (hfuel : back.length < fuel) :
    addAdapterLoop (some a) fuel front.length (front ++ back) =
      some (match addLoop a back with
        | none => (front ++ back, [])
        | some slots => (front ++ slots, [.LocOpenMsg])) := by
  induction back generalizing front fuel with
  | nil =>
      obtain ⟨fuel, rfl⟩ := Nat.exists_eq_succ_of_ne_zero (Nat.ne_of_gt hfuel)
      rw [List.length_nil] at hlength
      rw [addAdapterLoop, if_neg (by omega)]
      rfl
  | cons slot back ih =>
      obtain ⟨fuel, rfl⟩ := Nat.exists_eq_succ_of_ne_zero (Nat.ne_of_gt (Nat.zero_lt_of_lt hfuel))
      rw [List.length_cons] at hlength hfuel
      rw [addAdapterLoop, if_pos (by omega), read_append_cons]
      simp only [Option.bind_eq_bind, Option.bind_some]
      cases slot with
      | none =>
          rw [if_pos (Option.some_ne_none a).symm, if_pos rfl, write_append_cons]
          rfl
      | some b =>
          by_cases hb : b = a
          · rw [hb, if_neg (not_not_intro rfl), addLoop, if_pos rfl]
          · have hnext := @ih fuel (front ++ [some b])
              (by rw [List.length_append, List.length_singleton]; omega) (by omega)
            rw [List.length_append, List.length_singleton, List.append_assoc,
              List.singleton_append] at hnext
            rw [if_pos fun h => hb (Option.some.inj h), if_neg (Option.some_ne_none b), hnext,
              addLoop, if_neg hb]
            cases addLoop a back with
            | none => rfl
            | some slots =>
                dsimp only [Option.map_some]
                rw [List.append_assoc, List.singleton_append]

omit [DecidableEq α] in
/-- The inner loop ends at the first free slot, or behind the last slot. -/
theorem lastLoop_eq {i : Nat} (hi : front.length = i + 1)
    (hlength : front.length + back.length = maxAdapters) (hfuel : back.length < fuel) :
    lastLoop (front ++ back) fuel i
      = some (front.length + (back.takeWhile Option.isSome).length) := by
  induction back generalizing front fuel i with
  | nil =>
      obtain ⟨fuel, rfl⟩ := Nat.exists_eq_succ_of_ne_zero (Nat.ne_of_gt hfuel)
      rw [List.length_nil] at hlength
      rw [lastLoop, if_neg (by omega), hi]
      rfl
  | cons slot back ih =>
      obtain ⟨fuel, rfl⟩ := Nat.exists_eq_succ_of_ne_zero (Nat.ne_of_gt (Nat.zero_lt_of_lt hfuel))
      rw [List.length_cons] at hlength hfuel
      rw [lastLoop, if_pos (by omega), ← hi, read_append_cons]
      simp only [Option.bind_eq_bind, Option.bind_some]
      cases slot with
      | none =>
          rw [if_neg (not_not_intro rfl)]
          rfl
      | some b =>
          have hfront : (front ++ [some b]).length = front.length + 1 := by
            rw [List.length_append, List.length_singleton]
          have hnext := ih hfront (by omega) (show back.length < fuel by omega)
          rw [List.append_assoc, List.singleton_append, hfront] at hnext
          rw [if_pos (Option.some_ne_none b), hnext, List.takeWhile_cons_of_pos rfl,
            List.length_cons]
          congr 1
          omega

/-- The loop ends when it comes to a free slot. -/
theorem removeAdapterLoop_of_free {adapter : Option α} {i : Nat} {table : List (Option α)}
    (effects : List AdapterEffect) (hlength : table.length = maxAdapters)
    (hfree : table[i]? = none ∨ table[i]? = some none) (hfuel : 0 < fuel) :
    removeAdapterLoop adapter fuel i table effects = some (table, effects) := by
  obtain ⟨fuel, rfl⟩ := Nat.exists_eq_succ_of_ne_zero (Nat.ne_of_gt hfuel)
  rw [removeAdapterLoop]
  rcases hfree with hnone | hsome
  · rw [List.getElem?_eq_none_iff] at hnone
    rw [if_neg (by omega)]
  · have hlt := (List.getElem?_eq_some_iff.mp hsome).1
    rw [if_pos (by omega), read_of_getElem? hsome]
    rfl

/-- The adapter is found in the first slot of `back`: its slot gets the last adapter. -/
theorem removeAdapterLoop_found {rest : List (Option α)}
    (hlength : front.length + (rest.length + 1) = maxAdapters) (hfuel : 0 < fuel) :
    removeAdapterLoop (some a) (fuel + 1) front.length (front ++ some a :: rest) [] =
      some (front ++ moveLast (none :: rest) (rest.takeWhile Option.isSome).length,
        [if front.length + (rest.takeWhile Option.isSome).length = 0 then .close
          else .LocOpenMsg]) := by
  have hfront : (front ++ [none]).length = front.length + 1 := by
    rw [List.length_append, List.length_singleton]
  have hlast := @lastLoop_eq α (maxAdapters + 1) (front ++ [none]) rest _ hfront (by omega)
    (by omega)
  have hused : (rest.takeWhile Option.isSome).length ≤ rest.length :=
    (List.takeWhile_prefix _).length_le
  have hfree := getElem?_takeWhile_isSome rest
  rw [List.append_assoc, List.singleton_append, hfront] at hlast
  generalize (rest.takeWhile Option.isSome).length = used at hlast hused hfree ⊢
  have hget : (none :: rest)[used]? = some ((none :: rest).getD used none) := by
    rw [List.getD_eq_getElem?_getD, List.getElem?_eq_getElem (by rw [List.length_cons]; omega)]
    rfl
  rw [removeAdapterLoop, if_pos (by omega), read_append_cons]
  simp only [Option.bind_eq_bind, Option.bind_some]
  rw [if_neg (Option.some_ne_none a), if_pos trivial, write_append_cons, Option.bind_some, hlast,
    Option.bind_some, show front.length + 1 + used - 1 = front.length + used by omega, read_append,
    hget, Option.bind_some, write_append_cons, Option.bind_some,
    write_append front none (by rw [List.length_cons]; omega), Option.bind_some]
  refine removeAdapterLoop_of_free _ ?_ ?_ hfuel
  · rw [List.length_append, List.length_set, List.length_cons]
    exact hlength
  · -- the slot behind the last one is as before
    rw [Nat.add_assoc, List.getElem?_append_right (Nat.le_add_right _ _), Nat.add_sub_cancel_left,
      List.getElem?_set_ne (Nat.ne_of_lt (Nat.lt_succ_self used)), List.getElem?_cons_succ]
    exact hfree

theorem removeAdapterLoop_eq (hlength : front.length + back.length = maxAdapters)
    (hfuel : back.length < fuel) :
    removeAdapterLoop (some a) fuel front.length (front ++ back) [] =
      some (match removeLoop a front.length back with
        | none => (front ++ back, [])
        | some (slots, i) => (front ++ slots, [if i = 0 then .close else .LocOpenMsg])) := by
  induction back generalizing front fuel with
  | nil =>
      obtain ⟨fuel, rfl⟩ := Nat.exists_eq_succ_of_ne_zero (Nat.ne_of_gt hfuel)
      rw [List.length_nil] at hlength
      rw [removeAdapterLoop, if_neg (by omega)]
      rfl
  | cons slot back ih =>
      obtain ⟨fuel, rfl⟩ := Nat.exists_eq_succ_of_ne_zero (Nat.ne_of_gt (Nat.zero_lt_of_lt hfuel))
      rw [List.length_cons] at hlength hfuel
      cases slot with
      | none =>
          rw [removeAdapterLoop, if_pos (by omega), read_append_cons]
          rfl
      | some b =>
          by_cases hb : b = a
          · rw [hb, removeAdapterLoop_found hlength (by omega), removeLoop, if_pos rfl]
          · have hnext := @ih fuel (front ++ [some b])
              (by rw [List.length_append, List.length_singleton]; omega) (by omega)
            rw [List.length_append, List.length_singleton, List.append_assoc,
              List.singleton_append] at hnext
            rw [removeAdapterLoop, if_pos (by omega), read_append_cons]
            simp only [Option.bind_eq_bind, Option.bind_some]
            rw [if_neg (Option.some_ne_none b), if_neg fun h => hb (Option.some.inj h), hnext,
              removeLoop, if_neg hb]
            cases removeLoop a (front.length + 1) back with
            | none => rfl
            | some r =>
                dsimp only [Option.map_some]
                rw [List.append_assoc, List.singleton_append]

/-- A `NULL` pointer is not added, and the loop ends at the first free slot. -/
theorem addAdapterLoop_null (hlength : front.length + back.length = maxAdapters)
    (hfuel : back.length < fuel) :
    addAdapterLoop none fuel front.length (front ++ back) = some (front ++ back, []) := by
  induction back generalizing front fuel with
  | nil =>
      obtain ⟨fuel, rfl⟩ := Nat.exists_eq_succ_of_ne_zero (Nat.ne_of_gt hfuel)
      rw [List.length_nil] at hlength
      rw [addAdapterLoop, if_neg (by omega)]
  | cons slot back ih =>
      obtain ⟨fuel, rfl⟩ := Nat.exists_eq_succ_of_ne_zero (Nat.ne_of_gt (Nat.zero_lt_of_lt hfuel))
      rw [List.length_cons] at hlength hfuel
      rw [addAdapterLoop, if_pos (by omega), read_append_cons]
      simp only [Option.bind_eq_bind, Option.bind_some]
      cases slot with
      | none => rw [if_neg (not_not_intro rfl)]
      | some b =>
          have hnext := @ih fuel (front ++ [some b])
            (by rw [List.length_append, List.length_singleton]; omega) (by omega)
          rw [List.length_append, List.length_singleton, List.append_assoc,
            List.singleton_append] at hnext
          rw [if_pos (Option.some_ne_none b), if_neg (Option.some_ne_none b), hnext]

theorem removeAdapterLoop_null (hlength : front.length + back.length = maxAdapters)
    (hfuel : back.length < fuel) :
    removeAdapterLoop none fuel front.length (front ++ back) [] = some (front ++ back, []) := by
  induction back generalizing front fuel with
  | nil =>
      obtain ⟨fuel, rfl⟩ := Nat.exists_eq_succ_of_ne_zero (Nat.ne_of_gt hfuel)
      rw [List.length_nil] at hlength
      rw [removeAdapterLoop, if_neg (by omega)]
  | cons slot back ih =>
      obtain ⟨fuel, rfl⟩ := Nat.exists_eq_succ_of_ne_zero (Nat.ne_of_gt (Nat.zero_lt_of_lt hfuel))
      rw [List.length_cons] at hlength hfuel
      rw [removeAdapterLoop, if_pos (by omega), read_append_cons]
      simp only [Option.bind_eq_bind, Option.bind_some]
      cases slot with
      | none => rw [if_pos rfl]
      | some b =>
          have hnext := @ih fuel (front ++ [some b])
            (by rw [List.length_append, List.length_singleton]; omega) (by omega)
          rw [List.length_append, List.length_singleton, List.append_assoc,
            List.singleton_append] at hnext
          rw [if_neg (Option.some_ne_none b), if_neg (Option.some_ne_none b), hnext]

/-! ### One call -/

variable {mLocAdapters : List (Option α)} {registered : Finset α}

omit [DecidableEq α] in
theorem length_of_packed (h : Packed mLocAdapters registered) :
    mLocAdapters.length = maxAdapters := by
  obtain ⟨l, n, rfl, hlength, -, -⟩ := h
  rw [slots, List.length_append, List.length_map, List.length_replicate, hlength]

/-- An adapter is added when it is not there and there is a free slot. -/
theorem addAdapter_packed (h : Packed mLocAdapters registered) (adapter : Option α) :
    ∃ after effects, addAdapter adapter mLocAdapters = some (after, effects) ∧
      Packed after (registeredAfter registered (.addAdapter adapter)) := by
  have hlength : ([] : List (Option α)).length + mLocAdapters.length = maxAdapters := by
    rw [length_of_packed h, List.length_nil, Nat.zero_add]
  have hfuel : mLocAdapters.length < maxAdapters + 1 := by omega
  cases adapter with
  | none => exact ⟨mLocAdapters, [], addAdapterLoop_null hlength hfuel, h⟩
  | some a =>
      have hloop := addAdapterLoop_eq (a := a) hlength hfuel
      by_cases hroom : registered.card < maxAdapters
      · rw [registeredAfter, if_pos hroom]
        by_cases ha : a ∈ registered
        · rw [Finset.insert_eq_of_mem ha]
          rw [addLoop_of_registered h ha] at hloop
          exact ⟨mLocAdapters, [], hloop, h⟩
        · obtain ⟨after, hafter, hpacked⟩ := addLoop_of_room h ha hroom
          rw [hafter] at hloop
          exact ⟨after, [.LocOpenMsg], hloop, hpacked⟩
      · -- nothing is added to a full array
        have hnone : addLoop a mLocAdapters = none := by
          by_cases ha : a ∈ registered
          · exact addLoop_of_registered h ha
          · exact addLoop_of_no_room h ha (Nat.le_of_not_lt hroom)
        rw [hnone] at hloop
        rw [registeredAfter, if_neg hroom]
        exact ⟨mLocAdapters, [], hloop, h⟩

/-- An adapter is removed when it is there, and `close` is called when it was the only one. -/
theorem removeAdapter_packed (h : Packed mLocAdapters registered) (adapter : Option α) :
    ∃ after effects, removeAdapter adapter mLocAdapters = some (after, effects) ∧
      Packed after (registeredAfter registered (.removeAdapter adapter)) ∧ effects.length ≤ 1 ∧
      (.close ∈ effects ↔ ∃ a, adapter = some a ∧ registered = {a}) := by
  have hlength : ([] : List (Option α)).length + mLocAdapters.length = maxAdapters := by
    rw [length_of_packed h, List.length_nil, Nat.zero_add]
  have hfuel : mLocAdapters.length < maxAdapters + 1 := by omega
  cases adapter with
  | none =>
      refine ⟨mLocAdapters, [], removeAdapterLoop_null hlength hfuel, h, Nat.zero_le 1, ?_⟩
      exact ⟨fun hclose => absurd hclose List.not_mem_nil, fun ⟨a, ha, _⟩ => nomatch ha⟩
  | some a =>
      have hloop := removeAdapterLoop_eq (a := a) hlength hfuel
      have honly : (∃ b, some a = some b ∧ registered = {b}) ↔
          a ∈ registered ∧ registered.erase a = ∅ := by
        constructor
        · rintro ⟨b, hb, rfl⟩
          cases hb
          exact ⟨Finset.mem_singleton_self a, Finset.erase_singleton a⟩
        · rintro ⟨ha, hempty⟩
          exact ⟨a, rfl, by rw [← Finset.insert_erase ha, hempty, insert_empty_eq]⟩
      rw [honly, registeredAfter]
      by_cases ha : a ∈ registered
      · obtain ⟨after, i, hafter, hpacked, hlast⟩ := removeLoop_of_registered h ha
        rw [List.length_nil, hafter] at hloop
        refine ⟨after, _, hloop, hpacked, Nat.le_refl 1, ?_⟩
        rw [List.mem_singleton, ← hlast, and_iff_right ha]
        by_cases hi : i = 0
        · rw [if_pos hi]
          exact iff_of_true rfl hi
        · rw [if_neg hi]
          exact iff_of_false nofun hi
      · rw [List.length_nil, removeLoop_of_not_registered h ha] at hloop
        refine ⟨mLocAdapters, [], hloop, ?_, Nat.zero_le 1, ?_⟩
        · rw [Finset.erase_eq_of_notMem ha]
          exact h
        · exact ⟨fun hclose => absurd hclose List.not_mem_nil, fun hclose => absurd hclose.1 ha⟩

theorem step_packed (h : Packed mLocAdapters registered) (call : AdapterCall α) :
    ∃ after, step mLocAdapters call = some after ∧
      Packed after (registeredAfter registered call) := by
  cases call with
  | addAdapter adapter =>
      obtain ⟨after, effects, hadd, hpacked⟩ := addAdapter_packed h adapter
      exact ⟨after, by rw [step, hadd, Option.map_some], hpacked⟩
  | removeAdapter adapter =>
      obtain ⟨after, effects, hremove, hpacked, -, -⟩ := removeAdapter_packed h adapter
      exact ⟨after, by rw [step, hremove, Option.map_some], hpacked⟩

/-! ### Runs -/

/-- The calls keep the array packed. -/
theorem exists_run (calls : List (AdapterCall α)) (h : Packed mLocAdapters registered) :
    ∃ after, run step mLocAdapters calls = some after ∧
      Packed after (calls.foldl registeredAfter registered) := by
  induction calls generalizing mLocAdapters registered with
  | nil => exact ⟨mLocAdapters, rfl, h⟩
  | cons call calls ih =>
      obtain ⟨next, hstep, hnext⟩ := step_packed h call
      rw [run_cons, hstep, Option.bind_some]
      exact ih hnext

/-- For every sequence of calls, with any adapters: the array holds the adapters that should be
registered, each of them once, in its first slots. A removal after it calls `close`, once, exactly
when the adapter is the only one. -/
theorem run_packed (calls : List (AdapterCall α)) :
    ∃ mLocAdapters, run step (List.replicate maxAdapters none) calls = some mLocAdapters ∧
      Packed mLocAdapters (calls.foldl registeredAfter ∅) ∧
      ∀ adapter, ∃ after effects, removeAdapter adapter mLocAdapters = some (after, effects) ∧
        effects.length ≤ 1 ∧
        (.close ∈ effects ↔ ∃ a, adapter = some a ∧ calls.foldl registeredAfter ∅ = {a}) := by
  obtain ⟨mLocAdapters, hrun, hpacked⟩ := exists_run calls (packed_new 0 fun _ => 0)
  refine ⟨mLocAdapters, hrun, hpacked, fun adapter => ?_⟩
  obtain ⟨after, effects, hremove, -, hlength, hclose⟩ := removeAdapter_packed hpacked adapter
  exact ⟨after, effects, hremove, hlength, hclose⟩

end AdapterTable

end LocHal.Core
