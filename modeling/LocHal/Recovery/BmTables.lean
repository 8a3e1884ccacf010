import LocHal.Lib.CheckedArray
import LocHal.Lib.StringSearch

/-!
# `LocHal.Recovery.BmTables`: the shift tables of the string search

`bm_search` looks for the version of the modem in its image with two tables. `delta1` is about the
character at which the window differs from the pattern. `delta2` is about the offset at which it
does.

The second table is filled twice. The first pass writes for each offset the border that comes next,
counted from the offset itself: `strncmp` compares what begins at `p`, and `last_prefix` is set to
`p + 1`. The second pass writes over the offsets behind which the pattern reappears. `Delta2` says
what the entries are in the end.

An access outside of an array has no result, so the theorems say also that there is none. The
pattern is not empty, as otherwise the bound `pat_len - 1` would wrap.

The loops are those of the source, as invariants over the passes. `maxSuffixLen_spec` is the number
of characters that agree up to a place with the end of the pattern, and `MaxSuffix.reappears_iff`
what it says: the part of the pattern behind an offset is there again. `LastPrefix` is the variable
`last_prefix` with its slip, and `Shift` what an entry is after some passes of the second loop,
which goes through the shifts from large to small and so leaves the least one.
-/

set_option autoImplicit false

namespace LocHal.Recovery

open CheckedArray StringSearch

/-- `ALPHABET_LEN`. -/
def alphabetLen : Nat := 256

/-- The loop of `max_suffix_len`, from `i` on. -/
def maxSuffixLoop (str : List UInt8) (strLen p : Nat) : Nat → Nat → Option Nat
  | 0, _ => none
  | fuel + 1, i => do
      let a ← read str (p - i)
      let b ← read str (strLen - 1 - i)
      if a = b ∧ i < p then maxSuffixLoop str strLen p fuel (i + 1) else some i

/-- `max_suffix_len`. -/
def maxSuffixLen (str : List UInt8) (strLen p : Nat) : Option Nat :=
  maxSuffixLoop str strLen p (p + 1) 0

/-- A pass of the first loop of `bm_make_delta1`. -/
def delta1Fill (pat : List UInt8) (i : Nat) (delta1 : List Int) : Option (List Int) :=
  write delta1 i pat.length

/-- A pass of the second loop. -/
def delta1Last (pat : List UInt8) (i : Nat) (delta1 : List Int) : Option (List Int) := do
  let idx ← read pat i
  write delta1 idx.toNat (pat.length - 1 - i)

/-- `bm_make_delta1`. -/
def bmMakeDelta1 (delta1 : List Int) (pat : List UInt8) : Option (List Int) := do
  let delta1 ← upTo alphabetLen (delta1Fill pat) delta1
  upTo (pat.length - 1) (delta1Last pat) delta1

/-- `strncmp` of what is in `str` from `a` and from `b` on: whether it is 0. -/
def strncmp (str : List UInt8) : Nat → Nat → Nat → Option Bool
  | _, _, 0 => some true
  | a, b, n + 1 => do
      let x ← read str a
      let y ← read str b
      if x ≠ y then some false
      else if x = 0 then some true
      else strncmp str (a + 1) (b + 1) n

/-- A pass of the first loop of `bm_make_delta2`, with `last_prefix` and the table. -/
def delta2Prefix (pat : List UInt8) (p : Nat) (s : Nat × List Int) : Option (Nat × List Int) := do
  let isZero ← strncmp pat p 0 (pat.length - p)
  let lastPrefix := if isZero then p + 1 else s.1
  let delta2 ← write s.2 p (lastPrefix + (pat.length - 1 - p))
  some (lastPrefix, delta2)

/-- A pass of the second loop. -/
def delta2Suffix (pat : List UInt8) (p : Nat) (delta2 : List Int) : Option (List Int) := do
  let sufLen ← maxSuffixLen pat pat.length p
  let a ← read pat (p - sufLen)
  let b ← read pat (pat.length - 1 - sufLen)
  if a ≠ b then write delta2 (pat.length - 1 - sufLen) (pat.length - 1 - p + sufLen)
  else some delta2

/-- `bm_make_delta2`. -/
def bmMakeDelta2 (delta2 : List Int) (pat : List UInt8) : Option (List Int) := do
  let s ← downFrom pat.length (delta2Prefix pat) (pat.length - 1, delta2)
  upTo (pat.length - 1) (delta2Suffix pat) s.2

/-! ### The suffix that ends at an offset -/

variable {pat : List UInt8} {p r i : Nat}

/-- The characters up to `r` agree with the last ones of the pattern, `i` of them, and no more
unless the beginning of the pattern is reached. -/
structure MaxSuffix (pat : List UInt8) (r i : Nat) : Prop where
  le : i ≤ r
  agrees : ∀ k < i, pat[r - k]? = pat[pat.length - 1 - k]?
  differs : i < r → pat[r - i]? ≠ pat[pat.length - 1 - i]?

/-- A character of the pattern, read by a difference. -/
theorem read_sub {k m : Nat} (hk : k ≤ m) (hm : m < pat.length) :
    read pat ((m : Int) - k) = some (pat[m - k]) := by
  rw [show (m : Int) - k = ((m - k : Nat) : Int) by omega]
  exact read_of_getElem? (List.getElem?_eq_getElem _)

theorem read_last {k : Nat} (hk : k < pat.length) :
    read pat ((pat.length : Int) - 1 - k) = some (pat[pat.length - 1 - k]) := by
  rw [show (pat.length : Int) - 1 - k = ((pat.length - 1 - k : Nat) : Int) by omega]
  exact read_of_getElem? (List.getElem?_eq_getElem _)

theorem maxSuffixLoop_spec {fuel : Nat} (hr : r < pat.length) (hi : i ≤ r) (hfuel : r < fuel + i)
    (hagrees : ∀ k < i, pat[r - k]? = pat[pat.length - 1 - k]?) :
    ∃ i', maxSuffixLoop pat pat.length r fuel i = some i' ∧ MaxSuffix pat r i' := by
  induction fuel generalizing i with
  | zero => omega
  | succ fuel ih =>
      have ha : pat[r - i]? = some (pat[r - i]) := List.getElem?_eq_getElem _
      have hb : pat[pat.length - 1 - i]? = some (pat[pat.length - 1 - i]) :=
        List.getElem?_eq_getElem _
      rw [maxSuffixLoop, read_sub hi hr, read_last (by omega)]
      simp only [Option.bind_eq_bind, Option.bind_some]
      by_cases heq : pat[r - i] = pat[pat.length - 1 - i]
      · have hequal : pat[r - i]? = pat[pat.length - 1 - i]? := by rw [ha, hb, heq]
        by_cases hlt : i < r
        · -- one more character agrees
          rw [if_pos ⟨heq, hlt⟩]
          refine ih (by omega) (by omega) fun k hk => ?_
          rcases Nat.lt_succ_iff_lt_or_eq.mp hk with hk | rfl
          · exact hagrees k hk
          · exact hequal
        · rw [if_neg fun h => hlt h.2]
          exact ⟨i, rfl, hi, hagrees, fun h => absurd h hlt⟩
      · rw [if_neg fun h => heq h.1]
        refine ⟨i, rfl, hi, hagrees, fun _ hequal => heq ?_⟩
        rw [ha, hb] at hequal
        exact Option.some.inj hequal

theorem maxSuffixLen_spec (hr : r < pat.length) :
    ∃ i, maxSuffixLen pat pat.length r = some i ∧ MaxSuffix pat r i :=
  maxSuffixLoop_spec hr (Nat.zero_le r) (Nat.lt_succ_self r) fun _ hk =>
    absurd hk (Nat.not_lt_zero _)

/-- What reappears up to `r` is what the suffix that ends at `r` stands before. -/
theorem MaxSuffix.reappears_iff (h : MaxSuffix pat r i) (hr : r < pat.length - 1)
    (hp : p < pat.length) :
    Reappears pat p (pat.length - 1 - r) ↔
      p = pat.length - 1 - i ∧ pat[r - i]? ≠ pat[pat.length - 1 - i]? := by
  have hi := h.le
  constructor
  · intro hreappears
    have hle := hreappears.le
    -- both stop at the first difference
    have hbehind : ∀ k < pat.length - 1 - p, pat[r - k]? = pat[pat.length - 1 - k]? := by
      intro k hk
      rw [← hreappears.behind (pat.length - 1 - k) (by omega) (by omega)]
      congr 1
      omega
    have hdiffers : pat[r - (pat.length - 1 - p)]? ≠ pat[p]? := by
      have hne := hreappears.differs
      rwa [show p - (pat.length - 1 - r) = r - (pat.length - 1 - p) by omega] at hne
    have heq : i = pat.length - 1 - p := by
      rcases Nat.lt_trichotomy i (pat.length - 1 - p) with hlt | heq | hgt
      · exact absurd (hbehind i hlt) (h.differs (by omega))
      · exact heq
      · have hagrees := h.agrees _ hgt
        rw [show pat.length - 1 - (pat.length - 1 - p) = p by omega] at hagrees
        exact absurd hagrees hdiffers
    rw [← heq] at hdiffers
    have hpi : p = pat.length - 1 - i := by omega
    exact ⟨hpi, hpi ▸ hdiffers⟩
  · rintro ⟨rfl, hdiffers⟩
    refine ⟨by omega, by omega, fun j hj hjn => ?_, ?_⟩
    · have hagrees := h.agrees (pat.length - 1 - j) (by omega)
      rwa [show r - (pat.length - 1 - j) = j - (pat.length - 1 - r) by omega,
        show pat.length - 1 - (pat.length - 1 - j) = j by omega] at hagrees
    · rwa [show pat.length - 1 - i - (pat.length - 1 - r) = r - i by omega]

/-! ### The first table -/

/-- The entry of a character says how far its last place is from the end of the pattern. The places
before `m` count. -/
def Delta1Entry (pat : List UInt8) (m : Nat) (delta1 : List Int) (c : UInt8) : Prop :=
  ∃ v : Nat, delta1[c.toNat]? = some (v : Int) ∧ v ≤ pat.length ∧
    ∀ k < m, pat.length - 1 < k + v → pat[k]? ≠ some c

theorem delta1Fill_spec {delta1 : List Int} (hlength : delta1.length = alphabetLen) :
    ∃ delta1', upTo alphabetLen (delta1Fill pat) delta1 = some delta1' ∧
      delta1'.length = alphabetLen ∧ ∀ k < alphabetLen, delta1'[k]? = some (pat.length : Int) := by
  refine upTo_invariant
    (fun i (delta1 : List Int) =>
      delta1.length = alphabetLen ∧ ∀ k < i, delta1[k]? = some (pat.length : Int))
    ⟨hlength, fun _ hk => absurd hk (Nat.not_lt_zero _)⟩ ?_
  rintro i hi delta1 ⟨hdelta1, hbefore⟩
  refine ⟨_, write_natCast _ (hdelta1 ▸ hi), by rw [List.length_set, hdelta1], fun k hk => ?_⟩
  rw [List.getElem?_set]
  split
  · rw [if_pos (by omega)]
  · exact hbefore k (by omega)

/-- One more character of the pattern counts. -/
theorem delta1Last_spec {delta1 : List Int} (hi : i < pat.length - 1)
    (hlength : delta1.length = alphabetLen) (hentry : ∀ c, Delta1Entry pat i delta1 c) :
    ∃ delta1', delta1Last pat i delta1 = some delta1' ∧ delta1'.length = alphabetLen ∧
      ∀ c, Delta1Entry pat (i + 1) delta1' c := by
  have hidx : pat[i]? = some (pat[i]) := List.getElem?_eq_getElem _
  have hlt : (pat[i]).toNat < delta1.length := by
    rw [hlength]
    exact UInt8.toNat_lt _
  unfold delta1Last
  rw [read_of_getElem? hidx]
  refine ⟨_, write_natCast _ hlt, by rw [List.length_set, hlength], fun c => ?_⟩
  obtain ⟨v, hv, hle, hnot⟩ := hentry c
  by_cases hc : c = pat[i]
  · -- the last place so far
    refine ⟨pat.length - 1 - i, ?_, by omega, fun k hk hlast => by omega⟩
    rw [hc, List.getElem?_set_self hlt]
    congr 1
    omega
  · refine ⟨v, ?_, hle, fun k hk hlast => ?_⟩
    · rw [List.getElem?_set_ne fun heq => hc (UInt8.toNat_inj.mp heq).symm]
      exact hv
    · rcases Nat.lt_succ_iff_lt_or_eq.mp hk with hk | rfl
      · exact hnot k hk hlast
      · rw [hidx]
        exact fun heq => hc (Option.some.inj heq).symm

theorem bmMakeDelta1_spec {delta1 : List Int} (hlength : delta1.length = alphabetLen) :
    ∃ delta1', bmMakeDelta1 delta1 pat = some delta1' ∧ delta1'.length = alphabetLen ∧
      ∀ c, Delta1Entry pat (pat.length - 1) delta1' c := by
  obtain ⟨filled, hfilled, hfilledLength, hall⟩ := @delta1Fill_spec pat _ hlength
  obtain ⟨delta1', hlast, hspec⟩ : ∃ delta1',
      upTo (pat.length - 1) (delta1Last pat) filled = some delta1' ∧
        delta1'.length = alphabetLen ∧ ∀ c, Delta1Entry pat (pat.length - 1) delta1' c :=
    upTo_invariant
      (fun i (delta1 : List Int) => delta1.length = alphabetLen ∧ ∀ c, Delta1Entry pat i delta1 c)
      ⟨hfilledLength, fun c => ⟨pat.length, hall _ (UInt8.toNat_lt c), Nat.le_refl _,
        fun _ hk => absurd hk (Nat.not_lt_zero _)⟩⟩
      fun i hi delta1 h => delta1Last_spec hi h.1 h.2
  refine ⟨delta1', ?_, hspec⟩
  unfold bmMakeDelta1
  rw [hfilled]
  exact hlast

/-! ### The second table -/

theorem strncmp_spec {str : List UInt8} (hzero : (0 : UInt8) ∉ str) {a b n : Nat}
    (ha : a + n ≤ str.length) (hb : b + n ≤ str.length) :
    ∃ isZero, strncmp str a b n = some isZero ∧
      (isZero = true ↔ ∀ j < n, str[a + j]? = str[b + j]?) := by
  induction n generalizing a b with
  | zero => exact ⟨true, rfl, by simp⟩
  | succ n ih =>
      have hx : str[a]? = some (str[a]) := List.getElem?_eq_getElem _
      have hy : str[b]? = some (str[b]) := List.getElem?_eq_getElem _
      rw [strncmp, read_of_getElem? hx, read_of_getElem? hy]
      simp only [Option.bind_eq_bind, Option.bind_some]
      by_cases heq : str[a] = str[b]
      · -- there is no 0, so the comparison goes on
        have hne : str[a] ≠ 0 := fun h => hzero (h ▸ List.getElem_mem _)
        rw [if_neg (not_not_intro heq), if_neg hne]
        obtain ⟨isZero, hsome, hiff⟩ := @ih (a + 1) (b + 1) (by omega) (by omega)
        refine ⟨isZero, hsome, hiff.trans ⟨fun h j hj => ?_, fun h j hj => ?_⟩⟩
        · cases j with
          | zero => rw [Nat.add_zero, Nat.add_zero, hx, hy, heq]
          | succ j =>
              have hnext := h j (by omega)
              rwa [Nat.add_right_comm a, Nat.add_right_comm b] at hnext
        · have hnext := h (j + 1) (by omega)
          rwa [← Nat.add_assoc, ← Nat.add_assoc, Nat.add_right_comm a, Nat.add_right_comm b]
            at hnext
      · rw [if_pos heq]
        refine ⟨false, rfl, ⟨fun h => absurd h Bool.false_ne_true, fun h => absurd ?_ heq⟩⟩
        have hfirst := h 0 (by omega)
        rw [Nat.add_zero, Nat.add_zero, hx, hy] at hfirst
        exact Option.some.inj hfirst

/-- What `last_prefix` is after the pass of `p`: one more than the next border from `p` on. -/
inductive LastPrefix (pat : List UInt8) (p : Nat) : Nat → Prop
  | border (q : Nat) (hle : p ≤ q) (hlt : q < pat.length) (hborder : Border pat q)
      (hleast : ∀ q', p ≤ q' → q' < q → ¬ Border pat q') : LastPrefix pat p (q + 1)
  | none (hnone : ∀ q, p ≤ q → q < pat.length → ¬ Border pat q) :
      LastPrefix pat p (pat.length - 1)

/-- A pass counts the border that begins at `p`. -/
theorem LastPrefix.pass {l : Nat} (h : LastPrefix pat (p + 1) l) (hp : p < pat.length)
    {isZero : Bool} (hzero : isZero = true ↔ Border pat p) :
    LastPrefix pat p (if isZero then p + 1 else l) := by
  cases isZero with
  | true =>
      exact .border p (Nat.le_refl p) hp (hzero.mp rfl) fun q' hle hlt => by omega
  | false =>
      have hnot : ¬ Border pat p := fun hborder => Bool.false_ne_true (hzero.mpr hborder)
      cases h with
      | border q hle hlt hborder hleast =>
          refine .border q (by omega) hlt hborder fun q' hle' hlt' => ?_
          rcases Nat.eq_or_lt_of_le hle' with rfl | hlt''
          · exact hnot
          · exact hleast q' hlt'' hlt'
      | none hnone =>
          refine .none fun q hle hlt => ?_
          rcases Nat.eq_or_lt_of_le hle with rfl | hlt'
          · exact hnot
          · exact hnone q hlt' hlt

/-- How far the window moves for a mismatch at `p`: the least shift from `m` on under which the part
behind `p` reappears, and what the first loop left when there is none. -/
inductive Shift (pat : List UInt8) (m p : Nat) : Nat → Prop
  | reappears (s : Nat) (hm : m ≤ s) (hs : Reappears pat p s)
      (hleast : ∀ s', m ≤ s' → Reappears pat p s' → s ≤ s') : Shift pat m p s
  | lastPrefix (l : Nat) (hnone : ∀ s, m ≤ s → ¬ Reappears pat p s) (hl : LastPrefix pat p l) :
      Shift pat m p l

/-- The entry of `p` is the shift and the distance to the end of the window. -/
structure Delta2 (pat : List UInt8) (m : Nat) (delta2 : List Int) : Prop where
  length : delta2.length = pat.length
  entry : ∀ p < pat.length, ∃ shift, Shift pat m p shift ∧
    delta2[p]? = some ((shift + (pat.length - 1 - p) : Nat) : Int)

/-- The first loop. -/
theorem delta2Prefix_loop {delta2 : List Int} (hlength : delta2.length = pat.length)
    (hzero : (0 : UInt8) ∉ pat) :
    ∃ s, downFrom pat.length (delta2Prefix pat) (pat.length - 1, delta2) = some s ∧
      Delta2 pat pat.length s.2 := by
  obtain ⟨s, hs, hdelta2, -, hentry⟩ : ∃ s,
      downFrom pat.length (delta2Prefix pat) (pat.length - 1, delta2) = some s ∧
        s.2.length = pat.length ∧ LastPrefix pat 0 s.1 ∧ ∀ p, 0 ≤ p → p < pat.length →
          ∃ l, LastPrefix pat p l ∧ s.2[p]? = some ((l + (pat.length - 1 - p) : Nat) : Int) := by
    refine downFrom_invariant
      (fun i (s : Nat × List Int) => s.2.length = pat.length ∧ LastPrefix pat i s.1 ∧
        ∀ p, i ≤ p → p < pat.length →
          ∃ l, LastPrefix pat p l ∧ s.2[p]? = some ((l + (pat.length - 1 - p) : Nat) : Int))
      ⟨hlength, .none fun q hle hlt => by omega, fun p hle hlt => by omega⟩ ?_
    rintro p hp ⟨l, delta2⟩ ⟨hdelta2, hl, hentry⟩
    dsimp only at hdelta2 hl hentry
    obtain ⟨isZero, hsome, hiff⟩ := @strncmp_spec pat hzero p 0 (pat.length - p)
      (by omega) (by omega)
    have hborder : isZero = true ↔ Border pat p := by
      rw [hiff]
      unfold Border
      simp only [Nat.zero_add]
    have hpass := hl.pass hp hborder
    have hwrite := write_natCast
      (((if isZero then p + 1 else l : Nat) : Int) + ((pat.length : Int) - 1 - p))
      (show p < delta2.length by omega)
    unfold delta2Prefix
    rw [hsome]
    simp only [Option.bind_eq_bind, Option.bind_some]
    rw [hwrite, Option.bind_some]
    refine ⟨_, rfl, ?_, hpass, fun p' hle hlt => ?_⟩
    · rw [List.length_set, hdelta2]
    · by_cases heq : p = p'
      · subst heq
        refine ⟨_, hpass, ?_⟩
        rw [List.getElem?_set_self (by omega)]
        congr 1
        omega
      · rw [List.getElem?_set_ne heq]
        exact hentry p' (by omega) hlt
  refine ⟨s, hs, hdelta2, fun p hp => ?_⟩
  obtain ⟨l, hl, hp'⟩ := hentry p (Nat.zero_le p) hp
  -- no shift is as long as the pattern
  refine ⟨l, .lastPrefix l (fun s' hm hs' => ?_) hl, hp'⟩
  have hle := hs'.le
  omega

/-- A shift under which nothing reappears makes no difference. -/
theorem Shift.skip {m d : Nat} (h : Shift pat (m + 1) p d) (hnot : ¬ Reappears pat p m) :
    Shift pat m p d := by
  have hmore : ∀ s, m ≤ s → Reappears pat p s → m + 1 ≤ s := fun s hle hs =>
    Nat.lt_of_le_of_ne hle fun heq => hnot (heq ▸ hs)
  cases h with
  | reappears hm hs hleast =>
      exact .reappears d (by omega) hs fun s' hle hs' => hleast s' (hmore s' hle hs') hs'
  | lastPrefix hnone hl =>
      exact .lastPrefix d (fun s' hle hs' => hnone s' (hmore s' hle hs') hs') hl

/-- A pass of the second loop counts one shift more. -/
theorem delta2Suffix_spec {delta2 : List Int} (hr : r < pat.length - 1)
    (h : Delta2 pat (pat.length - r) delta2) :
    ∃ delta2', delta2Suffix pat r delta2 = some delta2' ∧
      Delta2 pat (pat.length - (r + 1)) delta2' := by
  obtain ⟨i, hsufLen, hmax⟩ := @maxSuffixLen_spec pat r (by omega)
  have hi := hmax.le
  have ha : pat[r - i]? = some (pat[r - i]) := List.getElem?_eq_getElem _
  have hb : pat[pat.length - 1 - i]? = some (pat[pat.length - 1 - i]) :=
    List.getElem?_eq_getElem _
  have hdiffers : pat[r - i]? ≠ pat[pat.length - 1 - i]? ↔
      pat[r - i] ≠ pat[pat.length - 1 - i] := by
    rw [ha, hb, ne_eq, Option.some.injEq]
  rw [show pat.length - (r + 1) = pat.length - 1 - r by omega]
  rw [show pat.length - r = pat.length - 1 - r + 1 by omega] at h
  have hiff := fun p hp => hmax.reappears_iff (p := p) hr hp
  rw [hdiffers] at hiff
  unfold delta2Suffix
  rw [hsufLen]
  simp only [Option.bind_eq_bind, Option.bind_some]
  rw [read_sub hi (by omega), read_last (by omega)]
  simp only [Option.bind_some]
  by_cases hne : pat[r - i] ≠ pat[pat.length - 1 - i]
  · -- the offset that `r` is about gets the new shift
    rw [if_pos hne, show (pat.length : Int) - 1 - i = ((pat.length - 1 - i : Nat) : Int) by omega]
    have hlt : pat.length - 1 - i < delta2.length := by rw [h.length]; omega
    refine ⟨_, write_natCast _ hlt, by rw [List.length_set, h.length], fun p hp => ?_⟩
    by_cases hpi : pat.length - 1 - i = p
    · have hreappears := (hiff p hp).mpr ⟨hpi.symm, hne⟩
      refine ⟨pat.length - 1 - r, .reappears _ (Nat.le_refl _) hreappears fun _ hle _ => hle, ?_⟩
      rw [← hpi, List.getElem?_set_self hlt]
      congr 1
      omega
    · obtain ⟨shift, hshift, hp'⟩ := h.entry p hp
      refine ⟨shift, hshift.skip fun hs => hpi ((hiff p hp).mp hs).1.symm, ?_⟩
      rw [List.getElem?_set_ne hpi]
      exact hp'
  · rw [if_neg hne]
    refine ⟨_, rfl, h.length, fun p hp => ?_⟩
    obtain ⟨shift, hshift, hp'⟩ := h.entry p hp
    exact ⟨shift, hshift.skip fun hs => hne ((hiff p hp).mp hs).2, hp'⟩

theorem bmMakeDelta2_spec {delta2 : List Int} (hlength : delta2.length = pat.length)
    (hpat : pat ≠ []) (hzero : (0 : UInt8) ∉ pat) :
    ∃ delta2', bmMakeDelta2 delta2 pat = some delta2' ∧ Delta2 pat 1 delta2' := by
  have hpos := List.length_pos_iff.mpr hpat
  obtain ⟨s, hs, hfirst⟩ := delta2Prefix_loop hlength hzero
  obtain ⟨delta2', hdelta2', hsecond⟩ : ∃ delta2',
      upTo (pat.length - 1) (delta2Suffix pat) s.2 = some delta2' ∧
        Delta2 pat (pat.length - (pat.length - 1)) delta2' :=
    upTo_invariant (fun r delta2 => Delta2 pat (pat.length - r) delta2) hfirst
      fun r hr delta2 h => delta2Suffix_spec hr h
  rw [show pat.length - (pat.length - 1) = 1 by omega] at hsecond
  refine ⟨delta2', ?_, hsecond⟩
  unfold bmMakeDelta2
  rw [hs]
  exact hdelta2'

end LocHal.Recovery
