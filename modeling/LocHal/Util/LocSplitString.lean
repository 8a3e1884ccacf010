import LocHal.Lib.CheckedArray
import LocHal.Util.LocCfgTrim
import LocHal.Util.LocProcessConf

/-!
# `LocHal.Util.LocSplitString`: splitting a string in place

`loc_util_split_string` puts a terminator in the place of each delimiter and stores where the pieces
begin. `splitString` is the loop over the memory from the string on, with checked accesses.

`splits_iff` says when it is right. The length with the terminator is kept in an `int`, so a string
of 2^31 - 1 characters or more is split only if the pieces are all found in the part of it that the
`int` counts. `pieces_splitString` connects the loop with `locUtilSplitString`.

The accesses are checked, so the statement that the loop has a result says that it stays in the
string and in the array of pointers. `splitLoop_spec` is the induction over the string: a character
that is no delimiter is skipped (`splitLoop_skip`), a delimiter ends a piece and begins the next one
(`splitLoop_next`), unless the limit is reached or the string ends (`splitLoop_last`).

The loop over a part of the string only is compared with the loop over that part (`splitLoop_congr`,
`splitLoop_short`). It goes by the length alone, so it is right as long as the limit is reached
within the part. The model of `loc_read_process_conf` uses the short form `locUtilSplitString`.
-/

set_option autoImplicit false

namespace LocHal.Util

namespace LocCfg

open CheckedArray

/-! ### The loop -/

/-- The variables that the loop changes. A pointer of `split_strings_ptr` is an offset in the memory
from `raw_string` on. -/
structure SplitState where
  rawString : CString
  splitStringsPtr : List Nat
  numSplitStrings : Nat
  deriving DecidableEq, Repr

/-- The loop of `loc_util_split_string`, with `raw_string_index`. -/
def splitLoop (rawStringLength maxNumSubstrings : Int) (delimiter : Char) :
    Nat → Nat → SplitState → Option SplitState
  | 0, _, _ => none
  | fuel + 1, i, st =>
      if i < rawStringLength then do
        let c ← read st.rawString i
        let endString := c = '\x00'
        if c = delimiter ∨ endString then
          let rawString ← write st.rawString i '\x00'
          let numSplitStrings := st.numSplitStrings + 1
          if i + 1 < rawStringLength ∧ numSplitStrings < maxNumSubstrings then
            let splitStringsPtr ← write st.splitStringsPtr numSplitStrings (i + 1)
            let st : SplitState := ⟨rawString, splitStringsPtr, numSplitStrings⟩
            if endString then some st
            else splitLoop rawStringLength maxNumSubstrings delimiter fuel (i + 1) st
          else some ⟨rawString, st.splitStringsPtr, numSplitStrings⟩
        else splitLoop rawStringLength maxNumSubstrings delimiter fuel (i + 1) st
      else some st

/-- `strlen`. There is no result without a terminator. -/
def strlen (buf : CString) : Option Nat :=
  if '\x00' ∈ buf then some (cString buf).length else none

/-- `loc_util_split_string`: the return value, the memory and the pointers. The parameters are
`none` when they are `NULL`. -/
def splitString (rawString : Option CString) (splitStringsPtr : Option (List Nat))
    (maxNumSubstrings : Int) (delimiter : Char) :
    Option (Int × Option CString × Option (List Nat)) :=
  match rawString, splitStringsPtr with
  | some raw, some ptrs => do
      let length ← strlen raw
      let rawStringLength := toInt (length + 1)
      let ptrs ← write ptrs 0 0
      let st ← splitLoop rawStringLength maxNumSubstrings delimiter (rawStringLength.toNat + 1) 0
        ⟨raw, ptrs, 0⟩
      some (st.numSplitStrings, some st.rawString, some st.splitStringsPtr)
  | _, _ => some (-1, rawString, splitStringsPtr)

/-- A pointer denotes a piece: the piece and its terminator stand there, within the first `length`
characters and the one behind them. -/
def Denotes (length : Nat) (buf : CString) (p : Nat) (piece : CString) : Prop :=
  cString (buf.drop p) = piece ∧ p + piece.length ≤ length ∧
    buf[p + piece.length]? = some '\x00'

/-- The number of pieces is returned, up to the limit, and the pointers denote the first pieces. The
pieces are those between the delimiters of the string, the empty ones included, each with a
terminator behind it in the memory. -/
def Splits (s : CString) (delimiter : Char) (maxNumSubstrings : Int)
    (result : Int × Option CString × Option (List Nat)) : Prop :=
  ∃ buf ptrs, result = (min (s.count delimiter + 1 : Int) maxNumSubstrings, some buf, some ptrs) ∧
    ∀ j : Nat, j < min (s.count delimiter + 1 : Int) maxNumSubstrings →
      ∃ p piece, ptrs[j]? = some p ∧ (s.splitOn delimiter)[j]? = some piece ∧
        Denotes s.length buf p piece

/-- The length with the terminator is an `int`, or as many delimiters as there are strings asked for
are in the part that is counted. The loop stops at the end of that part, so a piece that begins
behind it is not found. A length that is negative as an `int` counts no part at all. -/
def CountsEnough (s : CString) (delimiter : Char) (maxNumSubstrings : Int) : Prop :=
  s.length + 1 < 0x80000000 ∨
    maxNumSubstrings ≤ (s.take (toInt (s.length + 1)).toNat).count delimiter

instance (s : CString) (delimiter : Char) (maxNumSubstrings : Int) :
    Decidable (CountsEnough s delimiter maxNumSubstrings) :=
  inferInstanceAs (Decidable (_ ∨ _))

example : splitString (some ['a', ' ', ' ', 'b', '\x00', 'x']) (some [9, 9, 9]) 3 ' '
    = some (3, some ['a', '\x00', '\x00', 'b', '\x00', 'x'], some [0, 2, 3]) := by decide

/-! ### One pass -/

variable {length max : Int} {delimiter : Char} {fuel n p : Nat} {front t rest cur : CString}
  {ptrs : List Nat} {c : Char}

/-- No character of the counted part is left. -/
theorem splitLoop_end (st : SplitState) {i : Nat} (hi : length ≤ i) :
    splitLoop length max delimiter (fuel + 1) i st = some st := by
  rw [splitLoop, if_neg (by omega)]

/-- A character of a piece is passed over. -/
theorem splitLoop_skip (hlt : front.length < length) (hc : c ≠ delimiter) (hzero : c ≠ '\x00') :
    splitLoop length max delimiter (fuel + 1) front.length ⟨front ++ c :: t, ptrs, n⟩
      = splitLoop length max delimiter fuel (front ++ [c]).length
          ⟨(front ++ [c]) ++ t, ptrs, n⟩ := by
  rw [splitLoop, if_pos hlt, read_append_cons]
  simp only [Option.bind_eq_bind, Option.bind_some]
  rw [if_neg (not_or.mpr ⟨hc, hzero⟩), List.length_append, List.length_singleton,
    List.append_assoc, List.singleton_append]

/-- A piece ends, and there is no other one. -/
theorem splitLoop_last (hlt : front.length < length) (hc : c = delimiter ∨ c = '\x00')
    (hlast : ¬ (front.length + 1 < length ∧ (n + 1 : Nat) < max)) :
    splitLoop length max delimiter (fuel + 1) front.length ⟨front ++ c :: t, ptrs, n⟩
      = some ⟨front ++ '\x00' :: t, ptrs, n + 1⟩ := by
  rw [splitLoop, if_pos hlt, read_append_cons]
  simp only [Option.bind_eq_bind, Option.bind_some]
  rw [if_pos hc, write_append_cons, Option.bind_some, if_neg hlast]

/-- A piece ends at a delimiter, and the next one begins behind it. -/
theorem splitLoop_next (hlt : front.length + 1 < length) (hzero : delimiter ≠ '\x00')
    (hn : (n : Int) + 1 < max) (hptrs : max ≤ ptrs.length) :
    splitLoop length max delimiter (fuel + 1) front.length ⟨front ++ delimiter :: t, ptrs, n⟩
      = splitLoop length max delimiter fuel (front ++ ['\x00']).length
          ⟨(front ++ ['\x00']) ++ t, ptrs.set (n + 1) (front ++ ['\x00']).length, n + 1⟩ := by
  have hwrite := write_natCast (front.length + 1) (show n + 1 < ptrs.length by omega)
  have hmore : (front.length : Int) + 1 < length ∧ ((n + 1 : Nat) : Int) < max :=
    ⟨hlt, by omega⟩
  rw [splitLoop, if_pos (by omega), read_append_cons]
  simp only [Option.bind_eq_bind, Option.bind_some]
  rw [if_pos (Or.inl trivial), write_append_cons, Option.bind_some,
    if_pos hmore, hwrite, Option.bind_some, if_neg hzero,
    List.length_append, List.length_singleton, List.append_assoc, List.singleton_append]

/-! ### The whole string -/

/-- A piece in front of a terminator. -/
theorem denotes_of_prefix {len : Nat} {buf piece : CString} (hpiece : '\x00' ∉ piece)
    (h : piece ++ ['\x00'] <+: buf.drop p) (hlen : p + piece.length ≤ len) :
    Denotes len buf p piece := by
  obtain ⟨tail, htail⟩ := h
  rw [List.append_assoc, List.singleton_append] at htail
  refine ⟨?_, hlen, ?_⟩
  · rw [← htail]
    exact cString_append hpiece tail
  · rw [← List.getElem?_drop, ← htail, List.getElem?_append_right (Nat.le_refl _), Nat.sub_self]
    rfl

/-- The piece that has been passed over, when its terminator is written. -/
theorem denotes_front {len : Nat} {buf : CString} (hcur0 : '\x00' ∉ cur)
    (hfront : front.drop p = cur) (hplen : p + cur.length = front.length)
    (hstart : front ++ ['\x00'] <+: buf) (hlen : front.length ≤ len) :
    Denotes len buf p cur := by
  obtain ⟨tail, rfl⟩ := hstart
  refine denotes_of_prefix hcur0 ⟨tail, ?_⟩ (by omega)
  rw [List.drop_append_of_le_length (by rw [List.length_append]; omega),
    List.drop_append_of_le_length (by omega), hfront]

/-- What the loop makes of the rest `t` of the string, when the counted part is the whole string:
`cur` is the part of the piece that has been passed over, which begins at `p`. The induction is on
`t`. -/
theorem splitLoop_spec (hzero : delimiter ≠ '\x00') (ht : '\x00' ∉ t) (hcur : delimiter ∉ cur)
    (hcur0 : '\x00' ∉ cur) (hp : ptrs[n]? = some p) (hfront : front.drop p = cur)
    (hplen : p + cur.length = front.length) (hn : n < max) (hptrs : max ≤ ptrs.length)
    (hfuel : t.length < fuel) :
    ∃ st, splitLoop (front.length + t.length + 1 : Nat) max delimiter fuel front.length
        ⟨front ++ (t ++ '\x00' :: rest), ptrs, n⟩ = some st ∧
      (st.numSplitStrings : Int) = min (n + t.count delimiter + 1 : Int) max ∧
      front <+: st.rawString ∧ (∀ j ≤ n, st.splitStringsPtr[j]? = ptrs[j]?) ∧
      ∀ (j : Nat) (piece : CString), (n : Int) + j < max →
        ((cur ++ t).splitOn delimiter)[j]? = some piece →
          ∃ q, st.splitStringsPtr[n + j]? = some q ∧
            Denotes (front.length + t.length) st.rawString q piece := by
  induction t generalizing front cur n p ptrs fuel with
  | nil =>
      obtain ⟨fuel, rfl⟩ := Nat.exists_eq_succ_of_ne_zero (Nat.ne_of_gt hfuel)
      rw [List.nil_append, splitLoop_last (by omega) (Or.inr rfl) (by simp)]
      refine ⟨_, rfl, ?_, List.prefix_append _ _, fun _ _ => rfl, fun j piece hj hpiece => ?_⟩
      · rw [List.count_nil]
        dsimp only
        omega
      · -- the terminator of the string ends the last piece
        rw [List.append_nil, List.splitOn_eq_singleton hcur] at hpiece
        obtain ⟨rfl, rfl⟩ : j = 0 ∧ piece = cur := by
          cases j with
          | zero => exact ⟨rfl, (Option.some.inj hpiece).symm⟩
          | succ j => cases hpiece
        refine ⟨p, hp, denotes_front hcur0 hfront hplen ?_ (Nat.le_add_right _ _)⟩
        exact ⟨rest, by rw [List.append_assoc, List.singleton_append]⟩
  | cons c t ih =>
      obtain ⟨fuel, rfl⟩ := Nat.exists_eq_succ_of_ne_zero (Nat.ne_of_gt (Nat.zero_lt_of_lt hfuel))
      obtain ⟨hc0, ht⟩ := List.ne_and_not_mem_of_not_mem_cons ht
      rw [List.length_cons] at hfuel
      have hlength : ∀ x : Char, (front ++ [x]).length + t.length
          = front.length + (c :: t).length := by
        intro x
        rw [List.length_append, List.length_singleton, List.length_cons]
        omega
      have hpos : front.length + 1 < front.length + (c :: t).length + 1 := by
        rw [List.length_cons]
        omega
      rw [List.cons_append]
      by_cases hc : c = delimiter
      · subst hc
        rw [List.splitOn_append_cons_self_of_not_mem hcur, List.count_cons_self]
        by_cases hmore : (n : Int) + 1 < max
        · -- the piece ends, and the next one begins behind the delimiter
          have hnext : (ptrs.set (n + 1) (front ++ ['\x00']).length)[n + 1]?
              = some (front ++ ['\x00']).length :=
            List.getElem?_set_self (by omega)
          obtain ⟨st, hst, hnum, hstart, hold, hpieces⟩ := ih ht List.not_mem_nil
            List.not_mem_nil hnext List.drop_length (Nat.add_zero _) (by omega)
            (by rw [List.length_set]; exact hptrs) (Nat.lt_of_succ_lt_succ hfuel)
          rw [hlength] at hst
          rw [splitLoop_next (by exact_mod_cast hpos) hzero hmore hptrs, hst]
          have hold' : ∀ j ≤ n, st.splitStringsPtr[j]? = ptrs[j]? := by
            intro j hj
            rw [hold j (by omega), List.getElem?_set_ne (by omega)]
          refine ⟨st, rfl, by omega, (List.prefix_append _ _).trans hstart, hold', ?_⟩
          intro j piece hj hpiece
          cases j with
          | zero =>
              cases hpiece
              exact ⟨p, (hold' n (Nat.le_refl n)).trans hp,
                denotes_front hcur0 hfront hplen hstart (Nat.le_add_right _ _)⟩
          | succ j =>
              rw [List.getElem?_cons_succ] at hpiece
              have hrest := hpieces j piece (by omega) hpiece
              rw [hlength, show n + 1 + j = n + (j + 1) by omega] at hrest
              exact hrest
        · -- the limit is reached
          rw [splitLoop_last (by omega) (Or.inl rfl) (by omega)]
          refine ⟨_, rfl, ?_, List.prefix_append _ _, fun _ _ => rfl, fun j piece hj hpiece => ?_⟩
          · dsimp only
            omega
          · obtain rfl : j = 0 := by omega
            cases hpiece
            refine ⟨p, hp, denotes_front hcur0 hfront hplen ?_ (Nat.le_add_right _ _)⟩
            exact ⟨_, by rw [List.append_assoc, List.singleton_append]⟩
      · -- the character belongs to the piece
        have hcur' : delimiter ∉ cur ++ [c] := by
          rw [List.mem_append, List.mem_singleton]
          exact not_or.mpr ⟨hcur, Ne.symm hc⟩
        have hcur0' : '\x00' ∉ cur ++ [c] := by
          rw [List.mem_append, List.mem_singleton]
          exact not_or.mpr ⟨hcur0, hc0⟩
        have hfront' : (front ++ [c]).drop p = cur ++ [c] := by
          rw [List.drop_append_of_le_length (by omega), hfront]
        have hplen' : p + (cur ++ [c]).length = (front ++ [c]).length := by
          rw [List.length_append, List.length_append, List.length_singleton, ← hplen, Nat.add_assoc]
        obtain ⟨st, hst, hnum, hstart, hold, hpieces⟩ := ih ht hcur' hcur0' hp hfront' hplen' hn
          hptrs (Nat.lt_of_succ_lt_succ hfuel)
        rw [hlength] at hst hpieces
        rw [splitLoop_skip (by omega) hc (Ne.symm hc0), hst, List.count_cons_of_ne hc]
        rw [List.append_assoc, List.singleton_append] at hpieces
        exact ⟨st, rfl, hnum, (List.prefix_append _ _).trans hstart, hold, hpieces⟩

/-! ### A part of the string -/

/-- With enough delimiters in the counted part, it makes no difference that there is more of the
string. -/
theorem splitLoop_congr {length' : Int} {fuel' : Nat} (hzero : delimiter ≠ '\x00')
    (ht : '\x00' ∉ t) (hle : length ≤ length') (hn : n < max) (hptrs : max ≤ ptrs.length)
    (hcount : max ≤ n + (t.take (length - front.length).toNat).count delimiter)
    (hfuel : (length - front.length).toNat < fuel)
    (hfuel' : (length' - front.length).toNat < fuel') :
    splitLoop length max delimiter fuel front.length ⟨front ++ (t ++ rest), ptrs, n⟩
      = splitLoop length' max delimiter fuel' front.length ⟨front ++ (t ++ rest), ptrs, n⟩ := by
  induction t generalizing front n ptrs fuel fuel' with
  | nil =>
      rw [List.take_nil, List.count_nil] at hcount
      omega
  | cons c t ih =>
      -- there is a delimiter in the part, so it is not empty
      obtain ⟨k, hk⟩ : ∃ k, (length - front.length).toNat = k + 1 := by
        refine Nat.exists_eq_succ_of_ne_zero fun h => ?_
        rw [h, List.take_zero, List.count_nil] at hcount
        omega
      obtain ⟨fuel, rfl⟩ := Nat.exists_eq_succ_of_ne_zero (show fuel ≠ 0 by omega)
      obtain ⟨fuel', rfl⟩ := Nat.exists_eq_succ_of_ne_zero (show fuel' ≠ 0 by omega)
      obtain ⟨hc0, ht⟩ := List.ne_and_not_mem_of_not_mem_cons ht
      have hnext : ∀ x : Char, ((front ++ [x]).length : Int) = front.length + 1 := by
        intro x
        rw [List.length_append, List.length_singleton]
        rfl
      have hk' : ∀ x : Char, (length - (front ++ [x]).length).toNat = k := by
        intro x
        rw [hnext]
        omega
      rw [hk, List.take_succ_cons] at hcount
      rw [List.cons_append]
      by_cases hc : c = delimiter
      · subst hc
        rw [List.count_cons_self] at hcount
        by_cases hmore : (n : Int) + 1 < max
        · have hpart : 0 < k := by
            refine Nat.pos_of_ne_zero fun h => ?_
            rw [h, List.take_zero, List.count_nil] at hcount
            omega
          rw [splitLoop_next (by omega) hzero hmore hptrs,
            splitLoop_next (by omega) hzero hmore hptrs]
          exact ih ht (by omega) (by rw [List.length_set]; exact hptrs) (by rw [hk']; omega)
            (by rw [hk']; omega) (by rw [hnext]; omega)
        · rw [splitLoop_last (by omega) (Or.inl rfl) (by omega),
            splitLoop_last (by omega) (Or.inl rfl) (by omega)]
      · rw [List.count_cons_of_ne hc] at hcount
        rw [splitLoop_skip (by omega) hc (Ne.symm hc0), splitLoop_skip (by omega) hc (Ne.symm hc0)]
        exact ih ht hn hptrs (by rw [hk']; omega) (by rw [hk']; omega) (by rw [hnext]; omega)

/-- With too few of them, they are what is returned. -/
theorem splitLoop_short (hzero : delimiter ≠ '\x00') (ht : '\x00' ∉ t)
    (hle : (length - front.length).toNat ≤ t.length) (hptrs : max ≤ ptrs.length)
    (hcount : n + (t.take (length - front.length).toNat).count delimiter < max)
    (hfuel : (length - front.length).toNat < fuel) :
    ∃ st, splitLoop length max delimiter fuel front.length ⟨front ++ (t ++ rest), ptrs, n⟩
        = some st ∧
      st.numSplitStrings = n + (t.take (length - front.length).toNat).count delimiter := by
  induction t generalizing front n ptrs fuel with
  | nil =>
      obtain ⟨fuel, rfl⟩ := Nat.exists_eq_succ_of_ne_zero (show fuel ≠ 0 by omega)
      rw [List.length_nil] at hle
      rw [splitLoop_end _ (by omega), List.take_nil, List.count_nil]
      exact ⟨_, rfl, rfl⟩
  | cons c t ih =>
      obtain ⟨fuel, rfl⟩ := Nat.exists_eq_succ_of_ne_zero (show fuel ≠ 0 by omega)
      obtain ⟨hc0, ht⟩ := List.ne_and_not_mem_of_not_mem_cons ht
      rw [List.length_cons] at hle
      cases hk : (length - front.length).toNat with
      | zero =>
          rw [splitLoop_end _ (by omega), List.take_zero, List.count_nil]
          exact ⟨_, rfl, rfl⟩
      | succ k =>
          have hk' : ∀ x : Char, (length - (front ++ [x]).length).toNat = k := by
            intro x
            rw [List.length_append, List.length_singleton]
            omega
          rw [hk, List.take_succ_cons] at hcount
          rw [List.take_succ_cons, List.cons_append]
          by_cases hc : c = delimiter
          · subst hc
            rw [List.count_cons_self] at hcount ⊢
            by_cases hpart : 0 < k
            · rw [splitLoop_next (by omega) hzero (by omega) hptrs]
              obtain ⟨st, hst, hnum⟩ := @ih fuel (n + 1) (front ++ ['\x00'])
                (ptrs.set (n + 1) (front ++ ['\x00']).length) ht (by rw [hk']; omega)
                (by rw [List.length_set]; exact hptrs) (by rw [hk']; omega) (by rw [hk']; omega)
              rw [hk'] at hnum
              exact ⟨st, hst, by omega⟩
            · -- the delimiter is the last character of the part
              obtain rfl : k = 0 := by omega
              rw [splitLoop_last (by omega) (Or.inl rfl) (by omega), List.take_zero,
                List.count_nil]
              exact ⟨_, rfl, rfl⟩
          · rw [List.count_cons_of_ne hc] at hcount ⊢
            rw [splitLoop_skip (by omega) hc (Ne.symm hc0)]
            obtain ⟨st, hst, hnum⟩ := @ih fuel n (front ++ [c]) ptrs ht
              (by rw [hk']; omega) hptrs (by rw [hk']; omega) (by rw [hk']; omega)
            rw [hk'] at hnum
            exact ⟨st, hst, hnum⟩

/-! ### The length in an `int` -/

theorem toInt_length {n : Nat} (h : n + 1 < 0x80000000) : toInt (n + 1) = (n + 1 : Nat) := by
  unfold toInt Int.bmod
  dsimp only
  split <;> omega

/-- What is lost is a multiple of 2^32. -/
theorem toInt_length_le {n : Nat} (h : 0x80000000 ≤ n + 1) : toInt (n + 1) ≤ n := by
  unfold toInt Int.bmod
  dsimp only
  split <;> omega

theorem strlen_append (hs : '\x00' ∉ t) (rest : CString) :
    strlen (t ++ '\x00' :: rest) = some t.length := by
  unfold strlen
  rw [if_pos (List.mem_append_right t List.mem_cons_self), cString_append hs]

/-- The call is the loop from the start of the string. -/
theorem splitString_append (ht : '\x00' ∉ t) (hptrs : 0 < ptrs.length) (rest : CString) :
    splitString (some (t ++ '\x00' :: rest)) (some ptrs) max delimiter
      = (splitLoop (toInt (t.length + 1)) max delimiter ((toInt (t.length + 1)).toNat + 1) 0
          ⟨t ++ '\x00' :: rest, ptrs.set 0 0, 0⟩).map
        fun st => ((st.numSplitStrings : Int), some st.rawString, some st.splitStringsPtr) := by
  simp only [splitString, strlen_append ht, Option.bind_eq_bind, Option.bind_some]
  rw [show write ptrs 0 0 = some (ptrs.set 0 0) from write_natCast 0 hptrs, Option.bind_some]
  cases splitLoop _ _ _ _ _ _ <;> rfl

/-- There is one piece more than there are delimiters. -/
theorem length_splitOn (s : CString) (delimiter : Char) :
    (s.splitOn delimiter).length = s.count delimiter + 1 := by
  induction s with
  | nil => rfl
  | cons c s ih =>
      rw [List.splitOn_cons_eq_if_modifyHead]
      by_cases hc : c = delimiter
      · rw [if_pos (beq_iff_eq.mpr hc), hc, List.length_cons, ih, List.count_cons_self]
      · rw [if_neg (fun h => hc (beq_iff_eq.mp h)), List.length_modifyHead, ih,
          List.count_cons_of_ne hc]

/-- When enough is counted, the loop does what it does with the length as it is. -/
theorem splitLoop_of_countsEnough (hzero : delimiter ≠ '\x00') (ht : '\x00' ∉ t) (hmax : 1 ≤ max)
    (hptrs : max ≤ ptrs.length) (hcounts : CountsEnough t delimiter max) (rest : CString) :
    splitLoop (toInt (t.length + 1)) max delimiter ((toInt (t.length + 1)).toNat + 1) 0
        ⟨t ++ '\x00' :: rest, ptrs, 0⟩
      = splitLoop (t.length + 1 : Nat) max delimiter (t.length + 2) 0
        ⟨t ++ '\x00' :: rest, ptrs, 0⟩ := by
  by_cases hlength : t.length + 1 < 0x80000000
  · rw [toInt_length hlength]
    rfl
  · have hle := toInt_length_le (Nat.le_of_not_lt hlength)
    have hcount := hcounts.resolve_left hlength
    have hcongr := @splitLoop_congr (toInt (t.length + 1)) max delimiter
      ((toInt (t.length + 1)).toNat + 1) 0 [] t ('\x00' :: rest) ptrs (t.length + 1 : Nat)
      (t.length + 2) hzero ht (by omega) (by omega) hptrs
    simp only [List.length_nil, Int.natCast_zero, Int.sub_zero, List.nil_append] at hcongr
    exact hcongr (by omega) (by omega) (by omega)

/-- When enough is counted, the number of pieces is returned and the pointers denote them. The first
one is the string itself. -/
theorem splitString_of_countsEnough (hzero : delimiter ≠ '\x00') (ht : '\x00' ∉ t) (hmax : 1 ≤ max)
    (hptrs : max ≤ ptrs.length) (hcounts : CountsEnough t delimiter max) (rest : CString) :
    ∃ buf ptrs', splitString (some (t ++ '\x00' :: rest)) (some ptrs) max delimiter
        = some (min (t.count delimiter + 1 : Int) max, some buf, some ptrs') ∧
      ptrs'[0]? = some 0 ∧
      ∀ (j : Nat) (piece : CString), (j : Int) < max → (t.splitOn delimiter)[j]? = some piece →
        ∃ p, ptrs'[j]? = some p ∧ Denotes t.length buf p piece := by
  have hptrs' : max ≤ (ptrs.set 0 0).length := by
    rw [List.length_set]
    exact hptrs
  have hfirst : (ptrs.set 0 0)[0]? = some 0 := List.getElem?_set_self (by omega)
  obtain ⟨st, hst, hnum, -, hold, hpieces⟩ := @splitLoop_spec max delimiter (t.length + 2) 0 0 [] t
    rest [] (ptrs.set 0 0) hzero ht List.not_mem_nil List.not_mem_nil hfirst rfl rfl (by omega)
    hptrs' (by omega)
  simp only [List.length_nil, Nat.zero_add, List.nil_append, Int.natCast_zero, Int.zero_add]
    at hst hnum hpieces
  refine ⟨st.rawString, st.splitStringsPtr, ?_, (hold 0 (Nat.le_refl 0)).trans hfirst, hpieces⟩
  rw [splitString_append ht (by omega), splitLoop_of_countsEnough hzero ht hmax hptrs' hcounts, hst,
    ← hnum]
  rfl

theorem splits_of_countsEnough (hzero : delimiter ≠ '\x00') (ht : '\x00' ∉ t) (hmax : 1 ≤ max)
    (hptrs : max ≤ ptrs.length) (hcounts : CountsEnough t delimiter max) (rest : CString) :
    ∃ result, splitString (some (t ++ '\x00' :: rest)) (some ptrs) max delimiter = some result ∧
      Splits t delimiter max result := by
  obtain ⟨buf, ptrs', hsplit, -, hpieces⟩ :=
    splitString_of_countsEnough hzero ht hmax hptrs hcounts rest
  refine ⟨_, hsplit, buf, ptrs', rfl, fun j hj => ?_⟩
  have hj' : j < (t.splitOn delimiter).length := by
    rw [length_splitOn]
    omega
  obtain ⟨p, hp, hdenotes⟩ := hpieces j _ (by omega) (List.getElem?_eq_getElem hj')
  exact ⟨p, _, hp, List.getElem?_eq_getElem hj', hdenotes⟩

/-- When too little is counted, so are the strings. -/
theorem not_splits_of_not_countsEnough (hzero : delimiter ≠ '\x00') (ht : '\x00' ∉ t)
    (hptrs : max ≤ ptrs.length) (hcounts : ¬ CountsEnough t delimiter max) (rest : CString) :
    ¬ ∃ result, splitString (some (t ++ '\x00' :: rest)) (some ptrs) max delimiter = some result ∧
      Splits t delimiter max result := by
  obtain ⟨hlength, hcount⟩ := not_or.mp hcounts
  have hle := toInt_length_le (Nat.le_of_not_lt hlength)
  have hptrs' : max ≤ (ptrs.set 0 0).length := by
    rw [List.length_set]
    exact hptrs
  have hshort := @splitLoop_short (toInt (t.length + 1)) max delimiter
    ((toInt (t.length + 1)).toNat + 1) 0 [] t ('\x00' :: rest) (ptrs.set 0 0) hzero ht
  simp only [List.length_nil, Int.natCast_zero, Int.sub_zero, List.nil_append, Nat.zero_add,
    Int.zero_add] at hshort
  obtain ⟨st, hst, hnum⟩ := hshort (by omega) hptrs' (by omega) (by omega)
  rintro ⟨result, hresult, buf, ptrs', rfl, -⟩
  rw [splitString_append ht (by omega), hst, Option.map_some, Option.some.injEq,
    Prod.mk.injEq] at hresult
  -- not all delimiters are counted, and there are fewer than asked for
  have htake := (List.take_sublist (toInt (t.length + 1)).toNat t).count_le delimiter
  omega

/-! ### Exactness -/

/-- A string is split exactly if and only if enough of it is counted.

The length is an `int`. It is right up to `INT_MAX`. Beyond that the loop sees fewer characters or
none, which does not show if the pieces that the caller has room for end before. -/
theorem splits_iff {s : CString} (hs : '\x00' ∉ s) (hzero : delimiter ≠ '\x00') (hmax : 1 ≤ max)
    (hptrs : max ≤ ptrs.length) :
    (∃ result, splitString (some (s ++ '\x00' :: rest)) (some ptrs) max delimiter = some result ∧
        Splits s delimiter max result) ↔
      CountsEnough s delimiter max := by
  refine ⟨fun hsplits => ?_, fun hcounts =>
    splits_of_countsEnough hzero hs hmax hptrs hcounts rest⟩
  by_contra hcounts
  exact not_splits_of_not_countsEnough hzero hs hptrs hcounts rest hsplits

/-- Two of the three words of a platform list. -/
theorem splits_threeWords :
    ∃ result,
      splitString (some ("msm apq all".toList ++ ['\x00'])) (some [0, 0]) 2 ' ' = some result ∧
        Splits "msm apq all".toList ' ' 2 result :=
  (splits_iff (by decide) (by decide) (by decide) (by decide)).mpr (Or.inl (by decide))

/-- Of a string of 2^31 - 1 characters nothing is counted: it is one piece, and none is returned. -/
theorem not_splits_longString :
    ¬ ∃ result,
      splitString (some (List.replicate 0x7fffffff 'a' ++ ['\x00'])) (some [0]) 1 ' '
          = some result ∧
        Splits (List.replicate 0x7fffffff 'a') ' ' 1 result := by
  refine not_splits_of_not_countsEnough (by decide) ?_ (by decide) ?_ []
  · exact fun h => absurd (List.eq_of_mem_replicate h) (by decide)
  · unfold CountsEnough
    rw [List.length_replicate, List.take_replicate, List.count_replicate, if_neg (by decide)]
    decide

/-! ### The strings of `loc_read_process_conf` -/

theorem head?_splitOn (s : CString) : (s.splitOn ' ').head? = some (firstWord s) := by
  unfold firstWord
  induction s with
  | nil => rfl
  | cons c s ih =>
      rw [List.splitOn_cons_eq_if_modifyHead]
      by_cases hc : c = ' '
      · rw [if_pos (beq_iff_eq.mpr hc), List.takeWhile_cons_of_neg (by simp [hc]), List.head?_cons]
      · rw [if_neg (fun h => hc (beq_iff_eq.mp h)), List.takeWhile_cons_of_pos (by simp [hc]),
          List.head?_modifyHead, ih, Option.map_some]

/-- The pieces that the pointers denote are those of `locUtilSplitString`, and `firstWord` is what
is left of the string. -/
theorem pieces_splitString {s : CString} {num : Nat} (hs : '\x00' ∉ s)
    (hlength : s.length + 1 < 0x80000000) (hnum : 1 ≤ num) (hptrs : num ≤ ptrs.length)
    (rest : CString) :
    ∃ buf ptrs', splitString (some (s ++ '\x00' :: rest)) (some ptrs) num ' '
        = some (((locUtilSplitString s num).length : Int), some buf, some ptrs') ∧
      (∀ (j : Nat) (piece : CString), (locUtilSplitString s num)[j]? = some piece →
        ∃ p, ptrs'[j]? = some p ∧ cString (buf.drop p) = piece) ∧
      cString buf = firstWord s := by
  obtain ⟨buf, ptrs', hsplit, hfirst, hpieces⟩ := @splitString_of_countsEnough num ' ' s ptrs
    (by decide) hs (by omega) (by omega) (Or.inl hlength) rest
  unfold locUtilSplitString
  refine ⟨buf, ptrs', ?_, fun j piece hpiece => ?_, ?_⟩
  · have hcount : min (s.count ' ' + 1 : Int) num = (min num (s.count ' ' + 1) : Nat) := by
      omega
    rw [hsplit, List.length_take, length_splitOn, hcount]
  · rw [List.getElem?_take, Option.ite_none_right_eq_some] at hpiece
    obtain ⟨hj, hpiece⟩ := hpiece
    obtain ⟨p, hp, hdenotes⟩ := hpieces j piece (by omega) hpiece
    exact ⟨p, hp, hdenotes.1⟩
  · have hhead : (s.splitOn ' ')[0]? = some (firstWord s) :=
      List.head?_eq_getElem?.symm.trans (head?_splitOn s)
    obtain ⟨p, hp, hdenotes⟩ := hpieces 0 _ (by omega) hhead
    rw [hfirst] at hp
    cases hp
    exact hdenotes.1

end LocCfg

end LocHal.Util
