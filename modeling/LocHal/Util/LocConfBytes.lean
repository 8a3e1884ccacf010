import LocHal.Util.LocCfgTrim
import LocHal.Util.LocProcessConf
import Mathlib.Algebra.Group.Nat.Defs

/-!
# `LocHal.Util.LocConfBytes`: the bytes of `conf`

The members of the global `loc_launcher_conf` lie one behind the other in memory. Here a record of a
table stores bytes: a string with its terminator, or the bytes of a number. `memberOffset` and
`memberSize` are the place of a member, for the members in the order of their declaration; no member
needs padding. `fillConfItemBytes_spec` connects the bytes with the values of the tables.

A string member has room for `LOC_MAX_PARAM_STRING` bytes, and `strlcpy` is told that it has one
more. `changesOnlyNamed_iff` says when a line changes only the member that it names.

The values of `LocHal.Util.LocCfg` are one for each target, and here the members are bytes with
addresses. A string is stored with its terminator, cut at the size that `strlcpy` is told, and a
number as its bytes. `InMember` says that an address belongs to a member, and the members are
disjoint.

A string of 80 characters or more is stored with 80 of them, and the terminator is written to the
byte behind the member. So the line changes another member unless that byte is zero already, which
is the second case of the condition.
-/

set_option autoImplicit false

namespace LocHal.Util

namespace LocCfg

variable {δ : Type}

/-! ### The layout -/

/-- The members of `loc_launcher_conf` with their sizes, in the order of the declaration. -/
def launcherConfMembers : List (Nat × Nat) :=
  [(Conf.procName, 80), (Conf.procArgument, 80), (Conf.procStatus, 80), (Conf.groupList, 80),
    (Conf.premiumFeature, 4), (Conf.locFeatureMask, 4), (Conf.platformList, 80),
    (Conf.baseband, 80), (Conf.sglteTarget, 4), (Conf.featureGtpCellProc, 80),
    (Conf.featureGtpWaa, 80), (Conf.featureGtpCell, 80), (Conf.featureGtpWifi, 80),
    (Conf.featureSap, 80), (Conf.featureOdcpi, 80), (Conf.featureFreeWifiScanInject, 80),
    (Conf.featureSuplWifi, 80), (Conf.featureWifiSupplicantInfo, 80), (Conf.autoPlatform, 80)]

/-- The place and the size of a member in the list, if the list begins at the offset. -/
def findMember (target : Nat) : List (Nat × Nat) → Nat → Option (Nat × Nat)
  | [], _ => none
  | (member, size) :: members, offset =>
      if member = target then some (offset, size) else findMember target members (offset + size)

/-- Where the member begins, from `&conf` on. -/
def memberOffset (target : Nat) : Nat := ((findMember target launcherConfMembers 0).getD (0, 0)).1

/-- The bytes of the member. -/
def memberSize (target : Nat) : Nat := ((findMember target launcherConfMembers 0).getD (0, 0)).2

/-- The address lies in the member. -/
def InMember (target addr : Nat) : Prop :=
  memberOffset target ≤ addr ∧ addr < memberOffset target + memberSize target

/-! ### Stores -/

/-- The memory from `&conf` on, also behind the structure, and the validity flags. -/
structure ConfBytes where
  bytes : Nat → UInt8
  flag : Nat → Nat

/-- The bytes are written one after the other. -/
def writeBytes (bytes : Nat → UInt8) (addr : Nat) : List UInt8 → Nat → UInt8
  | [] => bytes
  | b :: bs => Function.update (writeBytes bytes (addr + 1) bs) addr b

/-- The byte of a character. -/
def byteOf (c : Char) : UInt8 := UInt8.ofNat c.toNat

/-- What is written for a value: a string with its terminator, an `int` of four bytes with the
lowest one first, or the representation of a `double`. -/
def encode (dblBytes : δ → List UInt8) : ParamValue δ → List UInt8
  | .str s => s.map byteOf ++ [0]
  | .num n => (List.range 4).map fun i => UInt8.ofNat ((n % 0x100000000).toNat / 256 ^ i)
  | .dbl x => dblBytes x

/-- `*param_ptr = x`, and the validity flag. -/
def ConfBytes.store (dblBytes : δ → List UInt8) (m : ConfBytes) (entry : LocParamS) (target : Nat)
    (x : ParamValue δ) : ConfBytes where
  bytes := writeBytes m.bytes (memberOffset target) (encode dblBytes x)
  flag := entry.paramSet.elim m.flag fun p => Function.update m.flag p 1

/-- `loc_set_config_entry`. -/
def setConfigEntryBytes (dblBytes : δ → List UInt8) (entry : LocParamS) (v : LocParamV δ)
    (m : ConfBytes) : Int × ConfBytes :=
  match entry.paramPtr with
  | none => (-1, m)
  | some target =>
      if entry.paramName = v.paramName then
        match stored entry.paramType v with
        | some x => (0, m.store dblBytes entry target x)
        | none => (-1, m)
      else (-1, m)

/-- The loop over the table in `loc_fill_conf_item`. -/
def fillTableBytes (dblBytes : δ → List UInt8) (v : LocParamV δ) :
    List LocParamS → Nat → ConfBytes → Nat × ConfBytes
  | [], ret, m => (ret, m)
  | entry :: table, ret, m =>
      let (err, m₁) := setConfigEntryBytes dblBytes entry v m
      fillTableBytes dblBytes v table (if err = 0 then ret + 1 else ret) m₁

/-- `loc_fill_conf_item`. -/
def fillConfItemBytes (d : Doubles δ) (dblBytes : δ → List UInt8) (inputBuf : CString)
    (table : List LocParamS) (m : ConfBytes) : Nat × ConfBytes :=
  match strtok '=' inputBuf with
  | name :: value :: _ =>
      fillTableBytes dblBytes (parseValue d (locUtilTrimSpace name) (locUtilTrimSpace value)) table
        0 m
  | _ => (0, m)

/-! ### What a line writes -/

theorem setConfigEntryBytes_eq (dblBytes : δ → List UInt8) (entry : LocParamS) (v : LocParamV δ)
    (m : ConfBytes) :
    setConfigEntryBytes dblBytes entry v m
      = (entryWrite v entry).elim (-1, m)
          fun w => (0, m.store dblBytes w.entry w.target w.value) := by
  rw [elim_entryWrite]
  rfl

/-- A value that names no record sets none. -/
theorem fillTableBytes_of_not_mem (dblBytes : δ → List UInt8) {v : LocParamV δ}
    {table : List LocParamS} (h : v.paramName ∉ table.map LocParamS.paramName) (ret : Nat)
    (m : ConfBytes) : fillTableBytes dblBytes v table ret m = (ret, m) := by
  induction table with
  | nil => rfl
  | cons entry table ih =>
      rw [List.map_cons, List.mem_cons, not_or] at h
      have hnone : entryWrite v entry = none := if_neg (Ne.symm h.1)
      unfold fillTableBytes
      rw [setConfigEntryBytes_eq, hnone]
      exact ih h.2

/-- Different names: a value sets one record at most. -/
theorem fillTableBytes_eq (dblBytes : δ → List UInt8) {v : LocParamV δ} {table : List LocParamS}
    (hnames : (table.map LocParamS.paramName).Nodup) (ret : Nat) (m : ConfBytes) :
    fillTableBytes dblBytes v table ret m
      = (table.findSome? (entryWrite v)).elim (ret, m)
          fun w => (ret + 1, m.store dblBytes w.entry w.target w.value) := by
  induction table with
  | nil => rfl
  | cons entry table ih =>
      obtain ⟨hnot, hnames⟩ := List.nodup_cons.mp hnames
      unfold fillTableBytes
      rw [setConfigEntryBytes_eq, List.findSome?_cons]
      cases hw : entryWrite v entry with
      | none => exact ih hnames
      | some w =>
          have hname := (paramName_of_entryWrite hw).1
          exact fillTableBytes_of_not_mem dblBytes (hname ▸ hnot) _ _

/-- A line writes the bytes of what `lineWrite` says. -/
theorem fillConfItemBytes_eq (d : Doubles δ) (dblBytes : δ → List UInt8) {table : List LocParamS}
    (hnames : (table.map LocParamS.paramName).Nodup) (line : CString) (m : ConfBytes) :
    fillConfItemBytes d dblBytes line table m
      = (lineWrite d table line).elim (0, m)
          fun w => (1, m.store dblBytes w.entry w.target w.value) := by
  unfold fillConfItemBytes lineWrite
  match strtok '=' line with
  | [] => rfl
  | [_] => rfl
  | name :: value :: _ => exact fillTableBytes_eq dblBytes hnames 0 m

/-- Nothing outside the written bytes changes. -/
theorem writeBytes_of_not_mem (bytes : Nat → UInt8) {addr a : Nat} {bs : List UInt8}
    (h : a < addr ∨ addr + bs.length ≤ a) : writeBytes bytes addr bs a = bytes a := by
  induction bs generalizing addr with
  | nil => rfl
  | cons b bs ih =>
      rw [List.length_cons] at h
      have hne : a ≠ addr := by omega
      show Function.update (writeBytes bytes (addr + 1) bs) addr b a = bytes a
      rw [Function.update_of_ne hne]
      exact ih (by omega)

/-- The bytes that were written. -/
theorem writeBytes_getElem (bytes : Nat → UInt8) (addr : Nat) {bs : List UInt8} {i : Nat}
    (hi : i < bs.length) : writeBytes bytes addr bs (addr + i) = bs[i] := by
  induction bs generalizing addr i with
  | nil => exact absurd hi (Nat.not_lt_zero i)
  | cons b bs ih =>
      show Function.update (writeBytes bytes (addr + 1) bs) addr b (addr + i) = _
      cases i with
      | zero => exact Function.update_self ..
      | succ i =>
          have hne : addr + (i + 1) ≠ addr := by omega
          rw [Function.update_of_ne hne, List.getElem_cons_succ,
            show addr + (i + 1) = addr + 1 + i by omega]
          exact ih (addr + 1) (Nat.lt_of_succ_lt_succ hi)

theorem length_encode_str (dblBytes : δ → List UInt8) (s : CString) :
    (encode dblBytes (.str s)).length = s.length + 1 := by
  show (s.map byteOf ++ [0]).length = _
  rw [List.length_append, List.length_map]
  rfl

theorem length_encode_num (dblBytes : δ → List UInt8) (n : Int) :
    (encode dblBytes (.num n)).length = 4 := rfl

/-- The line sets as many records as in the model with values, and the bytes from the member on are
those of the value that it holds there. -/
theorem fillConfItemBytes_spec (d : Doubles δ) (dblBytes : δ → List UInt8)
    {table : List LocParamS} (hnames : (table.map LocParamS.paramName).Nodup) (line : CString)
    (m : ConfBytes) (mem : ConfMem δ) :
    (fillConfItemBytes d dblBytes line table m).1 = (locFillConfItem d line table mem).1 ∧
      ∀ w, lineWrite d table line = some w →
        (locFillConfItem d line table mem).2.value w.target = w.value ∧
        ∀ i (hi : i < (encode dblBytes w.value).length),
          (fillConfItemBytes d dblBytes line table m).2.bytes (memberOffset w.target + i)
            = (encode dblBytes w.value)[i] := by
  rw [fillConfItemBytes_eq d dblBytes hnames, locFillConfItem_eq d hnames]
  constructor
  · cases lineWrite d table line <;> rfl
  · intro w hw
    rw [hw]
    exact ⟨Function.update_self .., fun i hi => writeBytes_getElem m.bytes _ hi⟩

/-! ### The frame of a line -/

/-- The line has two operands and names the record. -/
def Names (line : CString) (entry : LocParamS) : Prop :=
  ∃ name value rest, strtok '=' line = name :: value :: rest ∧
    locUtilTrimSpace name = entry.paramName

/-- Reading the line changes no byte outside the member of the record that it names. A line that
names no record may change nothing at all. -/
def ChangesOnlyNamed (d : Doubles δ) (dblBytes : δ → List UInt8) (table : List LocParamS)
    (line : CString) (m : ConfBytes) : Prop :=
  ∀ addr, (∀ entry ∈ table, Names line entry → ∀ target, entry.paramPtr = some target →
      ¬InMember target addr) →
    (fillConfItemBytes d dblBytes line table m).2.bytes addr = m.bytes addr

/-- The value fits the member: it is not a string, or it is `NULL`, or it leaves room for the
terminator, or the byte behind the member is zero. -/
def Fits (m : ConfBytes) (entry : LocParamS) (target : Nat) (value : CString) : Prop :=
  entry.paramType ≠ 's' ∨ value = ['N', 'U', 'L', 'L'] ∨ value.length < 80 ∨
    m.bytes (memberOffset target + 80) = 0

/-- The value of the line fits the member that it names. For a number this is always so. For a
string it says that there is room for the terminator, or that the byte behind the member, which is
where `strlcpy` puts it, is zero anyway. -/
def ValueFits (table : List LocParamS) (line : CString) (m : ConfBytes) : Prop :=
  ∀ entry ∈ table, ∀ target, entry.paramPtr = some target →
    ∀ name value rest, strtok '=' line = name :: value :: rest →
      locUtilTrimSpace name = entry.paramName → Fits m entry target (locUtilTrimSpace value)

/-- A record of a member: a string of 80 bytes, or a number of 4. -/
structure ForMember (entry : LocParamS) (target : Nat) : Prop where
  ptr : entry.paramPtr = some target
  type : entry.paramType = 's' ∧ memberSize target = 80 ∨
    entry.paramType = 'n' ∧ memberSize target = 4

/-- A store that ends inside the member changes only the member. -/
theorem store_bytes_of_le (dblBytes : δ → List UInt8) (m : ConfBytes) (entry : LocParamS)
    {target : Nat} {x : ParamValue δ} (h : (encode dblBytes x).length ≤ memberSize target)
    {addr : Nat} (haddr : ¬InMember target addr) :
    (m.store dblBytes entry target x).bytes addr = m.bytes addr := by
  refine writeBytes_of_not_mem m.bytes ?_
  unfold InMember at haddr
  omega

/-- A string of 80 characters has its terminator behind the member. -/
theorem store_bytes_long (dblBytes : δ → List UInt8) (m : ConfBytes) (entry : LocParamS)
    {target : Nat} (hsize : memberSize target = 80) {s : CString} (hs : s.length = 80) :
    (∀ addr, ¬InMember target addr →
      (m.store dblBytes entry target (.str s)).bytes addr = m.bytes addr) ↔
    m.bytes (memberOffset target + 80) = 0 := by
  have hlast : (m.store dblBytes entry target (.str s)).bytes (memberOffset target + 80) = 0 := by
    have hlt : 80 < (s.map byteOf ++ [0]).length := by
      rw [List.length_append, List.length_map, hs]
      decide
    have hget : (s.map byteOf ++ [0])[80] = 0 :=
      List.getElem_concat_length (by rw [List.length_map, hs]) _
    exact (writeBytes_getElem m.bytes (memberOffset target) hlt).trans hget
  constructor
  · intro h
    rw [← hlast]
    refine (h _ ?_).symm
    unfold InMember
    omega
  · intro hzero addr haddr
    by_cases hbehind : addr = memberOffset target + 80
    · rw [hbehind, hlast, hzero]
    · -- any other address outside the member is not written
      refine writeBytes_of_not_mem m.bytes ?_
      rw [length_encode_str, hs]
      unfold InMember at haddr
      omega

/-- When setting a record changes only its member. -/
theorem store_frame_iff (dblBytes : δ → List UInt8) {entry : LocParamS} {target : Nat}
    (hentry : ForMember entry target) {v : LocParamV δ} {x : ParamValue δ}
    (hx : stored entry.paramType v = some x) (m : ConfBytes) :
    (∀ addr, ¬InMember target addr →
      (m.store dblBytes entry target x).bytes addr = m.bytes addr) ↔
    Fits m entry target v.paramStrValue := by
  obtain ⟨htype, hsize⟩ | ⟨htype, hsize⟩ := hentry.type
  · rw [htype] at hx
    obtain rfl : ParamValue.str (storedString v.paramStrValue) = x := Option.some.inj hx
    by_cases hlong : v.paramStrValue = ['N', 'U', 'L', 'L'] ∨ v.paramStrValue.length < 80
    · have hlength : (encode dblBytes (.str (storedString v.paramStrValue))).length
          ≤ memberSize target := by
        rw [length_encode_str, hsize, storedString]
        split
        · decide
        · rename_i hnull
          rw [List.length_take]
          have := hlong.resolve_left hnull
          omega
      exact ⟨fun _ => .inr (hlong.imp_right .inl),
        fun _ addr haddr => store_bytes_of_le dblBytes m entry hlength haddr⟩
    · -- the copy ends with the character that fills the member
      obtain ⟨hnull, hlength⟩ := not_or.mp hlong
      have hstored : (storedString v.paramStrValue).length = 80 := by
        rw [storedString, if_neg hnull, List.length_take]
        omega
      rw [store_bytes_long dblBytes m entry hsize hstored]
      constructor
      · exact fun h => .inr (.inr (.inr h))
      · rintro (h | h | h | h)
        · exact absurd htype h
        · exact absurd h hnull
        · exact absurd h hlength
        · exact h
  · rw [htype] at hx
    obtain rfl : ParamValue.num v.paramIntValue = x := Option.some.inj hx
    have hnumber : entry.paramType ≠ 's' := by
      rw [htype]
      decide
    refine ⟨fun _ => .inl hnumber, fun _ addr haddr => ?_⟩
    refine store_bytes_of_le dblBytes m entry ?_ haddr
    rw [length_encode_num, hsize]

/-- A table of records of members, with different names. -/
structure ForMembers (table : List LocParamS) : Prop where
  names : (table.map LocParamS.paramName).Nodup
  member : ∀ entry ∈ table, ∃ target, ForMember entry target

theorem forMembers_locProcessConfParameterTable : ForMembers locProcessConfParameterTable where
  names := by decide
  member := by
    have h : ∀ entry ∈ locProcessConfParameterTable, ∃ target ∈ entry.paramPtr,
        entry.paramType = 's' ∧ memberSize target = 80 ∨
          entry.paramType = 'n' ∧ memberSize target = 4 := by decide
    exact fun entry hmem => (h entry hmem).imp fun target ht => ⟨ht.1, ht.2⟩

theorem forMembers_locFeatureConfTable : ForMembers locFeatureConfTable where
  names := by decide
  member := by
    have h : ∀ entry ∈ locFeatureConfTable, ∃ target ∈ entry.paramPtr,
        entry.paramType = 's' ∧ memberSize target = 80 ∨
          entry.paramType = 'n' ∧ memberSize target = 4 := by decide
    exact fun entry hmem => (h entry hmem).imp fun target ht => ⟨ht.1, ht.2⟩

theorem stored_of_entryWrite {v : LocParamV δ} {entry : LocParamS} {w : ParamWrite δ}
    (h : entryWrite v entry = some w) : stored entry.paramType v = some w.value := by
  unfold entryWrite at h
  split at h
  · obtain ⟨target, -, hw⟩ := Option.bind_eq_some_iff.mp h
    obtain ⟨x, hx, rfl⟩ := Option.map_eq_some_iff.mp hw
    exact hx
  · cases h

/-- A record of the name is set. -/
theorem entryWrite_ne_none {v : LocParamV δ} {entry : LocParamS} {target : Nat}
    (hentry : ForMember entry target) (hname : entry.paramName = v.paramName) :
    entryWrite v entry ≠ none := by
  unfold entryWrite
  rw [if_pos hname, hentry.ptr, Option.bind_some]
  obtain ⟨htype, -⟩ | ⟨htype, -⟩ := hentry.type <;> rw [htype] <;> nofun

/-- A line changes only the member that it names if and only if its value fits the member. -/
theorem changesOnlyNamed_iff_of_forMembers (d : Doubles δ) (dblBytes : δ → List UInt8)
    {table : List LocParamS} (htable : ForMembers table) (line : CString) (m : ConfBytes) :
    ChangesOnlyNamed d dblBytes table line m ↔ ValueFits table line m := by
  unfold ChangesOnlyNamed ValueFits
  rw [fillConfItemBytes_eq d dblBytes htable.names]
  unfold lineWrite Names
  match hline : strtok '=' line with
  | [] => exact ⟨fun _ _ _ _ _ _ _ _ h => absurd h nofun, fun _ _ _ => rfl⟩
  | [_] => exact ⟨fun _ _ _ _ _ _ _ _ h => absurd h nofun, fun _ _ _ => rfl⟩
  | name :: value :: rest =>
      dsimp only
      cases hw : table.findSome?
          (entryWrite (parseValue d (locUtilTrimSpace name) (locUtilTrimSpace value))) with
      | none =>
          -- the line names no record
          refine ⟨fun _ entry hmem target hptr name' value' rest' htokens hname => ?_,
            fun _ _ _ => rfl⟩
          obtain ⟨rfl, rfl, rfl⟩ : name = name' ∧ value = value' ∧ rest = rest' := by
            simpa using htokens
          obtain ⟨target', hentry⟩ := htable.member entry hmem
          have hnone := List.findSome?_eq_none_iff.mp hw entry hmem
          exact absurd hnone
            (entryWrite_ne_none hentry (by rw [paramName_parseValue, hname]))
      | some w =>
          obtain ⟨entry, hmem, hset⟩ := List.exists_of_findSome?_eq_some hw
          have hname := (paramName_of_entryWrite hset).1
          have hptr := paramPtr_of_entryWrite hset
          obtain ⟨target, hentry⟩ := htable.member entry hmem
          obtain rfl : target = w.target := Option.some.inj (hentry.ptr.symm.trans hptr)
          have hframe := store_frame_iff dblBytes hentry (stored_of_entryWrite hset) m
          rw [paramName_parseValue] at hname
          rw [paramStrValue_parseValue] at hframe
          -- no other record has the name
          have honly : ∀ e ∈ table, locUtilTrimSpace name = e.paramName → e = entry :=
            fun e he hename => List.inj_on_of_nodup_map htable.names he hmem
              (hename.symm.trans hname.symm)
          rw [Option.elim_some, (paramName_of_entryWrite hset).2]
          constructor
          · intro h e he target' hptr' name' value' rest' htokens hename
            obtain ⟨rfl, rfl, rfl⟩ : name = name' ∧ value = value' ∧ rest = rest' := by
              simpa using htokens
            obtain rfl := honly e he hename
            obtain rfl : target' = w.target := Option.some.inj (hptr'.symm.trans hptr)
            refine hframe.mp fun addr haddr => h addr fun e' he' hnamed t ht => ?_
            obtain ⟨name', value', rest', htokens', hename'⟩ := hnamed
            obtain ⟨rfl, -⟩ : name = name' ∧ value :: rest = value' :: rest' := by
              simpa using htokens'
            obtain rfl := honly e' he' hename'
            obtain rfl : t = w.target := Option.some.inj (ht.symm.trans hptr)
            exact haddr
          · intro h addr hnot
            refine hframe.mpr (h entry hmem w.target hptr name value rest rfl hname.symm) addr ?_
            exact hnot entry hmem ⟨name, value, rest, rfl, hname.symm⟩ w.target hptr

/-- Reading a parameter changes no byte outside its member if and only if its value is shorter than
the member, or the byte behind the member is zero anyway.

The size that is given to `strlcpy` is one more than that of the member. A value that fills the
member has its final zero behind it, in the first byte of the next one. -/
theorem changesOnlyNamed_iff (d : Doubles δ) (dblBytes : δ → List UInt8) {table : List LocParamS}
    (htable : table = locProcessConfParameterTable ∨ table = locFeatureConfTable)
    (line : CString) (m : ConfBytes) :
    ChangesOnlyNamed d dblBytes table line m ↔ ValueFits table line m := by
  obtain rfl | rfl := htable
  · exact changesOnlyNamed_iff_of_forMembers d dblBytes forMembers_locProcessConfParameterTable
      line m
  · exact changesOnlyNamed_iff_of_forMembers d dblBytes forMembers_locFeatureConfTable line m

/-- A short value for `BASEBAND` fits. -/
theorem changesOnlyNamed_msm :
    ChangesOnlyNamed (⟨fun _ => 0, 0⟩ : Doubles Int) (fun _ => []) locProcessConfParameterTable
      "BASEBAND = msm".toList ⟨fun _ => 1, fun _ => 0⟩ := by
  refine (changesOnlyNamed_iff _ _ (.inl rfl) _ _).mpr ?_
  intro entry hmem target hptr name value rest htokens hname
  have hline : strtok '=' "BASEBAND = msm".toList = ["BASEBAND ".toList, " msm".toList] := by decide
  rw [hline] at htokens
  have hvalue : " msm".toList = value := (List.cons.inj (List.cons.inj htokens).2).1
  rw [← hvalue]
  exact .inr (.inr (.inl (by decide)))

/-- A value of 80 characters for `BASEBAND` clears the lowest byte of `sglte_target`. -/
theorem not_changesOnlyNamed_baseband :
    ¬ChangesOnlyNamed (⟨fun _ => 0, 0⟩ : Doubles Int) (fun _ => []) locProcessConfParameterTable
      ("BASEBAND=".toList ++ List.replicate 80 'x') ⟨fun _ => 1, fun _ => 0⟩ := by
  rw [changesOnlyNamed_iff_of_forMembers _ _ forMembers_locProcessConfParameterTable]
  intro h
  have hfits := h (record "BASEBAND" Conf.baseband 's') (by decide) Conf.baseband rfl
    "BASEBAND".toList (List.replicate 80 'x') [] (by decide) (by decide)
  obtain hfits | hfits | hfits | hfits := hfits
  · exact absurd rfl hfits
  · exact absurd hfits (by decide)
  · exact absurd hfits (by decide)
  · exact absurd hfits (by decide)

end LocCfg

end LocHal.Util
