import Mathlib.Data.List.Count
import Mathlib.Data.List.Perm.Subperm
import Mathlib.Data.List.Range
import LocHal.Util.LocCfgUpdate
import LocHal.Util.LocProcessConf

/-!
# `LocHal.Util.LocProcessBlocks`: the blocks of a process configuration

A process configuration is a sequence of blocks. Each begins with a `PROCESS_NAME` and goes on with
other parameters of `loc_process_conf_parameter_table`. `ReadsBlocks` is the property: there is one
entry for each block, and it is the entry for the parameters of this block alone.

`loc_read_process_conf` does not see where a block ends. It reads nine settings for an entry, into a
`conf` that still holds the values of the entry before. `readsBlocks_of_complete` says that this is
right if every block has all nine parameters, and `readsBlocks_singleton` that it is right for one
block if `conf` is clear in the parameters that the block lacks.

Before that it counts the names, in a loop that has no bound of its own. It comes to an end on every
file (`isSome_locReadProcessConf`), so the fuel of the model is never used up.
-/

set_option autoImplicit false

namespace LocHal.Util

namespace LocCfg

variable {δ : Type}

/-! ### Blocks -/

/-- The settings of the process parameters in a file. -/
def processSettings (d : Doubles δ) (file : List CString) : List (ParamWrite δ) :=
  file.filterMap (lineWrite d locProcessConfParameterTable)

/-- The parameters of a block, in their order: a name, then others, each of them once. The name is
what a new block is known by, so it stands first; any of the others may be missing. -/
structure IsLayout (layout : List Nat) : Prop where
  begins : layout.head? = some Conf.procName
  different : layout.Nodup
  parameters : ∀ target ∈ layout, target ≤ Conf.autoPlatform

/-- All nine parameters are there. Nothing of the entry before is left over then. -/
def HasAll (layout : List Nat) : Prop := ∀ target ≤ Conf.autoPlatform, target ∈ layout

/-- The parameters without which an entry is disabled. -/
def mandatory : List Nat :=
  [Conf.procName, Conf.groupList, Conf.platformList, Conf.baseband, Conf.procStatus,
    Conf.autoPlatform]

/-- The parameters that the settings are for. -/
def layoutOf (block : List (ParamWrite δ)) : List Nat := block.map ParamWrite.target

/-- The file consists of the blocks. The settings of its lines, in the order in which `fgets` hands
them over, are those of the blocks (`settings`), and each block is a `PROCESS_NAME` line and other
parameters, each of them once (`layout`). A name is a name: `PROCESS_NAME=NULL` sets an empty one,
at which the count of the processes stops (`named`). And every string is shorter than 80 characters:
a longer one is written behind the end of its member of `conf`, a `char[80]`, since `strlcpy` is
told a size of 81 (`short`). -/
structure ConsistsOf (d : Doubles δ) (text : CString) (blocks : List (List (ParamWrite δ))) :
    Prop where
  settings : processSettings d (fgetsAll text) = blocks.flatten
  layout : ∀ block ∈ blocks, IsLayout (layoutOf block)
  named : ∀ block ∈ blocks, ∀ w ∈ block, w.target = Conf.procName → w.value.toStr ≠ []
  short : ∀ block ∈ blocks, ∀ w ∈ block, w.value.toStr.length < 80

/-- The values after the settings. -/
def valueAfter (value : Nat → ParamValue δ) (ws : List (ParamWrite δ)) : Nat → ParamValue δ :=
  fun target => (lastWrite ws target).getD (value target)

/-- The values without those of the process parameters. -/
def cleared (value : Nat → ParamValue δ) : Nat → ParamValue δ :=
  fun target => if target ≤ Conf.autoPlatform then .num 0 else value target

/-- The entry for the parameters of a block alone. -/
def blockEntry (env : ProcessEnv) (value : Nat → ParamValue δ) (block : List (ParamWrite δ)) :
    ProcessInfo :=
  (processEntry env (locServiceMask value)
    (LauncherConf.ofValues (valueAfter (cleared value) block))).1

/-- There is an entry for each block, from its parameters alone. It is disabled if the block lacks
a mandatory parameter. -/
structure ReadsBlocks (d : Doubles δ) (env : ProcessEnv) (text : CString) (m : ConfMem δ)
    (blocks : List (List (ParamWrite δ))) : Prop where
  entries : ∃ m', locReadProcessConf d env (some text) m
    = some (0, blocks.map (blockEntry env (readFeatures d env (some text) m).value), m')
  disabled : ∀ block ∈ blocks, (∃ target ∈ mandatory, target ∉ layoutOf block) →
    (blockEntry env (readFeatures d env (some text) m).value block).procStatus = .disabled

/-! ### The values -/

/-- A value that is clear, as a string and as a number. -/
def ParamValue.IsClear (x : ParamValue δ) : Prop := x.toStr = [] ∧ x.toUInt = 0

/-- A parameter that is not set keeps its value. -/
theorem lastWrite_eq_none_iff {ws : List (ParamWrite δ)} {target : Nat} :
    lastWrite ws target = none ↔ target ∉ layoutOf ws := by
  unfold lastWrite layoutOf
  rw [Option.map_eq_none_iff, List.find?_eq_none]
  simp

theorem valueAfter_of_not_mem {value : Nat → ParamValue δ} {ws : List (ParamWrite δ)}
    {target : Nat} (h : target ∉ layoutOf ws) : valueAfter value ws target = value target := by
  unfold valueAfter
  rw [lastWrite_eq_none_iff.mpr h]
  rfl

/-- A parameter that is set does not depend on what was there. -/
theorem valueAfter_of_mem {value value' : Nat → ParamValue δ} {ws : List (ParamWrite δ)}
    {target : Nat} (h : target ∈ layoutOf ws) :
    valueAfter value ws target = valueAfter value' ws target := by
  unfold valueAfter
  cases hlast : lastWrite ws target with
  | none => exact absurd h (lastWrite_eq_none_iff.mp hlast)
  | some x => rfl

/-- What an entry is computed from depends on the members only. -/
theorem ofValues_congr {value value' : Nat → ParamValue δ}
    (h : ∀ target ≤ Conf.sglteTarget, (value target).toStr = (value' target).toStr ∧
      (value target).toUInt = (value' target).toUInt) :
    LauncherConf.ofValues value = LauncherConf.ofValues value' := by
  unfold LauncherConf.ofValues
  congr 1 <;> first | exact (h _ (by decide)).1 | exact (h _ (by decide)).2

/-- A block that lacks a mandatory parameter has a disabled entry. -/
theorem blockEntry_of_lacks (env : ProcessEnv) (value : Nat → ParamValue δ)
    {block : List (ParamWrite δ)} (h : ∃ target ∈ mandatory, target ∉ layoutOf block) :
    blockEntry env value block = .default := by
  obtain ⟨target, hmandatory, hlacks⟩ := h
  have hle : ∀ target ∈ mandatory, target ≤ Conf.autoPlatform := by decide
  have hempty : (valueAfter (cleared value) block target).toStr = [] := by
    rw [valueAfter_of_not_mem hlacks]
    unfold cleared
    rw [if_pos (hle target hmandatory)]
    rfl
  have hincomplete :
      ¬ (LauncherConf.ofValues (valueAfter (cleared value) block)).Complete := by
    rintro ⟨hname, hgroup, hplatform, hbaseband, hstatus, hauto⟩
    simp only [mandatory, List.mem_cons, List.not_mem_nil, or_false] at hmandatory
    rcases hmandatory with rfl | rfl | rfl | rfl | rfl | rfl
    · exact hname hempty
    · exact hgroup hempty
    · exact hplatform hempty
    · exact hbaseband hempty
    · exact hstatus hempty
    · exact hauto hempty
  unfold blockEntry processEntry
  rw [if_pos hincomplete]

/-! ### Layouts -/

/-- There are nine parameters. -/
theorem length_le_of_isLayout {layout : List Nat} (h : IsLayout layout) : layout.length ≤ 9 := by
  have hsubset : layout ⊆ List.range 9 := fun target htarget =>
    List.mem_range.mpr (Nat.lt_succ_of_le (h.parameters target htarget))
  simpa using (h.different.subperm hsubset).length_le

theorem length_eq_of_hasAll {layout : List Nat} (h : IsLayout layout) (hall : HasAll layout) :
    layout.length = 9 := by
  have hsubset : List.range 9 ⊆ layout := fun target htarget =>
    hall target (Nat.le_of_lt_succ (List.mem_range.mp htarget))
  have hle := (List.nodup_range.subperm hsubset).length_le
  exact Nat.le_antisymm (length_le_of_isLayout h) (by simpa using hle)

/-- A block names one process. -/
theorem length_filter_procName {block : List (ParamWrite δ)} (h : IsLayout (layoutOf block)) :
    (block.filter fun w => w.target = Conf.procName).length = 1 := by
  have hcount := List.count_eq_one_of_mem h.different (List.mem_of_mem_head? h.begins)
  unfold layoutOf at hcount
  rw [List.count_eq_countP, List.countP_map] at hcount
  rw [← List.countP_eq_length_filter, ← hcount]
  exact List.countP_congr fun w _ => by simp

theorem length_filter_flatten {blocks : List (List (ParamWrite δ))}
    (h : ∀ block ∈ blocks, IsLayout (layoutOf block)) :
    (blocks.flatten.filter fun w => w.target = Conf.procName).length = blocks.length := by
  induction blocks with
  | nil => rfl
  | cons block blocks ih =>
      rw [List.flatten_cons, List.filter_append, List.length_append,
        length_filter_procName (h block List.mem_cons_self),
        ih fun block' hblock' => h block' (List.mem_cons_of_mem _ hblock'), List.length_cons,
        Nat.add_comm]

/-! ### The three passes -/

/-- The count of the processes goes by the settings of the names. -/
theorem filterMap_processName (d : Doubles δ) (file : List CString) :
    file.filterMap (lineWrite d (locProcessConfParameterTable.take 1))
      = (processSettings d file).filter fun w => w.target = Conf.procName := by
  unfold processSettings
  rw [List.filter_filterMap]
  refine List.filterMap_congr fun line _ => ?_
  have htargets : ∀ entry ∈ locProcessConfParameterTable.tail,
      entry.paramPtr ≠ some Conf.procName := by decide
  unfold lineWrite
  split
  · rename_i name value _ _
    change List.findSome? _ [processName]
      = (List.findSome? _ (processName :: locProcessConfParameterTable.tail)).filter _
    rw [List.findSome?_cons, List.findSome?_cons]
    cases hfirst : entryWrite
        (parseValue d (locUtilTrimSpace name) (locUtilTrimSpace value)) processName with
    | some w =>
        have hw : w.target = Conf.procName :=
          (Option.some.inj (paramPtr_of_entryWrite hfirst)).symm
        simp [Option.filter_some, hw]
    | none =>
        -- the other records have other targets
        cases hrest : List.findSome? (entryWrite
            (parseValue d (locUtilTrimSpace name) (locUtilTrimSpace value)))
            locProcessConfParameterTable.tail with
        | none => rfl
        | some w =>
            obtain ⟨entry, hentry, hw⟩ := List.exists_of_findSome?_eq_some hrest
            have hne : w.target ≠ Conf.procName := fun heq =>
              htargets entry hentry (heq ▸ paramPtr_of_entryWrite hw)
            simp [Option.filter_some, hne]
  · rfl

/-- The settings that are left after a table was read. -/
theorem filterMap_locReadConfR (d : Doubles δ) {table : List LocParamS}
    (hnames : (table.map LocParamS.paramName).Nodup) (hlen : table.length < 0x100000000)
    (file : List CString) (m : ConfMem δ) :
    (locReadConfR d (some file) table m).2.2.filterMap (lineWrite d table)
      = (file.filterMap (lineWrite d table)).drop table.length :=
  (readLoop_eq d hnames hlen file _).2

/-- What one pass of the loop that counts reads. -/
def countPass (d : Doubles δ) (file : List CString) (m : ConfMem δ) :
    Int × ConfMem δ × List CString :=
  locReadConfR d (some file) (locProcessConfParameterTable.take 1) (m.setStr Conf.procName [])

theorem countLoop_succ (d : Doubles δ) (fuel : Nat) (file : List CString) (m : ConfMem δ)
    (n : Nat) :
    countLoop d (fuel + 1) file m n
      = if ((countPass d file m).2.1.value Conf.procName).toStr = [] then
          some (n, (countPass d file m).2.1)
        else countLoop d fuel (countPass d file m).2.2 (countPass d file m).2.1 ((n + 1) % 256) :=
  rfl

/-- The values after one pass. -/
theorem value_countPass (d : Doubles δ) {names : List (ParamWrite δ)} {file : List CString}
    (hfile : file.filterMap (lineWrite d (locProcessConfParameterTable.take 1)) = names)
    (m : ConfMem δ) (target : Nat) :
    (countPass d file m).2.1.value target
      = valueAfter (m.setStr Conf.procName []).value (names.take 1) target := by
  unfold countPass
  rw [value_locReadConfR d (by decide) (by decide), hfile]
  rfl

/-- The loop ends on every file: a pass that finds a name uses up a line, and the first pass that
finds none is the last one. -/
theorem isSome_countLoop (d : Doubles δ) {fuel : Nat} {file : List CString}
    (hfuel : (file.filterMap (lineWrite d (locProcessConfParameterTable.take 1))).length < fuel)
    (m : ConfMem δ) (n : Nat) : (countLoop d fuel file m n).isSome = true := by
  induction fuel generalizing file m n with
  | zero => exact absurd hfuel (Nat.not_lt_zero _)
  | succ fuel ih =>
      rw [countLoop_succ]
      split
      · rfl
      · rename_i hname
        refine ih ?_ _ _
        unfold countPass
        rw [filterMap_locReadConfR d (by decide) (by decide), List.length_drop]
        -- without a name the pass leaves the empty one
        have hpos : file.filterMap (lineWrite d (locProcessConfParameterTable.take 1)) ≠ [] := by
          intro hnil
          rw [value_countPass d hnil] at hname
          exact hname rfl
        have hlength := List.length_pos_iff.mpr hpos
        have hone : (locProcessConfParameterTable.take 1).length = 1 := rfl
        omega

/-- So `loc_read_process_conf` returns, whatever the file has. -/
theorem isSome_locReadProcessConf (d : Doubles δ) (env : ProcessEnv) (content : Option CString)
    (m : ConfMem δ) : (locReadProcessConf d env content m).isSome = true := by
  unfold locReadProcessConf
  cases content with
  | none => rfl
  | some text =>
      have hlength := List.length_filterMap_le
        (lineWrite d (locProcessConfParameterTable.take 1)) (fgetsAll text)
      dsimp only
      rw [Option.isSome_map]
      exact isSome_countLoop d (Nat.lt_succ_of_le hlength) _ _

theorem value_setStr_of_ne {target target' : Nat} (h : target' ≠ target) (m : ConfMem δ)
    (s : CString) : (m.setStr target s).value target' = m.value target' :=
  Function.update_of_ne h _ _

/-- The count ends after the last name, for fewer than 256 of them. -/
theorem countLoop_eq (d : Doubles δ) {names : List (ParamWrite δ)}
    (hnames : ∀ w ∈ names, w.target = Conf.procName ∧ w.value.toStr ≠ []) {fuel : Nat}
    (hfuel : names.length < fuel) {file : List CString}
    (hfile : file.filterMap (lineWrite d (locProcessConfParameterTable.take 1)) = names)
    (m : ConfMem δ) {n : Nat} (hn : n + names.length < 256) :
    ∃ m', countLoop d fuel file m n = some (n + names.length, m') ∧
      (m'.value Conf.procName).IsClear ∧
      ∀ target, target ≠ Conf.procName → m'.value target = m.value target := by
  -- on the names that are left; each pass reads one of them
  induction names generalizing fuel file m n with
  | nil =>
      obtain ⟨fuel, rfl⟩ := Nat.exists_eq_succ_of_ne_zero (Nat.ne_of_gt hfuel)
      have hvalue := value_countPass d hfile m
      have hclear : ((countPass d file m).2.1.value Conf.procName).IsClear :=
        hvalue Conf.procName ▸ ⟨rfl, rfl⟩
      rw [countLoop_succ, if_pos hclear.1]
      refine ⟨_, rfl, hclear, fun target htarget => ?_⟩
      exact (hvalue target).trans (value_setStr_of_ne htarget m [])
  | cons w names ih =>
      obtain ⟨fuel, rfl⟩ := Nat.exists_eq_succ_of_ne_zero (Nat.ne_of_gt (Nat.zero_lt_of_lt hfuel))
      obtain ⟨⟨htarget, hstr⟩, hrest⟩ := List.forall_mem_cons.mp hnames
      have hlast : ∀ target, lastWrite ([w] : List (ParamWrite δ)) target
          = if w.target = target then some w.value else none :=
        lastWrite_concat [] w
      -- the pass sets the process name, and no other variable
      have hvalue : ∀ target, (countPass d file m).2.1.value target
          = if w.target = target then w.value
            else (m.setStr Conf.procName []).value target := fun target => by
        rw [value_countPass d hfile m]
        unfold valueAfter
        rw [List.take_succ_cons, List.take_zero, hlast]
        split <;> rfl
      have hrestFile : (countPass d file m).2.2.filterMap
          (lineWrite d (locProcessConfParameterTable.take 1)) = names := by
        unfold countPass
        rw [filterMap_locReadConfR d (by decide) (by decide), hfile]
        rfl
      rw [List.length_cons] at hfuel hn
      rw [countLoop_succ, hvalue, if_pos htarget, if_neg hstr, Nat.mod_eq_of_lt (by omega)]
      obtain ⟨m', hcount, hclear, hkeep⟩ := ih hrest (Nat.lt_of_succ_lt_succ hfuel) hrestFile
        (countPass d file m).2.1 (n := n + 1) (by omega)
      refine ⟨m', ?_, hclear, fun target hne => ?_⟩
      · rw [hcount, List.length_cons, Nat.add_right_comm]
        rfl
      · rw [hkeep target hne, hvalue, if_neg (htarget ▸ Ne.symm hne), value_setStr_of_ne hne]

/-- The strings that are split. -/
def splitTargets : List Nat :=
  [Conf.groupList, Conf.platformList, Conf.baseband, Conf.autoPlatform]

/-- A member after the strings were split. -/
theorem value_splitStrings (m : ConfMem δ) (target : Nat) :
    (splitStrings m).value target
      = if target ∈ splitTargets then .str (firstWord (m.value target).toStr)
        else m.value target := by
  unfold splitStrings splitTargets ConfMem.setStr
  simp only [List.foldl_cons, List.foldl_nil, Function.update_apply, List.mem_cons,
    List.not_mem_nil, or_false]
  by_cases hgroup : target = Conf.groupList
  · subst hgroup; rfl
  by_cases hplatform : target = Conf.platformList
  · subst hplatform; rfl
  by_cases hbaseband : target = Conf.baseband
  · subst hbaseband; rfl
  by_cases hauto : target = Conf.autoPlatform
  · subst hauto; rfl
  simp [hgroup, hplatform, hbaseband, hauto]

/-- One pass of the loop that reads the entries: it takes nine settings, and leaves the others and
the values of `conf`, up to the split. -/
theorem entryLoop_succ (d : Doubles δ) (env : ProcessEnv) (service n : Nat)
    (file : List CString) (m : ConfMem δ) :
    ∃ file' m', processSettings d file' = (processSettings d file).drop 9 ∧
      (∀ target, m'.value target = valueAfter m.value ((processSettings d file).take 9) target ∨
        target ∈ splitTargets ∧ m'.value target = .str (firstWord
          (valueAfter m.value ((processSettings d file).take 9) target).toStr)) ∧
      (entryLoop d env service (n + 1) file m).1
        = (processEntry env service (LauncherConf.ofValues
              (valueAfter m.value ((processSettings d file).take 9)))).1
            :: (entryLoop d env service n file' m').1 := by
  have hvalue : (locReadConfR d (some file) locProcessConfParameterTable m).2.1.value
      = valueAfter m.value ((processSettings d file).take 9) :=
    funext fun target => value_locReadConfR d (by decide) (by decide) file m target
  refine ⟨(locReadConfR d (some file) locProcessConfParameterTable m).2.2,
    if (processEntry env service (LauncherConf.ofValues
        (valueAfter m.value ((processSettings d file).take 9)))).2 then
      splitStrings (locReadConfR d (some file) locProcessConfParameterTable m).2.1
    else (locReadConfR d (some file) locProcessConfParameterTable m).2.1,
    filterMap_locReadConfR d (by decide) (by decide) file m, fun target => ?_, ?_⟩
  · split
    · rw [value_splitStrings, hvalue]
      by_cases hmem : target ∈ splitTargets
      · exact Or.inr ⟨hmem, if_pos hmem⟩
      · exact Or.inl (if_neg hmem)
    · exact Or.inl (congrFun hvalue target)
  · rw [← hvalue]
    rfl

/-! ### Files of complete blocks -/

/-- A parameter that the block sets, or that is clear in `conf`, is the one of the block alone. -/
theorem ofValues_valueAfter {value value' : Nat → ParamValue δ} {block : List (ParamWrite δ)}
    (hclear : ∀ target ≤ Conf.autoPlatform, target ∉ layoutOf block →
      (value target).IsClear)
    (hsglte : value Conf.sglteTarget = value' Conf.sglteTarget) :
    LauncherConf.ofValues (valueAfter value block)
      = LauncherConf.ofValues (valueAfter (cleared value') block) := by
  refine ofValues_congr fun target htarget => ?_
  by_cases hmem : target ∈ layoutOf block
  · rw [valueAfter_of_mem hmem]
    exact ⟨rfl, rfl⟩
  · rw [valueAfter_of_not_mem hmem, valueAfter_of_not_mem hmem]
    unfold cleared
    by_cases hle : target ≤ Conf.autoPlatform
    · rw [if_pos hle]
      exact hclear target hle hmem
    · obtain rfl : target = Conf.sglteTarget := Nat.le_antisymm htarget (Nat.lt_of_not_le hle)
      rw [if_neg hle, hsglte]
      exact ⟨rfl, rfl⟩

/-- The loop over complete blocks. -/
theorem entryLoop_of_complete (d : Doubles δ) (env : ProcessEnv) (value : Nat → ParamValue δ)
    {blocks : List (List (ParamWrite δ))} (hlayout : ∀ block ∈ blocks, IsLayout (layoutOf block))
    (hall : ∀ block ∈ blocks, HasAll (layoutOf block)) {file : List CString}
    (hfile : processSettings d file = blocks.flatten) {m : ConfMem δ}
    (hsglte : m.value Conf.sglteTarget = value Conf.sglteTarget) :
    (entryLoop d env (locServiceMask value) blocks.length file m).1
      = blocks.map (blockEntry env value) := by
  induction blocks generalizing file m with
  | nil => rfl
  | cons block blocks ih =>
      obtain ⟨hblock, hblocks⟩ := List.forall_mem_cons.mp hlayout
      obtain ⟨hallBlock, hallBlocks⟩ := List.forall_mem_cons.mp hall
      have hlength : block.length = 9 := by
        simpa [layoutOf] using length_eq_of_hasAll hblock hallBlock
      have htake : (processSettings d file).take 9 = block := by
        rw [hfile, List.flatten_cons, List.take_left' hlength]
      have hdrop : (processSettings d file).drop 9 = blocks.flatten := by
        rw [hfile, List.flatten_cons, List.drop_left' hlength]
      obtain ⟨file', m', hfile', hvalue, hentry⟩ :=
        entryLoop_succ d env (locServiceMask value) blocks.length file m
      rw [htake] at hvalue hentry
      have hnot : Conf.sglteTarget ∉ layoutOf block := fun hmem =>
        absurd (hblock.parameters _ hmem) (by decide)
      have hsglte' : m'.value Conf.sglteTarget = value Conf.sglteTarget := by
        rcases hvalue Conf.sglteTarget with heq | ⟨hmem, -⟩
        · rw [heq, valueAfter_of_not_mem hnot, hsglte]
        · exact absurd hmem (by decide)
      rw [List.length_cons, hentry, ih hblocks hallBlocks (hfile'.trans hdrop) hsglte',
        ofValues_valueAfter (fun target hle hmem => absurd (hallBlock target hle) hmem)
          hsglte]
      rfl

/-- The file has as many names as blocks, so the loop that reads the entries runs once for each
block. -/
theorem locReadProcessConf_eq {d : Doubles δ} {env : ProcessEnv} (hcalloc : env.calloc = true)
    {text : CString} {blocks : List (List (ParamWrite δ))} (h : ConsistsOf d text blocks)
    (hlen : blocks.length ≤ 255) (m : ConfMem δ) :
    ∃ m', (m'.value Conf.procName).IsClear ∧
      (∀ target, target ≠ Conf.procName →
        m'.value target = (readFeatures d env (some text) m).value target) ∧
      locReadProcessConf d env (some text) m
        = some (0, entryLoop d env (locServiceMask (readFeatures d env (some text) m).value)
            blocks.length (fgetsAll text) m') := by
  have hnames := filterMap_processName d (fgetsAll text)
  have hcount := length_filter_flatten h.layout
  rw [h.settings] at hnames
  rw [← hnames] at hcount
  have hnamed : ∀ w ∈ (fgetsAll text).filterMap
      (lineWrite d (locProcessConfParameterTable.take 1)),
      w.target = Conf.procName ∧ w.value.toStr ≠ [] := fun w hw => by
    rw [hnames, List.mem_filter, List.mem_flatten, decide_eq_true_eq] at hw
    obtain ⟨⟨block, hblock, hw⟩, htarget⟩ := hw
    exact ⟨htarget, h.named block hblock w hw htarget⟩
  have hfuel := List.length_filterMap_le (lineWrite d (locProcessConfParameterTable.take 1))
    (fgetsAll text)
  obtain ⟨m', hloop, hclear, hkeep⟩ := countLoop_eq d hnamed (Nat.lt_succ_of_le hfuel) rfl
    (readFeatures d env (some text) m) (n := 0) (by omega)
  refine ⟨m', hclear, hkeep, ?_⟩
  rw [Nat.zero_add, hcount] at hloop
  unfold locReadProcessConf
  dsimp only
  rw [hloop, Option.map_some]
  dsimp only
  rw [if_pos hcalloc]

/-- A file of complete blocks is read block by block, whatever `conf` held. -/
theorem readsBlocks_of_complete {d : Doubles δ} {env : ProcessEnv} (hcalloc : env.calloc = true)
    {text : CString} {blocks : List (List (ParamWrite δ))} (h : ConsistsOf d text blocks)
    (hlen : blocks.length ≤ 255) (hall : ∀ block ∈ blocks, HasAll (layoutOf block))
    (m : ConfMem δ) : ReadsBlocks d env text m blocks where
  entries := by
    obtain ⟨m', -, hkeep, hread⟩ := locReadProcessConf_eq hcalloc h hlen m
    rw [hread, ← entryLoop_of_complete d env _ h.layout hall h.settings (hkeep _ (by decide))]
    exact ⟨_, rfl⟩
  disabled := fun block _ hlacks => congrArg ProcessInfo.procStatus
    (blockEntry_of_lacks env _ hlacks)

/-- The first two passes leave the process parameters alone. -/
theorem value_locReadConfR_of_not_isTarget (d : Doubles δ) {table : List LocParamS}
    (hnames : (table.map LocParamS.paramName).Nodup) (hlen : table.length < 0x100000000)
    (file : List CString) (m : ConfMem δ) {target : Nat} (h : ¬ IsTarget table target) :
    (locReadConfR d (some file) table m).2.1.value target = m.value target := by
  have hnone : lastWrite ((file.filterMap (lineWrite d table)).take table.length) target = none :=
    lastWrite_eq_none_iff.mpr fun hmem => by
      obtain ⟨w, hw, rfl⟩ := List.mem_map.mp hmem
      obtain ⟨line, -, hline⟩ := List.mem_filterMap.mp (List.mem_of_mem_take hw)
      exact h (isTarget_of_lineWrite hline)
  rw [value_locReadConfR d hnames hlen, hnone]
  rfl

theorem value_locReadConf_of_not_isTarget (d : Doubles δ) {table : List LocParamS}
    (hnames : (table.map LocParamS.paramName).Nodup) (hlen : table.length < 0x100000000)
    (content : Option CString) (m : ConfMem δ) {target : Nat} (h : ¬ IsTarget table target)
    (h' : ¬ IsTarget locParamTable target) :
    (locReadConf d content table m).value target = m.value target := by
  unfold locReadConf
  cases content with
  | none => rfl
  | some text =>
      dsimp only
      rw [value_locReadConfR_of_not_isTarget d (by decide) (by decide) _ _ h']
      split
      · rfl
      · exact value_locReadConfR_of_not_isTarget d hnames hlen _ _ h

theorem value_readFeatures (d : Doubles δ) (env : ProcessEnv) (content : Option CString)
    (m : ConfMem δ) {target : Nat} (h : target ≤ Conf.autoPlatform) :
    (readFeatures d env content m).value target = m.value target := by
  have hnot : ∀ table ∈ [locParamTable, gpsConfParameterTable, locFeatureConfTable],
      ¬ IsTarget table target := by
    have hlarge : ∀ table ∈ [locParamTable, gpsConfParameterTable, locFeatureConfTable],
        ∀ entry ∈ table, ∀ target ≤ Conf.autoPlatform, entry.paramPtr ≠ some target := by decide
    rintro table htable ⟨entry, hentry, htarget⟩
    exact hlarge table htable entry hentry target h htarget
  unfold readFeatures
  rw [value_locReadConf_of_not_isTarget d (by decide) (by decide) _ _ (hnot _ (by decide))
      (hnot _ (by decide)),
    value_locReadConf_of_not_isTarget d (by decide) (by decide) _ _ (hnot _ (by decide))
      (hnot _ (by decide))]

/-- A file of one block is read right if `conf` is clear in the parameters that the block lacks. -/
theorem readsBlocks_singleton {d : Doubles δ} {env : ProcessEnv} (hcalloc : env.calloc = true)
    {text : CString} {block : List (ParamWrite δ)} (h : ConsistsOf d text [block])
    {m : ConfMem δ} (hclear : ∀ target ≤ Conf.autoPlatform, target ∉ layoutOf block →
      (m.value target).IsClear) : ReadsBlocks d env text m [block] where
  entries := by
    obtain ⟨m', hname, hkeep, hread⟩ := locReadProcessConf_eq hcalloc h (by simp) m
    have hblock := h.layout block List.mem_cons_self
    have hsettings : processSettings d (fgetsAll text) = block :=
      h.settings.trans (List.append_nil block)
    have htake : (processSettings d (fgetsAll text)).take 9 = block := by
      rw [hsettings]
      exact List.take_of_length_le (by simpa [layoutOf] using length_le_of_isLayout hblock)
    obtain ⟨_, _, -, -, hentry⟩ := entryLoop_succ d env
      (locServiceMask (readFeatures d env (some text) m).value) 0 (fgetsAll text) m'
    have hclear' : ∀ target ≤ Conf.autoPlatform, target ∉ layoutOf block →
        (m'.value target).IsClear := fun target hle hmem => by
      by_cases heq : target = Conf.procName
      · rw [heq]
        exact hname
      · rw [hkeep target heq, value_readFeatures d env _ m hle]
        exact hclear target hle hmem
    rw [htake, ofValues_valueAfter hclear' (hkeep _ (by decide))] at hentry
    rw [hread]
    exact ⟨_, congrArg (fun infos => some (0, infos, _)) hentry⟩
  disabled := fun block' _ hlacks => congrArg ProcessInfo.procStatus
    (blockEntry_of_lacks env _ hlacks)

end LocCfg

end LocHal.Util
