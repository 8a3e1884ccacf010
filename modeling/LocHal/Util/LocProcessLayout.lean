import Mathlib.Tactic.IntervalCases
import LocHal.Util.LocProcessBlocks

/-!
# `LocHal.Util.LocProcessLayout`: which layouts are read block by block

The layout of a process configuration says which parameters its blocks set, and in which order.
`ReadBlockwise` says of a layout that all its files are read block by block, whatever they set and
whatever `conf` held. `readBlockwise_iff` is the exact condition: every block has all nine
parameters. What it needs of a file beyond its layout is in `ConsistsOf`: the names are not empty
and the strings fit. What it says for all contents of `conf` fails for an incomplete block even if
it is the only one, and there `readsBlocks_singleton` gives the contents for which it holds.

For a layout with an incomplete block there is a sample file. All its lists are `all`, so a stale
value is as good as one of the block; the incomplete block has a name, an argument and a feature
mask of its own. If it is not the last one, its entry gets the name of the next block. If it is the
last one, its entry gets what it lacks from the block before, or from `conf`.

`exists_not_readsBlocks` is the sample file of a layout. The complete blocks at its beginning are
read right, so the first incomplete block starts where it should, and its entry is the wrong one: by
its name if another block follows (`entry_ne_of_followed`), and otherwise by its name, its arguments
or its masks (`entry_ne_of_last`). An entry depends on the environment, which decides whether a
process is enabled. `entry_sampleConf_ne` shows that no environment hides the difference, since the
sample values pass its checks. Without memory for the table there are no entries at all
(`calloc_of_readsBlocks`).
-/

set_option autoImplicit false

namespace LocHal.Util

namespace LocCfg

variable {δ : Type}

/-- The files of a layout are read block by block: every file that consists of blocks with these
parameters, with any values, and with anything in `conf` before the call. So the property is about
the layout. For a single file the stale values may be right by chance. -/
def ReadBlockwise (d : Doubles δ) (env : ProcessEnv) (layouts : List (List Nat)) : Prop :=
  ∀ text blocks (m : ConfMem δ), ConsistsOf d text blocks → blocks.map layoutOf = layouts →
    ReadsBlocks d env text m blocks

/-! ### Sample files -/

/-- The text for a parameter. The block in question has its own name, argument and mask. -/
def sampleText (own : Bool) : Nat → String
  | 0 => if own then "A" else "B"
  | 1 => if own then "NULL" else "X"
  | 2 => "ENABLED"
  | 3 => "g"
  | 4 => "1"
  | 5 => if own then "0" else "1"
  | _ => "all"

/-- The value of a parameter. -/
def sampleValue (own : Bool) : Nat → ParamValue δ
  | 1 => .str (if own then [] else ['X'])
  | 4 => .num 1
  | 5 => .num (if own then 0 else 1)
  | target => .str (sampleText own target).toList

/-- The record of a parameter. -/
def sampleRecord (target : Nat) : LocParamS :=
  locProcessConfParameterTable.getD target processName

/-- A line of a sample file. -/
def sampleLine (x : Bool × Nat) : CString :=
  (sampleRecord x.2).paramName ++ '=' :: (sampleText x.1 x.2).toList ++ ['\n']

/-- What the line sets. -/
def sampleWrite (x : Bool × Nat) : ParamWrite δ := ⟨sampleRecord x.2, x.2, sampleValue x.1 x.2⟩

theorem lineWrite_sampleLine (d : Doubles δ) {x : Bool × Nat} (h : x.2 ≤ Conf.autoPlatform) :
    lineWrite d locProcessConfParameterTable (sampleLine x) = some (sampleWrite x) := by
  obtain ⟨own, target⟩ := x
  dsimp only at h
  interval_cases target <;> cases own <;> rfl

/-- A line for a record sets nothing in a table that does not have the name of the record. -/
theorem lineWrite_eq_none (d : Doubles δ) {table table' : List LocParamS} {line : CString}
    {w : ParamWrite δ} (hw : lineWrite d table line = some w)
    (hname : w.entry.paramName ∉ table'.map LocParamS.paramName) :
    lineWrite d table' line = none := by
  unfold lineWrite at hw ⊢
  split
  · rename_i heq
    rw [heq] at hw
    obtain ⟨entry, -, hentry⟩ := List.exists_of_findSome?_eq_some hw
    obtain ⟨hsame, rfl⟩ := paramName_of_entryWrite hentry
    rw [hsame] at hname
    refine List.findSome?_eq_none_iff.mpr fun entry' hentry' => ?_
    unfold entryWrite
    exact if_neg fun hsame' => hname (List.mem_map.mpr ⟨entry', hentry', hsame'⟩)
  · rfl

/-- A sample line is no line of another table. -/
theorem lineWrite_sampleLine_feature (d : Doubles δ) {x : Bool × Nat}
    (h : x.2 ≤ Conf.autoPlatform) :
    lineWrite d locFeatureConfTable (sampleLine x) = none := by
  have hnames : ∀ target ≤ Conf.autoPlatform,
      (sampleRecord target).paramName ∉ locFeatureConfTable.map LocParamS.paramName := by decide
  exact lineWrite_eq_none d (lineWrite_sampleLine d h) (hnames x.2 h)

/-- `fgets` returns a line that fits into the buffer. -/
theorem fgetsLoop_line {line l : CString} (hl : '\n' ∉ l) (hlen : line.length + l.length ≤ 158)
    (text : CString) :
    fgetsLoop line (l ++ '\n' :: text)
      = (line.reverse ++ l ++ ['\n']) :: fgetsLoop [] text := by
  induction l generalizing line with
  | nil =>
      rw [List.nil_append]
      conv_lhs => unfold fgetsLoop
      rw [if_pos (Or.inl rfl), List.reverse_cons, List.append_nil]
  | cons c l ih =>
      obtain ⟨hc, hl⟩ := List.ne_and_not_mem_of_not_mem_cons hl
      rw [List.length_cons] at hlen
      rw [List.cons_append]
      conv_lhs => unfold fgetsLoop
      rw [if_neg (not_or.mpr ⟨Ne.symm hc, by omega⟩),
        ih hl (by rw [List.length_cons]; omega), List.reverse_cons, List.append_assoc,
        List.append_assoc, List.singleton_append]
      rw [List.append_assoc, List.cons_append]

/-- A sample line fits into the buffer. -/
theorem sampleLine_fits {x : Bool × Nat} (h : x.2 ≤ Conf.autoPlatform) :
    ∃ l : CString, '\n' ∉ l ∧ l.length ≤ 158 ∧ sampleLine x = l ++ ['\n'] := by
  refine ⟨(sampleRecord x.2).paramName ++ '=' :: (sampleText x.1 x.2).toList, ?_⟩
  obtain ⟨own, target⟩ := x
  dsimp only at h ⊢
  interval_cases target <;> cases own <;> decide

/-- The lines of a sample file. -/
theorem fgetsAll_flatMap {xs : List (Bool × Nat)} (h : ∀ x ∈ xs, x.2 ≤ Conf.autoPlatform) :
    fgetsAll (xs.flatMap sampleLine) = xs.map sampleLine := by
  induction xs with
  | nil => rfl
  | cons x xs ih =>
      obtain ⟨l, hl, hlen, hline⟩ := sampleLine_fits (h x List.mem_cons_self)
      have hrest := ih fun y hy => h y (List.mem_cons_of_mem _ hy)
      unfold fgetsAll at hrest ⊢
      rw [List.flatMap_cons, hline, List.append_assoc, List.singleton_append,
        fgetsLoop_line hl (by simpa using hlen), hrest, List.map_cons, hline]
      rfl

/-- The settings of a sample file. -/
theorem processSettings_flatMap (d : Doubles δ) {xs : List (Bool × Nat)}
    (h : ∀ x ∈ xs, x.2 ≤ Conf.autoPlatform) :
    processSettings d (fgetsAll (xs.flatMap sampleLine)) = xs.map sampleWrite := by
  unfold processSettings
  rw [fgetsAll_flatMap h, List.filterMap_map, ← List.filterMap_eq_map]
  exact List.filterMap_congr fun x hx => lineWrite_sampleLine d (h x hx)

/-- A sample file leaves the mode of `GTP_WIFI` as it is. -/
theorem value_featureGtpWifi (d : Doubles δ) (env : ProcessEnv) {xs : List (Bool × Nat)}
    (h : ∀ x ∈ xs, x.2 ≤ Conf.autoPlatform) (m : ConfMem δ) :
    (readFeatures d env (some (xs.flatMap sampleLine)) m).value Conf.featureGtpWifi
      = m.value Conf.featureGtpWifi := by
  have hnot : ∀ table ∈ [locParamTable, gpsConfParameterTable],
      ¬ IsTarget table Conf.featureGtpWifi := by
    have hother : ∀ table ∈ [locParamTable, gpsConfParameterTable], ∀ entry ∈ table,
        entry.paramPtr ≠ some Conf.featureGtpWifi := by decide
    rintro table htable ⟨entry, hentry, htarget⟩
    exact hother table htable entry hentry htarget
  have hfeature : (fgetsAll (xs.flatMap sampleLine)).filterMap
      (lineWrite d locFeatureConfTable) = [] := by
    rw [fgetsAll_flatMap h, List.filterMap_map]
    exact List.filterMap_eq_nil_iff.mpr fun x hx => lineWrite_sampleLine_feature d (h x hx)
  unfold readFeatures
  rw [locReadConf]
  rw [value_locReadConfR_of_not_isTarget d (by decide) (by decide) _ _ (hnot _ (by decide)),
    if_neg (by decide), value_locReadConfR d (by decide) (by decide), hfeature]
  exact value_locReadConf_of_not_isTarget d (by decide) (by decide) _ _ (hnot _ (by decide))
    (hnot _ (by decide))

theorem common_or_left {a b : Nat} (h : common a b = true) (c : Nat) :
    common a (b ||| c) = true := by
  unfold common at h ⊢
  rw [decide_eq_true_eq] at h ⊢
  rw [Nat.and_or_distrib_left]
  exact fun hzero => h (Nat.or_eq_zero_iff.mp hzero).1

/-- `GTP_WIFI` is on unless it is `DISABLED`. -/
theorem common_locServiceMask {value : Nat → ParamValue δ}
    (h : (value Conf.featureGtpWifi).toStr = []) : common 1 (locServiceMask value) = true := by
  have hwifi : common 1
      (if (value Conf.featureGtpWifi).toStr = "DISABLED".toList then 0 else 0x01) = true := by
    rw [h]
    rfl
  exact common_or_left (common_or_left (common_or_left (common_or_left (common_or_left
    (common_or_left (common_or_left hwifi _) _) _) _) _) _) _

/-! ### Sample values -/

/-- Every parameter has a sample value. `own` says where it is the one of the block in question. -/
def IsSample (own : Nat → Bool) (value : Nat → ParamValue δ) : Prop :=
  ∀ target ≤ Conf.autoPlatform,
    (value target).toStr = (sampleValue (own target) target : ParamValue δ).toStr ∧
      (value target).toUInt = (sampleValue (own target) target : ParamValue δ).toUInt

/-- All parameters but the name, which each block sets, have the values of the other blocks. -/
def IsOther (value : Nat → ParamValue δ) : Prop :=
  ∀ target ≤ Conf.autoPlatform, target ≠ Conf.procName →
    (value target).toStr = (sampleValue false target : ParamValue δ).toStr ∧
      (value target).toUInt = (sampleValue false target : ParamValue δ).toUInt

/-- What an entry is computed from in a sample file. -/
def sampleConf (name argument mask : Bool) (premium sglte : Nat) : LauncherConf where
  procName := if name then ['A'] else ['B']
  procArgument := if argument then [] else ['X']
  procStatus := "ENABLED".toList
  groupList := "g".toList
  premiumFeature := premium
  locFeatureMask := if mask then 0 else 1
  platformList := "all".toList
  baseband := "all".toList
  autoPlatform := "all".toList
  sglteTarget := sglte

theorem ofValues_of_isSample {own : Nat → Bool} {value : Nat → ParamValue δ}
    (h : IsSample own value) :
    LauncherConf.ofValues value
      = sampleConf (own Conf.procName) (own Conf.procArgument) (own Conf.locFeatureMask) 1
          (value Conf.sglteTarget).toUInt := by
  unfold LauncherConf.ofValues sampleConf
  congr 1
  · exact (h Conf.procName (by decide)).1.trans (by cases own Conf.procName <;> rfl)
  · exact (h Conf.procArgument (by decide)).1.trans (by cases own Conf.procArgument <;> rfl)
  · exact (h Conf.procStatus (by decide)).1
  · exact (h Conf.groupList (by decide)).1
  · exact (h Conf.premiumFeature (by decide)).2
  · exact (h Conf.locFeatureMask (by decide)).2.trans (by cases own Conf.locFeatureMask <;> rfl)
  · exact (h Conf.platformList (by decide)).1
  · exact (h Conf.baseband (by decide)).1
  · exact (h Conf.autoPlatform (by decide)).1

/-- The block that sets the parameter last. -/
def lastOwn (xs : List (Bool × Nat)) (target : Nat) : Option Bool :=
  (xs.reverse.find? fun x => x.2 = target).map Prod.fst

theorem mem_of_lastOwn {xs : List (Bool × Nat)} {target : Nat} {own : Bool}
    (h : lastOwn xs target = some own) : (own, target) ∈ xs := by
  obtain ⟨x, hx, rfl⟩ := Option.map_eq_some_iff.mp h
  have hfound := List.find?_some hx
  have htarget : x.2 = target := of_decide_eq_true hfound
  rw [← htarget]
  exact List.mem_reverse.mp (List.mem_of_find?_eq_some hx)

theorem lastWrite_map_sampleWrite (xs : List (Bool × Nat)) (target : Nat) :
    lastWrite (xs.map sampleWrite : List (ParamWrite δ)) target
      = (lastOwn xs target).map fun own => sampleValue own target := by
  unfold lastWrite lastOwn
  rw [← List.map_reverse, List.find?_map, Option.map_map, Option.map_map]
  refine Option.map_congr fun x hx => ?_
  have hfound := List.find?_some hx
  have htarget : x.2 = target := of_decide_eq_true hfound
  exact congrArg (sampleValue x.1) htarget

theorem layoutOf_map_sampleWrite (xs : List (Bool × Nat)) :
    layoutOf (xs.map sampleWrite : List (ParamWrite δ)) = xs.map Prod.snd := by
  unfold layoutOf
  rw [List.map_map]
  rfl

/-- Sample settings with a name leave sample values. -/
theorem isSample_valueAfter {value : Nat → ParamValue δ} (h : IsOther value)
    (xs : List (Bool × Nat)) (hname : Conf.procName ∈ xs.map Prod.snd) :
    IsSample (fun target => (lastOwn xs target).getD false)
      (valueAfter value (xs.map sampleWrite)) := by
  intro target htarget
  unfold valueAfter
  rw [lastWrite_map_sampleWrite]
  dsimp only
  cases hlast : lastOwn xs target with
  | some o => exact ⟨rfl, rfl⟩
  | none =>
      refine h target htarget fun heq => ?_
      have hnone : lastWrite (xs.map sampleWrite : List (ParamWrite δ)) target = none := by
        rw [lastWrite_map_sampleWrite, hlast]
        rfl
      rw [lastWrite_eq_none_iff, layoutOf_map_sampleWrite, heq] at hnone
      exact hnone hname

/-- The lists of a sample file are one word each. -/
theorem isOther_of_split {value value' : Nat → ParamValue δ}
    (h : IsSample (fun _ => false) value)
    (hsplit : ∀ target, value' target = value target ∨ target ∈ splitTargets ∧
      value' target = .str (firstWord (value target).toStr)) : IsOther value' := by
  intro target htarget _
  rcases hsplit target with heq | ⟨hmem, heq⟩
  · rw [heq]
    exact h target htarget
  · rw [heq, (h target htarget).1]
    simp only [splitTargets, List.mem_cons, List.not_mem_nil, or_false] at hmem
    rcases hmem with rfl | rfl | rfl | rfl <;> exact ⟨rfl, rfl⟩

/-! ### Sample entries -/

/-- An entry has no name or the one in `conf`. -/
theorem name_processEntry (env : ProcessEnv) (service : Nat) (c : LauncherConf) :
    (processEntry env service c).1.name = [] ∨
      (processEntry env service c).1.name = c.procName := by
  unfold processEntry
  split_ifs <;> first | exact Or.inl rfl | exact Or.inr rfl

/-- The checks are passed. -/
structure Checked (env : ProcessEnv) (c : LauncherConf) : Prop where
  complete : c.Complete
  status : c.procStatus ≠ "DISABLED".toList
  name : c.procName.length + 1 ≤ 80
  checks : (targetCheck env c && basebandCheck env c && autoplatformCheck env c) = true

/-- The entry of a process that passes the checks. -/
theorem processEntry_of_checked {env : ProcessEnv} {c : LauncherConf} (h : Checked env c)
    (service : Nat) :
    (processEntry env service c).1.name = c.procName ∧
      (processEntry env service c).1.argumentString = firstWord (c.procArgument.take 79) ∧
      (processEntry env service c).1.procStatus
        = (if c.premiumFeature = 0 || common c.locFeatureMask service then .enabled
            else .disabled) ∧
      (c.procArgument = [] → (processEntry env service c).1.args
        = (baseName c.procName).take 31 ::
          if c.premiumFeature ≠ 0 && common c.locFeatureMask service then
            (featureArgs c.locFeatureMask service).map String.toList
          else []) := by
  unfold processEntry
  rw [if_neg (not_not.mpr h.complete), if_neg h.status, if_neg (Nat.not_lt.mpr h.name)]
  dsimp only
  rw [if_pos h.checks]
  by_cases hargument : c.procArgument = []
  · rw [if_pos hargument, hargument]
    exact ⟨rfl, rfl, rfl, fun _ => rfl⟩
  · rw [if_neg hargument]
    exact ⟨rfl, rfl, rfl, fun hempty => absurd hempty hargument⟩

theorem checked_sampleConf (env : ProcessEnv) (name argument mask : Bool)
    (premium sglte : Nat) : Checked env (sampleConf name argument mask premium sglte) where
  complete := by cases name <;> simp [LauncherConf.Complete, sampleConf]
  status := by simp [sampleConf]
  name := by cases name <;> simp [sampleConf]
  checks := rfl

/-- The entry of a sample file has the name of a block. -/
theorem name_sampleConf (env : ProcessEnv) (service : Nat) (name argument mask : Bool)
    (premium sglte : Nat) :
    (processEntry env service (sampleConf name argument mask premium sglte)).1.name
      = if name then ['A'] else ['B'] :=
  (processEntry_of_checked (checked_sampleConf env name argument mask premium sglte) service).1

/-- A stale argument, feature mask or premium flag shows in the entry. -/
theorem entry_sampleConf_ne (env : ProcessEnv) {service : Nat}
    (hservice : common 1 service = true) {argument mask : Bool} {premium sglte sglte' : Nat}
    (hne : ¬ (argument = true ∧ mask = true ∧ premium ≠ 0)) :
    (processEntry env service (sampleConf true argument mask 1 sglte)).1
      ≠ (processEntry env service (sampleConf true true true premium sglte')).1 := by
  intro heq
  obtain ⟨-, hargument, hstatus, hargs⟩ :=
    processEntry_of_checked (checked_sampleConf env true argument mask 1 sglte) service
  obtain ⟨-, hargument', hstatus', hargs'⟩ :=
    processEntry_of_checked (checked_sampleConf env true true true premium sglte') service
  rw [heq] at hargument hstatus hargs
  have hzero : common 0 service = false := by simp [common]
  cases argument with
  | false =>
      have hsame : firstWord ['X'] = firstWord [] := hargument.symm.trans hargument'
      exact absurd hsame (by decide)
  | true =>
      have hsameArgs := (hargs rfl).symm.trans (hargs' rfl)
      have hsameStatus := hstatus.symm.trans hstatus'
      cases mask with
      | true =>
          -- without the premium flag of the block the process would be enabled
          obtain rfl : premium = 0 := by simpa using hne
          simp [sampleConf, hzero] at hsameStatus
      | false =>
          by_cases hpremium : premium = 0
          · -- the entry has arguments for a feature
            have hfeature : featureArgs 1 service = ["--gtp-wifi", modeArg service 0x01 0x02] := rfl
            simp [sampleConf, hservice, hpremium, hfeature] at hsameArgs
          · simp [sampleConf, hservice, hzero, hpremium] at hsameStatus

/-! ### The sample file of a layout -/

/-- The lines of a block. -/
def sampleBlock (own : Bool) (layout : List Nat) : List (Bool × Nat) := layout.map (Prod.mk own)

theorem map_snd_sampleBlock (own : Bool) (layout : List Nat) :
    (sampleBlock own layout).map Prod.snd = layout := by
  unfold sampleBlock
  rw [List.map_map]
  exact List.map_id layout

/-- Sample blocks are a file. -/
theorem consistsOf_sample (d : Doubles δ) (xss : List (List (Bool × Nat)))
    (h : ∀ xs ∈ xss, IsLayout (xs.map Prod.snd)) :
    ConsistsOf d (xss.flatten.flatMap sampleLine) (xss.map (List.map sampleWrite)) := by
  have hparameters : ∀ xs ∈ xss, ∀ x ∈ xs, x.2 ≤ Conf.autoPlatform := fun xs hxs x hx =>
    (h xs hxs).parameters x.2 (List.mem_map_of_mem hx)
  have hwrite : ∀ block ∈ xss.map (List.map sampleWrite),
      ∀ w : ParamWrite δ, w ∈ block → ∃ x, x.2 ≤ Conf.autoPlatform ∧ w = sampleWrite x := by
    intro block hblock w hw
    obtain ⟨xs, hxs, rfl⟩ := List.mem_map.mp hblock
    obtain ⟨x, hx, rfl⟩ := List.mem_map.mp hw
    exact ⟨x, hparameters xs hxs x hx, rfl⟩
  refine ⟨?_, ?_, ?_, ?_⟩
  · rw [processSettings_flatMap d fun x hx => ?_, List.map_flatten]
    obtain ⟨xs, hxs, hx⟩ := List.mem_flatten.mp hx
    exact hparameters xs hxs x hx
  · intro block hblock
    obtain ⟨xs, hxs, rfl⟩ := List.mem_map.mp hblock
    rw [layoutOf_map_sampleWrite]
    exact h xs hxs
  · intro block hblock w hw htarget
    obtain ⟨⟨own, target⟩, -, rfl⟩ := hwrite block hblock w hw
    obtain rfl : target = Conf.procName := htarget
    cases own <;> simp [sampleWrite, sampleValue, sampleText, ParamValue.toStr]
  · intro block hblock w hw
    obtain ⟨⟨own, target⟩, hle, rfl⟩ := hwrite block hblock w hw
    dsimp only at hle
    interval_cases target <;> cases own <;>
      simp [sampleWrite, sampleValue, sampleText, ParamValue.toStr]

/-- A sample block of one kind. -/
theorem lastOwn_sampleBlock (own : Bool) (layout : List Nat) (target : Nat) :
    lastOwn (sampleBlock own layout) target = if target ∈ layout then some own else none := by
  cases hlast : lastOwn (sampleBlock own layout) target with
  | some o =>
      obtain ⟨target', htarget', heq⟩ := List.mem_map.mp (mem_of_lastOwn hlast)
      obtain ⟨rfl, rfl⟩ := Prod.mk.inj heq
      rw [if_pos htarget']
  | none =>
      refine (if_neg fun hmem => ?_).symm
      have hnone := List.find?_eq_none.mp (Option.map_eq_none_iff.mp hlast) (own, target)
        (List.mem_reverse.mpr (List.mem_map_of_mem hmem))
      exact hnone (decide_eq_true rfl)

/-- The blocks of the other kind come after the block in question. -/
theorem lastOwn_append_of_mem (xs : List (Bool × Nat)) {ys : List (Bool × Nat)} {target : Nat}
    (hmem : (false, target) ∈ ys) (hother : ∀ y ∈ ys, y.1 = false) :
    lastOwn (xs ++ ys) target = some false := by
  unfold lastOwn
  rw [List.reverse_append, List.find?_append]
  cases hfind : ys.reverse.find? fun x => x.2 = target with
  | none =>
      have hnone := List.find?_eq_none.mp hfind (false, target) (List.mem_reverse.mpr hmem)
      exact absurd (decide_eq_true rfl) hnone
  | some y =>
      have hy := List.mem_reverse.mp (List.mem_of_find?_eq_some hfind)
      exact congrArg some (hother y hy)

/-- The loop over complete blocks of the other kind leaves sample values. -/
theorem entryLoop_append (d : Doubles δ) (env : ProcessEnv) (service n : Nat)
    {layouts : List (List Nat)} (hlayouts : ∀ layout ∈ layouts, IsLayout layout)
    (hall : ∀ layout ∈ layouts, HasAll layout) {rest : List (ParamWrite δ)}
    {file : List CString}
    (hfile : processSettings d file
      = (layouts.map (sampleBlock false)).flatten.map sampleWrite ++ rest)
    {m : ConfMem δ} (hother : IsOther m.value) :
    ∃ infos file' m', infos.length = layouts.length ∧ processSettings d file' = rest ∧
      IsOther m'.value ∧
      (entryLoop d env service (layouts.length + n) file m).1
        = infos ++ (entryLoop d env service n file' m').1 := by
  induction layouts generalizing file m with
  | nil => exact ⟨[], file, m, rfl, hfile, hother, by rw [List.length_nil, Nat.zero_add]; rfl⟩
  | cons layout layouts ih =>
      obtain ⟨hlayout, hlayouts⟩ := List.forall_mem_cons.mp hlayouts
      obtain ⟨hallLayout, hall⟩ := List.forall_mem_cons.mp hall
      obtain ⟨file', m', hfile', hvalue, hentry⟩ :=
        entryLoop_succ d env service (layouts.length + n) file m
      have hlength : ((sampleBlock false layout).map sampleWrite : List (ParamWrite δ)).length
          = 9 := by
        rw [List.length_map, sampleBlock, List.length_map, length_eq_of_hasAll hlayout hallLayout]
      rw [List.map_cons, List.flatten_cons, List.map_append, List.append_assoc] at hfile
      rw [hfile, List.drop_left' hlength] at hfile'
      rw [hfile, List.take_left' hlength] at hvalue hentry
      have hown : IsSample (fun _ => false)
          (valueAfter m.value ((sampleBlock false layout).map sampleWrite)) := by
        have hafter := isSample_valueAfter hother (sampleBlock false layout)
          (by rw [map_snd_sampleBlock]; exact List.mem_of_mem_head? hlayout.begins)
        simp only [lastOwn_sampleBlock] at hafter
        convert hafter using 2 with target
        split <;> rfl
      obtain ⟨infos, file'', m'', hinfos, hfile'', hother'', hloop⟩ :=
        ih hlayouts hall hfile' (isOther_of_split hown hvalue)
      rw [hloop] at hentry
      rw [List.length_cons, Nat.add_right_comm]
      exact ⟨_ :: infos, file'', m'', congrArg Nat.succ hinfos, hfile'', hother'', hentry⟩

/-- `conf` with sample values. -/
def sampleMem : ConfMem δ where
  value := fun target => if target ≤ Conf.autoPlatform then sampleValue false target else .num 0
  flag := fun _ => 0
  updated := []

theorem isOther_sampleMem : IsOther (sampleMem (δ := δ)).value := by
  intro target htarget _
  unfold sampleMem
  dsimp only
  rw [if_pos htarget]
  exact ⟨rfl, rfl⟩

/-- The values of a sample block alone. -/
theorem valueAfter_sampleBlock (value : Nat → ParamValue δ) (own : Bool) (layout : List Nat)
    (target : Nat) :
    valueAfter value ((sampleBlock own layout).map sampleWrite) target
      = if target ∈ layout then sampleValue own target else value target := by
  unfold valueAfter
  rw [lastWrite_map_sampleWrite, lastOwn_sampleBlock]
  split <;> rfl

/-- What the entry of a block with the mandatory parameters is computed from. -/
theorem ofValues_cleared (value : Nat → ParamValue δ) {layout : List Nat}
    (hmandatory : ∀ target ∈ mandatory, target ∈ layout) :
    LauncherConf.ofValues (valueAfter (cleared value)
        ((sampleBlock true layout).map sampleWrite))
      = sampleConf true true true (if Conf.premiumFeature ∈ layout then 1 else 0)
          (valueAfter (cleared value) ((sampleBlock true layout).map sampleWrite)
            Conf.sglteTarget).toUInt := by
  have hset : ∀ target ∈ mandatory, (valueAfter (cleared value)
      ((sampleBlock true layout).map sampleWrite) target).toStr
        = (sampleValue true target : ParamValue δ).toStr := fun target htarget => by
    rw [valueAfter_sampleBlock, if_pos (hmandatory target htarget)]
  unfold LauncherConf.ofValues sampleConf
  congr 1
  · exact hset Conf.procName (by decide)
  · rw [valueAfter_sampleBlock]
    split <;> rfl
  · exact hset Conf.procStatus (by decide)
  · exact hset Conf.groupList (by decide)
  · rw [valueAfter_sampleBlock]
    split <;> rfl
  · rw [valueAfter_sampleBlock]
    split <;> rfl
  · exact hset Conf.platformList (by decide)
  · exact hset Conf.baseband (by decide)
  · exact hset Conf.autoPlatform (by decide)

/-! ### Incomplete blocks -/

/-- An incomplete block that is followed by another takes its name. -/
theorem entry_ne_of_followed (env : ProcessEnv) (service : Nat) {layout : List Nat}
    (hlayout : IsLayout layout) (hincomplete : layout.length < 9)
    {next : List (Bool × Nat)} (hnext : ∀ x ∈ next, x.1 = false)
    (hname : next.head? = some (false, Conf.procName))
    {value value' : Nat → ParamValue δ} (hother : IsOther value) :
    (processEntry env service (LauncherConf.ofValues (valueAfter value
        (((sampleBlock true layout ++ next).take 9).map sampleWrite)))).1
      ≠ blockEntry env value' ((sampleBlock true layout).map sampleWrite) := by
  intro heq
  -- the rest of the nine settings is taken from what follows
  have hlength : (sampleBlock true layout).length = layout.length := List.length_map _
  have htake : (sampleBlock true layout ++ next).take 9
      = sampleBlock true layout ++ next.take (9 - layout.length) := by
    rw [List.take_append, hlength, List.take_of_length_le (by omega)]
  -- the name of the next process is among them, and is the last one read
  have hmem : (false, Conf.procName) ∈ next.take (9 - layout.length) := by
    refine List.mem_of_mem_head? ?_
    rw [List.head?_take, if_neg (by omega)]
    exact hname
  have hlast := lastOwn_append_of_mem (sampleBlock true layout) hmem
    fun y hy => hnext y (List.mem_of_mem_take hy)
  have hproc : Conf.procName
      ∈ (sampleBlock true layout ++ next.take (9 - layout.length)).map Prod.snd := by
    rw [List.map_append, map_snd_sampleBlock]
    exact List.mem_append_left _ (List.mem_of_mem_head? hlayout.begins)
  have hconf := ofValues_of_isSample (isSample_valueAfter hother _ hproc)
  rw [hlast] at hconf
  obtain ⟨argument, mask, sglte, hconf⟩ : ∃ argument mask sglte, LauncherConf.ofValues
      (valueAfter value ((sampleBlock true layout ++ next.take (9 - layout.length)).map
        sampleWrite)) = sampleConf false argument mask 1 sglte := ⟨_, _, _, hconf⟩
  rw [htake, hconf] at heq
  have hnext := name_sampleConf env service false argument mask 1 sglte
  have hown : (LauncherConf.ofValues (valueAfter (cleared value')
      ((sampleBlock true layout).map sampleWrite))).procName = ['A'] := by
    unfold LauncherConf.ofValues
    dsimp only
    rw [valueAfter_sampleBlock, if_pos (List.mem_of_mem_head? hlayout.begins)]
    rfl
  -- so the entry would have both names
  have hsame : (blockEntry env value' ((sampleBlock true layout).map sampleWrite)).name
      = ['B'] := heq ▸ hnext
  rcases name_processEntry env (locServiceMask value') (LauncherConf.ofValues
      (valueAfter (cleared value') ((sampleBlock true layout).map sampleWrite))) with h | h
  · exact absurd (hsame.symm.trans h) (by decide)
  · exact absurd (hsame.symm.trans (h.trans hown)) (by decide)

/-- The last block keeps what was there before. -/
theorem entry_ne_of_last (env : ProcessEnv) {layout : List Nat} (hlayout : IsLayout layout)
    (hincomplete : ¬ HasAll layout) {value value' : Nat → ParamValue δ}
    (hservice : common 1 (locServiceMask value') = true) (hother : IsOther value) :
    (processEntry env (locServiceMask value') (LauncherConf.ofValues (valueAfter value
        ((sampleBlock true layout).map sampleWrite)))).1
      ≠ blockEntry env value' ((sampleBlock true layout).map sampleWrite) := by
  intro heq
  have hproc : Conf.procName ∈ (sampleBlock true layout).map Prod.snd := by
    rw [map_snd_sampleBlock]
    exact List.mem_of_mem_head? hlayout.begins
  have hconf := ofValues_of_isSample (isSample_valueAfter hother _ hproc)
  simp only [lastOwn_sampleBlock, if_pos (List.mem_of_mem_head? hlayout.begins)] at hconf
  rw [hconf] at heq
  by_cases hmandatory : ∀ target ∈ mandatory, target ∈ layout
  · unfold blockEntry at heq
    rw [ofValues_cleared value' hmandatory] at heq
    refine entry_sampleConf_ne env hservice (fun h => hincomplete fun target htarget => ?_) heq
    obtain ⟨hargument, hmask, hpremium⟩ := h
    have hargument : Conf.procArgument ∈ layout := by
      by_contra hnot
      simp [hnot] at hargument
    have hmask : Conf.locFeatureMask ∈ layout := by
      by_contra hnot
      simp [hnot] at hmask
    have hpremium : Conf.premiumFeature ∈ layout := by
      by_contra hnot
      simp [hnot] at hpremium
    by_cases hmem : target ∈ mandatory
    · exact hmandatory target hmem
    · interval_cases target <;> first | assumption | exact absurd (by decide) hmem
  · -- the entry would have no name
    push Not at hmandatory
    rw [blockEntry_of_lacks env value' (by rwa [layoutOf_map_sampleWrite, map_snd_sampleBlock])]
      at heq
    have hname := congrArg ProcessInfo.name heq
    rw [name_sampleConf] at hname
    exact absurd hname (by decide)

/-- Without memory for the table there are no entries. -/
theorem calloc_of_readsBlocks {d : Doubles δ} {env : ProcessEnv} {text : CString}
    {m : ConfMem δ} {blocks : List (List (ParamWrite δ))}
    (h : ReadsBlocks d env text m blocks) : env.calloc = true := by
  obtain ⟨m', hread⟩ := h.entries
  unfold locReadProcessConf at hread
  obtain ⟨⟨procListLength, m₂⟩, -, hread⟩ := Option.map_eq_some_iff.mp hread
  by_contra hcalloc
  dsimp only at hread
  rw [if_neg hcalloc] at hread
  exact absurd (Prod.mk.inj hread).1 (by decide)

theorem map_layoutOf_sample (xss : List (List (Bool × Nat))) :
    (xss.map (List.map sampleWrite) : List (List (ParamWrite δ))).map layoutOf
      = xss.map (List.map Prod.snd) := by
  rw [List.map_map]
  exact List.map_congr_left fun xs _ => layoutOf_map_sampleWrite xs

theorem map_snd_map_sampleBlock (own : Bool) (layouts : List (List Nat)) :
    (layouts.map (sampleBlock own)).map (List.map Prod.snd) = layouts := by
  rw [List.map_map]
  exact (List.map_congr_left fun layout _ => map_snd_sampleBlock own layout).trans
    (List.map_id layouts)

/-- A layout that is not complete has less than nine parameters. -/
theorem length_lt_of_not_hasAll {layout : List Nat} (h : IsLayout layout)
    (hincomplete : ¬ HasAll layout) : layout.length < 9 := by
  refine lt_of_le_of_ne (length_le_of_isLayout h) fun heq => hincomplete fun target htarget => ?_
  have hsubset : layout ⊆ List.range 9 := fun target htarget =>
    List.mem_range.mpr (Nat.lt_succ_of_le (h.parameters target htarget))
  have hperm := (h.different.subperm hsubset).perm_of_length_le (by simp [heq])
  exact hperm.mem_iff.mpr (List.mem_range.mpr (Nat.lt_succ_of_le htarget))

/-- The first incomplete block of a layout has a wrong entry in the sample file. -/
theorem exists_not_readsBlocks (d : Doubles δ) {env : ProcessEnv} (hcalloc : env.calloc = true)
    {before after : List (List Nat)} {layout : List Nat}
    (hlayouts : ∀ layout' ∈ before ++ layout :: after, IsLayout layout')
    (hlen : (before ++ layout :: after).length ≤ 255)
    (hbefore : ∀ layout' ∈ before, HasAll layout') (hincomplete : ¬ HasAll layout) :
    ∃ text blocks, ConsistsOf d text blocks ∧ blocks.map layoutOf = before ++ layout :: after ∧
      ¬ ReadsBlocks d env text sampleMem blocks := by
  -- the incomplete block sets its parameters to other values than all the blocks around it
  have hlayout : IsLayout layout := hlayouts layout (by simp)
  obtain ⟨xss, hxss⟩ : ∃ xss, xss = before.map (sampleBlock false)
    ++ sampleBlock true layout :: after.map (sampleBlock false) := ⟨_, rfl⟩
  have hsnd : xss.map (List.map Prod.snd) = before ++ layout :: after := by
    rw [hxss, List.map_append, List.map_cons, map_snd_map_sampleBlock, map_snd_sampleBlock,
      map_snd_map_sampleBlock]
  have hconsists := consistsOf_sample d xss fun xs hxs =>
    hlayouts _ (hsnd ▸ List.mem_map_of_mem hxs)
  refine ⟨_, _, hconsists, (map_layoutOf_sample xss).trans hsnd, fun hreads => ?_⟩
  have hcount : (xss.map (List.map sampleWrite) : List (List (ParamWrite δ))).length
      = before.length + (after.length + 1) := by
    rw [hxss]
    simp
  obtain ⟨m₀, hentries⟩ := hreads.entries
  obtain ⟨m', -, hkeep, hread⟩ := locReadProcessConf_eq hcalloc hconsists
    (by rw [hcount]; simpa using hlen) sampleMem
  have hother : IsOther m'.value := fun target hle hne => by
    rw [hkeep target hne, value_readFeatures d env _ _ hle]
    exact isOther_sampleMem target hle hne
  have hservice : common 1 (locServiceMask
      (readFeatures d env (some (xss.flatten.flatMap sampleLine)) sampleMem).value) = true := by
    refine common_locServiceMask ?_
    rw [value_featureGtpWifi d env fun x hx => ?_]
    · rfl
    · obtain ⟨xs, hxs, hx⟩ := List.mem_flatten.mp hx
      exact (hlayouts _ (hsnd ▸ List.mem_map_of_mem hxs)).parameters _ (List.mem_map_of_mem hx)
  have hfile : processSettings d (fgetsAll (xss.flatten.flatMap sampleLine))
      = (before.map (sampleBlock false)).flatten.map sampleWrite
        ++ (sampleBlock true layout ++ (after.map (sampleBlock false)).flatten).map
          sampleWrite := by
    rw [hconsists.settings, ← List.map_flatten, hxss, List.flatten_append, List.map_append,
      List.flatten_cons]
  rw [hread, hcount] at hentries
  obtain ⟨infos, file', m'', hlength, hfile', hother'', hloop⟩ := entryLoop_append d env
    (locServiceMask (readFeatures d env (some (xss.flatten.flatMap sampleLine)) sampleMem).value)
    (after.length + 1) (fun l hl => hlayouts l (List.mem_append_left _ hl)) hbefore hfile hother
  obtain ⟨_, _, -, -, hentry⟩ := entryLoop_succ d env
    (locServiceMask (readFeatures d env (some (xss.flatten.flatMap sampleLine)) sampleMem).value)
    after.length file' m''
  -- the entries after those of the complete blocks
  have hinfos := congrArg (fun result => result.2.1) (Option.some.inj hentries)
  dsimp only at hinfos
  have hshape : ∀ entry : List (ParamWrite δ) → ProcessInfo,
      (xss.map (List.map sampleWrite)).map entry
        = ((before.map (sampleBlock false)).map (List.map sampleWrite)).map entry
          ++ entry ((sampleBlock true layout).map sampleWrite)
            :: ((after.map (sampleBlock false)).map (List.map sampleWrite)).map entry :=
    fun entry => by
      rw [hxss]
      simp only [List.map_append, List.map_cons]
  rw [hloop, hentry, hfile', hshape] at hinfos
  have heq := (List.cons.inj (List.append_inj hinfos (by simp [hlength])).2).1
  rw [← List.map_take] at heq
  -- what comes next in the file writes over a value of the block, or nothing does
  cases after with
  | nil =>
      rw [List.map_nil, List.flatten_nil, List.append_nil, List.take_of_length_le (by
        simpa [sampleBlock] using length_le_of_isLayout hlayout)] at heq
      exact entry_ne_of_last env hlayout hincomplete hservice hother'' heq
  | cons next after =>
      refine entry_ne_of_followed env _ hlayout (length_lt_of_not_hasAll hlayout hincomplete)
        (fun x hx => ?_) ?_ hother'' heq
      · obtain ⟨block, hblock, hx⟩ := List.mem_flatten.mp hx
        obtain ⟨layout', -, rfl⟩ := List.mem_map.mp hblock
        obtain ⟨target, -, rfl⟩ := List.mem_map.mp hx
        rfl
      · obtain ⟨rest, rfl⟩ := List.head?_eq_some_iff.mp (hlayouts next (by simp)).begins
        rfl

/-- The files of a layout are read block by block if and only if every block has all nine
parameters, and there is memory for the table.

The files are those of `ConsistsOf`: a name is not `NULL`, and no string has 80 characters or more.
The condition is one for all files of the layout and all contents of `conf`. A single file with an
incomplete block may be read right by chance, if the stale values are those of the block. One such
case does not depend on the values: a file of one block, read when `conf` is clear in the parameters
that the block lacks (`readsBlocks_singleton`), as in the first call of a process. -/
theorem readBlockwise_iff (d : Doubles δ) (env : ProcessEnv) {layouts : List (List Nat)}
    (hlayouts : ∀ layout ∈ layouts, IsLayout layout) (hlen : layouts.length ≤ 255) :
    ReadBlockwise d env layouts
      ↔ env.calloc = true ∧ ∀ layout ∈ layouts, HasAll layout := by
  have hsample : ∀ xss : List (List (Bool × Nat)), xss.map (List.map Prod.snd) = layouts →
      ConsistsOf d (xss.flatten.flatMap sampleLine) (xss.map (List.map sampleWrite)) := by
    rintro xss rfl
    exact consistsOf_sample d xss fun xs hxs => hlayouts _ (List.mem_map_of_mem hxs)
  constructor
  · intro h
    have hother := map_snd_map_sampleBlock false layouts
    have hcalloc := calloc_of_readsBlocks (h _ _ sampleMem (hsample _ hother)
      ((map_layoutOf_sample _).trans hother))
    refine ⟨hcalloc, ?_⟩
    by_contra hnot
    classical
    cases hfind : layouts.find? fun layout => ¬ HasAll layout with
    | none =>
        exact hnot fun layout hlayout => by simpa using List.find?_eq_none.mp hfind layout hlayout
    | some layout =>
        obtain ⟨hincomplete, before, after, rfl, hbefore⟩ :=
          List.find?_eq_some_iff_append.mp hfind
        obtain ⟨text, blocks, hconsists, hlayout, hwrong⟩ := exists_not_readsBlocks d hcalloc
          hlayouts hlen (fun layout' hlayout' => by simpa using hbefore layout' hlayout')
          (of_decide_eq_true hincomplete)
        exact hwrong (h text blocks sampleMem hconsists hlayout)
  · rintro ⟨hcalloc, hall⟩ text blocks m hconsists rfl
    rw [List.length_map] at hlen
    exact readsBlocks_of_complete hcalloc hconsists hlen
      (fun block hblock => hall _ (List.mem_map_of_mem hblock)) m

/-! ### Examples -/

/-- A system with nothing but memory. -/
def plainEnv : ProcessEnv where
  gpsConf := none
  platformName := []
  basebandName := []
  autoplatformName := []
  getpwnam := fun _ => none
  calloc := true

/-- Two complete blocks. -/
theorem readBlockwise_complete :
    ReadBlockwise (⟨fun _ => 0, 0⟩ : Doubles Int) plainEnv [List.range 9, List.range 9] := by
  have hlayout : IsLayout (List.range 9) := ⟨rfl, List.nodup_range, by decide⟩
  refine (readBlockwise_iff _ _ (fun layout h => ?_) (by decide)).mpr
    ⟨rfl, fun layout h target htarget => ?_⟩
  · obtain rfl : layout = List.range 9 := by simpa using h
    exact hlayout
  · obtain rfl : layout = List.range 9 := by simpa using h
    exact List.mem_range.mpr (Nat.lt_succ_of_le htarget)

/-- A process without `PROCESS_ARGUMENT`, and one with a name only. -/
def shortText : CString :=
  ("PROCESS_NAME=A\nPROCESS_STATE=ENABLED\nPROCESS_GROUPS=g\nPREMIUM_FEATURE=1\n" ++
    "IZAT_FEATURE_MASK=0\nPLATFORMS=all\nBASEBAND=all\nHARDWARE_TYPE=all\nPROCESS_NAME=B\n").toList

/-- Its two blocks. -/
def shortBlocks : List (List (ParamWrite Int)) :=
  [(sampleBlock true [0, 2, 3, 4, 5, 6, 7, 8]).map sampleWrite,
    (sampleBlock false [0]).map sampleWrite]

/-- The first entry gets the name of the second process, although `conf` was clear. -/
theorem not_readsBlocks_short :
    ConsistsOf (⟨fun _ => 0, 0⟩ : Doubles Int) shortText shortBlocks ∧
      ¬ ReadsBlocks (⟨fun _ => 0, 0⟩ : Doubles Int) plainEnv shortText
        ⟨fun _ => .num 0, fun _ => 0, []⟩ shortBlocks := by
  have hconsists : ConsistsOf (⟨fun _ => 0, 0⟩ : Doubles Int) shortText shortBlocks := by
    have htext : shortText = [sampleBlock true [0, 2, 3, 4, 5, 6, 7, 8],
        sampleBlock false [0]].flatten.flatMap sampleLine := by decide +kernel
    rw [htext]
    refine consistsOf_sample _ [sampleBlock true [0, 2, 3, 4, 5, 6, 7, 8],
      sampleBlock false [0]] fun xs hxs => ?_
    simp only [List.mem_cons, List.not_mem_nil, or_false] at hxs
    rcases hxs with rfl | rfl <;> exact ⟨rfl, by decide, by decide⟩
  refine ⟨hconsists, fun h => ?_⟩
  obtain ⟨m₀, hentries⟩ := h.entries
  obtain ⟨m', -, -, hread⟩ := locReadProcessConf_eq (show plainEnv.calloc = true from rfl)
    hconsists (by decide)
    ⟨fun _ => .num 0, fun _ => 0, []⟩
  rw [hread] at hentries
  generalize (readFeatures (⟨fun _ => 0, 0⟩ : Doubles Int) plainEnv (some shortText)
    ⟨fun _ => .num 0, fun _ => 0, []⟩).value = value at hentries
  obtain ⟨_, _, -, -, hentry⟩ := entryLoop_succ (⟨fun _ => 0, 0⟩ : Doubles Int) plainEnv
    (locServiceMask value) 1 (fgetsAll shortText) m'
  have hinfos := congrArg (fun result => result.2.1) (Option.some.inj hentries)
  dsimp only at hinfos
  rw [show shortBlocks.length = 1 + 1 from rfl, hentry, hconsists.settings] at hinfos
  have heq := congrArg ProcessInfo.name (List.cons.inj hinfos).1
  -- the first nine settings are those of both blocks, and the block alone has its own name
  have hown : (blockEntry plainEnv value
      ((sampleBlock true [0, 2, 3, 4, 5, 6, 7, 8]).map sampleWrite)).name = ['A'] := by
    unfold blockEntry
    rw [ofValues_cleared value (by decide), name_sampleConf]
    rfl
  rcases name_processEntry plainEnv (locServiceMask value) (LauncherConf.ofValues
      (valueAfter m'.value (shortBlocks.flatten.take 9))) with hname | hname
  · exact absurd (hname.symm.trans (heq.trans hown)) (by decide)
  · have hnext : (LauncherConf.ofValues
        (valueAfter m'.value (shortBlocks.flatten.take 9))).procName = ['B'] := rfl
    exact absurd (hnext.symm.trans (hname.symm.trans (heq.trans hown))) (by decide)

end LocCfg

end LocHal.Util
