import LocHal.Util.LocProcessConf

/-!
# `LocHal.Util.LocProcessGroups`: the groups of a process

`loc_read_process_conf` stores the group of the i-th name of `PROCESS_GROUPS` in `group_list[i]` and
counts the names that `getpwnam` knows. Whoever launches the process reads the first `num_groups`
elements. `exactGroups_iff` says when these are the groups of the known names: after a name that is
not known, no name may have a group other than 0.

`entryConfs` are the contents of `conf` that the entries are computed from.

`processConfs` runs the same three passes as `loc_read_process_conf` and keeps the contents of
`conf` for each entry in place of the entry. `locReadProcessConf_eq_map` says that the table is made
of them, one by one, so the statement about a run is a statement about each entry.

For one entry, `groupList_processEntry` says what is stored: the group of each name in its place, 0
for an unknown one, and zeros up to the end. So the first `num_groups` elements are the groups of
the known names if and only if the list with the zeros in between is the list without them, followed
by zeros (`map_getD_eq_iff`). `getpwnam` is a parameter: the users are those of the device.
-/

set_option autoImplicit false

namespace LocHal.Util

namespace LocCfg

variable {δ : Type}

/-! ### The contents of `conf` -/

/-- What the loop that reads the entries computes them from, one content of `conf` after the
other. -/
def entryConfs (d : Doubles δ) (env : ProcessEnv) (service : Nat) :
    Nat → List CString → ConfMem δ → List LauncherConf
  | 0, _, _ => []
  | n + 1, file, m =>
      let (_, m₁, rest) := locReadConfR d (some file) locProcessConfParameterTable m
      let c := LauncherConf.ofValues m₁.value
      let (_, split) := processEntry env service c
      c :: entryConfs d env service n rest (if split then splitStrings m₁ else m₁)

/-- What `loc_read_process_conf` computes its table from. -/
def processConfs (d : Doubles δ) (env : ProcessEnv) (content : Option CString) (m : ConfMem δ) :
    List LauncherConf :=
  let m₁ := readFeatures d env content m
  match content with
  | none => []
  | some text =>
      let file := fgetsAll text
      match countLoop d (file.length + 1) file m₁ 0 with
      | none => []
      | some (procListLength, m₂) =>
          if env.calloc then
            entryConfs d env (locServiceMask m₁.value) procListLength file m₂
          else []

theorem entryLoop_eq_map (d : Doubles δ) (env : ProcessEnv) (service n : Nat) (file : List CString)
    (m : ConfMem δ) :
    (entryLoop d env service n file m).1
      = (entryConfs d env service n file m).map fun c => (processEntry env service c).1 := by
  induction n generalizing file m with
  | zero => rfl
  | succ n ih =>
      unfold entryLoop entryConfs
      dsimp only
      rw [List.map_cons, ih]

/-- Every entry of the table is computed from a content of `conf`. -/
theorem locReadProcessConf_eq_map {d : Doubles δ} {env : ProcessEnv} {content : Option CString}
    {m m' : ConfMem δ} {ret : Int} {infos : List ProcessInfo}
    (h : locReadProcessConf d env content m = some (ret, infos, m')) :
    infos = (processConfs d env content m).map fun c =>
      (processEntry env (locServiceMask (readFeatures d env content m).value) c).1 := by
  unfold locReadProcessConf at h
  unfold processConfs
  cases content with
  | none =>
      obtain ⟨-, rfl, -⟩ := by simpa using h
      rfl
  | some text =>
      dsimp only at h ⊢
      cases hcount : countLoop d ((fgetsAll text).length + 1) (fgetsAll text)
          (readFeatures d env (some text) m) 0 with
      | none =>
          rw [hcount] at h
          cases h
      | some counted =>
          obtain ⟨n, m₂⟩ := counted
          rw [hcount, Option.map_some] at h
          dsimp only at h ⊢
          split at h
          · rename_i hcalloc
            rw [if_pos hcalloc, ← entryLoop_eq_map]
            injection h with h
            exact (congrArg (fun result => result.2.1) h).symm
          · rename_i hcalloc
            rw [if_neg hcalloc]
            injection h with h
            exact (congrArg (fun result => result.2.1) h).symm

/-- Entries are computed only if the table could be allocated. -/
theorem exists_of_processConfs_ne_nil {d : Doubles δ} {env : ProcessEnv}
    {content : Option CString} {m : ConfMem δ} (h : processConfs d env content m ≠ []) :
    ∃ infos m', locReadProcessConf d env content m = some (0, infos, m') := by
  unfold processConfs at h
  unfold locReadProcessConf
  cases content with
  | none => exact absurd rfl h
  | some text =>
      dsimp only at h ⊢
      cases hcount : countLoop d ((fgetsAll text).length + 1) (fgetsAll text)
          (readFeatures d env (some text) m) 0 with
      | none =>
          rw [hcount] at h
          exact absurd rfl h
      | some counted =>
          obtain ⟨n, m₂⟩ := counted
          rw [hcount] at h
          dsimp only at h
          split at h
          · rename_i hcalloc
            rw [Option.map_some, if_pos hcalloc]
            exact ⟨_, _, rfl⟩
          · exact absurd rfl h

/-! ### Groups by position -/

/-- After an unknown name no name has a group other than 0. An unknown name leaves a 0 in its place
and is not counted, so the group of a name after it stands one place too far. That makes no
difference only if all these groups are 0 as well. -/
def KnownFirst (groups : List (Option Nat)) : Prop :=
  groups.Pairwise fun a b => a = none → b.getD 0 = 0

instance (groups : List (Option Nat)) : Decidable (KnownFirst groups) :=
  inferInstanceAs (Decidable (List.Pairwise _ groups))

/-- A list that is the same with zeros in front consists of zeros. -/
theorem getD_eq_zero_of_shifted {groups : List (Option Nat)} {k a b : Nat}
    (h : List.replicate (k + 1) 0 ++ groups.map (·.getD 0) ++ List.replicate a 0
      = groups.filterMap id ++ List.replicate b 0) :
    ∀ g ∈ groups, g.getD 0 = 0 := by
  induction groups generalizing k with
  | nil => exact fun g hg => absurd hg List.not_mem_nil
  | cons g groups ih =>
      have hshift : List.replicate (k + 1) 0 ++ (0 :: groups.map (·.getD 0))
          = List.replicate (k + 2) 0 ++ groups.map (·.getD 0) := by
        rw [List.replicate_succ' (n := k + 1), List.append_assoc]
        rfl
      cases g with
      | none =>
          -- one more zero on the left only
          have h' : List.replicate (k + 1) 0 ++ (0 :: groups.map (·.getD 0)) ++ List.replicate a 0
              = groups.filterMap id ++ List.replicate b 0 := h
          rw [hshift] at h'
          exact List.forall_mem_cons.mpr ⟨rfl, ih h'⟩
      | some x =>
          -- the first zero is the group of the name
          have h' : 0 :: (List.replicate k 0 ++ (x :: groups.map (·.getD 0)) ++ List.replicate a 0)
              = x :: (groups.filterMap id ++ List.replicate b 0) := h
          obtain ⟨rfl, htail⟩ := List.cons.inj h'
          have hzero : List.replicate k 0 ++ (0 :: groups.map (·.getD 0))
              = List.replicate (k + 1) 0 ++ groups.map (·.getD 0) := by
            rw [List.replicate_succ', List.append_assoc]
            rfl
          rw [hzero] at htail
          exact List.forall_mem_cons.mpr ⟨rfl, ih htail⟩

theorem getD_mem_zero {groups : List (Option Nat)} (h : ∀ g ∈ groups, g.getD 0 = 0) :
    ∀ x ∈ groups.filterMap id, x = 0 := by
  intro x hx
  obtain ⟨g, hg, hgx⟩ := List.mem_filterMap.mp hx
  have hzero := h g hg
  rw [show g = some x from hgx] at hzero
  exact hzero

/-- The groups by position and the known groups agree, up to zeros at the end, if and only if the
known names with a group come first. -/
theorem map_getD_eq_iff {groups : List (Option Nat)} {a b : Nat}
    (hlength : groups.length + a = (groups.filterMap id).length + b) :
    groups.map (·.getD 0) ++ List.replicate a 0 = groups.filterMap id ++ List.replicate b 0
      ↔ KnownFirst groups := by
  induction groups with
  | nil =>
      have hab : a = b := by simpa using hlength
      exact ⟨fun _ => List.Pairwise.nil, fun _ => by rw [hab]; rfl⟩
  | cons g groups ih =>
      unfold KnownFirst
      rw [List.pairwise_cons]
      cases g with
      | some x =>
          have hlength' : groups.length + a = (groups.filterMap id).length + b := by
            have hcons : (List.filterMap id (some x :: groups)).length
                = (groups.filterMap id).length + 1 := rfl
            rw [hcons, List.length_cons] at hlength
            omega
          -- both sides begin with the group
          show x :: (groups.map (·.getD 0) ++ List.replicate a 0)
              = x :: (groups.filterMap id ++ List.replicate b 0) ↔ _
          rw [List.cons_inj_right, ih hlength']
          exact ⟨fun h => ⟨fun _ _ hsome => absurd hsome nofun, h⟩, fun h => h.2⟩
      | none =>
          -- the hole is on one side only
          show 0 :: (groups.map (·.getD 0) ++ List.replicate a 0)
              = groups.filterMap id ++ List.replicate b 0 ↔ _
          constructor
          · intro h
            have hzero := getD_eq_zero_of_shifted (k := 0) (a := a) (b := b) h
            exact ⟨fun g hg _ => hzero g hg,
              List.pairwise_of_forall_mem_list fun _ _ g hg _ => hzero g hg⟩
          · rintro ⟨hzero, -⟩
            -- both sides are zeros
            have hzero' : ∀ g ∈ groups, g.getD 0 = 0 := fun g hg => hzero g hg rfl
            have hleft : groups.map (·.getD 0) = List.replicate groups.length 0 :=
              List.eq_replicate_iff.mpr ⟨List.length_map _, fun x hx => by
                obtain ⟨g, hg, rfl⟩ := List.mem_map.mp hx
                exact hzero' g hg⟩
            have hright : groups.filterMap id = List.replicate (groups.filterMap id).length 0 :=
              List.eq_replicate_iff.mpr ⟨rfl, getD_mem_zero hzero'⟩
            have hlength' : groups.length + a + 1 = (groups.filterMap id).length + b := by
              have hcons : (List.filterMap id (none :: groups)).length
                  = (groups.filterMap id).length := rfl
              rw [hcons, List.length_cons] at hlength
              omega
            rw [hleft, hright, List.replicate_append_replicate, List.replicate_append_replicate,
              ← hlength']
            rfl

/-! ### Entries -/

/-- The function fills the entry: all parameters are given, the process is not disabled, and its
name fits. An entry that is skipped keeps the zeros of `calloc`. -/
def NotSkipped (c : LauncherConf) : Prop :=
  c.Complete ∧ c.procStatus ≠ "DISABLED".toList ∧ c.procName.length + 1 ≤ 80

instance (c : LauncherConf) : Decidable (NotSkipped c) := inferInstanceAs (Decidable (_ ∧ _))

/-- The first `num_groups` elements are the groups of the known names, in their order, and the
others are 0. So a reader of the entry finds them together, without a gap. -/
def ExactGroups (getpwnam : CString → Option Nat) (names : List CString) (info : ProcessInfo) :
    Prop :=
  info.groupList.take info.numGroups = names.filterMap getpwnam ∧
    ∀ g ∈ info.groupList.drop info.numGroups, g = 0

theorem groupList_processEntry (env : ProcessEnv) (service : Nat) {c : LauncherConf}
    (hc : NotSkipped c) :
    (processEntry env service c).1.groupList
        = ((locUtilSplitString c.groupList 20).map env.getpwnam).map (·.getD 0)
          ++ List.replicate (20 - ((locUtilSplitString c.groupList 20).map env.getpwnam).length) 0 ∧
      (processEntry env service c).1.numGroups
        = ((locUtilSplitString c.groupList 20).map env.getpwnam).countP Option.isSome := by
  obtain ⟨hcomplete, hdisabled, hname⟩ := hc
  unfold processEntry
  rw [if_neg (not_not_intro hcomplete), if_neg hdisabled, if_neg (by omega)]
  dsimp only
  split
  · split <;> exact ⟨rfl, rfl⟩
  · exact ⟨rfl, rfl⟩

/-- The first elements of a list, and zeros behind them. -/
theorem take_drop_iff {stored xs : List Nat} {n : Nat} (hlength : stored.length = n) :
    (stored.take xs.length = xs ∧ ∀ g ∈ stored.drop xs.length, g = 0)
      ↔ stored = xs ++ List.replicate (n - xs.length) 0 := by
  constructor
  · rintro ⟨htake, hdrop⟩
    have hzeros : stored.drop xs.length = List.replicate (n - xs.length) 0 :=
      List.eq_replicate_iff.mpr ⟨by rw [List.length_drop, hlength], hdrop⟩
    have hsplit := List.take_append_drop xs.length stored
    rw [htake, hzeros] at hsplit
    exact hsplit.symm
  · intro h
    rw [h]
    refine ⟨List.take_left, fun g hg => ?_⟩
    rw [List.drop_left] at hg
    exact List.eq_of_mem_replicate hg

theorem length_filterMap_id (groups : List (Option Nat)) :
    (groups.filterMap id).length = groups.countP Option.isSome := by
  induction groups with
  | nil => rfl
  | cons g groups ih =>
      cases g with
      | none => exact ih
      | some x =>
          rw [List.countP_cons_of_pos rfl, ← ih]
          rfl

/-- An entry that is filled has exactly its groups if and only if the known names come first. -/
theorem exactGroups_processEntry_iff (env : ProcessEnv) (service : Nat) {c : LauncherConf}
    (hc : NotSkipped c) (hnames : (c.groupList.splitOn ' ').length ≤ 20) :
    ExactGroups env.getpwnam (c.groupList.splitOn ' ') (processEntry env service c).1
      ↔ KnownFirst ((c.groupList.splitOn ' ').map env.getpwnam) := by
  obtain ⟨hlist, hnum⟩ := groupList_processEntry env service hc
  unfold ExactGroups
  rw [hlist, hnum, locUtilSplitString, List.take_of_length_le hnames, ← length_filterMap_id]
  have hknown : (c.groupList.splitOn ' ').filterMap env.getpwnam
      = ((c.groupList.splitOn ' ').map env.getpwnam).filterMap id := by
    rw [List.filterMap_map]
    rfl
  rw [hknown]
  have hlength : ((c.groupList.splitOn ' ').map env.getpwnam).length ≤ 20 := by
    rw [List.length_map]
    exact hnames
  generalize (c.groupList.splitOn ' ').map env.getpwnam = groups at hlength ⊢
  have hle : (groups.filterMap id).length ≤ groups.length := List.length_filterMap_le ..
  rw [← map_getD_eq_iff (a := 20 - groups.length) (b := 20 - (groups.filterMap id).length)
    (by omega)]
  -- the list has 20 elements
  refine take_drop_iff ?_
  rw [List.length_append, List.length_map, List.length_replicate]
  omega

/-- In every run, an entry of the table that is not skipped, with at most 20 names of groups, has
exactly the groups of its known names if and only if no name after an unknown one has a group other
than 0. -/
theorem exactGroups_iff (d : Doubles δ) (env : ProcessEnv) (content : Option CString)
    (m m' : ConfMem δ) (ret : Int) (infos : List ProcessInfo)
    (hrun : locReadProcessConf d env content m = some (ret, infos, m')) :
    (processConfs d env content m).length = infos.length ∧
      ∀ (j : Nat) (c : LauncherConf) (info : ProcessInfo),
        (processConfs d env content m)[j]? = some c → infos[j]? = some info → NotSkipped c →
        (c.groupList.splitOn ' ').length ≤ 20 →
        (ExactGroups env.getpwnam (c.groupList.splitOn ' ') info
          ↔ KnownFirst ((c.groupList.splitOn ' ').map env.getpwnam)) := by
  rw [locReadProcessConf_eq_map hrun]
  refine ⟨(List.length_map _).symm, fun j c info hc hinfo hskip hnames => ?_⟩
  rw [List.getElem?_map, hc, Option.map_some] at hinfo
  obtain rfl := Option.some.inj hinfo
  exact exactGroups_processEntry_iff env _ hskip hnames

/-! ### Examples -/

/-- A system with the users `gps` and `net`. -/
def twoUsersEnv : ProcessEnv where
  gpsConf := none
  platformName := []
  basebandName := []
  autoplatformName := []
  getpwnam := fun name =>
    if name = "gps".toList then some 1021 else if name = "net".toList then some 3004 else none
  calloc := true

/-- A process with these groups. -/
def groupsText (groups : String) : CString :=
  ("PROCESS_NAME=A\nPROCESS_STATE=ENABLED\nPROCESS_GROUPS=" ++ groups ++
    "\nPLATFORMS=all\nBASEBAND=all\nHARDWARE_TYPE=all\n").toList

/-- The content of `conf` for the process. -/
def groupsConf (groups : String) : LauncherConf :=
  ⟨['A'], [], "ENABLED".toList, groups.toList, 0, 0, "all".toList, "all".toList, "all".toList, 0⟩

/-- What the function makes of the process. -/
def groupsRun (groups : String) : Option (Int × List ProcessInfo × ConfMem Int) :=
  locReadProcessConf ⟨fun _ => 0, 0⟩ twoUsersEnv (some (groupsText groups))
    ⟨fun _ => .str [], fun _ => 0, []⟩

/-- The contents of `conf` that the entry is computed from. -/
def groupsConfs (groups : String) : List LauncherConf :=
  processConfs (⟨fun _ => 0, 0⟩ : Doubles Int) twoUsersEnv (some (groupsText groups))
    ⟨fun _ => .str [], fun _ => 0, []⟩

/-- Two known users. -/
theorem exactGroups_gps_net :
    ∃ info m', groupsRun "gps net" = some (0, [info], m') ∧
      ExactGroups twoUsersEnv.getpwnam ("gps net".toList.splitOn ' ') info := by
  have hconfs : groupsConfs "gps net" = [groupsConf "gps net"] := by decide +kernel
  obtain ⟨infos, m', hrun⟩ := exists_of_processConfs_ne_nil (fun hnil => absurd
    (hconfs.symm.trans hnil) (List.cons_ne_nil _ _))
  obtain ⟨hlength, hexact⟩ := exactGroups_iff _ _ _ _ m' 0 infos hrun
  rw [show (processConfs _ _ _ _).length = 1 from congrArg List.length hconfs] at hlength
  obtain ⟨info, rfl⟩ := List.length_eq_one_iff.mp hlength.symm
  exact ⟨info, m', hrun, (hexact 0 (groupsConf "gps net") info (congrArg (·[0]?) hconfs) rfl
    (by decide) (by decide)).mpr (by decide)⟩

/-- The group of an unknown user takes the place of the group of a known one. -/
theorem not_exactGroups_ghost_net :
    ∃ info m', groupsRun "ghost net" = some (0, [info], m') ∧
      groupsConfs "ghost net" = [groupsConf "ghost net"] ∧ NotSkipped (groupsConf "ghost net") ∧
      ¬ExactGroups twoUsersEnv.getpwnam ("ghost net".toList.splitOn ' ') info := by
  have hconfs : groupsConfs "ghost net" = [groupsConf "ghost net"] := by decide +kernel
  obtain ⟨infos, m', hrun⟩ := exists_of_processConfs_ne_nil (fun hnil => absurd
    (hconfs.symm.trans hnil) (List.cons_ne_nil _ _))
  have hinfos := locReadProcessConf_eq_map hrun
  rw [show processConfs _ _ _ _ = [groupsConf "ghost net"] from hconfs, List.map_singleton]
    at hinfos
  have hskip : NotSkipped (groupsConf "ghost net") := by decide
  refine ⟨_, m', hinfos ▸ hrun, hconfs, hskip, fun h => ?_⟩
  exact absurd ((exactGroups_processEntry_iff _ _ hskip (by decide)).mp h) (by decide)

end LocCfg

end LocHal.Util
