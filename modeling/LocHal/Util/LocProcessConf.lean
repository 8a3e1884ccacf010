import LocHal.Util.LocCfg

/-!
# `LocHal.Util.LocProcessConf`: the process configuration

`loc_read_process_conf` reads the processes that a configuration file defines. It goes through the
file three times: for the feature modes, to count the lines that set `PROCESS_NAME`, and once more
to read nine settings for each process into the global `conf`, from which an entry is computed.

The members of `conf` are addresses of the memory of the tables. `LauncherConf` is what an entry is
computed from; `loc_util_split_string` writes into the strings of `conf` and leaves the first word
of each.

`processEntry` is the body of the loop without its reads: it computes the entry from `LauncherConf`
and says whether the strings were split. It is long, since it has the checks of the platform, the
baseband and the target and the arguments for the features. `entryLoop` is the loop around it, and
keeps the memory from one entry to the next.

`countLoop` counts the names before that, and goes on until a pass finds none. Its fuel is one more
than the number of the lines; `LocHal.Util.LocProcessBlocks` shows that this suffices for every
file.
-/

set_option autoImplicit false

namespace LocHal.Util

namespace LocCfg

variable {δ : Type}

/-! ### The tables -/

namespace Conf

/-- The addresses of the members of `conf`, and of the variables of `loc_param_table`. -/
abbrev procName : Nat := 0
abbrev procArgument : Nat := 1
abbrev procStatus : Nat := 2
abbrev groupList : Nat := 3
abbrev premiumFeature : Nat := 4
abbrev locFeatureMask : Nat := 5
abbrev platformList : Nat := 6
abbrev baseband : Nat := 7
abbrev autoPlatform : Nat := 8
abbrev sglteTarget : Nat := 9
abbrev featureGtpCellProc : Nat := 10
abbrev featureGtpCell : Nat := 11
abbrev featureGtpWifi : Nat := 12
abbrev featureGtpWaa : Nat := 13
abbrev featureSap : Nat := 14
abbrev featureOdcpi : Nat := 15
abbrev featureFreeWifiScanInject : Nat := 16
abbrev featureSuplWifi : Nat := 17
abbrev featureWifiSupplicantInfo : Nat := 18
abbrev debugLevel : Nat := 19
abbrev timestamp : Nat := 20
abbrev locModemEmulator : Nat := 21

end Conf

/-- A record without a validity flag. -/
def record (name : String) (target : Nat) (paramType : Char) : LocParamS :=
  ⟨name.toList, some target, none, paramType⟩

/-- `loc_param_table`. -/
def locParamTable : List LocParamS :=
  [record "DEBUG_LEVEL" Conf.debugLevel 'n',
    record "TIMESTAMP" Conf.timestamp 'n',
    record "LOC_MODEM_EMULATOR" Conf.locModemEmulator 'n']

/-- `gps_conf_parameter_table`. -/
def gpsConfParameterTable : List LocParamS := [record "SGLTE_TARGET" Conf.sglteTarget 'n']

/-- `loc_feature_conf_table`. -/
def locFeatureConfTable : List LocParamS :=
  [record "GTP_CELL_PROC" Conf.featureGtpCellProc 's',
    record "GTP_CELL" Conf.featureGtpCell 's',
    record "GTP_WIFI" Conf.featureGtpWifi 's',
    record "GTP_WAA" Conf.featureGtpWaa 's',
    record "SAP" Conf.featureSap 's',
    record "ODCPI" Conf.featureOdcpi 's',
    record "FREE_WIFI_SCAN_INJECT" Conf.featureFreeWifiScanInject 's',
    record "SUPL_WIFI" Conf.featureSuplWifi 's',
    record "WIFI_SUPPLICANT_INFO" Conf.featureWifiSupplicantInfo 's']

/-- The first record of `loc_process_conf_parameter_table`. -/
def processName : LocParamS := record "PROCESS_NAME" Conf.procName 's'

/-- `loc_process_conf_parameter_table`. -/
def locProcessConfParameterTable : List LocParamS :=
  [processName,
    record "PROCESS_ARGUMENT" Conf.procArgument 's',
    record "PROCESS_STATE" Conf.procStatus 's',
    record "PROCESS_GROUPS" Conf.groupList 's',
    record "PREMIUM_FEATURE" Conf.premiumFeature 'n',
    record "IZAT_FEATURE_MASK" Conf.locFeatureMask 'n',
    record "PLATFORMS" Conf.platformList 's',
    record "BASEBAND" Conf.baseband 's',
    record "HARDWARE_TYPE" Conf.autoPlatform 's']

/-- `loc_read_conf`. A file that cannot be opened has no content. -/
def locReadConf (d : Doubles δ) (content : Option CString) (table : List LocParamS)
    (m : ConfMem δ) : ConfMem δ :=
  match content with
  | none => m
  | some text =>
      let m₁ := if table = [] then m else (locReadConfR d (some (fgetsAll text)) table m).2.1
      (locReadConfR d (some (fgetsAll text)) locParamTable m₁).2.1

/-! ### The members of `conf` -/

/-- A member that is a string. -/
def ParamValue.toStr : ParamValue δ → CString
  | .str s => s
  | _ => []

/-- A member that is an `unsigned int`. -/
def ParamValue.toUInt : ParamValue δ → Nat
  | .num n => (n % 0x100000000).toNat
  | _ => 0

/-- What an entry is computed from. -/
structure LauncherConf where
  procName : CString
  procArgument : CString
  procStatus : CString
  groupList : CString
  premiumFeature : Nat
  locFeatureMask : Nat
  platformList : CString
  baseband : CString
  autoPlatform : CString
  sglteTarget : Nat
  deriving DecidableEq, Repr

/-- The members in the memory. -/
def LauncherConf.ofValues (value : Nat → ParamValue δ) : LauncherConf where
  procName := (value Conf.procName).toStr
  procArgument := (value Conf.procArgument).toStr
  procStatus := (value Conf.procStatus).toStr
  groupList := (value Conf.groupList).toStr
  premiumFeature := (value Conf.premiumFeature).toUInt
  locFeatureMask := (value Conf.locFeatureMask).toUInt
  platformList := (value Conf.platformList).toStr
  baseband := (value Conf.baseband).toStr
  autoPlatform := (value Conf.autoPlatform).toStr
  sglteTarget := (value Conf.sglteTarget).toUInt

/-- A string of `conf` is assigned. -/
def ConfMem.setStr (m : ConfMem δ) (target : Nat) (s : CString) : ConfMem δ :=
  { m with value := Function.update m.value target (.str s) }

/-! ### The feature modes -/

/-- `loc_service_mask`. Most features take an unknown mode for `BASIC`. -/
def locServiceMask (value : Nat → ParamValue δ) : Nat :=
  let mode := fun target => (value target).toStr
  let is := fun target (s : String) => mode target = s.toList
  let gtpWifi := if is Conf.featureGtpWifi "DISABLED" then 0 else 0x01
  let gtpCell :=
    if is Conf.featureGtpCell "DISABLED" then 0
    else if is Conf.featureGtpCellProc "AP" then 0x04 else 0x400
  let gtpWaa :=
    if is Conf.featureGtpWaa "PREMIUM" ∨ is Conf.featureGtpWaa "BASIC" then 0x100 else 0
  let sap :=
    if is Conf.featureSap "PREMIUM" then 0x80
    else if is Conf.featureSap "DISABLED" then 0 else 0x40
  let basic := fun target (mask : Nat) =>
    if is target "BASIC" ∨ is target "PREMIUM" then mask else 0
  gtpWifi ||| gtpCell ||| gtpWaa ||| sap ||| basic Conf.featureOdcpi 0x1000
    ||| basic Conf.featureFreeWifiScanInject 0x2000 ||| basic Conf.featureSuplWifi 0x4000
    ||| basic Conf.featureWifiSupplicantInfo 0x8000

/-- Whether two masks have a bit in common. -/
def common (a b : Nat) : Bool := a &&& b ≠ 0

/-- The argument for a mode of a feature. -/
def modeArg (service basic premium : Nat) : String :=
  if common service basic then "BASIC"
  else if common service premium then "PREMIUM"
  else "DISABLED"

/-- The arguments for the premium features of a process. -/
def featureArgs (feature service : Nat) : List String :=
  let gtpWifi :=
    if common feature 0x03 then ["--gtp-wifi", modeArg service 0x01 0x02] else []
  let gtpCell :=
    if common feature 0x0c then
      if common service 0x04 then ["--gtp-ap-cell", "BASIC", "--gtp-modem-cell", "DISABLED"]
      else if common service 0x08 then
        ["--gtp-ap-cell", "PREMIUM", "--gtp-modem-cell", "DISABLED"]
      else if common service 0x400 then
        ["--gtp-modem-cell", "BASIC", "--gtp-ap-cell", "DISABLED"]
      else if common service 0x800 then
        ["--gtp-modem-cell", "PREMIUM", "--gtp-ap-cell", "DISABLED"]
      else ["--gtp-ap-cell", "DISABLED", "--gtp-modem-cell", "DISABLED"]
    else []
  let gtpWaa :=
    if common feature 0x300 then ["--gtp-waa", modeArg service 0x100 0x200] else []
  let sap := if common feature 0xc0 then ["--sap", modeArg service 0x40 0x80] else []
  gtpWifi ++ gtpCell ++ gtpWaa ++ sap

/-! ### One entry -/

/-- `loc_process_e_status`. -/
inductive ProcessStatus where
  | enabled
  | running
  | disabled
  | disabledFromConf
  deriving DecidableEq, Repr

/-- `loc_process_info_s_type`. `args` are the arguments that were set, and `name` is the first of
the two names. -/
structure ProcessInfo where
  procStatus : ProcessStatus
  name : CString
  groupList : List Nat
  numGroups : Nat
  args : List CString
  argumentString : CString
  deriving DecidableEq, Repr

/-- An entry with the defaults. -/
def ProcessInfo.default : ProcessInfo :=
  ⟨.disabled, [], List.replicate 20 0, 0, [], []⟩

/-- What the function asks the system for: the content of `gps.conf`, the names of the target, the
groups of the users and the memory for the table. -/
structure ProcessEnv where
  gpsConf : Option CString
  platformName : CString
  basebandName : CString
  autoplatformName : CString
  getpwnam : CString → Option Nat
  calloc : Bool

/-- `loc_util_split_string` at spaces. -/
def locUtilSplitString (s : CString) (maxNumSubstrings : Nat) : List CString :=
  (s.splitOn ' ').take maxNumSubstrings

/-- What `loc_util_split_string` leaves of the string. -/
def firstWord (s : CString) : CString := s.takeWhile (· ≠ ' ')

/-- The check of a list of names: `all`, `all exclude` with names, or names. -/
def checkNames (name : CString) (found : CString → Bool) : List CString → Bool
  | [] => false
  | s :: strings =>
      if s = "all".toList then
        match strings with
        | [] => true
        | exclude :: names =>
            if exclude = "exclude".toList then names = [] || !names.contains name else false
      else (s :: strings).any found

/-- `config_mask & CONFIG_MASK_TARGET_CHECK`. -/
def targetCheck (env : ProcessEnv) (c : LauncherConf) : Bool :=
  checkNames env.platformName (· = env.platformName) (locUtilSplitString c.platformList 20)

/-- `config_mask & CONFIG_MASK_BASEBAND_CHECK`. -/
def basebandCheck (env : ProcessEnv) (c : LauncherConf) : Bool :=
  checkNames env.basebandName
    (fun s => s = env.basebandName || (s = "sglte".toList && c.sglteTarget ≠ 0))
    (locUtilSplitString c.baseband 20)

/-- `config_mask & CONFIG_MASK_AUTOPLATFORM_CHECK`. -/
def autoplatformCheck (env : ProcessEnv) (c : LauncherConf) : Bool :=
  match locUtilSplitString c.autoPlatform 20 with
  | [] => false
  | s :: strings =>
      if s = "all".toList then true else (s :: strings).contains env.autoplatformName

/-- The part of a path after the last `/`, for a path that begins with one. -/
def baseName (name : CString) : CString :=
  if name.head? = some '/' then (name.reverse.takeWhile (· ≠ '/')).reverse else name

/-- The mandatory parameters are there. -/
def LauncherConf.Complete (c : LauncherConf) : Prop :=
  c.procName ≠ [] ∧ c.groupList ≠ [] ∧ c.platformList ≠ [] ∧ c.baseband ≠ [] ∧
    c.procStatus ≠ [] ∧ c.autoPlatform ≠ []

instance (c : LauncherConf) : Decidable c.Complete := inferInstanceAs (Decidable (_ ∧ _))

/-- The body of the loop after `loc_read_conf_r`: the entry, and whether the strings of `conf` were
split. -/
def processEntry (env : ProcessEnv) (service : Nat) (c : LauncherConf) : ProcessInfo × Bool :=
  if ¬ c.Complete then (.default, false)
  else if c.procStatus = "DISABLED".toList then
    ({ ProcessInfo.default with procStatus := .disabledFromConf }, false)
  else if c.procName.length + 1 > 80 then (.default, false)
  else
    let groups := (locUtilSplitString c.groupList 20).map env.getpwnam
    let info : ProcessInfo :=
      { ProcessInfo.default with
        name := c.procName
        groupList := groups.map (·.getD 0) ++ List.replicate (20 - groups.length) 0
        numGroups := groups.countP Option.isSome }
    if targetCheck env c && basebandCheck env c && autoplatformCheck env c then
      let enabled := c.premiumFeature = 0 || common c.locFeatureMask service
      let args := (baseName c.procName).take 31 ::
        if c.premiumFeature ≠ 0 && common c.locFeatureMask service then
          (featureArgs c.locFeatureMask service).map String.toList
        else []
      let info₁ := { info with
        procStatus := if enabled then .enabled else .disabled
        args := args }
      if c.procArgument = [] then (info₁, true)
      else
        let argumentString := c.procArgument.take 79
        ({ info₁ with
          args := args ++
            (locUtilSplitString argumentString (25 - args.length)).map (List.take 31)
          argumentString := firstWord argumentString }, true)
    else (info, true)

/-- The strings of `conf` after they were split. -/
def splitStrings (m : ConfMem δ) : ConfMem δ :=
  [Conf.groupList, Conf.platformList, Conf.baseband, Conf.autoPlatform].foldl
    (fun m target => m.setStr target (firstWord (m.value target).toStr)) m

/-! ### The loops -/

/-- The loop that counts the processes, in an `unsigned char`. -/
def countLoop (d : Doubles δ) : Nat → List CString → ConfMem δ → Nat → Option (Nat × ConfMem δ)
  | 0, _, _, _ => none
  | fuel + 1, file, m, procListLength =>
      let (_, m₁, rest) :=
        locReadConfR d (some file) (locProcessConfParameterTable.take 1) (m.setStr Conf.procName [])
      if (m₁.value Conf.procName).toStr = [] then some (procListLength, m₁)
      else countLoop d fuel rest m₁ ((procListLength + 1) % 256)

/-- The loop that reads the entries. -/
def entryLoop (d : Doubles δ) (env : ProcessEnv) (service : Nat) :
    Nat → List CString → ConfMem δ → List ProcessInfo × ConfMem δ
  | 0, _, m => ([], m)
  | n + 1, file, m =>
      let (_, m₁, rest) := locReadConfR d (some file) locProcessConfParameterTable m
      let (info, split) := processEntry env service (LauncherConf.ofValues m₁.value)
      let (infos, m₂) := entryLoop d env service n rest (if split then splitStrings m₁ else m₁)
      (info :: infos, m₂)

/-- The memory after `gps.conf` and the feature modes were read. -/
def readFeatures (d : Doubles δ) (env : ProcessEnv) (content : Option CString)
    (m : ConfMem δ) : ConfMem δ :=
  locReadConf d content locFeatureConfTable (locReadConf d env.gpsConf gpsConfParameterTable m)

/-- `loc_read_process_conf`: what it returns, the table and the memory. The count of the processes
ends at the end of the file at the latest. -/
def locReadProcessConf (d : Doubles δ) (env : ProcessEnv) (content : Option CString)
    (m : ConfMem δ) : Option (Int × List ProcessInfo × ConfMem δ) :=
  let m₁ := readFeatures d env content m
  match content with
  | none => some (-1, [], m₁)
  | some text =>
      let file := fgetsAll text
      (countLoop d (file.length + 1) file m₁ 0).map fun (procListLength, m₂) =>
        if env.calloc then
          let (infos, m₃) := entryLoop d env (locServiceMask m₁.value) procListLength file m₂
          (0, infos, m₃)
        else (-1, [], m₂)

end LocCfg

end LocHal.Util
