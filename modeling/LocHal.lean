import LocHal.Lib.LabelledRun
import LocHal.Lib.UnorderedSet
import LocHal.Lib.SortedMap
import LocHal.Lib.PriorityQueue
import LocHal.Lib.CellHeap
import LocHal.Util.LocHeap
import LocHal.Util.LocHeapQueue
import LocHal.Util.LocTimer
import LocHal.Util.LocTimerInvariant
import LocHal.Util.LocTimerClient
import LocHal.Util.LocTimerWakeup
import LocHal.Util.LocTimerExpiry
import LocHal.Util.LocTimerDeadline
import LocHal.Lib.LastUse
import LocHal.Util.LocThread
import LocHal.Util.LocTimerWrapper
import LocHal.Util.LocUnorderedSetMap
import LocHal.Util.LocIpc
import LocHal.Util.LocIpcSequential
import LocHal.Util.LocIpcConcurrent
import LocHal.Core.SystemStatusOsObserver
import LocHal.Core.FrameworkMirror
import LocHal.Core.FrameworkActionReq
import LocHal.Core.SystemStatus
import LocHal.Core.NetworkMask
import LocHal.Core.DataItemNotify
import LocHal.Gnss.Agps
import LocHal.Gnss.AgpsEvents
import LocHal.Gnss.AgpsManager
import LocHal.Gnss.AgpsStep
import LocHal.Gnss.AgpsLists
import LocHal.Gnss.AgpsAgreement
import LocHal.Gnss.AgpsConnection
import LocHal.Gnss.AgpsDataCall
import LocHal.Gnss.AgpsRetries
import LocHal.Gnss.AgpsRequest
import LocHal.Gnss.AgpsRelease
import LocHal.Gnss.AgpsMessages
import LocHal.Gnss.AgpsOwnership
import LocHal.Gnss.AgpsEmergency
import LocHal.Gnss.AgpsFramework
import LocHal.Gnss.AgpsAdapter
import LocHal.Android.AGnss
import LocHal.Gnss.AgpsHeap
import LocHal.Gnss.AgpsHeapEvents
import LocHal.Gnss.AgpsHeapSafety
import LocHal.Gnss.NiRequest
import LocHal.Gnss.NiResponse
import LocHal.Gnss.NiPayload
import LocHal.Gnss.GnssAdapter
import LocHal.Gnss.TrackingMultiplex
import LocHal.Gnss.TrackingEngine
import LocHal.Location.LocationAPIClientBase
import LocHal.Location.SessionRequests
import LocHal.Lib.SinceLast
import LocHal.Location.RequestQueues
import LocHal.Location.NiTracking
import LocHal.Location.PendingRequests
import LocHal.Location.TrackingResponses
import LocHal.Location.ControlResponses
import LocHal.Gnss.XtraSystemStatusObserver
import LocHal.Gnss.Odcpi
import LocHal.Gnss.OdcpiEmergency
import LocHal.Gnss.TrackingMode
import LocHal.Gnss.ClientRemoval
import LocHal.Gnss.UlpHandover
import LocHal.Gnss.GnssConfig
import LocHal.Gnss.ConfigInForce
import LocHal.Gnss.SuplServer
import LocHal.Gnss.PowerVote
import LocHal.Gnss.GpsLock
import LocHal.Lib.PackedSlots
import LocHal.Core.LocApiBase
import LocHal.Core.AdapterDispatch
import LocHal.Core.AdapterTable
import LocHal.Gnss.EventMask
import LocHal.Location.TrackingRetry
import LocHal.Lib.InversePair
import LocHal.Location.GeofenceBiDict
import LocHal.Location.LocationAPI
import LocHal.Location.ClientRegistration
import LocHal.Location.TrackingRoute
import LocHal.Util.LocTimerLife
import LocHal.Util.LocTimerUptime
import LocHal.Lib.DoublyLinked
import LocHal.Util.LinkedList
import LocHal.Util.MsgQ
import LocHal.Util.LocCfg
import LocHal.Util.LocCfgUpdate
import LocHal.Util.LocProcessConf
import LocHal.Util.LocProcessBlocks
import LocHal.Util.LocSplitString
import LocHal.Util.LocProcessLayout
import LocHal.Util.LocCfgLast
import LocHal.Core.SystemStatusNmea
import LocHal.Util.Strtol
import LocHal.Core.DebugParsers
import LocHal.Core.DebugMasks
import LocHal.Core.DebugReports
import LocHal.Core.DebugTruncated
import LocHal.Util.LocNmea
import LocHal.Util.LocNmeaPos
import LocHal.Lib.Chunks
import LocHal.Util.NmeaPrint
import LocHal.Util.NmeaSatellites
import LocHal.Util.NmeaGsa
import LocHal.Util.NmeaTrack
import LocHal.Lib.RoundEven
import LocHal.Util.NmeaExact
import LocHal.Gnss.ReportSv
import LocHal.Util.NmeaUsed
import LocHal.Util.NmeaWellFormed
import LocHal.Util.NmeaCoordinates
import LocHal.Util.NmeaCourse
import LocHal.Util.LocCfgTrim
import LocHal.Util.LocConfBytes
import LocHal.Util.LocProcessGroups
import LocHal.Location.ConfigRepeat
import LocHal.Gnss.ConfigResponse
import LocHal.Location.GeofenceLinked
import LocHal.Location.GeofenceRemoveAll
import LocHal.Lib.AlignedFilterMap
import LocHal.Location.GeofenceOptions
import LocHal.Location.GeofenceBreach
import LocHal.Lib.CheckedArray
import LocHal.Lib.StringSearch
import LocHal.Recovery.BmTables
import LocHal.Recovery.BmSearch
import LocHal.Core.ReportHistory
import LocHal.Util.MsgTaskLife
import LocHal.Gnss.DebugReport
import LocHal.Gnss.DebugReportShown
import LocHal.Gnss.ReportGains
import LocHal.Gnss.ReportNmea
import LocHal.Lights.SpeakerLight
import LocHal.Lights.SpeakerLightShown
import LocHal.Util.LocIpcStop
import LocHal.Android.Geofencing
import LocHal.Android.GnssStatus
import LocHal.Recovery.VerifyModem
