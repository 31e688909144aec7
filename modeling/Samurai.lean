import Samurai.LabelledRuns
import Samurai.MutexOwnership
import Samurai.UdfpsSensorModel
import Samurai.UdfpsSensorOneShot
import Samurai.UdfpsSensorStaleEvent
import Samurai.UdfpsSensorSteps
import Samurai.WakeupObligations
import Samurai.UdfpsSensorWakeup
import Samurai.UdfpsWatchdogModel
import Samurai.UdfpsWatchdogPress
import Samurai.UdfpsWatchdogWakeup
import Samurai.OwningRemoval
import Samurai.UdfpsHelperModel
import Samurai.UdfpsHelperRefinement
import Samurai.LinkedCallbackModel
import Samurai.LinkedCallbackLifetime
import Samurai.BiometricsFingerprintEffects
import Samurai.BiometricsFingerprintPanel
import Samurai.BiometricsFingerprintSession
import Samurai.BiometricsFingerprintEnroll
import Samurai.BiometricsFingerprintWrites
import Samurai.ScanFormat
import Samurai.UdfpsHelperSubscribers
import Samurai.UdfpsSensorRecord
import Samurai.BinaryRounding
import Samurai.AreaCapture
import Samurai.UdfpsSensorShutdown
import Samurai.UdfpsSensorHang
import Samurai.CoolDownModel
import Samurai.CoolDownAgreement
import Samurai.EventSources
import Samurai.SensorStartupModel
import Samurai.SensorStartup
import Samurai.LexicographicPrefix
import Samurai.ReorderLibsModel
import Samurai.ReorderLibsOrder
import Samurai.ReorderLibsFile
import Samurai.ClampedTruncation
import Samurai.SensorsSubHalBatch
import Samurai.BreakingLoop
import Samurai.EnrolledFingerprints
import Samurai.TerminatedMatches
import Samurai.PatchElf
import Samurai.CarriedState
import Samurai.UpdateSha1sumsModel
import Samurai.OutstandingDebts
import Samurai.UpdateSha1sumsRewrites
import Samurai.UdfpsSensorPipe
import Samurai.UpdateSha1sumsRun
import Samurai.SensorSamplingModel
import Samurai.SpacedTimes
import Samurai.SensorSampling
import Samurai.SensorSamplingWakeup
import Samurai.ForwardSimulation
import Samurai.OrderedMap
import Samurai.UdfpsSensorAtomic
import Samurai.SensorsSubHalModel
import Samurai.SensorsSubHalSteps
import Samurai.SensorsSubHalDispatch
import Samurai.SensorsSubHalEvents
import Samurai.SensorStartupAtomic
import Samurai.SensorsSubHalShipped
import Samurai.SensorsSubHalRefinement
import Samurai.SensorsSubHalShippedEvents
import Samurai.SensorsSubHalModes
import Samurai.LinkedCallbackRegistry
import Samurai.UdfpsWatchdogProgress
import Samurai.IFAAManagerInstance
import Samurai.BiometricsFingerprintProxy
import Samurai.IFAAManagerHex
import Samurai.IFAAManagerService
import Samurai.ExtractFiles
import Samurai.BlobListPinning
import Samurai.BlobListScripts
import Samurai.ModemConfigModel
import Samurai.ModemConfigSync
import Samurai.TriggeredActions
import Samurai.UsbCompositions
import Samurai.UsbGadgetBinds
