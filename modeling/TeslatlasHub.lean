import TeslatlasHub.LifecycleLate
import TeslatlasHub.LifecycleDriveTimes
import TeslatlasHub.LifecycleDriveCut
import TeslatlasHub.LifecycleDriveTrail
import TeslatlasHub.LifecycleEnergy
import TeslatlasHub.LegacyIdentity
import TeslatlasHub.LegacySingleUse
import TeslatlasHub.SchedulerStates
import TeslatlasHub.SchedulerAtomicity
import TeslatlasHub.SchedulerDelay
import TeslatlasHub.LegacyPacingRuns
import TeslatlasHub.LegacyCounting
import TeslatlasHub.TilePayload
import TeslatlasHub.SchedulerCap
import TeslatlasHub.DeviceRetry
import TeslatlasHub.PublicPageWalk
import TeslatlasHub.SyncCompaction
import TeslatlasHub.ExportOutbox
import TeslatlasHub.CollectorDowntime
import TeslatlasHub.FleetRefresh
import TeslatlasHub.LifecycleChargeFigures
import TeslatlasHub.LegacyEffective
import TeslatlasHub.SchedulerSpacing
