import Cabe.WalResume
import Cabe.WalPosition
import Cabe.SnapshotHistory
import Cabe.WalConfig
import Cabe.WalGroupCommit
import Cabe.BlockSafety
import Cabe.Accelerator
import Cabe.RecoverLegal
import Cabe.WalResults
import Cabe.GroupCreation
import Cabe.WalEquivalence
import Cabe.EngineMixture
import Cabe.CrcPaths
import Cabe.BurstDetection
import Cabe.BlockFifo
import Cabe.SpdkPlan
import Cabe.WalChunkScan
import Cabe.SnapshotTrigger
import Cabe.IoUring
import Cabe.PoolClose
import Cabe.PoolIdentify
import Cabe.ReactorReopen
import Cabe.SnapshotAtomic
import Cabe.StoreMap
import Cabe.StoreLives
import Cabe.StoreCrash
import Cabe.ReactorInbox
import Cabe.InboxLive
import Cabe.EngineLinear
import Cabe.IoRetry
