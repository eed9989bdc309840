import Zerodisk.Basic
import Zerodisk.Lba.Shard
import Zerodisk.StorageCluster.ClientFactory
import Zerodisk.StorageCluster.ClusterClient
import Zerodisk.Backup.BlockFetcher
import Zerodisk.Backup.Conversion
import Zerodisk.Backup.Spans
import Zerodisk.Backup.Inflation
import Zerodisk.Backup.Deflation
import Zerodisk.Backup.TransientErrors
import Zerodisk.Config
import Zerodisk.Ardb.GoFloat
import Zerodisk.Ardb.Routing
import Zerodisk.Ardb.Rounding
import Zerodisk.Ardb.JumpHash
import Zerodisk.Ardb.Cluster
import Zerodisk.Storage.Watcher
import Zerodisk.Storage.Cluster
import Zerodisk.Storage.LegacyCluster
import Zerodisk.Storage.Reloading
import Zerodisk.Backup.FtpDriver
import Zerodisk.Ardb.BatchedDispatch
import Zerodisk.Storage.Tracking
import Zerodisk.Storage.Dispatch
import Zerodisk.Backup.FtpPaths
import Zerodisk.Backup.FtpStore
import Zerodisk.MiniLog.Format
import Zerodisk.MiniLog.Output
import Zerodisk.Backup.ExportConfig
