import Bookclerk.Sql.FailClosed
import Bookclerk.Receipt.BindPairing
import Bookclerk.D1.AtMostOnce
import Bookclerk.Receipt.ExactlyOnce
import Bookclerk.Receipt.Monotone
import Bookclerk.Jobs.FenceAnswers
import Bookclerk.Jobs.Cancel
import Bookclerk.Jobs.AtomicClaim
import Bookclerk.Jobs.Attempts
import Bookclerk.Events.AttemptBound
import Bookclerk.Events.InFlightCap
import Bookclerk.Events.Fifo
import Bookclerk.Events.Cancel
import Bookclerk.Events.ReplayOnce
import Bookclerk.Sql.GlobPattern
import Bookclerk.D1.PreflightBound
import Bookclerk.Events.WakeGrants
import Bookclerk.Named.SingleUse
import Bookclerk.Named.RedeemOnce
import Bookclerk.Events.LateJoin
import Bookclerk.Owners.LastOwner
import Bookclerk.Mux.Unread
import Bookclerk.Storage.ValueSemantics
import Bookclerk.Storage.MetadataRun
import Bookclerk.Chapters.SplitPlan
import Bookclerk.Storage.TransferDelivers
import Bookclerk.Consent.SameAuthority
import Bookclerk.Fencing.Fenced
import Bookclerk.Granted.WholeBody
import Bookclerk.Login.Reached
import Bookclerk.Cluster.SecretRoot
import Bookclerk.Migrations.AppliedOnce
import Bookclerk.Backup.Published
import Bookclerk.Sql.OverflowCase
import Bookclerk.Mp4.AudioConfig
import Bookclerk.Mp4.SampleTables
