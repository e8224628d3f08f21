import R2kit.Multipart.Persistence
import R2kit.Multipart.Progress
import R2kit.Multipart.CompleteVerified
import R2kit.Multipart.Receipts
import R2kit.Object.Carried
import R2kit.Object.Headers
import R2kit.Object.MetadataSize
import R2kit.Object.CopySource
import R2kit.Digests
import R2kit.ListingStreams
import R2kit.Managed.Memory
import R2kit.Managed.Call
import R2kit.Managed.Snapshot
import R2kit.Managed.Abort
import R2kit.Managed.Reports
import R2kit.Managed.ShortReader
import R2kit.Managed.Assembly
import R2kit.Managed.SourceCheck
import R2kit.Managed.Preflight
import R2kit.Managed.OneVersion
import R2kit.Managed.SinglePut
import R2kit.Managed.SizeErrors
import R2kit.Managed.TeamContent
import R2kit.Managed.Succeeds
import R2kit.Managed.FileMemory
import R2kit.Managed.Delivered
import R2kit.Managed.Cancellation
import R2kit.Object.DownloadFile
import R2kit.Object.Ranges
import R2kit.Managed.RoundTrip
import R2kit.Object.Copying
import R2kit.Managed.StreamSucceeds
import R2kit.Managed.Finishable
import R2kit.Object.Purge
import R2kit.Multipart.Orphans
import R2kit.Multipart.HandedOut
import R2kit.Object.PresignedPlans
import R2kit.FailureKinds
import R2kit.Config
