import ObjectVolume.Main
import ObjectVolume.Store.Scripted
import ObjectVolume.Proofs.Store.KeyMap
import ObjectVolume.Proofs.Store.Reachable
import ObjectVolume.Proofs.Store.Deletion
import ObjectVolume.Proofs.Eviction.Listing
import ObjectVolume.Proofs.Eviction.Action
import ObjectVolume.Proofs.Eviction.Bulk
import ObjectVolume.Proofs.Eviction.Single
import ObjectVolume.Proofs.Eviction.Call
import ObjectVolume.Proofs.Eviction.Follows
import ObjectVolume.Proofs.Eviction.Execution
import ObjectVolume.Proofs.Eviction.Progress
import ObjectVolume.Proofs.Eviction.Verdict
import ObjectVolume.Proofs.Eviction.Course
import ObjectVolume.Proofs.Eviction.Contents
import ObjectVolume.Proofs.Eviction.Success
import ObjectVolume.Proofs.Eviction.Order
import ObjectVolume.Proofs.Eviction.Failure
import ObjectVolume.Proofs.Eviction.Abandoned
import ObjectVolume.Proofs.Eviction.Cancellation
import ObjectVolume.Proofs.Store.Numbering
import ObjectVolume.Proofs.Store.AnyOrder
import ObjectVolume.Proofs.Eviction.Permits
import ObjectVolume.Proofs.Eviction.Delivery
import ObjectVolume.Proofs.Eviction.Report
import ObjectVolume.Proofs.Eviction.Answer
import ObjectVolume.Proofs.Json.Record
import ObjectVolume.Proofs.Json.Written
import ObjectVolume.Proofs.Descriptor
import ObjectVolume.Proofs.Store.Calls
import ObjectVolume.Proofs.Eviction.Aftermath
import ObjectVolume.Proofs.Volume
import ObjectVolume.Proofs.RoundTrip
import ObjectVolume.Proofs.Federation.Resolution
import ObjectVolume.Proofs.Federation.Exchange
import ObjectVolume.Proofs.Store.Gauge
import ObjectVolume.Proofs.Eviction.Usage
import ObjectVolume.Proofs.Eviction.Excess
import ObjectVolume.Proofs.Store.Watched
import ObjectVolume.Proofs.Eviction.Watched
import ObjectVolume.Proofs.Session
import ObjectVolume.Proofs.Prefix
import ObjectVolume.Proofs.Text.Utf8
import ObjectVolume.Proofs.Text.Quoted
import ObjectVolume.Proofs.Text.Composed
import ObjectVolume.Proofs.Url.Userinfo
import ObjectVolume.Proofs.Url.Host
import ObjectVolume.Proofs.Url.Login
import ObjectVolume.Proofs.Url.Written
import ObjectVolume.Proofs.Url.Ipv6
import ObjectVolume.Proofs.Url.Server
import ObjectVolume.Proofs.Client
import ObjectVolume.Proofs.AccessKey
import ObjectVolume.Proofs.Endpoint
import ObjectVolume.Proofs.Address
import ObjectVolume.Proofs.Store.History
import ObjectVolume.Proofs.Cli.Execution
import ObjectVolume.Proofs.Cli.Deletion
import ObjectVolume.Proofs.Cli.Lifecycle
import ObjectVolume.Proofs.Cli.Options
import ObjectVolume.Proofs.Cli.Arguments
import ObjectVolume.Proofs.Json.Grammar
import ObjectVolume.Proofs.Json.Extent
import ObjectVolume.Proofs.Json.Members
import ObjectVolume.Proofs.Foreign
import ObjectVolume.Proofs.Config
import ObjectVolume.Proofs.Secret
import ObjectVolume.Proofs.Store.Listing
import ObjectVolume.Proofs.Text.ByteOrder
import ObjectVolume.Proofs.Store.Batches
import ObjectVolume.Proofs.Error
import ObjectVolume.Proofs.Cli.Failure
