import CodecLink.Bytes
import CodecLink.Text.Utf8
import CodecLink.Text.Numeral
import CodecLink.Text.Duration
import CodecLink.Fault
import CodecLink.Primitive
import CodecLink.Stream
import CodecLink.Frame.Header
import CodecLink.Frame.Codec
import CodecLink.Frame.Reader
import CodecLink.Frame.Writer
import CodecLink.Frame.Incremental
import CodecLink.Backend
import CodecLink.Record.Basic
import CodecLink.Record.Merge
import CodecLink.Record.Pending
import CodecLink.Record.Applied
import CodecLink.Json.Token
import CodecLink.Json.Tree
import CodecLink.Json.Text
import CodecLink.SessionConfig.Basic
import CodecLink.SessionConfig.Payload
import CodecLink.Descriptor
import CodecLink.WaitMessage
import CodecLink.Region
import CodecLink.Engine.Basic
import CodecLink.Engine.Passthrough
import CodecLink.Engine.Registry
import CodecLink.Engine.Scripted
import CodecLink.Channel.Error
import CodecLink.Channel.Basic
import CodecLink.Channel.Handshake
import CodecLink.Waiting
import CodecLink.Dispatcher.Basic
import CodecLink.Dispatcher.Serve
import CodecLink.Checked.Steps
import CodecLink.Checked.Messages
import CodecLink.Engine.Checked
import CodecLink.Dispatcher.Checked
import CodecLink.Session.Basic
import CodecLink.Session.Calls
import CodecLink.Session.Link
import CodecLink.Channel.Connect
import CodecLink.Text.Segments
import CodecLink.Endpoint.Path
import CodecLink.Endpoint.FileSystem
import CodecLink.Endpoint.FileTree
import CodecLink.Endpoint.Rendezvous
import CodecLink.Text.Width
import CodecLink.Text.Blank
import CodecLink.Tool.Failure
import CodecLink.Tool.Period
import CodecLink.Tool.LogFilter
import CodecLink.Tool.Table
import CodecLink.Tool.Report
import CodecLink.Tool.Listing
import CodecLink.Tool.Arguments
import CodecLink.Tool.Encode
import CodecLink.Tool.Hosting
import CodecLink.Tool.Probe
import CodecLink.Tool.Version
import CodecLink.Tool.Run
import CodecLink.Session.Conversation
import CodecLink.Endpoint.Site
import CodecLink.Channel.Pair
import CodecLink.Main
import CodecLink.Proofs.Frame.RoundTrip
import CodecLink.Proofs.Frame.Buffering
import CodecLink.Proofs.Frame.Reads
import CodecLink.Proofs.Frame.Whole
import CodecLink.Proofs.Message.Layouts
import CodecLink.Proofs.Message.Payloads
import CodecLink.Proofs.Channel.Transfer
import CodecLink.Proofs.Channel.Replies
import CodecLink.Proofs.Dispatcher.Replies
import CodecLink.Proofs.Dispatcher.TaskEnds
import CodecLink.Proofs.Engine.Answers
import CodecLink.Proofs.Dispatcher.EngineCalls
import CodecLink.Proofs.Dispatcher.Handling
import CodecLink.Proofs.Dispatcher.Answering
import CodecLink.Proofs.Dispatcher.Observed
import CodecLink.Proofs.Dispatcher.CallBlocks
import CodecLink.Proofs.Record.Coalescing
import CodecLink.Proofs.Session.Attempts
import CodecLink.Proofs.Session.Settled
import CodecLink.Proofs.Session.PendingRecords
import CodecLink.Proofs.Session.Scripts
import CodecLink.Proofs.Session.Grammar
import CodecLink.Proofs.Session.CallOrder
import CodecLink.Proofs.Session.Exchange
import CodecLink.Proofs.Session.LateReplies
import CodecLink.Proofs.Session.TaskFailures
import CodecLink.Proofs.Dispatcher.Copying
import CodecLink.Proofs.Regions
import CodecLink.Proofs.Session.StaleResults
import CodecLink.Proofs.Channel.Faultless
import CodecLink.Proofs.Message.Opening
import CodecLink.Proofs.Record.Acceptance
import CodecLink.Proofs.Record.Transmission
import CodecLink.Proofs.Record.Reference
import CodecLink.Proofs.Dispatcher.Stages
import CodecLink.Proofs.Session.Undisturbed
import CodecLink.Proofs.Session.Coupling
import CodecLink.Proofs.Session.CoupledPhases
import CodecLink.Proofs.Session.CoupledSteps
import CodecLink.Proofs.Session.ContentDelivered
import CodecLink.Proofs.Session.Outstanding
import CodecLink.Proofs.Dispatcher.Configuration
import CodecLink.Proofs.Session.Feed
import CodecLink.Proofs.Session.HostConfiguration
import CodecLink.Proofs.Dispatcher.Publishing
import CodecLink.Proofs.Session.Polling
import CodecLink.Proofs.Session.PolledLengths
import CodecLink.Proofs.Dispatcher.Serving
import CodecLink.Proofs.Dispatcher.Portable
import CodecLink.Proofs.Session.Refusals
import CodecLink.Proofs.Session.Isolation
import CodecLink.Proofs.Channel.Handshaking
import CodecLink.Proofs.Channel.Arrivals
import CodecLink.Proofs.Dispatcher.InOrder
import CodecLink.Proofs.Channel.DefaultLimits
import CodecLink.Proofs.Dispatcher.RefusedFrames
import CodecLink.Proofs.Message.CheckedLayouts
import CodecLink.Proofs.Dispatcher.CheckedSteps
import CodecLink.Proofs.Dispatcher.Bounds
import CodecLink.Proofs.Dispatcher.CheckedCalls
import CodecLink.Proofs.Dispatcher.Crashes
import CodecLink.Proofs.Dispatcher.HostRuns
import CodecLink.Proofs.Record.Delivery
import CodecLink.Proofs.Record.Retained
import CodecLink.Proofs.Dispatcher.Dropped
import CodecLink.Proofs.Dispatcher.InForce
import CodecLink.Proofs.Frame.HeaderGrammar
import CodecLink.Proofs.Frame.StreamGrammar
import CodecLink.Proofs.Channel.Awaiting
import CodecLink.Proofs.Dispatcher.ReadyWords
import CodecLink.Proofs.Message.Formats
import CodecLink.Proofs.Channel.Sending
import CodecLink.Proofs.Frame.Recovery
import CodecLink.Proofs.Session.BitCounts
import CodecLink.Proofs.Region.Handles
import CodecLink.Proofs.Region.Containment
import CodecLink.Proofs.Dispatcher.SharedMemory
import CodecLink.Proofs.Session.Geometry
import CodecLink.Proofs.Text.Digits
import CodecLink.Proofs.Text.Characters
import CodecLink.Proofs.Json.Spelling
import CodecLink.Proofs.Json.Reading
import CodecLink.Proofs.Json.Numbers
import CodecLink.Proofs.Json.Members
import CodecLink.Proofs.Frame.BufferedBytes
import CodecLink.Proofs.Record.Lossless
import CodecLink.Proofs.Session.StoredRecords
import CodecLink.Proofs.Endpoint.LawfulTree
import CodecLink.Proofs.Endpoint.Ownership
