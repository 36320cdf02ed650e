import Libssc.Library.Run
import Libssc.Library.Refinement
import Libssc.Library.Signal
import Libssc.Library.Task
import Libssc.Library.Destutter
import Libssc.Library.LastWins
import Libssc.Library.Bytes
import Libssc.Library.Walk
import Libssc.Library.Fields
import Libssc.Library.Schema
import Libssc.Message
import Libssc.Attributes
import Libssc.Sensor
import Libssc.Outcome
import Libssc.Client
import Libssc.Driver
import Libssc.SingleOperation
import Libssc.Phase
import Libssc.Overlap
import Libssc.Exchange
import Libssc.Discovery
import Libssc.Errors
import Libssc.Listener
import Libssc.Delivery
import Libssc.Silence
import Libssc.Server
import Libssc.Measurements
import Libssc.Workers
import Libssc.Streaming
import Libssc.Cycling
import Libssc.Descriptors
import Libssc.Table
import Libssc.Composed
import Libssc.History
import Libssc.Retries
import Libssc.Addressing
import Libssc.Interference
import Libssc.Release
import Libssc.References
import Libssc.Proximity
import Libssc.Populating
import Libssc.MountMatrix
import Libssc.Holders
import Libssc.Opening
import Libssc.Decoding
import Libssc.Heading
import Libssc.Qmi
import Libssc.QmiRoundTrip
import Libssc.QmiTruncation
import Libssc.Service
import Libssc.Socket
import Libssc.Transactions
import Libssc.Datagrams
import Libssc.Subscription
import Libssc.Reactions
import Libssc.EndToEnd
import Libssc.Emissions
import Libssc.Initialising
import Libssc.Mounting
import Libssc.Stack
import Libssc.Lifetime
