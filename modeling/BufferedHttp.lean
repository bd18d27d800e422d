import BufferedHttp.Text.Utf8
import BufferedHttp.Text.Basic
import BufferedHttp.Text.Hidden
import BufferedHttp.Text.GraphemeExtend
import BufferedHttp.Text.Quoted
import BufferedHttp.Error
import BufferedHttp.Duration
import BufferedHttp.Config
import BufferedHttp.Config.Toml
import BufferedHttp.Decimal.Binary64
import BufferedHttp.Decimal.Shortest
import BufferedHttp.Toml.Parser
import BufferedHttp.Toml.Value
import BufferedHttp.Toml.Space
import BufferedHttp.Toml.Quoted
import BufferedHttp.Toml.Number
import BufferedHttp.Toml.Moment
import BufferedHttp.Toml.Table
import BufferedHttp.Toml.Key
import BufferedHttp.Toml.Document
import BufferedHttp.Message.Method
import BufferedHttp.Message.Header
import BufferedHttp.Message.Basic
import BufferedHttp.Message.Head
import BufferedHttp.Uri.Authority
import BufferedHttp.Uri.Basic
import BufferedHttp.Uri.Query
import BufferedHttp.Host.Action
import BufferedHttp.Host.Basic
import BufferedHttp.Host.Script
import BufferedHttp.Transfer.Chunks
import BufferedHttp.Transfer.Drain
import BufferedHttp.Transfer.Fill
import BufferedHttp.Transfer.Send
import BufferedHttp.Transfer.Handler
import BufferedHttp.Transfer.Serve
import BufferedHttp.Memory.Recording
import BufferedHttp.Memory.Resource
import BufferedHttp.Memory.Host
import BufferedHttp.Component.ErrorCode
import BufferedHttp.Component.Ledger
import BufferedHttp.Component.Method
import BufferedHttp.Component.World
import BufferedHttp.Component.Incoming
import BufferedHttp.Component.Answer
import BufferedHttp.Component.Exchange
import BufferedHttp.Component.Host
import BufferedHttp.Demo.Route
import BufferedHttp.Proofs.Action
import BufferedHttp.Proofs.Host.Watched
import BufferedHttp.Proofs.Memory.Reading
import BufferedHttp.Proofs.Memory.Receiving
import BufferedHttp.Proofs.Memory.Sending
import BufferedHttp.Proofs.Memory.Delivering
import BufferedHttp.Proofs.Memory.Completing
import BufferedHttp.Proofs.Memory.Sends
import BufferedHttp.Proofs.Memory.Serving
import BufferedHttp.Proofs.Memory.Order
import BufferedHttp.Proofs.Memory.Session
import BufferedHttp.Proofs.Memory.Agreement
import BufferedHttp.Proofs.Memory.Release
import BufferedHttp.Proofs.Message.Header
import BufferedHttp.Proofs.Memory.Buffering
import BufferedHttp.Proofs.Memory.Delivery
import BufferedHttp.Proofs.Memory.Replies
import BufferedHttp.Proofs.Memory.Queue
import BufferedHttp.Proofs.Memory.Relay
import BufferedHttp.Proofs.Memory.Concealment
import BufferedHttp.Proofs.Text.Cut
import BufferedHttp.Proofs.Uri.Query
import BufferedHttp.Proofs.Demo.Reach
import BufferedHttp.Proofs.Alike
import BufferedHttp.Proofs.Host.Simulation
import BufferedHttp.Proofs.Component.Method
import BufferedHttp.Proofs.Component.Matched
import BufferedHttp.Proofs.Component.Simulation
import BufferedHttp.Proofs.Component.Refinement
import BufferedHttp.Proofs.Component.Ledger
import BufferedHttp.Proofs.Component.Holding
import BufferedHttp.Proofs.Component.Wavering
import BufferedHttp.Proofs.Component.Answering
import BufferedHttp.Proofs.Component.Unwinding
import BufferedHttp.Proofs.Toml.Number
import BufferedHttp.Proofs.Toml.Setting
import BufferedHttp.Proofs.Config.Saving
import BufferedHttp.Proofs.Message.Correspondence
import BufferedHttp.Proofs.Component.Behind
import BufferedHttp.Proofs.Demo.Echo
import BufferedHttp.Proofs.Memory.Truncation
import BufferedHttp.Proofs.Host.Tapped
import BufferedHttp.Proofs.Host.CutOff
import BufferedHttp.Proofs.Memory.Bounds
import BufferedHttp.Proofs.Memory.Reads
import BufferedHttp.Proofs.Memory.Stages
import BufferedHttp.Proofs.Uri.Splitting
import BufferedHttp.Proofs.Memory.Precedence
import BufferedHttp.Proofs.Uri.Recomposed
import BufferedHttp.Proofs.Component.Handing
import BufferedHttp.Proofs.Config.Timeouts
import BufferedHttp.Proofs.Config.Loading
import BufferedHttp.Proofs.Text.Faults
import BufferedHttp.Proofs.Message.FirstFault
import BufferedHttp.Proofs.Uri.Percent
import BufferedHttp.Proofs.Demo.Fetch
import BufferedHttp.Proofs.Transfer.Iteration
import BufferedHttp.Proofs.Transfer.Words
import BufferedHttp.Proofs.Demo.Methods
import BufferedHttp.Proofs.Memory.Consistency
import BufferedHttp.Proofs.Memory.Conservation
import BufferedHttp.Proofs.Uri.Segments
import BufferedHttp.Proofs.Text.Ascii
import BufferedHttp.Proofs.Message.Lookup
