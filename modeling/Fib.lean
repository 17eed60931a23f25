import Fib.Library.Transition
import Fib.Library.Goroutine
import Fib.Library.Bytes
import Fib.Library.Lines
import Fib.Library.Chunks
import Fib.Library.Message
import Fib.Library.Search
import Fib.Library.Scanner
import Fib.Engine.SendQueue
import Fib.Engine.Storage
import Fib.Engine.Connection
import Fib.Engine.Machine
import Fib.Engine.Fifo
import Fib.Engine.Discipline
import Fib.Engine.Promises
import Fib.Engine.Readiness
import Fib.Engine.Descriptor
import Fib.Http.Header
import Fib.Http.Response
import Fib.Http.Writer
import Fib.Http.Splitting
import Fib.Http.Framing
import Fib.Http.Serving
import Fib.Http.Streaming
import Fib.Http.Pipeline
import Fib.Http.Names
import Fib.Http.Parser
import Fib.Http.Scan
import Fib.Http.Segmentation
import Fib.Http.Retention
import Fib.Http.Session
import Fib.Library.Frames
import Fib.Http2.Frame
import Fib.Http2.ClientStreams
import Fib.Http2.Request
import Fib.Http2.Connection
import Fib.Http2.Server
import Fib.Http2.Actions
import Fib.Http2.Progress
import Fib.Http2.Responses
import Fib.Http2.Shutdown
import Fib.Http2.Order
import Fib.Http2.Requests
import Fib.Websocket.Parser
import Fib.Websocket.Serving
import Fib.Websocket.Window
import Fib.Websocket.Closing
import Fib.Library.Bits
import Fib.Library.PrefixInt
import Fib.Library.PrefixTree
import Fib.Hpack.Huffman
import Fib.Hpack.Codec
import Fib.Hpack.InStep
import Fib.Qpack.Codec
import Fib.Qpack.Sections
import Fib.Library.Varint
import Fib.Library.FrameStream
import Fib.Http3.Fields
import Fib.Http3.Frames
import Fib.Http3.RequestStream
import Fib.Http3.Reading
import Fib.Http2.Carriage
import Fib.Http2.Decoding
import Fib.Http3.ClientStream
import Fib.Http3.Responses
import Fib.Http3.Requests
import Fib.Library.Tally
import Fib.Taskpool.Elastic
import Fib.Taskpool.Slots
import Fib.Library.Ring
import Fib.Library.Cond
import Fib.Taskpool.Adaptive
import Fib.Taskpool.Commitment
import Fib.Tls.Layer
import Fib.Engine.Backlog
import Fib.Engine.Budget
import Fib.Engine.Tokens
import Fib.Library.Threads
import Fib.Http3.Client
import Fib.Http3.Stranding
import Fib.Http3.Retrying
import Fib.Quic.RangeSet
import Fib.Quic.SendBuffer
import Fib.Quic.Memory
import Fib.Quic.Amplification
import Fib.Quic.Params
import Fib.Quic.Rtt
