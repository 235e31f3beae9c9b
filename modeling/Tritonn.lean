import Tritonn.Lib.Run
import Tritonn.Totals.Total
import Tritonn.Totals.Accumulate
import Tritonn.Data.Conservation
import Tritonn.Data.Pulses
import Tritonn.Report.Tiling
import Tritonn.Report.Average
import Tritonn.Lib.Exchange
import Tritonn.Lib.Segment
import Tritonn.Lib.Result
import Tritonn.Store.Variable
import Tritonn.Modbus.Client
import Tritonn.Modbus.Manager
import Tritonn.Modbus.Handlers
import Tritonn.Modbus.Framing
import Tritonn.Modbus.Bounds
import Tritonn.Modbus.Write
import Tritonn.Modbus.RoundTrip
import Tritonn.Lib.Updates
import Tritonn.Store.Access
import Tritonn.Modbus.Config
import Tritonn.Modbus.Layout
import Tritonn.Modbus.Refresh
import Tritonn.Terminal.Packet
import Tritonn.Terminal.Framing
import Tritonn.Terminal.Manager
import Tritonn.Terminal.Authorised
import Tritonn.Json.Client
import Tritonn.Json.Framing
import Tritonn.Json.Manager
import Tritonn.Json.Tokens
import Tritonn.Lib.Mailbox
import Tritonn.Store.External
import Tritonn.Store.Mirror
import Tritonn.Io.ModuleCRM
import Tritonn.Shared.TickCount
import Tritonn.Prove.Machine
import Tritonn.Prove.Cycle
import Tritonn.Prove.Fresh
import Tritonn.Prove.Detectors
import Tritonn.Lib.Brackets
import Tritonn.Prove.Acts
import Tritonn.Prove.Measurement
import Tritonn.Prove.Interlock
import Tritonn.Sampler.Sampler
import Tritonn.Sampler.Accounting
import Tritonn.Sampler.Pause
import Tritonn.Data.Manager
import Tritonn.Terminal.Login
import Tritonn.Event.Delivery
import Tritonn.Data.Dump
import Tritonn.Data.ManagerDump
import Tritonn.Data.Restore
import Tritonn.Lib.Calendar
import Tritonn.Report.Boundaries
import Tritonn.Data.Source
import Tritonn.Data.Balance
import Tritonn.Json.Commands
import Tritonn.Report.Increment
import Tritonn.Shared.ThreadClass
import Tritonn.Shared.ThreadTime
import Tritonn.Data.Flow
import Tritonn.Lib.Interpolation
import Tritonn.Lib.Logged
import Tritonn.Data.KFactor
import Tritonn.Data.Division
import Tritonn.Data.Factors
import Tritonn.Data.Average
import Tritonn.Lib.Latch
import Tritonn.Data.Limit
import Tritonn.Data.Hysteresis
import Tritonn.Data.Selector
import Tritonn.Data.Failover
import Tritonn.Lib.Scale
import Tritonn.Shared.Conversion
import Tritonn.Sampler.Start
import Tritonn.Sampler.Work
import Tritonn.Sampler.Timing
import Tritonn.Lib.Dose
import Tritonn.Sampler.Dosing
import Tritonn.Prove.Average
import Tritonn.Prove.Stabilization
import Tritonn.Lib.Window
import Tritonn.Lib.Extended
import Tritonn.Lib.Proleptic
import Tritonn.Lib.Numeral
import Tritonn.Io.Averaging
import Tritonn.Io.Filter
import Tritonn.Io.ModuleAO4
import Tritonn.Data.AnalogOutput
import Tritonn.Data.AnalogInput
import Tritonn.Data.Precision
import Tritonn.Report.WeekNumber
import Tritonn.Report.PeriodLength
import Tritonn.Store.TextWrite
import Tritonn.Store.Printed
import Tritonn.Store.Accessors
import Tritonn.Store.Snapshot
import Tritonn.Lib.Buffer
import Tritonn.Lib.Tagged
import Tritonn.Event.Parameters
import Tritonn.Lib.Fields
import Tritonn.Lib.Utf8
import Tritonn.Shared.Container
import Tritonn.Event.Codec
import Tritonn.Modbus.SwapBytes
import Tritonn.Modbus.ReadReply
import Tritonn.Totals.Load
import Tritonn.Data.VarsDump
import Tritonn.Shared.BitsArray
import Tritonn.Prove.Load
import Tritonn.Shared.Cipher
import Tritonn.Lib.Quoted
import Tritonn.Shared.XmlFile
import Tritonn.Lib.Iteration
import Tritonn.Data.DensSol
import Tritonn.Lib.Lower
import Tritonn.Lib.Keyed
import Tritonn.Event.Describe
import Tritonn.Shared.HexCodec
import Tritonn.Data.TextClass
import Tritonn.Shared.Compared
import Tritonn.Store.Names
import Tritonn.Shared.BufferClient
import Tritonn.Lib.Register
import Tritonn.Terminal.Turns
import Tritonn.Terminal.Checksum
import Tritonn.Terminal.Ttterm
import Tritonn.Terminal.Session
import Tritonn.Terminal.Accounts
import Tritonn.Data.Config
import Tritonn.Data.Resolve
import Tritonn.Event.View
import Tritonn.Shared.Time64
import Tritonn.Shared.SafeYear
import Tritonn.Shared.TcpClient
import Tritonn.Io.Discrete
