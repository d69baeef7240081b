import Mp257Fsbl.Foundation.Transition
import Mp257Fsbl.Foundation.Store
import Mp257Fsbl.Foundation.Word
import Mp257Fsbl.Utils.Memory
import Mp257Fsbl.Sd.Card
import Mp257Fsbl.Usb.Dwc3
import Mp257Fsbl.Usb.Core
import Mp257Fsbl.Usb.Msc.Class
import Mp257Fsbl.Usb.Msc.Bus
import Mp257Fsbl.Usb.Msc.Phase
import Mp257Fsbl.Usb.Msc.Bounds
import Mp257Fsbl.Usb.Msc.Host
import Mp257Fsbl.Usb.Msc.BlockDevice
import Mp257Fsbl.Usb.Msc.WriteData
import Mp257Fsbl.Usb.Msc.Transport
import Mp257Fsbl.Usb.Msc.InPhase
import Mp257Fsbl.Usb.Msc.Reception
import Mp257Fsbl.Usb.Msc.Wire
import Mp257Fsbl.Usb.Msc.Course
import Mp257Fsbl.Usb.Msc.Stages
import Mp257Fsbl.Usb.Msc.DataLimit
import Mp257Fsbl.Usb.Msc.Residue
import Mp257Fsbl.Usb.Msc.StatusTruth
import Mp257Fsbl.Usb.Msc.StatusTags
import Mp257Fsbl.Usb.Msc.Port
import Mp257Fsbl.Usb.Msc.Recovery
import Mp257Fsbl.Psci.Smc
import Mp257Fsbl.Psci.Pen
import Mp257Fsbl.Psci.Power
import Mp257Fsbl.Foundation.Log
import Mp257Fsbl.Sd.Init
import Mp257Fsbl.Sd.SelfTest
import Mp257Fsbl.Ddr.Init
import Mp257Fsbl.Boot.Load
import Mp257Fsbl.Boot.Board
import Mp257Fsbl.Boot.DdrRule
import Mp257Fsbl.Boot.DdrGate
import Mp257Fsbl.Boot.DdrOnce
import Mp257Fsbl.Boot.CardUp
import Mp257Fsbl.Boot.UsbRepeat
import Mp257Fsbl.Boot.SelfTestRestores
import Mp257Fsbl.Foundation.Circular
import Mp257Fsbl.Utils.CString
import Mp257Fsbl.Cmd.Console
import Mp257Fsbl.Cmd.Editor
import Mp257Fsbl.Cmd.Terminal
import Mp257Fsbl.Cmd.Batching
import Mp257Fsbl.Cmd.Line
import Mp257Fsbl.Cmd.History
import Mp257Fsbl.Cmd.Fifo
import Mp257Fsbl.Foundation.Queue
import Mp257Fsbl.Cmd.Complete
import Mp257Fsbl.Cmd.Desk
import Mp257Fsbl.Cmd.Representation
import Mp257Fsbl.Cmd.FreshPrompt
import Mp257Fsbl.Cmd.Escape
import Mp257Fsbl.Cmd.Selection
import Mp257Fsbl.Usb.Msc.Capacity
import Mp257Fsbl.Boot.Chunks
import Mp257Fsbl.Boot.LoadExact
import Mp257Fsbl.Boot.HandOff
import Mp257Fsbl.Utils.Numeral
import Mp257Fsbl.Cmd.Arguments
import Mp257Fsbl.Psci.Release
import Mp257Fsbl.Psci.Halves
import Mp257Fsbl.Foundation.Masked
import Mp257Fsbl.Pmic.Rails
import Mp257Fsbl.Pmic.Sequence
import Mp257Fsbl.Utils.Standard
import Mp257Fsbl.Sd.WriteFifo
import Mp257Fsbl.Foundation.Driver
import Mp257Fsbl.Rcc.Pll
import Mp257Fsbl.Rcc.Reprogram
import Mp257Fsbl.Rcc.Bypass
import Mp257Fsbl.Rcc.Flexgen
import Mp257Fsbl.I2c.Controller
import Mp257Fsbl.I2c.Transfer
import Mp257Fsbl.I2c.Results
import Mp257Fsbl.I2c.Truthful
import Mp257Fsbl.Foundation.Nets
import Mp257Fsbl.Ddr.MemTest
import Mp257Fsbl.Foundation.Interleaved
import Mp257Fsbl.Ddr.Mailbox
import Mp257Fsbl.Ddr.Training
import Mp257Fsbl.Ddr.Retention
import Mp257Fsbl.Ddr.Wiring
import Mp257Fsbl.Foundation.Calls
import Mp257Fsbl.Sd.ReadFifo
import Mp257Fsbl.Sd.Command
import Mp257Fsbl.Sd.Mmc
import Mp257Fsbl.Sd.Retry
import Mp257Fsbl.Sd.Protocol
import Mp257Fsbl.Sd.Reachable
import Mp257Fsbl.Sd.Enumerate
import Mp257Fsbl.Foundation.Sink
import Mp257Fsbl.Printf.Engine
import Mp257Fsbl.Printf.Output
import Mp257Fsbl.Printf.Directive
import Mp257Fsbl.Printf.Integer
import Mp257Fsbl.Printf.Standard
import Mp257Fsbl.Usb.Control.Driver
import Mp257Fsbl.Usb.Control.Device
import Mp257Fsbl.Usb.Control.Listening
import Mp257Fsbl.Usb.Control.Requests
import Mp257Fsbl.Usb.Control.Replies
import Mp257Fsbl.Usb.Control.Stages
import Mp257Fsbl.Usb.Control.Link
import Mp257Fsbl.Usb.Control.Transfers
import Mp257Fsbl.Usb.Control.Progress
import Mp257Fsbl.Usb.Control.EventBuffer
