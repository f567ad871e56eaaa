import Pihpsdr.Lib.Run
import Pihpsdr.Lib.Indices
import Pihpsdr.Lib.Ring
import Pihpsdr.Lib.BlockRing
import Pihpsdr.OldProtocol.Lemmas.TxRing
import Pihpsdr.OldProtocol.Impl.OzyByte
import Pihpsdr.OldProtocol.Lemmas.OzyFrame
import Pihpsdr.OldProtocol.Lemmas.OzyDeliver
import Pihpsdr.OldProtocol.Lemmas.OzyResync
import Pihpsdr.OldProtocol.Impl.OzySend
import Pihpsdr.OldProtocol.Lemmas.OzyCommand
import Pihpsdr.NewProtocol.Impl.RxRings
import Pihpsdr.NewProtocol.Lemmas.RxRings
import Pihpsdr.ClientServer.Impl.Wire
import Pihpsdr.ClientServer.Lemmas.Wire
import Pihpsdr.ClientServer.Impl.Memory
import Pihpsdr.ClientServer.Lemmas.VfoData
import Pihpsdr.ClientServer.Impl.Band
import Pihpsdr.ClientServer.Lemmas.Band
import Pihpsdr.ClientServer.Impl.Receiver
import Pihpsdr.ClientServer.Lemmas.Receiver
import Pihpsdr.ClientServer.Impl.Tuning
import Pihpsdr.ClientServer.Impl.TransmitLink
import Pihpsdr.ClientServer.Lemmas.Tuning
import Pihpsdr.ClientServer.Impl.Messages
import Pihpsdr.ClientServer.Impl.Framing
import Pihpsdr.Lib.Matcher
import Pihpsdr.ClientServer.Lemmas.Framing
import Pihpsdr.ClientServer.Impl.MicStream
import Pihpsdr.ClientServer.Lemmas.MicStream
import Pihpsdr.Radio.State
import Pihpsdr.Vfo.Impl.Settings
import Pihpsdr.Vfo.Impl.Tuning
import Pihpsdr.Vfo.Impl.Change
import Pihpsdr.Vfo.Lemmas.Settings
import Pihpsdr.Vfo.Lemmas.Tuning
import Pihpsdr.ClientServer.Impl.RemoteCommand
import Pihpsdr.Vfo.Lemmas.Change
import Pihpsdr.Vfo.Impl.Persist
import Pihpsdr.Vfo.Lemmas.Bandstack
import Pihpsdr.Vfo.Lemmas.AdcChange
import Pihpsdr.Vfo.Lemmas.Fits
import Pihpsdr.ClientServer.Lemmas.Mirror
import Pihpsdr.Rigctl.Impl.Clients
import Pihpsdr.Rigctl.Lemmas.Framing
import Pihpsdr.Transmit.Impl.Switch
import Pihpsdr.Transmit.Lemmas.Switch
import Pihpsdr.Transmit.Lemmas.PttDelay
import Pihpsdr.Rigctl.Lemmas.Clients
import Pihpsdr.Rigctl.Impl.CwText
import Pihpsdr.Rigctl.Impl.CwRing
import Pihpsdr.Rigctl.Lemmas.CwRing
import Pihpsdr.Rigctl.Lemmas.CwText
import Pihpsdr.Vfo.Impl.FilterEdges
import Pihpsdr.Rigctl.Impl.FilterCommands
import Pihpsdr.Rigctl.Lemmas.FilterCommands
import Pihpsdr.Lib.Decimal
import Pihpsdr.Rigctl.Impl.Rig
import Pihpsdr.Rigctl.Impl.Command
import Pihpsdr.Rigctl.Impl.Extended
import Pihpsdr.Rigctl.Impl.Parse
import Pihpsdr.Rigctl.Lemmas.Command
import Pihpsdr.Rigctl.Lemmas.OwnText
import Pihpsdr.Rigctl.Lemmas.Effects
import Pihpsdr.Rigctl.Lemmas.StaleBytes
import Pihpsdr.Lib.Assoc
import Pihpsdr.Vfo.Lemmas.Tables
import Pihpsdr.Vfo.Lemmas.Untouched
import Pihpsdr.Rigctl.Lemmas.Tables
import Pihpsdr.Rigctl.Lemmas.InBounds
import Pihpsdr.Rigctl.Lemmas.TableBounds
import Pihpsdr.Rigctl.Lemmas.Params
import Pihpsdr.Rigctl.Lemmas.Var1
import Pihpsdr.Rigctl.Lemmas.RoundTrip
import Pihpsdr.Transmit.Lemmas.Changes
import Pihpsdr.Transmit.Impl.Station
import Pihpsdr.Transmit.Lemmas.Guards
import Pihpsdr.Transmit.Lemmas.Vox
import Pihpsdr.Transmit.Lemmas.ToneGenerator
import Pihpsdr.Transmit.Lemmas.CwEvents
import Pihpsdr.Transmit.Lemmas.CwKeys
import Pihpsdr.Transmit.Impl.CwEvents
import Pihpsdr.Transmit.Impl.Keyer
import Pihpsdr.Transmit.Lemmas.Keyer
import Pihpsdr.Transmit.Lemmas.Iambic
import Pihpsdr.Transmit.Lemmas.IambicModes
import Pihpsdr.Transmit.Lemmas.LetterSpace
import Pihpsdr.Transmit.Lemmas.Capture
import Pihpsdr.Transmit.Impl.Tune
import Pihpsdr.Transmit.Lemmas.Tune
import Pihpsdr.Vfo.Lemmas.Satellite
import Pihpsdr.Lib.Text
import Pihpsdr.Lib.Fixed
import Pihpsdr.Properties.Impl.Property
import Pihpsdr.Properties.Lemmas.Property
import Pihpsdr.Properties.Impl.Profiles
import Pihpsdr.Properties.Lemmas.Profiles
import Pihpsdr.Vfo.Lemmas.Persist
import Pihpsdr.Vfo.Impl.Offset
import Pihpsdr.Vfo.Lemmas.Transverter
import Pihpsdr.Vfo.Impl.ReceiverObjects
import Pihpsdr.Vfo.Lemmas.ReceiverObjects
import Pihpsdr.Vfo.Lemmas.Offset
import Pihpsdr.Vfo.Lemmas.Hearing
import Pihpsdr.Vfo.Lemmas.HearingChange
import Pihpsdr.ClientServer.Lemmas.TransmitLink
import Pihpsdr.Properties.Impl.LoadProfile
import Pihpsdr.Properties.Lemmas.LoadProfile
import Pihpsdr.Vfo.Impl.Memory
import Pihpsdr.Vfo.Lemmas.Memory
import Pihpsdr.ClientServer.Lemmas.DriveLink
import Pihpsdr.ClientServer.Impl.ClientUdp
import Pihpsdr.ClientServer.Lemmas.ClientUdp
import Pihpsdr.Tci.Impl.Server
import Pihpsdr.Tci.Lemmas.ClearMox
import Pihpsdr.Tci.Lemmas.Roster
import Pihpsdr.Tci.Lemmas.Linked
import Pihpsdr.Tci.Lemmas.Table
import Pihpsdr.Tci.Lemmas.Release
import Pihpsdr.Tci.Lemmas.Binary
import Pihpsdr.Tci.Impl.Client
import Pihpsdr.Midi.Impl.Parser
import Pihpsdr.Midi.Lemmas.Parser
import Pihpsdr.Tci.Impl.TxAudio
import Pihpsdr.Tci.Lemmas.TxAudio
import Pihpsdr.Tci.Impl.RxAudio
import Pihpsdr.Tci.Lemmas.RxAudio
import Pihpsdr.Midi.Impl.Commands
import Pihpsdr.Midi.Lemmas.Names
import Pihpsdr.Midi.Lemmas.Commands
import Pihpsdr.Vfo.Lemmas.BandSearch
import Pihpsdr.Lib.Packet
import Pihpsdr.NewProtocol.Impl.Ddc
import Pihpsdr.NewProtocol.Lemmas.Ddc
import Pihpsdr.OldProtocol.Impl.Buffers
import Pihpsdr.OldProtocol.Lemmas.Buffers
import Pihpsdr.OldProtocol.Lemmas.MetisRead
import Pihpsdr.ClientServer.Lemmas.RecvTcp
import Pihpsdr.NewProtocol.Lemmas.IqData
import Pihpsdr.Transmit.Lemmas.Passband
import Pihpsdr.Tci.Impl.CwText
import Pihpsdr.Tci.Lemmas.CwText
import Pihpsdr.Tci.Lemmas.CwMsg
import Pihpsdr.NewProtocol.Impl.TxRings
import Pihpsdr.NewProtocol.Lemmas.TxRings
import Pihpsdr.Lib.Mealy
import Pihpsdr.Rigctl.Impl.Buttons
import Pihpsdr.Rigctl.Lemmas.Buttons
import Pihpsdr.Tci.Impl.Reporter
import Pihpsdr.Tci.Lemmas.Reports
import Pihpsdr.Vfo.Lemmas.FilterGeometry
import Pihpsdr.Lib.Mask
import Pihpsdr.NewProtocol.Impl.HighPriority
import Pihpsdr.NewProtocol.Lemmas.HighPriority
import Pihpsdr.Gpio.Impl.Controller
import Pihpsdr.Gpio.Lemmas.Encoder
import Pihpsdr.Gpio.Lemmas.Debounce
import Pihpsdr.Gpio.Lemmas.I2c
import Pihpsdr.Discovery.Impl.Receive
import Pihpsdr.Discovery.Lemmas.Receive
import Pihpsdr.Vfo.Lemmas.BandSettings
import Pihpsdr.NewProtocol.Lemmas.Phase
import Pihpsdr.OldProtocol.Lemmas.IoBoard
import Pihpsdr.Lib.Smoothing
import Pihpsdr.Radio.Meters
import Pihpsdr.Lib.Links
import Pihpsdr.Midi.Lemmas.Order
import Pihpsdr.Midi.Impl.Wheel
import Pihpsdr.Midi.Lemmas.Wheel
import Pihpsdr.Transmit.Impl.Microphone
import Pihpsdr.Transmit.Lemmas.Microphone
import Pihpsdr.DxCluster.Impl.Spots
import Pihpsdr.DxCluster.Lemmas.ParseLine
import Pihpsdr.DxCluster.Lemmas.SpotFile
import Pihpsdr.DxCluster.Lemmas.ReadLoop
import Pihpsdr.DxCluster.Impl.Panadapter
import Pihpsdr.DxCluster.Lemmas.HitTest
import Pihpsdr.Simulator.Impl.Ep2
import Pihpsdr.Simulator.Lemmas.Mirror
import Pihpsdr.Simulator.Lemmas.Refresh
import Pihpsdr.Simulator.Impl.Ep6
import Pihpsdr.Simulator.Lemmas.Ep6
import Pihpsdr.Simulator.Impl.P2
import Pihpsdr.Simulator.Lemmas.P2
import Pihpsdr.Saturn.Impl.RxThread
import Pihpsdr.Saturn.Lemmas.RxThread
import Pihpsdr.Lib.Workers
import Pihpsdr.Saturn.Impl.Registers
import Pihpsdr.Saturn.Lemmas.Registers
import Pihpsdr.Saturn.Lemmas.Settings
import Pihpsdr.Saturn.Lemmas.Hardware
