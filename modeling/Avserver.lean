import Avserver.Library.Run
import Avserver.Library.DList
import Avserver.Rtspd.FrameList
import Avserver.Rtspd.Frame
import Avserver.Rtspd.Service
import Avserver.Rtspd.Interleave
import Avserver.Rtspd.Ownership
import Avserver.Library.Bracket
import Avserver.AviSave.Recorder
import Avserver.AviSave.Locks
import Avserver.AviSave.Files
import Avserver.AviSave.Frames
import Avserver.Library.Outcome
import Avserver.Library.WriteBack
import Avserver.Msg.CString
import Avserver.Msg.Config
import Avserver.Msg.Session
import Avserver.Msg.Branch
import Avserver.Msg.Process
import Avserver.Msg.Touches
import Avserver.Msg.BranchTouches
import Avserver.Msg.Loop
import Avserver.Msg.Users
import Avserver.Msg.Flash
import Avserver.Msg.Encoder
import Avserver.Msg.Temporary
import Avserver.Msg.Selectors
import Avserver.Msg.Regions
import Avserver.Msg.InRange
import Avserver.Msg.Reads
import Avserver.Msg.ReadOnly
import Avserver.Msg.Labels
import Avserver.Msg.RoundTrip
import Avserver.Rtspd.Events
import Avserver.Rtspd.OpenBs
import Avserver.Rtspd.Effects
import Avserver.Rtspd.Rounds
import Avserver.Rtspd.Channels
import Avserver.Rtspd.Device
import Avserver.Rtspd.Stopping
import Avserver.Rtspd.Pools
import Avserver.Rtspd.Mailbox
import Avserver.P2p.Sessions
import Avserver.P2p.EventList
import Avserver.P2p.SendStatus
import Avserver.P2p.Reuse
import Avserver.AviSave.Connections
import Avserver.AviSave.Control
import Avserver.AviSave.Card
import Avserver.Rtspd.Boot
import Avserver.Rtspd.Reboot
import Avserver.Rtspd.Reported
import Avserver.Library.WriteLog
import Avserver.Msg.Enable
import Avserver.Rtspd.Startable
import Avserver.Msg.Effects
import Avserver.Msg.EncUpdate
import Avserver.Msg.Sockets
import Avserver.Msg.Overlay
import Avserver.Msg.Counts
import Avserver.Msg.Boot
import Avserver.Msg.Restart
import Avserver.Msg.UserTable
import Avserver.Msg.UserNames
import Avserver.Library.Shell
import Avserver.Msg.Clock
import Avserver.Msg.Shell
import Avserver.Rtspd.PoolRuns
import Avserver.AviSave.Stored
import Avserver.Msg.SelectLoop
import Avserver.Library.Pairs
import Avserver.Msg.Decimal
import Avserver.AviSave.RecCfg
import Avserver.Infrad.Control
import Avserver.Infrad.Button
import Avserver.Infrad.Saturation
import Avserver.AviSave.VideoInfo
import Avserver.Library.Guarded
import Avserver.Msg.Guards
import Avserver.Msg.Compares
import Avserver.Msg.Repeat
import Avserver.Library.Ring
import Avserver.Rtspd.AudioFifo
import Avserver.Library.Buffer
import Avserver.Rtspd.AudioBlock
import Avserver.Library.Counter
import Avserver.Rtspd.NalType
import Avserver.Rtspd.Ticks
import Avserver.Rtspd.AudioTicks
import Avserver.AviSave.DelDir
import Avserver.AviSave.Lag
import Avserver.Library.Rate
import Avserver.Rtspd.Average
import Avserver.Library.Scan
import Avserver.Msg.PresetName
import Avserver.Library.Retry
import Avserver.Msg.ResetLoop
import Avserver.Msg.PresetCommands
import Avserver.Msg.Presets
import Avserver.Rtspd.PlayBlock
import Avserver.Rtspd.PlayFrame
import Avserver.P2p.Online
import Avserver.Rtspd.Encoding
import Avserver.Rtspd.Handlers
import Avserver.Rtspd.Extended
import Avserver.Rtspd.Queues
import Avserver.Rtspd.Starting
import Avserver.Rtspd.Startup
import Avserver.Isp.Registers
import Avserver.Rtspd.Configured
import Avserver.Library.Monitor
import Avserver.Rtspd.Play
import Avserver.Rtspd.PlayAccount
import Avserver.Rtspd.PlayRuns
import Avserver.Rtspd.Connected
import Avserver.Rtspd.Poll
import Avserver.Library.Arm
import Avserver.Library.Quantizer
import Avserver.Rtspd.G711
import Avserver.AviSave.Delivery
import Avserver.AviSave.Follows
