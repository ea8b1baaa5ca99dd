import SmartAp.Tasks.ClientsServed
import SmartAp.Tasks.SocketOwnership
import SmartAp.Tasks.ShutdownOrder
import SmartAp.Tasks.AnyCommands
import SmartAp.Tasks.RunningBit
import SmartAp.Tasks.LastClient
import SmartAp.Tasks.Downloads
import SmartAp.Tasks.DnsInstances
import SmartAp.Tasks.DnsErrors
import SmartAp.Tasks.Beep
import SmartAp.CString.Buffer
import SmartAp.Http.Path
import SmartAp.Http.RightFile
import SmartAp.Dns.Grammar
import SmartAp.Dns.Packet
import SmartAp.Dns.Reference
import SmartAp.Dns.Decode
import SmartAp.Dns.ReplyHeader
import SmartAp.Limiter.FixedWindow
import SmartAp.Dns.RateLimit
import SmartAp.Scan.Tally
import SmartAp.Wifi.BestChannel
import SmartAp.Program.Access
import SmartAp.Dns.RxAccess
import SmartAp.Http.Chunked
import SmartAp.Http.SendFile
import SmartAp.Http.Handlers
import SmartAp.Http.ParseRequest
import SmartAp.Http.Sessions
import SmartAp.SdCard.Layers
import SmartAp.SdCard.MountCases
import SmartAp.SdCard.FirstMount
import SmartAp.SdCard.Layering
import SmartAp.Program.Triple
import SmartAp.SdCard.Driver
import SmartAp.SdCard.MountVolume
import SmartAp.SdCard.LockedCard
import SmartAp.Crc.Remainder
import SmartAp.SdCard.Bus
import SmartAp.SdCard.LockableCard
import SmartAp.SdCard.CardLock
import SmartAp.SdCard.Monitor
import SmartAp.SdCard.BlockWrites
import SmartAp.SdCard.Teardown
import SmartAp.SdCard.StorageInit
import SmartAp.Bits.Fields
import SmartAp.SdCard.Ioctl
import SmartAp.SdCard.Geometry
import SmartAp.SdCard.Addresses
import SmartAp.SdCard.Record
import SmartAp.SdCard.LockPayload
import SmartAp.Crc.Errors
import SmartAp.SdCard.Frames
import SmartAp.SdCard.Stable
import SmartAp.SdCard.ReadMonitor
import SmartAp.SdCard.BlockReads
import SmartAp.SdCard.SectorReads
import SmartAp.SdCard.Logged
import SmartAp.SdCard.CardCalls
import SmartAp.Crc.Aligned
import SmartAp.SdCard.CommandFrames
import SmartAp.Program.Fuel
import SmartAp.Program.Deadline
import SmartAp.SdCard.Polling
import SmartAp.SdCard.PollingEnds
import SmartAp.SdCard.PollingReports
import SmartAp.Program.Replay
import SmartAp.SdCard.PollingReplays
import SmartAp.Store.Words
import SmartAp.Store.Overlay
import SmartAp.Program.Zoom
import SmartAp.Links.Path
import SmartAp.Fat.Window
import SmartAp.Fat.Table
import SmartAp.Fat.Clusters
import SmartAp.Fat.Allocation
import SmartAp.Fat.Volume
import SmartAp.Fat.Mount
import SmartAp.Fat.File
import SmartAp.Fat.Content
import SmartAp.Fat.FileVolume
import SmartAp.Fat.FileCache
import SmartAp.Fat.FileRead
import SmartAp.Fat.FileWrite
import SmartAp.Fat.FileSeek
import SmartAp.Fat.FileSync
import SmartAp.Files.ByteFile
import SmartAp.Fat.FileRun
import SmartAp.Fat.FileOpen
import SmartAp.Fat.Directory
import SmartAp.Fat.DirScan
import SmartAp.Fat.DirObjects
import SmartAp.Fat.DirFind
import SmartAp.Fat.FileInfo
import SmartAp.Fat.DirRead
import SmartAp.Fat.DirRemove
