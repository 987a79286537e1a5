import RVDataFusionServer.Common.Admission
import RVDataFusionServer.Common.CacheTimestamp
import RVDataFusionServer.Common.Codec
import RVDataFusionServer.Common.CrcRoutines
import RVDataFusionServer.Common.Dismissal
import RVDataFusionServer.Common.NetStatus
import RVDataFusionServer.Common.Proc
import RVDataFusionServer.Common.StartTask
import RVDataFusionServer.Common.UnpackExact
import RVDataFusionServer.Data.AlarmPipeline
import RVDataFusionServer.Data.AlarmTask
import RVDataFusionServer.Data.CountLimit
import RVDataFusionServer.Data.DeviceNo
import RVDataFusionServer.Data.FrameReuse
import RVDataFusionServer.Data.FusedTargets
import RVDataFusionServer.Data.HumanData
import RVDataFusionServer.Data.HumanLitPole
import RVDataFusionServer.Data.JamAlarm
import RVDataFusionServer.Data.LanePurity
import RVDataFusionServer.Data.LaneTable
import RVDataFusionServer.Data.Progress
import RVDataFusionServer.Data.ReferenceLane
import RVDataFusionServer.Data.ResendPass
import RVDataFusionServer.Data.Selection
import RVDataFusionServer.Data.SilentLoss
import RVDataFusionServer.Data.TimeLimit
import RVDataFusionServer.Data.TrafficFlowGather
import RVDataFusionServer.Eoc.NtpInfo
import RVDataFusionServer.EocCom.DNSServer
import RVDataFusionServer.EocCom.DnsDataParse
import RVDataFusionServer.EocCom.DnsQuery
import RVDataFusionServer.EocCom.DownloadStep
import RVDataFusionServer.EocCom.EocSession
import RVDataFusionServer.EocCom.FileFun
import RVDataFusionServer.EocCom.GetPkgs
import RVDataFusionServer.EocCom.ProcessR102
import RVDataFusionServer.EocCom.SearchDNS
import RVDataFusionServer.EocCom.SessionRuns
import RVDataFusionServer.GetData.OrderList
import RVDataFusionServer.Kafka.CrossStage
import RVDataFusionServer.Lib.AlgorithmParam
import RVDataFusionServer.Library.Throttle
import RVDataFusionServer.MyTcp.Conns
import RVDataFusionServer.MyTcp.CrcBurst
import RVDataFusionServer.MyTcp.FrameBuffer
import RVDataFusionServer.MyTcp.Link
import RVDataFusionServer.MyTcp.Reconnect
import RVDataFusionServer.MyTcp.Response
import RVDataFusionServer.MyTcp.Server
import RVDataFusionServer.Net.SendLoops
import RVDataFusionServer.Os.Base64
import RVDataFusionServer.Os.Timer
import RVDataFusionServer.RingBuffer.Refinement
import RVDataFusionServer.SignalControl.Communicate
import RVDataFusionServer.SignalControl.PlainRoundTrip
import RVDataFusionServer.SignalControl.StuffedRoundTrip
