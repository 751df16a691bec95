import LibTsn.MrpSilence
import LibTsn.SrpAttach
import LibTsn.SrpChurn
import LibTsn.MrpBounds
import LibTsn.AcmpAnswers
import LibTsn.AcmpTalker
import LibTsn.ManagerAgree
import LibTsn.FirmwareUpload
import LibTsn.MediaClock
import LibTsn.MaapPool
import LibTsn.MaapExclusive
import LibTsn.TalkerListener
import LibTsn.GptpPathDelay
import LibTsn.FifoZeroing
import LibTsn.GptpReference
import LibTsn.ListenerInference
import LibTsn.MediaClockOutput
import LibTsn.SortAttrs
import LibTsn.AdpDiscovery
import LibTsn.MrpAging
import LibTsn.SrpTable
import LibTsn.MvrpFrames
