import OsmoMsc.Vlr.DedupTuples
import OsmoMsc.Vlr.SgsLocUpdate
import OsmoMsc.Vlr.InsertData
import OsmoMsc.Vlr.SgsMirror
import OsmoMsc.Vlr.TupleRun
import OsmoMsc.Vlr.HlrAnswer
import OsmoMsc.Cdr.BerFile
import OsmoMsc.Ran.Reset
import OsmoMsc.Sdp.Accepted
import OsmoMsc.Sdp.CodecFilter
import OsmoMsc.Sdp.Bounds
import OsmoMsc.Csd.BearerServices
import OsmoMsc.Rtp.PtMap
import OsmoMsc.Api.Routes
import OsmoMsc.Msc.MscARun
import OsmoMsc.Msc.AssignmentRun
import OsmoMsc.Msc.MscTRun
import OsmoMsc.Msc.HandoverNumber
import OsmoMsc.Msc.HandoverRtpRun
import OsmoMsc.Cc.MnccUses
import OsmoMsc.Cc.ActiveCalls
import OsmoMsc.Cc.CallRows
import OsmoMsc.Vgcs.Establish
import OsmoMsc.Vgcs.UplinkRun
import OsmoMsc.Smpp.EsmeLink
import OsmoMsc.Smpp.SmscBind
import OsmoMsc.Smpp.Validity
import OsmoMsc.Sms.QueueRun
import OsmoMsc.Sms.MoSubmit
