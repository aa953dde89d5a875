/-
Module: OsmoMsc.Cc.Control
Purpose: The call control layer (gsm_04_08_cc.c): what it does on messages of the MS and of MNCC, on the end
  of paging, on timers, and when an RTP port is known or an assignment is done.
Trusted boundary: what the MNCC handler does on a message that ends no call, and what
  `msc_a_try_call_assignment()` and `msc_a_tx_assignment_cmd()` lead to, is any run of the layer
  (`out`); `trans_free()` closing a connection is followed by what that does as an input of its own
Main exports: CcEnv, CcInput, mnccTxToGsmCc, gsm0408RcvCc, gsm48CcTimeout, ccPagingCb, ccEvent, CcRun
-/
import OsmoMsc.Cc.Trans
import OsmoMsc.Library.NestedRun

namespace OsmoMsc.Cc

open Library (NestedRun)
open Msc (BearerTransfer)

/-! ### The environment -/

/-- A subscriber that `MNCC_SETUP_REQ` names. -/
structure Callee where
  vsub : Nat
  luComplete : Bool := true
  /-- `msc_a_for_vsub()`. -/
  conn : Option Nat := none

/-- What call control is told while it handles one input. -/
structure CcEnv where
  byMsisdn : List Char → Option Callee := fun _ => none
  byImsi : List Char → Option Callee := fun _ => none
  /-- `trans_alloc()` gets memory. -/
  allocates : Bool := true
  /-- `paging_request_start()` returns a request. -/
  pagingStarts : Bool := true
  /-- The connection takes `MSC_A_EV_TRANSACTION_ACCEPTED`. -/
  accepted : Bool := true
  /-- `msc_a_tx_dtap_to_i()` returns 0. -/
  dtapSent : Bool := true
  /-- `msc_a_try_call_assignment()` starts an assignment. -/
  startsAssignment : Bool := true
  /-- `msc_a_try_call_assignment()` returns 0. -/
  assigns : Bool := true
  /-- The remote codecs are known, the assigned one is not among them, and no assignment is pending. -/
  codecDiffers : Bool := false
  /-- Transaction identifiers of the subscriber that belong to other transactions than calls. -/
  otherIds : List Nat := []
  /-- `bearer_cap_set_radio()` returns 0. -/
  radioSet : Bool := true
  /-- A codec or a bearer service is left that both legs of the call know. -/
  codecMatch : Bool := true
  /-- `bearer_cap_filter_rev_lev()` returns 0. -/
  revLevMatch : Bool := true
  /-- The CN side of the call leg has an RTP address. -/
  cnRtp : Bool := true
  /-- `cc.local` names codecs. -/
  localCodecs : Bool := true
  /-- The SDP fits the MNCC message. -/
  sdpFits : Bool := true
  /-- `osmo_sockaddr_str_to_sockaddr()` of the own RTP address returns 0. -/
  rtpAddr : Bool := true
  /-- `MNCC_RTP_CONNECT` has an RTP address, in its SDP or outside. -/
  remoteRtp : Bool := true
  /-- `call_leg_local_bridge()` returns 0. -/
  bridges : Bool := true

/-! ### Both directions -/

variable (out : CcNet → CcNet) (w : CcNet) (callId : Nat)

/-- Handlers of messages of the MS change the transaction and tell MNCC. -/
def CcNet.indicate (f : CcTrans → CcTrans) (msg : MnccMsg) : CcNet :=
  w.withTrans callId fun t =>
    mnccRecvmsg out (w.onTrans callId f) (some callId) { msg with callref := t.callref }

/-- Handlers of messages of MNCC change the transaction and tell the MS. -/
def CcNet.tell (f : CcTrans → CcTrans) (type : CcMsgType) : CcNet :=
  transTxGsm48 (w.onTrans callId f) callId type

/-- `gsm48_stop_cc_timer()`. -/
def CcTrans.stopTimer (t : CcTrans) : CcTrans := { t with timer := none }

def CcTrans.setBearer (t : CcTrans) (bearer : Option BearerTransfer) : CcTrans :=
  { t with bearer := bearer.getD t.bearer }

/-- `trans->callref = 0; trans_free(trans)`. -/
def freeWithoutRef : CcNet :=
  transFree (w.onTrans callId fun t => { t with callref := 0 }) callId

/-- `mncc_release_ind()`, and the transaction is freed. -/
def releaseAndFree (cause : CcCause) : CcNet :=
  w.withTrans callId fun t =>
    freeWithoutRef (mnccReleaseInd w callId t.callref ⟨.prnSLu, cause⟩) callId

/-- `mncc_recv_rtp()`. -/
def mnccRecvRtp (callId : Option Nat) (callref : Nat) (cmd : MnccType) (sdp : Bool) : CcNet :=
  mnccRecvmsg out w callId { type := cmd, callref := callref, sdp := sdp }

/-- `msc_a_try_call_assignment()`. -/
def mscATryCallAssignment (env : CcEnv) : CcNet :=
  w.withTrans callId fun t =>
    if t.mscA.isNone then w.crash
    else if env.startsAssignment then out (w.onTrans callId fun t => { t with codecAssigned := false })
    else w

/-- `rx_mncc_sdp()`. -/
def rxMnccSdp (env : CcEnv) : CcNet :=
  w.withTrans callId fun t =>
    if t.codecAssigned && env.codecDiffers then
      -- msc_a_tx_assignment_cmd()
      if t.mscA.isNone then w.crash else out w
    else w

/-! ### Clearing -/

/-- `gsm48_cc_tx_disconnect()`. -/
def gsm48CcTxDisconnect (disc : MnccMsg) : CcNet :=
  w.tell callId
    (fun t => { t with timer := some .t306, msg := some disc }.newState .disconnectInd) .disconnect

/-- `gsm48_cc_rx_disconnect()`. -/
def gsm48CcRxDisconnect (msg : CcMsg) : CcNet :=
  w.indicate out callId (fun t => t.stopTimer.newState .disconnectReq) { type := .discInd, cause := msg.cause }

/-- `gsm48_cc_rx_release()`. -/
def gsm48CcRxRelease (msg : CcMsg) : CcNet :=
  w.withTrans callId fun t =>
    let w := w.onTrans callId CcTrans.stopTimer
    let rel : MnccMsg := { type := .unset, callref := t.callref, cause := msg.cause }
    let w :=
      if t.state = .releaseReq then mnccRecvTerminal w (some callId) { rel with type := .relCnf }
      else
        mnccRecvTerminal (transTxGsm48 w callId .releaseCompl) (some callId) { rel with type := .relInd }
    freeWithoutRef (w.onTrans callId fun t => t.newState .null) callId

/-- What `gsm48_cc_rx_release_compl()` tells MNCC. -/
def releaseComplType : CcState → MnccType
  | .callPresent => .rejInd
  | .releaseReq => .relCnf
  | _ => .relInd

/-- `gsm48_cc_rx_release_compl()`. -/
def gsm48CcRxReleaseCompl (msg : CcMsg) : CcNet :=
  w.withTrans callId fun t =>
    let w := w.onTrans callId CcTrans.stopTimer
    let w :=
      if t.callref = 0 then w
      else
        mnccRecvTerminal w (some callId)
          { type := releaseComplType t.state, callref := t.callref, cause := msg.cause }
    freeWithoutRef w callId

/-- `gsm48_cc_tx_release_compl()`. -/
def gsm48CcTxReleaseCompl : CcNet :=
  let w := w.onTrans callId fun t => { t with callref := 0 }.stopTimer
  transFree (transTxGsm48 w callId .releaseCompl) callId

/-! ### Timers -/

/-- `gsm48_cc_timeout()` with `release` set. -/
def releaseTimeout (l4 : CcCause) (mo : MnccCause) : CcNet :=
  w.withTrans callId fun t =>
    let w :=
      if t.callref = 0 then w
      else
        (mnccReleaseInd w callId t.callref ⟨.prnSLu, l4⟩).onTrans callId fun t => { t with callref := 0 }
    gsm48CcTxRelease w callId (some { type := .unset, callref := t.callref, cause := some mo })

/-- `gsm48_cc_timeout()` with `disconnect` set. -/
def disconnectTimeout (l4 : CcCause) : CcNet :=
  w.withTrans callId fun t =>
    let w :=
      if t.callref = 0 then w
      else
        mnccRecvmsg out w (some callId)
          { type := .discInd, callref := t.callref, cause := some ⟨.prnSLu, l4⟩ }
    gsm48CcTxDisconnect w callId
      { type := .unset, callref := t.callref, cause := some ⟨.user, .recoveryTimer⟩ }

/-- `gsm48_cc_timeout()`, if the timer is pending. -/
def gsm48CcTimeout : CcNet :=
  w.withTrans callId fun t =>
    let expired := w.onTrans callId CcTrans.stopTimer
    match t.timer with
    | none => w
    | some .t303 => releaseTimeout expired callId .userNotrespond ⟨.user, .recoveryTimer⟩
    | some .t310 => disconnectTimeout out expired callId .userNotrespond
    | some .t313 => disconnectTimeout out expired callId .normalUnspec
    | some .t301 => disconnectTimeout out expired callId .userNotrespond
    | some .t308 =>
      if t.t308Second then transFree expired callId
      else (gsm48CcTxRelease expired callId t.msg).onTrans callId fun t => { t with t308Second := true }
    | some .t306 =>
      -- the cause of the DISCONNECT, which is zero if it had none
      releaseTimeout expired callId .normalUnspec ((t.msg.bind (·.cause)).getD ⟨.user, .other 0⟩)
    | some .t323 => disconnectTimeout out expired callId .normalUnspec

/-- `gsm48_cc_guard_timeout()`, if the timer is pending. -/
def gsm48CcGuardTimeout : CcNet :=
  w.withTrans callId fun t =>
    if t.timerGuard then transFree (w.onTrans callId fun t => { t with timerGuard := false }) callId else w

/-! ### Establishing a call from the MS -/

/-- `gsm48_cc_rx_setup()`. -/
def gsm48CcRxSetup (msg : CcMsg) (env : CcEnv) : CcNet :=
  w.withTrans callId fun t =>
    if t.mscA.isNone then w.crash
    else
      let w := w.onTrans callId fun t =>
        { t.setBearer msg.bearer with
          timerGuard := true
          -- trans_cc_filter_init()
          codecAssigned := false
          msg := some { type := .setupInd, callref := t.callref, bearer := msg.bearer } }.newState .initiated
      mscATryCallAssignment out w callId env

/-- `gsm48_cc_rx_setup_cn_local_rtp_port_known()`. -/
def gsm48CcRxSetupCnLocalRtpPortKnown (env : CcEnv) : CcNet :=
  w.withTrans callId fun t =>
    match t.msg with
    | none => freeWithoutRef w callId
    | some setup =>
      if t.state ≠ .initiated ∨ setup.type ≠ .setupInd ∨ t.mscA.isNone then freeWithoutRef w callId
      else
        let w := w.onTrans callId fun t => { t with msg := none }
        if env.cnRtp && env.sdpFits then
          mnccRecvmsg out w (some callId) { setup with sdp := env.localCodecs }
        else transFree w callId

/-- `gsm48_cc_tx_call_proc_and_assign()`. -/
def gsm48CcTxCallProcAndAssign (proceeding : MnccMsg) (env : CcEnv) : CcNet :=
  w.withTrans callId fun t =>
    let w := w.onTrans callId fun t => t.newState .moCallProc
    if proceeding.bearer.getD t.bearer = t.bearer then
      let w := transTxGsm48 w callId .callProc
      if env.dtapSent then mscATryCallAssignment out w callId env else w
    else w

/-- `gsm48_cc_tx_alerting()`. -/
def gsm48CcTxAlerting (alerting : MnccMsg) (env : CcEnv) : CcNet :=
  let w := w.onTrans callId fun t => t.newState .callDelivered
  let w := if alerting.sdp then rxMnccSdp out w callId env else w
  transTxGsm48 w callId .alerting

/-- `gsm48_cc_tx_progress()`. -/
def gsm48CcTxProgress : CcNet := w.tell callId (fun t => t) .progress

/-- `gsm48_cc_tx_connect()`. -/
def gsm48CcTxConnect (connect : MnccMsg) (env : CcEnv) : CcNet :=
  let w := w.onTrans callId fun t => { t with timer := some .t313 }.newState .connectInd
  let w := if connect.sdp then rxMnccSdp out w callId env else w
  transTxGsm48 w callId .connect

/-- `gsm48_cc_rx_connect_ack()`. -/
def gsm48CcRxConnectAck : CcNet :=
  w.indicate out callId (fun t => t.stopTimer.newState .active) { type := .setupComplInd }

/-! ### Establishing a call to the MS -/

/-- How `gsm48_cc_tx_setup_select_codecs()` and `gsm48_cc_tx_setup_set_bearer_cap()` end. -/
inductive BearerCap where
  | composed
  /-- No codec match is possible, and MNCC is told so. -/
  | incompatible
  | failed
deriving DecidableEq, Repr

def gsm48CcTxSetupSetBearerCap (env : CcEnv) : BearerTransfer → BearerCap
  | .speech =>
    if !env.radioSet then .failed
    else if !env.codecMatch then .incompatible
    else if !env.revLevMatch then .failed
    else .composed
  | .csd => if env.codecMatch then .composed else .incompatible
  | .other => .failed

/-- `gsm48_cc_tx_setup_set_transaction_id()`. -/
def gsm48CcTxSetupSetTransactionId (t : CcTrans) (env : CcEnv) : Option Nat :=
  if t.transactionId.isSome then none
  else
    transAssignTransId
      ((w.trans.filter fun other => other.vsub = t.vsub).filterMap (·.transactionId) ++ env.otherIds)

/-- `gsm48_cc_tx_setup()`. -/
def gsm48CcTxSetup (setup : MnccMsg) (env : CcEnv) : CcNet :=
  w.withTrans callId fun t =>
    match gsm48CcTxSetupSetTransactionId w t env with
    | none => releaseAndFree w callId .resourceUnavail
    | some transactionId =>
      let prepared := fun t : CcTrans =>
        { t.setBearer setup.bearer with
          transactionId := some transactionId, timer := some .t303, codecAssigned := false }
      if t.mscA.isNone then w.crash
      else
        match gsm48CcTxSetupSetBearerCap env (setup.bearer.getD t.bearer) with
        | .composed => w.tell callId (fun t => (prepared t).newState .callPresent) .setup
        | .incompatible => releaseAndFree (w.onTrans callId prepared) callId .incompatDest
        | .failed => transFree (w.onTrans callId prepared) callId

/-- `cc_paging_cb()`, if the paging request is pending. -/
def ccPagingCb (mscA : Option Nat) (env : CcEnv) : CcNet :=
  w.withTrans callId fun t =>
    if !t.pagingRequest || t.mscA.isSome then w
    else
      match mscA with
      | some _ =>
        let w := w.onTrans callId fun t => { t with mscA := mscA, pagingRequest := false }
        gsm48CcTxSetup w callId (t.msg.getD { type := .unset }) env
      | none => releaseAndFree w callId .destOoo

/-- `gsm48_cc_rx_call_conf()`. -/
def gsm48CcRxCallConf (msg : CcMsg) (env : CcEnv) : CcNet :=
  w.withTrans callId fun t =>
    let w := w.onTrans callId fun t => { t.setBearer msg.bearer with timer := some .t310 }
    let w := mscATryCallAssignment out w callId env
    if env.assigns then
      let w := w.onTrans callId fun t => t.newState .moTermCallConf
      mnccRecvmsg out w (some callId)
        { type := .callConfInd, callref := t.callref, cause := msg.cause, bearer := msg.bearer }
    else w

/-- `gsm48_cc_mt_rtp_port_and_codec_known()`. -/
def gsm48CcMtRtpPortAndCodecKnown (env : CcEnv) : CcNet :=
  w.withTrans callId fun t =>
    if t.mscA.isNone then freeWithoutRef w callId
    else if !env.cnRtp then transFree w callId
    else if t.codecAssigned && env.rtpAddr then mnccRecvRtp out w (some callId) t.callref .rtpCreate true
    else w

/-- `gsm48_cc_rx_alerting()`. -/
def gsm48CcRxAlerting (env : CcEnv) : CcNet :=
  let received := fun t : CcTrans => { t with timer := some .t301 }.newState .callReceived
  if env.sdpFits then w.indicate out callId received { type := .alertInd, sdp := true }
  else transFree (w.onTrans callId received) callId

/-- `gsm48_cc_rx_connect()`. -/
def gsm48CcRxConnect : CcNet :=
  w.indicate out callId (fun t => t.stopTimer.newState .connectRequest) { type := .setupCnf, sdp := true }

/-- `gsm48_cc_tx_connect_ack()`. -/
def gsm48CcTxConnectAck : CcNet :=
  w.tell callId (fun t => t.newState .active) .connectAck

/-! ### During a call -/

/-- `gsm48_cc_rx_facility()`. -/
def gsm48CcRxFacility : CcNet :=
  w.indicate out callId (fun t => t) { type := .facilityInd }

/-- `gsm48_cc_tx_facility()`. -/
def gsm48CcTxFacility : CcNet := w.tell callId (fun t => t) .facility

/-- `gsm48_cc_rx_hold()`. -/
def gsm48CcRxHold : CcNet :=
  w.indicate out callId (fun t => t) { type := .holdInd }

/-- `gsm48_cc_tx_hold_ack()`. -/
def gsm48CcTxHoldAck : CcNet := w.tell callId (fun t => t) .holdAck

/-- `gsm48_cc_tx_hold_rej()`. -/
def gsm48CcTxHoldRej : CcNet := w.tell callId (fun t => t) .holdRej

/-- `gsm48_cc_rx_retrieve()`. -/
def gsm48CcRxRetrieve : CcNet :=
  w.indicate out callId (fun t => t) { type := .retrieveInd }

/-- `gsm48_cc_tx_retrieve_ack()`. -/
def gsm48CcTxRetrieveAck : CcNet := w.tell callId (fun t => t) .retrAck

/-- `gsm48_cc_tx_retrieve_rej()`. -/
def gsm48CcTxRetrieveRej : CcNet := w.tell callId (fun t => t) .retrRej

/-- `gsm48_cc_rx_start_dtmf()`. -/
def gsm48CcRxStartDtmf : CcNet :=
  w.indicate out callId (fun t => t) { type := .startDtmfInd }

/-- `gsm48_cc_tx_start_dtmf_ack()`. -/
def gsm48CcTxStartDtmfAck : CcNet := w.tell callId (fun t => t) .startDtmfAck

/-- `gsm48_cc_tx_start_dtmf_rej()`. -/
def gsm48CcTxStartDtmfRej : CcNet := w.tell callId (fun t => t) .startDtmfRej

/-- `gsm48_cc_rx_stop_dtmf()`. -/
def gsm48CcRxStopDtmf : CcNet :=
  w.indicate out callId (fun t => t) { type := .stopDtmfInd }

/-- `gsm48_cc_tx_stop_dtmf_ack()`. -/
def gsm48CcTxStopDtmfAck : CcNet := w.tell callId (fun t => t) .stopDtmfAck

/-- `gsm48_cc_rx_modify()`. -/
def gsm48CcRxModify (msg : CcMsg) : CcNet :=
  w.indicate out callId (fun t => (t.setBearer msg.bearer).newState .moOrigModify)
    { type := .modifyInd, bearer := msg.bearer }

/-- `gsm48_cc_tx_modify()`: a message without a bearer capability is one for speech. -/
def gsm48CcTxModify (modify : MnccMsg) : CcNet :=
  w.tell callId
    (fun t => { t with timer := some .t323, bearer := modify.bearer.getD .speech }.newState .moTermModify)
    .modify

/-- `gsm48_cc_rx_modify_complete()`. -/
def gsm48CcRxModifyComplete (msg : CcMsg) : CcNet :=
  w.indicate out callId (fun t => (t.stopTimer.setBearer msg.bearer).newState .active)
    { type := .modifyCnf, bearer := msg.bearer }

/-- `gsm48_cc_tx_modify_complete()`. -/
def gsm48CcTxModifyComplete (modify : MnccMsg) : CcNet :=
  w.tell callId (fun t => { t with bearer := modify.bearer.getD .speech }.newState .active) .modifyCompl

/-- `gsm48_cc_rx_modify_reject()`: the flag that it sets is not the one of the bearer capability. -/
def gsm48CcRxModifyReject (msg : CcMsg) : CcNet :=
  w.indicate out callId (fun t => (t.stopTimer.setBearer msg.bearer).newState .active)
    { type := .modifyRej, cause := msg.cause }

/-- `gsm48_cc_tx_modify_reject()`. -/
def gsm48CcTxModifyReject (modify : MnccMsg) : CcNet :=
  w.tell callId (fun t => { t with bearer := modify.bearer.getD .speech }.newState .active) .modifyReject

/-- `gsm48_cc_rx_notify()`. -/
def gsm48CcRxNotify : CcNet :=
  w.indicate out callId (fun t => t) { type := .notifyInd }

/-- `gsm48_cc_tx_notify()`. -/
def gsm48CcTxNotify : CcNet := w.tell callId (fun t => t) .notify

/-- `gsm48_cc_rx_userinfo()`. -/
def gsm48CcRxUserinfo : CcNet :=
  w.indicate out callId (fun t => t) { type := .userinfoInd }

/-- `gsm48_cc_tx_userinfo()`. -/
def gsm48CcTxUserinfo : CcNet := w.tell callId (fun t => t) .userInfo

/-- `gsm48_cc_rx_status_enq()`. -/
def gsm48CcRxStatusEnq : CcNet := w.tell callId (fun t => t) .status

/-! ### Assignment -/

/-- `cc_on_cn_local_rtp_port_known()`. -/
def ccOnCnLocalRtpPortKnown (env : CcEnv) : CcNet :=
  w.withTrans callId fun t =>
    match t.state with
    | .initiated =>
      if t.msg.map (·.type) = some .setupInd then gsm48CcRxSetupCnLocalRtpPortKnown out w callId env else w
    | .moTermCallConf => gsm48CcMtRtpPortAndCodecKnown out w callId env
    | _ => w

/-- `msc_a_up_call_assignment_complete()`, as far as call control goes: the codec is noted, and if
`cc_on_assignment_done()` fails the call is given up. -/
def ccOnAssignmentDone (codec : Bool) (env : CcEnv) : CcNet :=
  w.withTrans callId fun t =>
    let w := w.onTrans callId fun t => { t with codecAssigned := codec }
    match t.state with
    | .initiated | .moCallProc | .callReceived | .moTermCallConf =>
      if !env.cnRtp then w
      else if env.localCodecs && env.rtpAddr then mnccRecvRtp out w (some callId) t.callref .rtpCreate true
      else transFree w callId
    | .active | .callDelivered | .connectInd => w
    | _ => transFree w callId

/-! ### Messages of MNCC -/

/-- `tch_bridge()` and `disconnect_bridge()`. -/
def tchBridge (msg : MnccMsg) (env : CcEnv) : CcNet :=
  match w.findByCallref msg.callref, w.findByCallref msg.otherCallref with
  | some t, some t' =>
    if t.mscA.isSome && t'.mscA.isSome && env.bridges then w
    else
      let release (callref : Nat) : MnccMsg :=
        { type := .unset, callref := callref, cause := some ⟨.innNet, .chanUnaccept⟩ }
      gsm48CcTxDisconnect (gsm48CcTxDisconnect w t.callId (release t.callref)) t'.callId (release t'.callref)
  | _, _ => w

/-- `tch_rtp_create()`. -/
def tchRtpCreate (msg : MnccMsg) (env : CcEnv) : CcNet :=
  match w.findByCallref msg.callref with
  | none => mnccRecvRtp out w none msg.callref .rtpCreate false
  | some t =>
    if t.mscA.isNone then mnccRecvRtp out w (some t.callId) msg.callref .rtpCreate false
    else mscATryCallAssignment out w t.callId env

/-- `tch_rtp_connect()`. -/
def tchRtpConnect (msg : MnccMsg) (env : CcEnv) : CcNet :=
  match w.findByCallref msg.callref with
  | none => mnccRecvRtp out w none msg.callref .rtpConnect false
  | some t =>
    if t.mscA.isNone then mnccRecvRtp out w (some t.callId) msg.callref .rtpConnect false
    else
      let w := rxMnccSdp out w t.callId env
      if env.remoteRtp then w else mnccRecvRtp out w (some t.callId) msg.callref .rtpConnect false

/-- `downstatelist`: whether a message is expected in a state. -/
def downstateAccepts (type : MnccType) (state : CcState) : Bool :=
  match type with
  | .callProcReq => state = .initiated
  | .alertReq => state = .initiated || state = .moCallProc
  | .setupRsp => state = .initiated || state = .moCallProc || state = .callDelivered
  | .progressReq => state = .moCallProc
  | .setupReq => state = .null
  | .setupComplReq => state = .connectRequest
  | .notifyReq => state = .active
  | .facilityReq => state ≠ .null && state ≠ .releaseReq
  | .startDtmfRsp | .startDtmfRej | .stopDtmfRsp => true
  | .holdCnf | .holdRej | .retrieveCnf | .retrieveRej | .modifyReq => state = .active
  | .modifyRsp | .modifyRej => state = .moOrigModify
  | .userinfoReq => state = .active
  | .rejReq => state = .initiated
  | .discReq => state ≠ .null && state ≠ .disconnectInd && state ≠ .releaseReq && state ≠ .disconnectReq
  | .relReq => state ≠ .null && state ≠ .releaseReq
  | _ => false

/-- `downstatelist`: the routine of a message. -/
def downstateRout (msg : MnccMsg) (env : CcEnv) : CcNet :=
  match msg.type with
  | .callProcReq => gsm48CcTxCallProcAndAssign out w callId msg env
  | .alertReq => gsm48CcTxAlerting out w callId msg env
  | .setupRsp => gsm48CcTxConnect out w callId msg env
  | .progressReq => gsm48CcTxProgress w callId
  | .setupReq => gsm48CcTxSetup w callId msg env
  | .setupComplReq => gsm48CcTxConnectAck w callId
  | .notifyReq => gsm48CcTxNotify w callId
  | .facilityReq => gsm48CcTxFacility w callId
  | .startDtmfRsp => gsm48CcTxStartDtmfAck w callId
  | .startDtmfRej => gsm48CcTxStartDtmfRej w callId
  | .stopDtmfRsp => gsm48CcTxStopDtmfAck w callId
  | .holdCnf => gsm48CcTxHoldAck w callId
  | .holdRej => gsm48CcTxHoldRej w callId
  | .retrieveCnf => gsm48CcTxRetrieveAck w callId
  | .retrieveRej => gsm48CcTxRetrieveRej w callId
  | .modifyReq => gsm48CcTxModify w callId msg
  | .modifyRsp => gsm48CcTxModifyComplete w callId msg
  | .modifyRej => gsm48CcTxModifyReject w callId msg
  | .userinfoReq => gsm48CcTxUserinfo w callId
  | .rejReq => gsm48CcTxReleaseCompl w callId
  | .discReq => gsm48CcTxDisconnect w callId msg
  | .relReq => gsm48CcTxRelease w callId (some msg)
  | _ => w

/-- The messages that do not restart the guard timer. -/
def MnccType.passesThrough : MnccType → Bool
  | .progressReq | .notifyReq | .facilityReq | .startDtmfRsp | .startDtmfRej | .stopDtmfRsp | .holdCnf
  | .holdRej | .retrieveCnf | .retrieveRej | .userinfoReq => true
  | _ => false

/-- `mncc_tx_to_gsm_cc()`, from where the transaction is known. -/
def mnccTxToTrans (msg : MnccMsg) (env : CcEnv) : CcNet :=
  let w := w.onTrans callId fun t =>
    { t with timerGuard := t.timerGuard || !msg.type.passesThrough, mnccInitiated := true }
  w.withTrans callId fun t =>
    if t.mscA.isNone then
      -- still paging
      let w :=
        mnccRecvTerminal w (some callId)
          { type := if msg.type = .relReq then .relCnf else .relInd
            callref := msg.callref
            cause := some ⟨.prnSLu, .normCallClear⟩ }
      freeWithoutRef w callId
    else if downstateAccepts msg.type t.state then downstateRout out w callId msg env
    else w

/-- `mncc_tx_to_gsm_cc()` for a call reference that nobody has. -/
def mnccTxNewCall (msg : MnccMsg) (env : CcEnv) : CcNet :=
  if msg.type ≠ .setupReq then mnccReleaseUnknown w msg.callref .invalTransId
  else if msg.called = [] ∧ msg.imsi = [] then mnccReleaseUnknown w msg.callref .invNrFormat
  else
    match if msg.called = [] then env.byImsi msg.imsi else env.byMsisdn msg.called with
    | none => mnccReleaseUnknown w msg.callref .userNotrespond
    | some callee =>
      let existing := w.trans.find? fun t => t.vsub = callee.vsub
      if !callee.luComplete then mnccReleaseUnknown w msg.callref .destOoo
      else if !w.callWaiting && callee.conn.isSome && existing.any (·.state ≠ .null) then
        mnccReleaseUnknown w msg.callref .userBusy
      else if !env.allocates then mnccReleaseUnknown w msg.callref .resourceUnavail
      else
        let callId := w.newCallId
        let w := w.alloc
          { callId := callId, vsub := callee.vsub, callref := msg.callref, ref := msg.callref, byMncc := true }
        match callee.conn with
        | none =>
          let w := w.onTrans callId fun t => { t with msg := some msg, pagingRequest := env.pagingStarts }
          if env.pagingStarts then w else transFree w callId
        | some _ => mnccTxToTrans out (w.onTrans callId fun t => { t with mscA := callee.conn }) callId msg env

/-- A message about a call arrives. -/
def CcNet.noted (msg : MnccMsg) : CcNet :=
  w.update fun w =>
    { w.emit (.fromMncc msg (w.trans.any fun t => t.ref = msg.callref && t.terminals ≠ 0)) with
      trans := w.trans.map fun t =>
        { t with rejected := t.rejected || (t.ref = msg.callref && msg.type = .rejReq) } }

/-- `mncc_tx_to_gsm_cc()`. -/
def mnccTxToGsmCc (msg : MnccMsg) (env : CcEnv) : CcNet :=
  match msg.type with
  | .bridge => tchBridge w msg env
  | .rtpCreate => tchRtpCreate out w msg env
  | .rtpConnect => tchRtpConnect out w msg env
  | .rtpFree | .frame => w
  | _ =>
    let w := w.noted msg
    match w.findByCallref msg.callref with
    | none => mnccTxNewCall out w msg env
    | some t => mnccTxToTrans out w t.callId msg env

/-! ### Messages of the MS -/

/-- `datastatelist`: whether a message is expected in a state. -/
def datastateAccepts (type : CcMsgType) (state : CcState) : Bool :=
  match type with
  | .setup | .emergSetup => state = .null
  | .connectAck => state = .connectInd
  | .callConf => state = .callPresent
  | .alerting => state = .callPresent || state = .moTermCallConf
  | .connect => state = .callPresent || state = .moTermCallConf || state = .callReceived
  | .facility => state ≠ .null
  | .notify => state = .active
  | .startDtmf | .stopDtmf | .statusEnq => true
  | .hold | .retr | .modify => state = .active
  | .modifyCompl | .modifyReject => state = .moTermModify
  | .userInfo => state = .active
  | .disconnect => state ≠ .null && state ≠ .releaseReq
  | .release => state ≠ .null
  | .releaseCompl => true
  | _ => false

/-- `datastatelist`: the routine of a message. -/
def datastateRout (msg : CcMsg) (env : CcEnv) : CcNet :=
  match msg.type with
  | .setup | .emergSetup => gsm48CcRxSetup out w callId msg env
  | .connectAck => gsm48CcRxConnectAck out w callId
  | .callConf => gsm48CcRxCallConf out w callId msg env
  | .alerting => gsm48CcRxAlerting out w callId env
  | .connect => gsm48CcRxConnect out w callId
  | .facility => gsm48CcRxFacility out w callId
  | .notify => gsm48CcRxNotify out w callId
  | .startDtmf => gsm48CcRxStartDtmf out w callId
  | .stopDtmf => gsm48CcRxStopDtmf out w callId
  | .statusEnq => gsm48CcRxStatusEnq w callId
  | .hold => gsm48CcRxHold out w callId
  | .retr => gsm48CcRxRetrieve out w callId
  | .modify => gsm48CcRxModify out w callId msg
  | .modifyCompl => gsm48CcRxModifyComplete out w callId msg
  | .modifyReject => gsm48CcRxModifyReject out w callId msg
  | .userInfo => gsm48CcRxUserinfo out w callId
  | .disconnect => gsm48CcRxDisconnect out w callId msg
  | .release => gsm48CcRxRelease w callId msg
  | .releaseCompl => gsm48CcRxReleaseCompl w callId msg
  | _ => w

/-- `gsm0408_rcv_cc()`, from where the transaction is known. -/
def rcvCcTrans (msg : CcMsg) (env : CcEnv) : CcNet :=
  w.withTrans callId fun t =>
    if datastateAccepts msg.type t.state then datastateRout out w callId msg env
    -- a transaction was just now created for a message other than SETUP
    else if t.state = .null then transFree w callId
    else w

/-- `gsm0408_rcv_cc()`, on a connection and the subscriber it belongs to. -/
def gsm0408RcvCc (conn : Nat) (vsub : Option Nat) (transactionId : Nat) (msg : CcMsg)
    (env : CcEnv) : CcNet :=
  match vsub with
  | none => w
  | some vsub =>
    match w.findById vsub transactionId with
    | some t => rcvCcTrans out w t.callId msg env
    | none =>
      let callref := mscCcNextOutgoingCallref w.lastCallref
      let w := w.update fun w => { w with lastCallref := callref }
      if !env.allocates then w.emit (.toMs none .releaseCompl)
      else
        let callId := w.newCallId
        let w := w.alloc
          { callId := callId, vsub := vsub, transactionId := some transactionId, callref := callref
            ref := callref }
        if !env.accepted then transFree w callId
        else rcvCcTrans out (w.onTrans callId fun t => { t with mscA := some conn }) callId msg env

/-! ### Runs -/

/-- What may happen to the layer. -/
inductive CcInput where
  /-- `mncc_tx_to_gsm_cc()`. -/
  | mncc (msg : MnccMsg) (env : CcEnv)
  /-- `gsm0408_rcv_cc()`. -/
  | ms (conn : Nat) (vsub : Option Nat) (transactionId : Nat) (msg : CcMsg) (env : CcEnv)
  /-- Paging has ended, on a connection or with an error. -/
  | paged (callId : Nat) (mscA : Option Nat) (env : CcEnv)
  /-- `cc.timer` fires. -/
  | timeout (callId : Nat)
  /-- `cc.timer_guard` fires. -/
  | guardTimeout (callId : Nat)
  /-- `cc_on_cn_local_rtp_port_known()`, from the call leg of the transaction's connection. -/
  | cnRtpKnown (callId : Nat) (env : CcEnv)
  /-- Assignment Complete on the transaction's connection. -/
  | assigned (callId : Nat) (codec : Bool) (env : CcEnv)
  /-- `trans_free()` from outside: the connection is closed, the assignment fails, the call leg is gone, the
  subscriber is discarded, the operator clears the call. -/
  | free (callId : Nat)
  /-- Another connection of the subscriber takes over the transaction. -/
  | moved (callId conn : Nat)
  /-- `mncc_sock_close()`. -/
  | mnccLost
  | mnccConnected

/-- `gsm0408_clear_all_trans()`. -/
def gsm0408ClearAllTrans : CcNet := (w.trans.map (·.callId)).foldl freeWithoutRef w

/-- `mncc_sock_close()`. -/
def mnccSockClose : CcNet :=
  gsm0408ClearAllTrans
    ((w.emit (.mnccLost (w.trans.any (·.due)))).update fun w => { w with mnccUp := false })

/-- An input about a transaction that there is not does not occur. -/
def CcNet.ifKnown (k : CcTrans → CcNet) : CcNet :=
  match w.find callId with
  | none => w
  | some t => k t

/-- Handle an input, where `out` happens during call-outs. -/
def ccEvent : CcInput → CcNet
  -- nothing arrives on a closed socket
  | .mncc msg env => if w.mnccUp then mnccTxToGsmCc out w msg env else w
  | .ms conn vsub transactionId msg env => gsm0408RcvCc out w conn vsub transactionId msg env
  | .paged callId mscA env => w.ifKnown callId fun _ => ccPagingCb w callId mscA env
  | .timeout callId => w.ifKnown callId fun _ => gsm48CcTimeout out w callId
  | .guardTimeout callId => w.ifKnown callId fun _ => gsm48CcGuardTimeout w callId
  | .cnRtpKnown callId env =>
    w.ifKnown callId fun t => if t.mscA.isSome then ccOnCnLocalRtpPortKnown out w callId env else w
  | .assigned callId codec env =>
    w.ifKnown callId fun t => if t.mscA.isSome then ccOnAssignmentDone out w callId codec env else w
  | .free callId => w.ifKnown callId fun _ => transFree w callId
  | .moved callId conn => w.ifKnown callId fun t =>
      if t.mscA.isSome then w.onTrans callId fun t => { t with mscA := some conn } else w
  | .mnccLost => mnccSockClose w
  | .mnccConnected => w.update fun w => { w with mnccUp := true }

/-- A run of the layer: inputs one after another, with runs during their call-outs. -/
def CcRun : CcNet → CcNet → Prop := NestedRun ccEvent

/-- Before the first call. -/
structure CcNet.Fresh (w : CcNet) : Prop where
  trans : w.trans = []
  gone : w.gone = []
  acts : w.acts = []

end OsmoMsc.Cc
