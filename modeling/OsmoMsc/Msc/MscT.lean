/-
Module: OsmoMsc.Msc.MscT
Purpose: The target side of an inter-MSC handover: the MSC-T role (msc_t.c) under an MSC-A role that
  stands for a remote MSC (msc_a_remote.c), in one `msub`.  A PREPARE HANDOVER REQUEST from the E
  link creates the MSC-T, which waits for the MGW, asks the BSS and relays what the BSS answers.
  What MSC-A is sent over the E link is the log.
Trusted boundary: the E link to MSC-A takes every message; libosmocore's FSM, as in
  OsmoMsc.Library.Fsm; the RAN and SDP coders return what the input says
Main exports: MscTState, MscTEvent, mscTFsm, MscT, MscB, BAct, BInput, mscBStep
-/
import OsmoMsc.Library.Fsm

namespace OsmoMsc.Msc

open Library

/-! ### The MSC-T role -/

/-- `enum msc_t_fsm_state`. -/
inductive MscTState where
  | pendingFirstCoInitialMsg
  | waitLocalRtp
  | waitHoRequestAck
  | waitHoComplete
deriving DecidableEq, Repr

/-- The events that `msc_t_fsm` accepts in some state. -/
inductive MscTEvent where
  | fromAPrepareHandoverRequest
  | fromAForwardAccessSignallingRequest
  | cnClose
  | moClose
  | fromRanUpL2
  | fromRanConnReleased
  | callLegRtpLocalAddrAvailable
  | callLegTerm
  | mnccCallEnded
deriving DecidableEq, Repr

/-- `msc_t_fsm_states[]`. -/
def mscTFsm : Table MscTState MscTEvent where
  inEvent
    | .pendingFirstCoInitialMsg, .fromAPrepareHandoverRequest => true
    | .pendingFirstCoInitialMsg, .cnClose => true
    | .pendingFirstCoInitialMsg, _ => false
    | .waitLocalRtp, .callLegRtpLocalAddrAvailable => true
    | .waitLocalRtp, .callLegTerm => true
    | .waitLocalRtp, .mnccCallEnded => true
    | .waitLocalRtp, .cnClose => true
    | .waitLocalRtp, _ => false
    | _, .fromAPrepareHandoverRequest => false
    | _, .callLegRtpLocalAddrAvailable => false
    | _, _ => true
  outState
    | .pendingFirstCoInitialMsg, .waitLocalRtp => true
    | .pendingFirstCoInitialMsg, .waitHoRequestAck => true
    | .waitLocalRtp, .waitHoRequestAck => true
    | .waitHoRequestAck, .waitHoComplete => true
    | _, _ => false

/-- `ran_conn` of the role.  A connection that is closed in a state which does not accept
`MSC_EV_FROM_RAN_CONN_RELEASED` leaves a pointer to freed memory. -/
inductive RanConn where
  | none
  | up
  | freed
deriving DecidableEq, Repr

/-- `call_leg` of the role: which of its two RTP streams have a local address. -/
structure CallLegLocal where
  toRan : Bool := false
  toCn : Bool := false
deriving DecidableEq, Repr

/-- `struct msc_t`. -/
structure MscT where
  fi : Inst MscTState := { state := .pendingFirstCoInitialMsg }
  hoSuccess : Bool := false
  hoFailSent : Bool := false
  ranConn : RanConn := .none
  callLeg : Option CallLegLocal := none
  /-- `inter_msc.handover_number`. -/
  handoverNumber : Option Nat := none
  /-- `inter_msc.mncc_forwarding_to_remote_cn` is set. -/
  forwarding : Bool := false
deriving DecidableEq, Repr

/-- What the BSS sends, as decoded for the MSC-T. -/
inductive TargetMsg where
  | handoverRequestAck
  | handoverFailure
  | handoverComplete
  | handoverDetect
  | clearRequest
  | other
  | undecodable
deriving DecidableEq, Repr

/-! ### The subscriber on the MSC-B side -/

/-- The access network of the request.  The coder for Iu (ran_msg_iu.c) has no handover messages. -/
inductive Ran where
  | geranA
  | utranIu
deriving DecidableEq, Repr

/-- What is sent over the E link to MSC-A, and to the BSS. -/
inductive BAct where
  | prepareHandoverResult
  | prepareHandoverError
  /-- A `PREPARE HANDOVER ERROR` for a second request, while a role exists. -/
  | secondRequestRefused
  | processAccessSignallingRequest
  | sendEndSignalRequest
  | close
  | handoverRequest
deriving DecidableEq, Repr

/-- `struct msub` with a remote MSC-A. -/
structure MscB where
  ran : Ran
  /-- The MSC-A role: in COMMUNICATING from its allocation until it terminates. -/
  mscA : Bool := true
  mscT : Option MscT := none
  mscI : Bool := false
  /-- An MSC-T was created for a request. -/
  created : Bool := false
  /-- A failed assertion, a null pointer or freed memory was used. -/
  crashed : Bool := false
  acts : List BAct := []
deriving DecidableEq, Repr

variable (t : MscT) (b : MscB)

namespace MscB

def emit (act : BAct) : MscB := { b with acts := b.acts ++ [act] }

/-- The MSC-T role after a change to it. -/
def put (t : MscT) : MscB := { b with mscT := some t }

/-- The process is gone, and the MSC-T with it. -/
def crash : MscB := { b with crashed := true, mscT := none }

/-- `msub_role_dispatch()` to MSC-A: the remote role sends the message that goes with the event. -/
def toMscA (act : BAct) : MscB := if b.mscA then b.emit act else b

/-- `msc_t_send_handover_failure()`; without a coder for the message nothing is dispatched. -/
def sendHandoverFailure : MscB :=
  match b.ran with
  | .geranA => b.toMscA .prepareHandoverError
  | .utranIu => b

/-- `MSUB_EV_ROLE_TERMINATED` for the MSC-T: without an MSC-I the `msub` ends, and MSC-A with it. -/
def mscTTerminated : MscB := { b with mscT := none, mscA := b.mscA && b.mscI }

end MscB

/-- `msc_t_clear()`: the cleanup function, and the end of the role. -/
def mscTClear (t : MscT) : MscB :=
  let b := if !t.hoSuccess && !t.hoFailSent then b.sendHandoverFailure else b
  if t.ranConn = .freed then b.crash else b.mscTTerminated

/-- `msc_t_error()`. -/
def mscTError (t : MscT) : MscB := mscTClear b { t with hoSuccess := false }

/-- A state change of the MSC-T, or nothing if it is refused. -/
def MscT.stateChg (new : MscTState) : MscT :=
  match t.fi.stateChg mscTFsm new none with
  | none => t
  | some fi => { t with fi := fi }

/-- `msc_a_release_cn()`: MSC-A sends CLOSE for the roles that are left and ends, and the `msub` with
the MSC-T follows.  By then there is no MSC-A to report a failure to. -/
def MscB.mscAReleaseCn : MscB :=
  if b.mscA then
    let b := if b.mscI then b.emit .close else b
    let b := if b.mscT.isSome then b.emit .close else b
    let b := { b with mscA := false }
    match b.mscT with
    | some t => if t.ranConn = .freed then b.crash else { b with mscT := none, mscI := false }
    | none => { b with mscI := false }
  else b

/-! ### The handover request -/

/-- The target of `msc_ho_find_target_cell()`. -/
inductive TargetPeer where
  | remoteMsc
  | unknown
  /-- A local RAN peer; `msc_t_set_ran_peer()` may still fail. -/
  | localRanPeer (connects : Bool)
deriving DecidableEq, Repr

/-- A PREPARE HANDOVER REQUEST and what its handling meets. -/
structure HoRequest where
  /-- The AN-APDU has a PDU. -/
  pdu : Bool := true
  /-- The PDU decodes as a HANDOVER REQUEST. -/
  decodes : Bool := true
  target : TargetPeer := .localRanPeer true
  /-- `call_leg_alloc()` and `call_leg_ensure_ci()` succeed. -/
  callLeg : Bool := true
deriving DecidableEq, Repr

/-- `msc_t_fsm_wait_local_rtp_onenter()`. -/
def mscTFsmWaitLocalRtpOnenter (t : MscT) (callLeg : Bool) : MscB :=
  let t := { t with callLeg := some {} }
  if callLeg then b.put t else mscTError b t

/-- `msc_t_find_ran_peer_from_ho_request()`, and the change to WAIT_LOCAL_RTP.  What
`msc_t_set_ran_peer()` returns is not looked at. -/
def mscTFindRanPeerFromHoRequest (t : MscT) (req : HoRequest) : MscB :=
  match req.target with
  | .remoteMsc | .unknown => mscTError b t
  | .localRanPeer connects =>
      let t := { t with ranConn := if connects then .up else .none }
      mscTFsmWaitLocalRtpOnenter b (t.stateChg .waitLocalRtp) req.callLeg

/-- `MSC_T_EV_FROM_A_PREPARE_HANDOVER_REQUEST` in `msc_t_fsm_pending_first_co_initial_msg()`, for a
remote MSC-A.  A request without a PDU passes the decoder, and `msgb_copy()` is then called on a null
pointer. -/
def mscTFsmPendingFirstCoInitialMsg (t : MscT) (req : HoRequest) : MscB :=
  if t.ranConn ≠ .none then mscTError b t
  else if !req.pdu then b.crash
  else
    match b.ran, req.decodes with
    | .geranA, true => mscTFindRanPeerFromHoRequest b t req
    | _, _ => mscTError b t

/-! ### The MGW -/

inductive RtpDirection where
  | toRan
  | toCn
deriving DecidableEq, Repr

def CallLegLocal.set (leg : CallLegLocal) : RtpDirection → CallLegLocal
  | .toRan => { leg with toRan := true }
  | .toCn => { leg with toCn := true }

/-- `msc_t_send_stored_ho_request()`; nobody looks at what it returns. -/
def mscTSendStoredHoRequest (t : MscT) (sends : Bool) : MscB :=
  match t.ranConn with
  | .none => b
  | .up => if sends then b.emit .handoverRequest else b
  | .freed => b.crash

/-- `MSC_EV_CALL_LEG_RTP_LOCAL_ADDR_AVAILABLE` in `msc_t_fsm_wait_local_rtp()`, after the call leg has
learnt the address. -/
def mscTFsmWaitLocalRtp (t : MscT) (leg : CallLegLocal) (sends : Bool) : MscB :=
  if leg.toRan && leg.toCn then
    mscTSendStoredHoRequest (b.put (t.stateChg .waitHoRequestAck)) t sends
  else b

/-! ### Messages of the BSS -/

/-- What the handling of a HANDOVER REQUEST ACK meets: the number that
`msc_t_assign_handover_number()` finds, and whether number and message can be encoded. -/
structure AckEnv where
  number : Option Nat := some 1
  bcd : Bool := true
  encodes : Bool := true
deriving DecidableEq, Repr

/-- `msc_t_patch_and_send_ho_request_ack()`; `none` if it returns an error. -/
def mscTPatchAndSendHoRequestAck (t : MscT) (env : AckEnv) : MscB × Option MscT :=
  match env.number with
  | none => (b, none)
  | some number =>
      if env.bcd && env.encodes && b.mscA then
        (b.toMscA .prepareHandoverResult, some { t with handoverNumber := some number })
      else (b, none)

/-- `msc_t_wait_ho_request_ack_decode_cb()`. -/
def mscTWaitHoRequestAckDecodeCb (t : MscT) (msg : TargetMsg) (env : AckEnv) : MscB :=
  match msg with
  | .undecodable => b
  | .handoverRequestAck =>
      match mscTPatchAndSendHoRequestAck b t env with
      | (b, none) => mscTError b t
      | (b, some t) => b.put (t.stateChg .waitHoComplete)
  | .handoverFailure => b.toMscA .prepareHandoverError
  | .handoverComplete | .handoverDetect | .clearRequest | .other =>
      b.toMscA .processAccessSignallingRequest

/-- `msc_t_wait_ho_complete_decode_cb()`.  On HANDOVER COMPLETE the MNCC forwarding is moved to the new
MSC-I without a check that there is one. -/
def mscTWaitHoCompleteDecodeCb (t : MscT) (msg : TargetMsg) : MscB :=
  match msg with
  | .undecodable => b
  | .handoverComplete =>
      let t := { t with hoSuccess := true }
      let b := { (b.put t).toMscA .sendEndSignalRequest with mscI := true }
      if t.forwarding then mscTClear b { t with ranConn := .none } else b.crash
  | .handoverFailure => b.toMscA .prepareHandoverError
  | .handoverRequestAck | .handoverDetect | .clearRequest | .other =>
      b.toMscA .processAccessSignallingRequest

/-- `MSC_EV_FROM_RAN_UP_L2`. -/
def mscTRanUpL2 (t : MscT) (msg : TargetMsg) (env : AckEnv) : MscB :=
  match t.fi.state with
  | .waitHoRequestAck => mscTWaitHoRequestAckDecodeCb b t msg env
  | .waitHoComplete => mscTWaitHoCompleteDecodeCb b t msg
  | _ => b

/-! ### The E link -/

/-- The messages of MSC-A. -/
inductive GsupFromA where
  | prepareHandoverRequest (req : HoRequest)
  | forwardAccessSignallingRequest
  | sendEndSignalRequest
  /-- CLOSE, ABORT or ROUTING ERROR. -/
  | close
  | other
deriving DecidableEq, Repr

/-- `msc_a_remote_rx_gsup()`.  What is forwarded down to the BSS or the MSC-I is left out. -/
def mscARemoteRxGsup (msg : GsupFromA) : MscB :=
  match msg with
  | .prepareHandoverRequest req =>
      if b.mscT.isSome || b.mscI then
        -- msc_a_remote_send_handover_failure()
        match b.ran with
        | .geranA => b.emit .secondRequestRefused
        | .utranIu => b
      else
        mscTFsmPendingFirstCoInitialMsg { b.put {} with created := true } {} req
  | .close => if b.mscT.isSome || b.mscI then MscB.mscAReleaseCn b else b
  | .forwardAccessSignallingRequest | .sendEndSignalRequest | .other => b

/-! ### Runs -/

inductive BInput where
  | gsup (msg : GsupFromA)
  | ranUpL2 (msg : TargetMsg) (env : AckEnv)
  /-- The RAN connection of the MSC-T is closed. -/
  | ranConnReleased
  /-- The MGW has a local address for one stream of the call leg; `sends` says whether the stored
  request can then be decoded, encoded and sent. -/
  | rtpLocalAddr (dir : RtpDirection) (sends : Bool)
  | callLegTerm
  /-- `msc_t_check_call_to_handover_number()`: a call to the Handover Number comes in. -/
  | mnccSetupReq (number : Nat)
  | mnccCallEnded
deriving DecidableEq, Repr

/-- One event at the MSC-T, if its state accepts it. -/
def mscTStep (t : MscT) : BInput → MscB
  | .gsup _ => b
  | .ranUpL2 msg env =>
      if t.fi.accepts mscTFsm .fromRanUpL2 && t.ranConn = .up then mscTRanUpL2 b t msg env else b
  | .ranConnReleased =>
      if t.ranConn = .up then
        if t.fi.accepts mscTFsm .fromRanConnReleased then mscTClear b { t with ranConn := .none }
        else b.put { t with ranConn := .freed }
      else b
  | .rtpLocalAddr dir sends =>
      match t.callLeg with
      | none => b
      | some leg =>
          let t := { t with callLeg := some (leg.set dir) }
          if t.fi.accepts mscTFsm .callLegRtpLocalAddrAvailable then
            mscTFsmWaitLocalRtp (b.put t) t (leg.set dir) sends
          else b.put t
  | .callLegTerm =>
      if t.callLeg.isSome && t.fi.accepts mscTFsm .callLegTerm then
        mscTError b { t with callLeg := none }
      else b
  | .mnccSetupReq number =>
      if t.handoverNumber = some number && !t.forwarding && t.callLeg.isSome then
        b.put { t with forwarding := true }
      else b
  | .mnccCallEnded =>
      if t.fi.accepts mscTFsm .mnccCallEnded then b.put { t with forwarding := false } else b

def mscBStep (input : BInput) : MscB :=
  if b.crashed then b
  else
    match input with
    | .gsup msg => if b.mscA then mscARemoteRxGsup b msg else b
    | input =>
        match b.mscT with
        | none => b
        | some t => mscTStep b t input

end OsmoMsc.Msc
