/-
Module: OsmoMsc.Msc.Handover
Purpose: The handover FSM of an MSC-A (msc_ho.c) with the roles around it: the MSC-I that asked for
  the handover, the MSC-T for the cell that is tried (msc_t.c, msc_t_remote.c), the MNCC call to a
  remote MSC (mncc_call.c) and the call's RTP stream to the RAN.  A state may be left from within its
  own entry function, and ending the FSM ends the MSC-T and the MNCC call, which answer to it.
Trusted boundary: libosmocore's FSM, as in OsmoMsc.Library.Fsm; the RAN coders, the neighbor tables and
  the senders return what the input says; the MSC-A stays in COMMUNICATING
Main exports: hoFsm, MscHo, HoAct, HoConn, HoEnv, mscHoStart, mscHoFailed, mscHoSuccess, HoInput,
  hoStep
-/
import OsmoMsc.Library.Run
import OsmoMsc.Mncc.Call
import OsmoMsc.Msc.MscT

namespace OsmoMsc.Msc

open Library Mncc Rtp

/-! ### The FSM -/

/-- `enum msc_ho_fsm_state`. -/
inductive HoSt where
  | required
  | waitRequestAck
  | waitComplete
deriving DecidableEq, Repr

/-- `enum msc_ho_fsm_event`. -/
inductive HoEvent where
  | rxRequestAck
  | rxDetect
  | rxComplete
  | rxFailure
  | mnccForwardingComplete
  | mnccForwardingFailed
deriving DecidableEq, Repr

/-- `msc_ho_fsm_states[]`. -/
def hoFsm : Table HoSt HoEvent where
  inEvent
    | .waitRequestAck, .rxRequestAck | .waitRequestAck, .rxFailure => true
    | .waitComplete, .rxRequestAck => false
    | .waitComplete, _ => true
    | _, _ => false
  outState
    | .required, .required | .required, .waitRequestAck => true
    | .waitRequestAck, .required | .waitRequestAck, .waitComplete => true
    | _, _ => false

/-- The causes of `HANDOVER REQUIRED REJECT`. -/
inductive HoCause where
  | protocolErrorBetweenBssAndMsc
  | informationElementOrFieldMissing
  | noRadioResourceAvailable
  | equipmentFailure
deriving DecidableEq, Repr

/-- `enum msc_neighbor_type`, without NONE. -/
inductive Neighbor where
  | localRanPeer
  | remoteMsc
deriving DecidableEq, Repr

/-- `new_cell.mncc_forwarding_to_remote_ran`.  Nobody clears the pointer when the call ends by itself:
the memory goes at the end of the select round. -/
inductive Forwarding where
  | call (c : MnccCall)
  | freed
deriving DecidableEq, Repr

/-- `struct msc_ho_state`. -/
structure MscHo where
  fi : Inst HoSt := { state := .required }
  cil : List Nat
  nextCilIdx : Nat := 0
  subsequentHo : Bool := false
  readyToSwitchRtp : Bool := false
  rtpSwitchedToNewCell : Bool := false
  newType : Option Neighbor := none
  newRanRemoteRtp : SockAddr := {}
  /-- `some none` is a codec that `codec_mapping_by_gsm0808_speech_codec_type()` does not know. -/
  newCodec : Option (Option SdpAudioCodec) := none
  newForwarding : Option Forwarding := none
  oldCell : RtpPeer := {}
deriving DecidableEq, Repr

/-! ### The connection -/

/-- The MSC-I role: at this MSC, with or without its RAN connection, or at a remote MSC. -/
inductive MscIRole where
  | localBss (ranConn : Bool)
  | remoteMsc
deriving DecidableEq, Repr

/-- The MSC-T role. -/
inductive MscTRole where
  | localBss (t : MscT)
  | remoteMsc
deriving DecidableEq, Repr

/-- What happens to the outside, in order.  Handovers are numbered from one. -/
inductive HoAct where
  /-- HANDOVER REQUIRED starts a handover, with this list of cells and the stream going there. -/
  | started (n : Nat) (cil : List Nat) (rtp : Option RtpPeer)
  /-- The next cell of the list is looked up. -/
  | visited (n : Nat) (cid : Nat) (target : Option Neighbor)
  | handoverRequest (n : Nat) (cid : Nat)
  /-- `msc_ho_try_next_cell()`, when this is the first remaining cell that resolves to a target. -/
  | tryNextCell (n : Nat) (next : Option Nat)
  | handoverCommand (n : Nat)
  | handoverSucceeded (n : Nat)
  | requiredReject (n : Nat) (cause : HoCause)
  /-- A HANDOVER REQUIRED that starts nothing is rejected. -/
  | refused (cause : HoCause)
  /-- A new MSC-I has taken over the MSC-T's RAN connection or E link. -/
  | takenOver (n : Nat) (remote : Bool)
  /-- `msc_ho_end()` is about to give up, or (`timer`) the FSM's timer has expired: does the call to the
  new cell hold the stream, and has the stream been switched? -/
  | failing (n : Nat) (timer forwarding switched : Bool)
  /-- The MNCC call to the new cell has ended by itself. -/
  | forwardingEnded (n : Nat)
  /-- The MNCC call to the new cell has released the stream. -/
  | rtpReleased (n : Nat)
  /-- The FSM is gone and leaves the stream like this. -/
  | ended (n : Nat) (rtp : Option RtpPeer)
deriving DecidableEq, Repr

/-- An MSC-A with a call, as far as handovers go. -/
structure HoConn where
  mscI : Option MscIRole
  mscT : Option MscTRole := none
  ho : Option MscHo := none
  /-- `cc.mncc_forwarding_to_remote_ran`, from an earlier inter-MSC handover. -/
  ccForwarding : Option MnccCall := none
  /-- `cc.call_leg->rtp[RTP_TO_RAN]`. -/
  rtpToRan : Option RtpStream := none
  /-- IMSI and MSISDN of the subscriber. -/
  imsi : List Char := []
  msisdn : List Char := []
  /-- How many handovers have been started. -/
  started : Nat := 0
  /-- A failed assertion, a null pointer or freed memory was used. -/
  crashed : Bool := false
  acts : List HoAct := []
deriving DecidableEq, Repr

/-- What the code meets while it handles one event. -/
structure HoEnv where
  /-- `msc_ho_find_target_cell()`. -/
  resolve : Nat → Option Neighbor := fun _ => none
  /-- `ran_conn_create_outgoing()` finds a connection id. -/
  ranConn : Bool := true
  /-- `e_link_alloc()` succeeds. -/
  eLink : Bool := true
  /-- Channel type and codec list can be composed from the call. -/
  callParams : Bool := true
  encodesRequest : Bool := true
  sendsRequest : Bool := true
  encodesReject : Bool := true
  encodesCommand : Bool := true
  encodesSucceeded : Bool := true
  /-- The HANDOVER FAILURE of a local MSC-T can be encoded. -/
  encodesFailure : Bool := true
  /-- `msc_cc_next_outgoing_callref()`. -/
  callref : Nat := 1
  setupInd : Recv := .taken
  relInd : Recv := .taken
  discInd : Recv := .taken
  /-- What MNCC answers from within the `MNCC_DISC_IND` for the earlier call. -/
  nested : List RxInput := []

section

variable (w : HoConn) (env : HoEnv)

namespace HoConn

def emit (act : HoAct) : HoConn := { w with acts := w.acts ++ [act] }

def crash : HoConn := { w with crashed := true }

def onHo (f : MscHo → MscHo) : HoConn := { w with ho := w.ho.map f }

def onRtp (f : RtpStream → RtpStream) : HoConn :=
  { w with rtpToRan := w.rtpToRan.map f }

/-- What the stream to the RAN sends to. -/
def peer : Option RtpPeer := w.rtpToRan.map RtpStream.peer

/-- `msc_ho_fsm_state_chg()`, without the entry function of the new state. -/
def stateChg (new : HoSt) : HoConn :=
  w.onHo fun ho => { ho with fi := (ho.fi.stateChg hoFsm new (some 3)).getD ho.fi }

/-- `MSC_EV_CALL_LEG_TERM` in `msc_a_cleanup_rtp_streams()`. -/
def callLegTerm : HoConn :=
  let w := { w with
    rtpToRan := none
    ccForwarding := w.ccForwarding.map fun (c : MnccCall) => { c with rtps := false } }
  match w.ho.bind MscHo.newForwarding with
  | none => w
  | some .freed => w.crash
  | some (.call c) =>
      let c := { c with rtps := false }
      w.onHo fun ho => { ho with newForwarding := some (.call c) }

/-- What an act of an MNCC call does to the connection: `msc_ho_mncc_forward_cb()` and the functions of
the stream.  A released stream takes its call leg with it.  `newCell` tells the call to the new cell
from the one of an earlier handover. -/
def callAct (newCell : Bool) (w : HoConn) : CallAct → HoConn
  | .rtpSetRemote addr => w.onRtp fun rtps => (rtpStreamSetRemoteAddr rtps addr).commit
  | .rtpRelease => (if newCell then w.emit (.rtpReleased w.started) else w).callLegTerm
  | .forwarded (.rtpConnect _) => w.onHo fun ho => { ho with rtpSwitchedToNewCell := true }
  | _ => w

/-- The acts with which an MNCC call has become `c'`. -/
def callActs (newCell : Bool) (w : HoConn) (c c' : MnccCall) : HoConn :=
  (added c.acts c'.acts).foldl (callAct newCell) w

end HoConn

/-! ### The end of a handover -/

/-- `osmo_fsm_inst_term()` on `ho.fi`: the MNCC call, a child, goes first, and then
`msc_ho_fsm_cleanup()` clears the state and the MSC-T.  The HANDOVER FAILURE of a local MSC-T finds no
handover any more. -/
def hoTerm : HoConn :=
  match w.ho with
  | none => w.crash
  | some ho =>
      let w :=
        match ho.newForwarding with
        | some (.call c) => w.callActs true c (c.term env.relInd)
        | _ => w
      { w with ho := none, mscT := none }.emit (.ended w.started w.peer)

/-- `msc_ho_down_required_reject()`.  What `msc_a_msg_down()` returns is not looked at. -/
def mscHoDownRequiredReject (reject : HoAct) (env : HoEnv) : HoConn :=
  match w.mscI with
  | none => w.crash
  | some _ => if env.encodesReject then w.emit reject else w

/-- The last part of `msc_ho_rtp_rollback_to_old_cell()`: an earlier call to a remote cell gets the stream
back, and the stream its old peer. -/
def HoConn.switchBack (oldCell : RtpPeer) : HoConn :=
  let w := { w with ccForwarding := w.ccForwarding.map mnccCallSetRtpStream }
  let w := w.onHo fun ho => { ho with rtpSwitchedToNewCell := false, readyToSwitchRtp := false }
  w.onRtp fun rtps =>
    (rtpStreamSetCodecs (rtpStreamSetRemoteAddr rtps oldCell.remote) oldCell.codecs).commit

/-- `msc_ho_rtp_rollback_to_old_cell()`. -/
def mscHoRtpRollbackToOldCell : HoConn :=
  match w.ho, w.rtpToRan with
  | some ho, some _ =>
      if !ho.rtpSwitchedToNewCell || !ho.oldCell.remote.isNonzero then w
      else
        match ho.newForwarding with
        | none => w.switchBack ho.oldCell
        | some (.call c) =>
            let c' := mnccCallDetachRtpStream c
            let w := w.onHo fun ho => { ho with newForwarding := some (.call c') }
            (w.callActs true c c').switchBack ho.oldCell
        | some .freed => w.crash
  | _, _ => w

/-- The call to the new cell holds the stream. -/
def MscHo.forwardingHolds (ho : MscHo) : Bool :=
  match ho.newForwarding with
  | some (.call c) => c.rtps
  | _ => false

/-- The entry of the log for a handover that is about to be given up. -/
def HoConn.giveUp (timer : Bool) : HoConn :=
  match w.ho with
  | none => w
  | some ho => w.emit (.failing w.started timer ho.forwardingHolds ho.rtpSwitchedToNewCell)

/-- `msc_ho_failed()`, that is, `msc_ho_end()` without success. -/
def mscHoFailed (cause : HoCause) (env : HoEnv) : HoConn :=
  let w := mscHoRtpRollbackToOldCell (w.giveUp false)
  let w := mscHoDownRequiredReject w (.requiredReject w.started cause) env
  if w.crashed then w else hoTerm w env

/-- `msc_ho_end()`: the call to the remote cell that is left is released. -/
def hoReleaseCcForwarding : HoConn :=
  match w.ccForwarding with
  | none => w
  | some c =>
      { w.callActs false c (mnccCallRelease c env.discInd env.nested env.relInd) with
        ccForwarding := none }

/-- `msc_ho_success()`, that is, `msc_ho_end()` with success.  In an inter-MSC handover the MNCC call
gets a new parent, through a pointer that nobody has checked. -/
def mscHoSuccess : HoConn :=
  let w := hoReleaseCcForwarding w env
  if w.crashed then w
  else
    match w.mscT, w.ho.bind MscHo.newForwarding with
    | some (.localBss _), _ =>
        hoTerm ({ w with mscI := some (.localBss true) }.emit (.takenOver w.started false)) env
    | some .remoteMsc, some (.call c) =>
        let w := { w with
          ccForwarding := some { c with messageCb := false }
          mscI := some .remoteMsc }
        let w := w.onHo fun ho => { ho with newForwarding := none }
        hoTerm (w.emit (.takenOver w.started true)) env
    | _, _ => w.crash

/-! ### Looking for a target cell -/

/-- Does the state of the handover accept the event? -/
def HoConn.accepts (event : HoEvent) : Bool :=
  match w.ho with
  | none => false
  | some ho => ho.fi.accepts hoFsm event

/-- `MSC_HO_EV_RX_FAILURE`. -/
def hoRxFailure : HoConn :=
  if w.accepts .rxFailure then mscHoFailed w .noRadioResourceAvailable env else w

/-- `msc_t_clear()`: the cleanup function of a local MSC-T reports a HANDOVER FAILURE. -/
def mscTRoleClear : HoConn :=
  match w.mscT with
  | some (.localBss t) =>
      let w :=
        if !t.hoSuccess && !t.hoFailSent && env.encodesFailure then hoRxFailure w env else w
      { w with mscT := none }
  | _ => { w with mscT := none }

/-- One call of `msc_ho_find_next_target_cell()`, for a cell of the list. -/
def HoConn.visit (cid : Nat) (target : Option Neighbor) : HoConn :=
  (w.onHo fun ho => { ho with nextCilIdx := ho.nextCilIdx + 1, newType := target }).emit
    (.visited w.started cid target)

/-- The HANDOVER REQUEST goes out, if it can be sent. -/
def HoConn.requested (cid : Nat) (env : HoEnv) : HoConn :=
  if env.sendsRequest then w.emit (.handoverRequest w.started cid) else w

/-- `MSC_T_EV_FROM_A_PREPARE_HANDOVER_REQUEST` at the MSC-T.  A local MSC-T is cleared if it cannot
send; a remote one does not look at what `e_tx()` returns. -/
def mscTRolePrepareHandoverRequest (cid : Nat) (env : HoEnv) : HoConn :=
  match w.mscT with
  | some (.localBss t) =>
      let t := t.stateChg .waitHoRequestAck
      let w := { w.requested cid env with mscT := some (.localBss t) }
      if env.sendsRequest then w else mscTRoleClear w env
  | _ => w.requested cid env

/-- `msc_ho_send_handover_request()`; `tryNext` is `msc_ho_try_next_cell()`. -/
def mscHoSendHandoverRequest (cid : Nat) (env : HoEnv) (tryNext : HoConn → HoConn) : HoConn :=
  if !env.callParams then mscHoFailed w .equipmentFailure env
  else if !env.encodesRequest then tryNext w
  else mscTRolePrepareHandoverRequest w cid env

/-- The MSC-T role for the target; `none` if it cannot be set up.  A local MSC-T without a RAN
connection is cleared again, and reports that to the handover FSM. -/
def mscTRoleAlloc (target : Neighbor) (env : HoEnv) : HoConn × Bool :=
  match target with
  | .localRanPeer =>
      let w := { w with mscT := some (.localBss { ranConn := .up }) }
      if env.ranConn then (w, true) else (mscTRoleClear w env, false)
  | .remoteMsc => if env.eLink then ({ w with mscT := some .remoteMsc }, true) else (w, false)

/-- `msc_ho_fsm_wait_request_ack_onenter()`. -/
def mscHoFsmWaitRequestAckOnenter (cid : Nat) (target : Neighbor) (env : HoEnv)
    (tryNext : HoConn → HoConn) : HoConn :=
  match w.mscT, w.mscI with
  | some _, _ => mscHoFailed w .equipmentFailure env
  | none, none | none, some (.localBss false) => mscHoFailed w .equipmentFailure env
  | none, some role =>
      let w := w.onHo fun ho => { ho with subsequentHo := ho.subsequentHo || role == .remoteMsc }
      match mscTRoleAlloc w target env with
      | (w, true) => mscHoSendHandoverRequest w cid env tryNext
      | (w, false) => if w.crashed then w else mscHoFailed w .equipmentFailure env

/-- The act of `msc_ho_try_next_cell()`, with the cells that are left. -/
def HoConn.tryingNext (cells : List Nat) (env : HoEnv) : HoConn :=
  (w.emit (.tryNextCell w.started (cells.find? fun cid => (env.resolve cid).isSome))).stateChg
    .required

/-- `msc_ho_fsm_required_onenter()`, with the cells of the list that are left.  After a cell that
resolves to no target the function calls itself for the next one. -/
def mscHoFsmRequiredOnenter (env : HoEnv) : List Nat → HoConn → HoConn
  | [], w => mscHoFailed w .noRadioResourceAvailable env
  | cid :: cells, w =>
      let w := w.visit cid (env.resolve cid)
      match env.resolve cid with
      | none => mscHoFsmRequiredOnenter env cells w
      | some target =>
          mscHoFsmWaitRequestAckOnenter (w.stateChg .waitRequestAck) cid target env fun w =>
            mscHoFsmRequiredOnenter env cells (w.tryingNext cells env)

/-- `msc_ho_try_next_cell()`. -/
def mscHoTryNextCell : HoConn :=
  let cells :=
    match w.ho with
    | none => []
    | some ho => ho.cil.drop ho.nextCilIdx
  mscHoFsmRequiredOnenter env cells (w.tryingNext cells env)

/-- The new state of `msc_ho_start()`, in REQUIRED. -/
def HoConn.begin (cil : List Nat) : HoConn :=
  let w := { w with ho := some { cil := cil }, started := w.started + 1 }
  (w.emit (.started w.started cil w.peer)).stateChg .required

/-- `msc_ho_start()`. -/
def mscHoStart (cil : List Nat) (env : HoEnv) : HoConn :=
  if w.ho.isSome then mscHoDownRequiredReject w (.refused .protocolErrorBetweenBssAndMsc) env
  else if cil.isEmpty then
    mscHoDownRequiredReject w (.refused .informationElementOrFieldMissing) env
  else if w.mscT.isSome then
    mscHoDownRequiredReject w (.refused .protocolErrorBetweenBssAndMsc) env
  else mscHoFsmRequiredOnenter env cil (w.begin cil)

/-! ### Messages of the target -/

/-- The Handover Number in a HANDOVER REQUEST ACK of a remote MSC. -/
inductive HandoverNumber where
  | missing
  | undecodable
  | number (digits : List Char)
deriving DecidableEq, Repr

/-- `struct ran_handover_request_ack`, and the Handover Number beside it. -/
structure RequestAck where
  /-- `rr_ho_command` is there and not empty. -/
  rrHoCommand : Bool := true
  /-- Zero if the IE is missing. -/
  chosenEncrAlg : Nat := 0
  remoteRtp : SockAddr := {}
  codec : Option (Option SdpAudioCodec) := none
  handoverNumber : HandoverNumber := .missing
deriving DecidableEq, Repr

/-- `msc_ho_start_inter_msc_call_forwarding()`; the flag says whether it returns zero.
`mncc_call_outgoing_start()` does so even if `MNCC_SETUP_IND` could not be sent and the call is over. -/
def mscHoStartInterMscCallForwarding (ack : RequestAck) (bearerCap : Option Nat) (env : HoEnv) :
    HoConn × Bool :=
  match ack.handoverNumber, w.rtpToRan with
  | .missing, _ => (mscHoTryNextCell w env, false)
  | _, none => (mscHoFailed w .equipmentFailure env, false)
  | .undecodable, some rtps =>
      (mscHoTryNextCell (w.onHo fun ho => { ho with oldCell := rtps.peer }) env, false)
  | .number digits, some rtps =>
      let c := mnccCallSetRtpStream (mnccCallAlloc w.imsi w.msisdn true)
      let req : GsmMncc := { called := some digits, bearerCap := bearerCap }
      let c' := mnccCallOutgoingStart c req env.callref env.setupInd env.relInd
      let w := w.onHo fun ho =>
        { ho with oldCell := rtps.peer, newForwarding := some (.call c') }
      let w := if c'.fi.terminating then w.emit (.forwardingEnded w.started) else w
      (w.callActs true c c', true)

/-- The rest of `msc_ho_rx_request_ack()`: HANDOVER COMMAND to the MSC-I. -/
def mscHoSendHandoverCommand (ack : RequestAck) (env : HoEnv) : HoConn :=
  let w := w.stateChg .waitComplete
  if w.mscI.isSome && env.encodesCommand then
    (w.emit (.handoverCommand w.started)).onHo fun ho =>
      { ho with newRanRemoteRtp := ack.remoteRtp, newCodec := ack.codec }
  else mscHoFailed w .equipmentFailure env

/-- `msc_ho_rx_request_ack()`. -/
def mscHoRxRequestAck (ack : RequestAck) (bearerCap : Option Nat) (env : HoEnv) : HoConn :=
  if w.mscT.isNone then mscHoFailed w .equipmentFailure env
  else if !ack.rrHoCommand || 8 < ack.chosenEncrAlg then mscHoTryNextCell w env
  else if w.ho.bind MscHo.newType = some .remoteMsc then
    match mscHoStartInterMscCallForwarding w ack bearerCap env with
    | (w, false) => w
    | (w, true) => mscHoSendHandoverCommand w ack env
  else mscHoSendHandoverCommand w ack env

/-- An earlier call to a remote cell is no longer responsible for the stream. -/
def HoConn.detachCcForwarding : HoConn :=
  match w.ccForwarding with
  | none => w
  | some c =>
      let c' := mnccCallDetachRtpStream c
      { w with ccForwarding := some c' }.callActs false c c'

/-- `msc_ho_rtp_switch_to_new_cell()`. -/
def mscHoRtpSwitchToNewCell : HoConn :=
  match w.ho, w.rtpToRan with
  | some ho, some rtps =>
      if !ho.newRanRemoteRtp.isNonzero || ho.rtpSwitchedToNewCell then w
      else
        let w := w.onHo fun ho => { ho with rtpSwitchedToNewCell := true, oldCell := rtps.peer }
        w.detachCcForwarding.onRtp fun rtps =>
          let rtps := rtpStreamSetRemoteAddr rtps ho.newRanRemoteRtp
          match ho.newCodec with
          | some (some codec) => (rtpStreamSetOneCodec rtps codec).commit
          | _ => rtps.commit
  | _, _ => w

/-- `msc_ho_send_handover_succeeded()`. -/
def mscHoSendHandoverSucceeded : HoConn :=
  if w.mscI.isSome && env.encodesSucceeded then w.emit (.handoverSucceeded w.started)
  else mscHoFailed w .equipmentFailure env

/-- `MSC_HO_EV_RX_DETECT`. -/
def hoRxDetect : HoConn :=
  let w := w.onHo fun ho => { ho with readyToSwitchRtp := true }
  if w.ho.bind MscHo.newType = some .localRanPeer then
    mscHoSendHandoverSucceeded (mscHoRtpSwitchToNewCell w) env
  else mscHoSendHandoverSucceeded w env

/-- `msc_a_ran_dec_from_msc_t()`, without CLEAR REQUEST. -/
def HoConn.mscARanDecFromMscT (msg : TargetMsg) (ack : RequestAck) (bearerCap : Option Nat)
    (env : HoEnv) : HoConn :=
  match msg with
  | .handoverRequestAck =>
      if w.accepts .rxRequestAck then mscHoRxRequestAck w ack bearerCap env else w
  | .handoverDetect => if w.accepts .rxDetect then hoRxDetect w env else w
  | .handoverComplete => if w.accepts .rxComplete then mscHoSuccess w env else w
  | .handoverFailure => hoRxFailure w env
  | .clearRequest | .other | .undecodable => w

/-- `MSC_EV_FROM_RAN_UP_L2` at a local MSC-T: what it notes for itself, around what MSC-A does. -/
def mscTLocalUpL2 (t : MscT) (msg : TargetMsg) (ack : RequestAck) (bearerCap : Option Nat)
    (env : HoEnv) : HoConn :=
  match t.fi.state, msg with
  | _, .clearRequest => if t.fi.accepts mscTFsm .moClose then mscTRoleClear w env else w
  | .waitHoRequestAck, .handoverRequestAck =>
      let w := HoConn.mscARanDecFromMscT w msg ack bearerCap env
      match w.mscT with
      | some (.localBss t) => { w with mscT := some (.localBss (t.stateChg .waitHoComplete)) }
      | _ => w
  | .waitHoComplete, .handoverComplete =>
      let w := { w with mscT := some (.localBss { t with hoSuccess := true }) }
      HoConn.mscARanDecFromMscT w msg ack bearerCap env
  | _, _ => HoConn.mscARanDecFromMscT w msg ack bearerCap env

/-- A message of the target, from its BSS or over the E link. -/
def hoTargetMsg (msg : TargetMsg) (ack : RequestAck) (bearerCap : Option Nat) (env : HoEnv) :
    HoConn :=
  match w.mscT with
  | none => w
  | some .remoteMsc => HoConn.mscARanDecFromMscT w msg ack bearerCap env
  | some (.localBss t) =>
      if t.fi.accepts mscTFsm .fromRanUpL2 then mscTLocalUpL2 w t msg ack bearerCap env else w

/-! ### Messages of MNCC -/

/-- An act of the call to the new cell: when the call ends, the handover FSM is told. -/
def forwardingAct (w : HoConn) (act : CallAct) : HoConn :=
  if act = .terminated then
    let w := w.emit (.forwardingEnded w.started)
    if w.accepts .mnccForwardingFailed then mscHoFailed w .equipmentFailure env else w
  else w.callAct true act

/-- The message as the call meets it, given the stream. -/
def HoConn.rxView (rx : RxInput) : RxInput :=
  match rx.msg, w.rtpToRan with
  | .rtpConnect (some addr), some rtps =>
      { rx with rtp := { rx.rtp with
          commit := (rtpStreamCommit (rtpStreamSetRemoteAddr rtps addr)).isSome } }
  | _, _ => rx

/-- A message of MNCC for the call to the new cell. -/
def hoMnccRx (rx : RxInput) (env : HoEnv) : HoConn :=
  match w.ho.bind MscHo.newForwarding with
  | some (.call c) =>
      let c' := mnccCallRx c (w.rxView rx)
      (added c.acts c'.acts).foldl (forwardingAct env)
        (w.onHo fun ho => { ho with newForwarding := some (.call c') })
  | _ => w

end

/-! ### Runs -/

/-- What happens to the connection, as long as it is not released. -/
inductive HoInput where
  | handoverRequired (cil : List Nat) (env : HoEnv)
  | target (msg : TargetMsg) (ack : RequestAck) (bearerCap : Option Nat) (env : HoEnv)
  /-- The RAN connection of a local MSC-T is closed. -/
  | targetConnReleased (env : HoEnv)
  /-- CLOSE, ABORT or ROUTING ERROR on the E link of a remote MSC-T. -/
  | targetClosed
  /-- HANDOVER FAILURE from the MSC-I. -/
  | sourceFailure (env : HoEnv)
  | mncc (rx : RxInput) (env : HoEnv)
  /-- The timer of the FSM expires. -/
  | timeout (env : HoEnv)
  /-- The MSC-I ends.  Without an MSC-T the whole connection would be released. -/
  | mscIGone
  /-- The MGW has lost the stream. -/
  | callLegTerm

/-- What the code meets while it handles the input. -/
def HoInput.env : HoInput → HoEnv
  | .handoverRequired _ env | .target _ _ _ env | .targetConnReleased env | .sourceFailure env
  | .mncc _ env | .timeout env => env
  | .targetClosed | .mscIGone | .callLegTerm => {}

/-- A call that has ended is freed by the next event. -/
def HoConn.expire (w : HoConn) : HoConn :=
  match w.ho.bind MscHo.newForwarding with
  | some (.call c) =>
      if c.fi.terminating then w.onHo fun ho => { ho with newForwarding := some .freed } else w
  | _ => w

def hoEvent (w : HoConn) : HoInput → HoConn
  | .handoverRequired cil env => mscHoStart w cil env
  | .target msg ack bearerCap env => hoTargetMsg w msg ack bearerCap env
  | .targetConnReleased env =>
      match w.mscT with
      | some (.localBss t) =>
          if t.fi.accepts mscTFsm .fromRanConnReleased then mscTRoleClear w env else w
      | _ => w
  | .targetClosed => if w.mscT = some .remoteMsc then { w with mscT := none } else w
  | .sourceFailure env => hoRxFailure w env
  | .mncc rx env => hoMnccRx w rx env
  -- msc_ho_fsm_timer_cb() asks for termination, and there is no call of msc_ho_end()
  | .timeout env => if w.ho.isSome then hoTerm (w.giveUp true) env else w
  | .mscIGone => if w.mscT.isSome then { w with mscI := none } else w
  | .callLegTerm => if w.rtpToRan.isSome then w.callLegTerm else w

def hoStep (w : HoConn) (input : HoInput) : HoConn :=
  if w.crashed then w else hoEvent w.expire input

end OsmoMsc.Msc
