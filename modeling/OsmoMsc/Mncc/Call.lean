/-
Module: OsmoMsc.Mncc.Call
Purpose: One `mncc_call` FSM instance (mncc_call.c): the call that an MSC makes to, or accepts from,
  the external call control when a handover leads to another MSC.  The model has the FSM with its
  table, every message sent and received, the RTP stream that is associated with the call, and the
  ways in which a failure to send ends the instance in the middle of a handler.
Trusted boundary: libosmocore's FSM, as in OsmoMsc.Library.Fsm; a terminated instance stays in memory
  until the end of the select round (`osmo_fsm_set_dealloc_ctx()` in msc_main.c)
Main exports: CallState, MnccOut, CallAct, MnccCall, mnccCallRx, mnccCallRelease, CallInput,
  callStep
-/
import OsmoMsc.Library.Fsm
import OsmoMsc.Rtp.Stream

namespace OsmoMsc.Mncc

open Library Rtp

/-! ### Messages -/

/-- `struct gsm_mncc`, as far as the FSM reads it. -/
structure GsmMncc where
  called : Option (List Char) := none
  calling : Option (List Char) := none
  bearerCap : Option Nat := none
deriving DecidableEq, Repr

/-- The messages of MNCC that some handler tells from the rest. -/
inductive MnccIn where
  | callProcReq
  | setupRsp
  | setupComplReq
  | rtpCreate
  /-- `none`: `osmo_sockaddr_str_from_sockaddr()` fails on the address in the message. -/
  | rtpConnect (addr : Option SockAddr)
  | discReq
  | relReq
  | other (msgType : Nat)
deriving DecidableEq, Repr

/-- The messages to MNCC. -/
inductive MnccOut where
  | setupInd (req : GsmMncc) (imsi : List Char)
  | callConfInd (bearerCap : Option Nat)
  | setupCnf (connected : Option (List Char))
  | setupComplInd
  /-- With the payload type and the MNCC payload message type, if a codec is known. -/
  | rtpCreate (addr : SockAddr) (payload : Option (Nat × Nat))
  | discInd
  | relInd
  | relCnf
deriving DecidableEq, Repr

/-- `MNCC_REL_IND` and `MNCC_REL_CNF` end the call on the MNCC side. -/
def MnccOut.terminal : MnccOut → Bool
  | .relInd | .relCnf => true
  | _ => false

/-- What `mncc_recv()` does with a message.  The socket queues it, or is gone.  The internal handler
(mncc_builtin.c) always takes it, and may return an error from what it then does to the other leg. -/
inductive Recv where
  | taken
  | gone
  | takenWithError
deriving DecidableEq, Repr

namespace Recv

def delivered : Recv → Bool
  | .taken | .takenWithError => true
  | .gone => false

/-- `mncc_recv()` returns nonzero. -/
def fails : Recv → Bool
  | .taken => false
  | .gone | .takenWithError => true

end Recv

/-! ### The FSM -/

/-- `enum mncc_call_fsm_state`. -/
inductive CallState where
  | notStarted
  | outgoingWaitProceeding
  | outgoingWaitComplete
  | incomingWaitComplete
  | talking
  | waitReleaseAck
deriving DecidableEq, Repr

/-- The events of `mncc_call_fsm` that some state accepts. -/
inductive CallEvent where
  | rxMnccMsg
  | outgoingStart
  | incomingStart
deriving DecidableEq, Repr

/-- `mncc_call_fsm_states[]`. -/
def callFsm : Table CallState CallEvent where
  inEvent
    | .notStarted, .rxMnccMsg => false
    | .notStarted, _ => true
    | _, .rxMnccMsg => true
    | _, _ => false
  outState
    | .notStarted, .outgoingWaitProceeding | .notStarted, .incomingWaitComplete => true
    | .outgoingWaitProceeding, .outgoingWaitComplete | .outgoingWaitProceeding, .waitReleaseAck =>
        true
    | .outgoingWaitComplete, .talking | .outgoingWaitComplete, .waitReleaseAck => true
    | .incomingWaitComplete, .talking | .incomingWaitComplete, .waitReleaseAck => true
    | .talking, .waitReleaseAck => true
    | _, _ => false

/-- What an instance does to the outside, in order. -/
inductive CallAct where
  | sent (callref : Nat) (msg : MnccOut)
  | stateChg (new : CallState)
  /-- `message_cb()` is invoked. -/
  | forwarded (msg : MnccIn)
  /-- `rtp_stream_set_remote_addr()` on the associated stream. -/
  | rtpSetRemote (addr : SockAddr)
  /-- `rtp_stream_release()` on the associated stream. -/
  | rtpRelease
  /-- `osmo_fsm_inst_term()` has run the cleanup function. -/
  | terminated
deriving DecidableEq, Repr

/-- `struct mncc_call`. -/
structure MnccCall where
  fi : Inst CallState := { state := .notStarted }
  /-- IMSI and MSISDN of `vsub`. -/
  imsi : List Char
  msisdn : List Char
  callref : Nat := 0
  outgoingReq : GsmMncc := {}
  localMsisdn : Option (List Char) := none
  remoteMsisdn : Option (List Char) := none
  /-- An RTP stream is associated. -/
  rtps : Bool := false
  receivedRtpCreate : Bool := false
  /-- `message_cb` is set. -/
  messageCb : Bool
  acts : List CallAct := []
deriving DecidableEq, Repr

/-- `mncc_call_alloc()`. -/
def mnccCallAlloc (imsi msisdn : List Char) (messageCb : Bool) : MnccCall :=
  { imsi := imsi, msisdn := msisdn, messageCb := messageCb }

namespace MnccCall

def emit (c : MnccCall) (act : CallAct) : MnccCall := { c with acts := c.acts ++ [act] }

/-- The call of `mncc_recv()`, without what happens if it fails. -/
def send (c : MnccCall) (msg : MnccOut) (recv : Recv) : MnccCall :=
  if recv.delivered then c.emit (.sent c.callref msg) else c

/-- `mncc_call_fsm_state_chg()`. -/
def stateChg (c : MnccCall) (new : CallState) : MnccCall :=
  match c.fi.stateChg callFsm new none with
  | none => c
  | some fi => { c with fi := fi }.emit (.stateChg new)

/-- `mncc_call_fsm_cleanup()`.  A failure to send `MNCC_REL_IND` would terminate the instance, which
is being terminated already. -/
def cleanup (c : MnccCall) (recv : Recv) : MnccCall :=
  let c :=
    match c.fi.state with
    | .notStarted | .waitReleaseAck => c
    | _ => c.send .relInd recv
  if c.rtps then { c with rtps := false }.emit .rtpRelease else c

/-- `osmo_fsm_inst_term()`; `recv` is for the `MNCC_REL_IND` of the cleanup function. -/
def term (c : MnccCall) (recv : Recv) : MnccCall :=
  match c.fi.term with
  | none => c
  | some fi => ({ c with fi := fi }.cleanup recv).emit .terminated

end MnccCall

/-! ### Sending -/

variable (recv cleanup : Recv) (c : MnccCall)

/-- `mncc_call_tx()`; a failure ends the instance through `mncc_call_error()`. -/
def mnccCallTx (msg : MnccOut) (recv cleanup : Recv) : MnccCall :=
  if recv.fails then (c.send msg recv).term cleanup else c.send msg recv

/-- `mncc_call_tx_setup_ind()`. -/
def mnccCallTxSetupInd (recv cleanup : Recv) : MnccCall :=
  let calling := c.outgoingReq.calling.getD c.msisdn
  let req := { c.outgoingReq with calling := some calling }
  mnccCallTx { c with localMsisdn := some calling } (.setupInd req c.imsi) recv cleanup

/-- `mncc_call_incoming_tx_call_conf_ind()`. -/
def mnccCallIncomingTxCallConfInd (bearerCap : Option Nat) (recv cleanup : Recv) : MnccCall :=
  if c.fi.state = .incomingWaitComplete then mnccCallTx c (.callConfInd bearerCap) recv cleanup
  else c

/-- `mncc_call_incoming_tx_setup_cnf()`. -/
def mnccCallIncomingTxSetupCnf (connected : Option (List Char)) (recv cleanup : Recv) : MnccCall :=
  if c.fi.state = .incomingWaitComplete then mnccCallTx c (.setupCnf connected) recv cleanup
  else c

/-! ### Receiving -/

/-- What the handlers read of the associated RTP stream. -/
structure RtpView where
  localAddr : SockAddr := {}
  /-- `osmo_sockaddr_str_to_sockaddr()` succeeds on the local address. -/
  toSockaddr : Bool := true
  codecsKnown : Bool := false
  /-- Payload type and MNCC payload message type of the first codec; `none` if
  `codec_mapping_by_subtype_name()` does not know it. -/
  codec : Option (Nat × Nat) := none
  /-- `rtp_stream_commit()` succeeds after a new remote address was set. -/
  commit : Bool := true
deriving DecidableEq, Repr

/-- A message from MNCC, with what the handler meets: the stream, and the fate of the message it may
send and of the `MNCC_REL_IND` of the cleanup function. -/
structure RxInput where
  msg : MnccIn
  rtp : RtpView := {}
  reply : Recv := .taken
  cleanup : Recv := .taken
deriving DecidableEq, Repr

variable (rx : RxInput)

/-- `mncc_call_tx_rtp_create()`. -/
def mnccCallTxRtpCreate : MnccCall :=
  if !c.rtps || !rx.rtp.localAddr.isNonzero || !rx.rtp.toSockaddr then c.term rx.cleanup
  else if rx.rtp.codecsKnown && rx.rtp.codec.isNone then c.term rx.cleanup
  else
    let payload := if rx.rtp.codecsKnown then rx.rtp.codec else none
    mnccCallTx c (.rtpCreate rx.rtp.localAddr payload) rx.reply rx.cleanup

/-- `mncc_call_rx_rtp_create()`. -/
def mnccCallRxRtpCreate : MnccCall :=
  let c := { c with receivedRtpCreate := true }
  if !c.rtps || !rx.rtp.localAddr.isNonzero || !rx.rtp.codecsKnown then c
  else mnccCallTxRtpCreate c rx

/-- `mncc_call_rx_rtp_connect()`. -/
def mnccCallRxRtpConnect (addr : Option SockAddr) (rx : RxInput) : MnccCall :=
  if !c.rtps then c
  else
    match addr with
    | none => c.term rx.cleanup
    | some addr =>
        let c := c.emit (.rtpSetRemote addr)
        if rx.rtp.commit then c else c.term rx.cleanup

/-- `mncc_call_rx_release_msg()`, for the two messages that end the call. -/
def mnccCallRxReleaseMsg (answer : MnccOut) (rx : RxInput) : MnccCall :=
  (mnccCallTx c answer rx.reply rx.cleanup).term rx.cleanup

/-- `mncc_call_rx_common_msg()`, for messages other than `MNCC_DISC_REQ` and `MNCC_REL_REQ`: it
reports the instance as alive, whatever became of it. -/
def mnccCallRxCommonMsg : MnccCall :=
  match rx.msg with
  | .rtpCreate => mnccCallRxRtpCreate c rx
  | .rtpConnect addr => mnccCallRxRtpConnect c addr rx
  | _ => c

/-- `mncc_call_forward()`. -/
def mnccCallForward (msg : MnccIn) : MnccCall :=
  if c.messageCb then c.emit (.forwarded msg) else c

/-- The `switch` over the message in the action functions of the states.  `state` is the state whose
action runs. -/
def mnccCallProgress (state : CallState) (c : MnccCall) (rx : RxInput) : MnccCall :=
  match state, rx.msg with
  | .outgoingWaitProceeding, .callProcReq => c.stateChg .outgoingWaitComplete
  | .outgoingWaitComplete, .setupRsp =>
      mnccCallTx (c.stateChg .talking) .setupComplInd rx.reply rx.cleanup
  | .incomingWaitComplete, .setupComplReq => c.stateChg .talking
  | _, _ => c

/-- What the action functions of the states do with a message other than `MNCC_DISC_REQ` and
`MNCC_REL_REQ` before they forward it.  In WAIT_RELEASE_ACK it is only forwarded. -/
def mnccCallHandle : MnccCall :=
  match c.fi.state with
  | .waitReleaseAck => c
  | state => mnccCallProgress state (mnccCallRxCommonMsg c rx) rx

/-- The action functions of all states that accept messages. -/
def mnccCallFsmRx : MnccCall :=
  match rx.msg with
  | .discReq => mnccCallRxReleaseMsg c .relInd rx
  | .relReq => mnccCallRxReleaseMsg c .relCnf rx
  | msg => mnccCallForward (mnccCallHandle c rx) msg

/-- `mncc_call_rx()`. -/
def mnccCallRx : MnccCall :=
  if c.fi.accepts callFsm .rxMnccMsg then mnccCallFsmRx c rx else c

/-! ### Starting and ending a call -/

/-- `mncc_call_outgoing_start()`, with the number `msc_cc_next_outgoing_callref()` returns. -/
def mnccCallOutgoingStart (req : GsmMncc) (callref : Nat) (recv cleanup : Recv) : MnccCall :=
  if c.fi.accepts callFsm .outgoingStart then
    let c := { c with outgoingReq := req, callref := callref }
    mnccCallTxSetupInd (c.stateChg .outgoingWaitProceeding) recv cleanup
  else c

/-- `mncc_call_rx_setup_req()`. -/
def mnccCallRxSetupReq (callref : Nat) (req : GsmMncc) : MnccCall :=
  { c with
    callref := callref
    localMsisdn := req.called.or c.localMsisdn
    remoteMsisdn := req.calling.or c.remoteMsisdn }

/-- `mncc_call_incoming_start()`, with the `MNCC_SETUP_REQ` and the bearer capability to confirm. -/
def mnccCallIncomingStart (callref : Nat) (req : GsmMncc) (bearerCap : Option Nat)
    (recv cleanup : Recv) : MnccCall :=
  if c.fi.accepts callFsm .incomingStart then
    let c := (mnccCallRxSetupReq c callref req).stateChg .incomingWaitComplete
    mnccCallIncomingTxCallConfInd c bearerCap recv cleanup
  else c

/-- `mncc_call_release()`.  The internal MNCC handler answers `MNCC_DISC_IND` from within
`mncc_recv()`: `nested` are the messages that arrive before the state is changed. -/
def mnccCallRelease (recv : Recv) (nested : List RxInput) (cleanup : Recv) : MnccCall :=
  let c := nested.foldl mnccCallRx (c.send .discInd recv)
  let c := if recv.fails then c.term cleanup else c
  c.stateChg .waitReleaseAck

/-- `mncc_call_set_rtp_stream()`; with another stream associated it fails. -/
def mnccCallSetRtpStream : MnccCall := { c with rtps := true }

/-- `mncc_call_detach_rtp_stream()`: the address of the stream is cleared. -/
def mnccCallDetachRtpStream : MnccCall :=
  if c.rtps then { c with rtps := false }.emit (.rtpSetRemote {}) else c

/-! ### Runs -/

/-- What reaches an instance.  The functions may also be called on an instance that is terminated but
still in memory.  Messages that the internal MNCC handler sends from within `mncc_recv()` for
`MNCC_SETUP_IND`, `MNCC_CALL_CONF_IND` or `MNCC_SETUP_CNF`, and calls made by `message_cb()`, come
at the end of the handler and so are inputs that follow; an error that `mncc_recv()` then returns is
`term`. -/
inductive CallInput where
  | outgoingStart (req : GsmMncc) (callref : Nat) (recv cleanup : Recv)
  | incomingStart (callref : Nat) (req : GsmMncc) (bearerCap : Option Nat) (recv cleanup : Recv)
  | rx (rx : RxInput)
  | txSetupCnf (connected : Option (List Char)) (recv cleanup : Recv)
  | release (recv : Recv) (nested : List RxInput) (cleanup : Recv)
  | setRtpStream
  | detachRtpStream
  /-- The call leg ends and clears the pointer to its stream. -/
  | rtpsGone
  /-- `mncc_call_reparent()` replaces the callback. -/
  | reparent (messageCb : Bool)
  /-- The parent ends, or a caller terminates the instance. -/
  | term (cleanup : Recv)
deriving DecidableEq, Repr

def callStep : CallInput → MnccCall
  | .outgoingStart req callref recv cleanup => mnccCallOutgoingStart c req callref recv cleanup
  | .incomingStart callref req bearerCap recv cleanup =>
      mnccCallIncomingStart c callref req bearerCap recv cleanup
  | .rx rx => mnccCallRx c rx
  | .txSetupCnf connected recv cleanup => mnccCallIncomingTxSetupCnf c connected recv cleanup
  | .release recv nested cleanup => mnccCallRelease c recv nested cleanup
  | .setRtpStream => mnccCallSetRtpStream c
  | .detachRtpStream => mnccCallDetachRtpStream c
  | .rtpsGone => { c with rtps := false }
  | .reparent messageCb => { c with messageCb := messageCb }
  | .term cleanup => c.term cleanup

end OsmoMsc.Mncc
