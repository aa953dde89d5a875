/-
Module: OsmoMsc.Cc.Trans
Purpose: Call control transactions (gsm_04_08_cc.c, transaction.c) as the network's list holds them, what
  is sent to MNCC and to the MS for them, their timers, and `trans_free()`.  A transaction is named by
  its `call_id`; using one that has been freed is a crash.
Trusted boundary: sending to the MS, and a message to MNCC that ends a call, do not call back: the MNCC
  socket queues, and the built-in MNCC handler then only releases the other leg, which is an input of
  its own.  So nothing can tell that `trans_free()` takes the transaction off `trans_list` before it
  tells MNCC, and not after it as here; OsmoMsc.Cc.ActiveCalls keeps to the order of the source
Main exports: MnccType, MnccMsg, CcMsg, CcTrans, CcAct, CcNet, mnccReleaseInd, gsm48CcTxRelease,
  transFree
-/
import Mathlib.Algebra.Group.Nat.Defs
import OsmoMsc.Msc.Transaction

namespace OsmoMsc.Cc

open Msc (BearerTransfer)

/-! ### States, timers and messages -/

/-- `GSM_CSTATE_*`, as far as a transaction gets there. -/
inductive CcState where
  | null
  | initiated
  | moCallProc
  | callDelivered
  | callPresent
  | callReceived
  | connectRequest
  | moTermCallConf
  | active
  | disconnectReq
  | disconnectInd
  | releaseReq
  | moOrigModify
  | moTermModify
  | connectInd
deriving DecidableEq, Repr

/-- `Tcurrent` of a pending `cc.timer`. -/
inductive CcTimer where
  | t301
  | t303
  | t306
  | t308
  | t310
  | t313
  | t323
deriving DecidableEq, Repr

/-- The types of MNCC messages, in both directions. -/
inductive MnccType where
  /-- A `struct gsm_mncc` that was composed for its cause only. -/
  | unset
  | setupReq
  | setupInd
  | setupRsp
  | setupCnf
  | setupComplReq
  | setupComplInd
  | callConfInd
  | callProcReq
  | progressReq
  | alertReq
  | alertInd
  | notifyReq
  | notifyInd
  | discReq
  | discInd
  | relReq
  | relInd
  | relCnf
  | rejReq
  | rejInd
  | holdInd
  | holdCnf
  | holdRej
  | retrieveInd
  | retrieveCnf
  | retrieveRej
  | userinfoReq
  | userinfoInd
  | facilityReq
  | facilityInd
  | startDtmfInd
  | startDtmfRsp
  | startDtmfRej
  | stopDtmfInd
  | stopDtmfRsp
  | modifyReq
  | modifyInd
  | modifyRsp
  | modifyCnf
  | modifyRej
  | bridge
  | rtpCreate
  | rtpConnect
  | rtpFree
  /-- The messages about frames, which are not supported. -/
  | frame
  /-- `MNCC_LCHAN_MODIFY` and types that nobody knows. -/
  | other
deriving DecidableEq, Repr

/-- The messages after which MNCC forgets a call. -/
def MnccType.isTerminal : MnccType → Bool
  | .relInd | .relCnf | .rejInd => true
  | _ => false

/-- `GSM48_CAUSE_LOC_*`. -/
inductive CauseLoc where
  | user
  | prnSLu
  | innNet
  | other (value : Nat)
deriving DecidableEq, Repr

/-- `GSM48_CC_CAUSE_*`. -/
inductive CcCause where
  | chanUnaccept
  | normCallClear
  | userBusy
  | userNotrespond
  | destOoo
  | invNrFormat
  | normalUnspec
  | resourceUnavail
  | invalTransId
  | incompatDest
  | recoveryTimer
  | other (value : Nat)
deriving DecidableEq, Repr

/-- `struct gsm_mncc_cause`. -/
structure MnccCause where
  location : CauseLoc
  value : CcCause
deriving DecidableEq, Repr

/-- `union mncc_msg`, with the fields that call control looks at or composes. -/
structure MnccMsg where
  type : MnccType
  callref : Nat := 0
  /-- `callref[1]` of `MNCC_BRIDGE`. -/
  otherCallref : Nat := 0
  cause : Option MnccCause := none
  /-- The information transfer capability of the bearer capability, if there is one. -/
  bearer : Option BearerTransfer := none
  called : List Char := []
  imsi : List Char := []
  /-- The message has an SDP. -/
  sdp : Bool := false
deriving DecidableEq, Repr

/-- `GSM48_MT_CC_*`, in both directions. -/
inductive CcMsgType where
  | setup
  | emergSetup
  | callConf
  | callProc
  | alerting
  | progress
  | connect
  | connectAck
  | disconnect
  | release
  | releaseCompl
  | facility
  | hold
  | holdAck
  | holdRej
  | retr
  | retrAck
  | retrRej
  | startDtmf
  | startDtmfAck
  | startDtmfRej
  | stopDtmf
  | stopDtmfAck
  | statusEnq
  | status
  | notify
  | userInfo
  | modify
  | modifyCompl
  | modifyReject
  | other
deriving DecidableEq, Repr

/-- A call control message of the MS. -/
structure CcMsg where
  type : CcMsgType
  cause : Option MnccCause := none
  bearer : Option BearerTransfer := none
deriving DecidableEq, Repr

/-! ### Transactions -/

/-- `struct gsm_trans` of type `TRANS_CC`. -/
structure CcTrans where
  /-- `call_id`, which is never used twice. -/
  callId : Nat
  vsub : Nat
  transactionId : Option Nat := none
  callref : Nat
  mscA : Option Nat := none
  pagingRequest : Bool := false
  bearer : BearerTransfer := .speech
  state : CcState := .null
  timer : Option CcTimer := none
  timerGuard : Bool := false
  t308Second : Bool := false
  /-- `cc.msg`. -/
  msg : Option MnccMsg := none
  mnccInitiated : Bool := false
  /-- `cc.codecs.assignment` is set. -/
  codecAssigned : Bool := false
  /-- The call reference that the transaction was created with. -/
  ref : Nat
  /-- `MNCC_SETUP_REQ` created the transaction. -/
  byMncc : Bool := false
  /-- MNCC has sent `MNCC_REJ_REQ` for its call reference. -/
  rejected : Bool := false
  /-- The messages with its call reference that were sent to MNCC since it was created. -/
  sent : List MnccType := []
deriving DecidableEq, Repr

/-- How many messages have told MNCC that the call is over. -/
def CcTrans.terminals (t : CcTrans) : Nat := t.sent.countP MnccType.isTerminal

/-- MNCC knows of the call. -/
def CcTrans.due (t : CcTrans) : Bool := t.byMncc || t.sent.contains .setupInd

/-- What happens between call control, MNCC and the MS, in order. -/
inductive CcAct where
  | toMs (callId : Option Nat) (type : CcMsgType)
  | toMncc (callId : Option Nat) (msg : MnccMsg)
  /-- A message of MNCC; `late` if a transaction that was created with its call reference still exists
  and MNCC has been told that the call is over. -/
  | fromMncc (msg : MnccMsg) (late : Bool)
  /-- `trans_alloc()`; `unused` if no other transaction was created with the call reference. -/
  | allocated (callId ref : Nat) (unused : Bool)
  /-- `trans_free()`; `silent` if MNCC knows of the call, has not been told that it is over, and
  `mncc_initiated` is not set. -/
  | freed (callId : Nat) (silent : Bool)
  /-- The MNCC socket is closed; `calls` if MNCC knows of a call. -/
  | mnccLost (calls : Bool)
deriving DecidableEq, Repr

/-- `struct gsm_network` as far as call control goes. -/
structure CcNet where
  /-- The call control transactions of `trans_list`, and the one that `trans_free()` is at work on. -/
  trans : List CcTrans := []
  /-- The transactions that have been freed. -/
  gone : List CcTrans := []
  /-- `new_call_id`. -/
  newCallId : Nat := 1
  /-- `last_callref` of `msc_cc_next_outgoing_callref()`. -/
  lastCallref : Nat := 0x80000000
  callWaiting : Bool := false
  /-- MNCC takes messages. -/
  mnccUp : Bool := true
  /-- A failed assertion, a null pointer or freed memory was used. -/
  crashed : Bool := false
  acts : List CcAct := []
deriving DecidableEq, Repr

variable (w : CcNet) (callId : Nat)

namespace CcNet

/-- After a crash nothing happens any more. -/
def update (f : CcNet → CcNet) : CcNet := if w.crashed then w else f w

def crash : CcNet := { w with crashed := true }

def emit (act : CcAct) : CcNet := w.update fun w => { w with acts := w.acts ++ [act] }

def find : Option CcTrans := w.trans.find? fun t => t.callId = callId

/-- Use a transaction. -/
def withTrans (k : CcTrans → CcNet) : CcNet :=
  w.update fun w =>
    match w.find callId with
    | none => w.crash
    | some t => k t

/-- Change a transaction. -/
def onTrans (f : CcTrans → CcTrans) : CcNet :=
  w.withTrans callId fun _ =>
    { w with trans := w.trans.map fun t => if t.callId = callId then f t else t }

/-- `trans_find_by_callref()`. -/
def findByCallref (callref : Nat) : Option CcTrans :=
  w.trans.find? fun t => t.callref = callref

/-- `trans_find_by_id()`. -/
def findById (vsub transactionId : Nat) : Option CcTrans :=
  w.trans.find? fun t => t.vsub = vsub && t.transactionId = some transactionId

/-- `trans_alloc()`. -/
def alloc (t : CcTrans) : CcNet :=
  w.update fun w =>
    let w := w.emit (.allocated w.newCallId t.ref (w.trans.all fun other => other.ref ≠ t.ref))
    { w with trans := w.trans ++ [{ t with callId := w.newCallId }], newCallId := w.newCallId + 1 }

/-- The transaction is gone.  `trans_free()` takes it off `trans_list` first, so that nothing finds it
any more; here it stays there until its memory is freed. -/
def unlink : CcNet :=
  w.withTrans callId fun t =>
    { w with trans := w.trans.filter fun t => t.callId ≠ callId, gone := w.gone ++ [t] }

end CcNet

/-- `msc_cc_next_outgoing_callref()`. -/
def mscCcNextOutgoingCallref (lastCallref : Nat) : Nat :=
  let callref := (lastCallref + 1) % 2 ^ 32
  if callref < 0x80000001 then 0x80000001 else callref

/-- `trans_assign_trans_id()`, with the identifiers that are used. -/
def transAssignTransId (used : List Nat) : Option Nat :=
  let highest := ([6, 5, 4, 3, 2, 1].find? used.contains).getD 0
  ((List.range 7).map fun i => (highest + i) % 7).find? fun id => !used.contains id

/-! ### Towards MNCC and the MS -/

/-- A message to MNCC is noted with the transaction whose call reference it has. -/
def CcTrans.told (t : CcTrans) (mnccUp : Bool) (msg : MnccMsg) : CcTrans :=
  if mnccUp ∧ t.ref = msg.callref then { t with sent := t.sent ++ [msg.type] } else t

/-- `cc_tx_to_mncc()`. -/
def CcNet.toMncc (callId : Option Nat) (msg : MnccMsg) : CcNet :=
  w.update fun w =>
    { w.emit (.toMncc callId msg) with trans := w.trans.map fun t => t.told w.mnccUp msg }

/-- The end of `mncc_recvmsg()`. -/
def CcNet.noteMncc : Option Nat → CcNet
  | none => w
  | some callId => w.onTrans callId fun t => { t with mnccInitiated := true }

/-- `mncc_recvmsg()`, for a message that does not end the call: the MNCC handler may call back. -/
def mnccRecvmsg (out : CcNet → CcNet) (w : CcNet) (callId : Option Nat) (msg : MnccMsg) : CcNet :=
  (out (w.toMncc callId msg)).noteMncc callId

/-- `mncc_recvmsg()`, for a message that ends the call. -/
def mnccRecvTerminal (callId : Option Nat) (msg : MnccMsg) : CcNet :=
  (w.toMncc callId msg).noteMncc callId

/-- `mncc_release_ind()` for a transaction. -/
def mnccReleaseInd (callId callref : Nat) (cause : MnccCause) : CcNet :=
  w.withTrans callId fun t =>
    mnccRecvTerminal w (some callId)
      { type := if t.state = .releaseReq then .relCnf else .relInd
        callref := callref
        cause := some cause }

/-- `mncc_release_ind()` without a transaction. -/
def mnccReleaseUnknown (callref : Nat) (cause : CcCause) : CcNet :=
  mnccRecvTerminal w none { type := .relInd, callref := callref, cause := some ⟨.prnSLu, cause⟩ }

/-- `trans_tx_gsm48()` and `gsm48_tx_simple()`: without a connection the message is dropped. -/
def transTxGsm48 (type : CcMsgType) : CcNet :=
  w.withTrans callId fun t => if t.mscA.isSome then w.emit (.toMs (some callId) type) else w

/-- `new_cc_state()`. -/
def CcTrans.newState (t : CcTrans) (state : CcState) : CcTrans :=
  { t with
    state := state
    timerGuard := t.timerGuard && state ≠ .active }

/-- `gsm48_cc_tx_release()`. -/
def gsm48CcTxRelease (rel : Option MnccMsg) : CcNet :=
  w.withTrans callId fun t =>
    if t.mscA.isNone then w
    else
      let w := w.onTrans callId fun t =>
        { t with timer := some .t308, t308Second := false, msg := rel }.newState .releaseReq
      transTxGsm48 w callId .release

/-! ### Freeing -/

/-- `_gsm48_cc_trans_free()`. -/
def gsm48CcTransFree : CcNet :=
  w.withTrans callId fun t =>
    let w := w.onTrans callId fun t => { t with timer := none }
    let w :=
      if t.callref = 0 then w
      else
        let w :=
          if t.mnccInitiated then
            mnccReleaseInd w callId t.callref
              ⟨.prnSLu, if t.state = .callReceived then .userNotrespond else .resourceUnavail⟩
          else w
        let w :=
          if t.state = .releaseReq then w
          else
            gsm48CcTxRelease w callId (some
              { type := .unset, callref := t.callref, cause := some ⟨.prnSLu, .resourceUnavail⟩ })
        -- T308 of the RELEASE is not waited for
        w.onTrans callId fun t => { t with timer := none }
    w.onTrans callId fun t => { t.newState .null with timerGuard := false }

/-- `trans_free()`. -/
def transFree : CcNet :=
  w.withTrans callId fun t =>
    let w := w.emit (.freed callId (t.due && t.callref ≠ 0 && !t.mnccInitiated))
    (gsm48CcTransFree w callId).unlink callId

end OsmoMsc.Cc
