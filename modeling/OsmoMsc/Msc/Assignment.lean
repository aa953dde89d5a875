/-
Module: OsmoMsc.Msc.Assignment
Purpose: Channel assignment on one connection: the three places that send an ASSIGNMENT COMMAND
  (`msc_a_tx_assignment_cmd()`, `gcc_assign()`, `paging_cb_silent()`), the handling of the results
  in msc_a.c, the timer that stands for "a result is awaited", and what happens to the active call
  in between.  The commands the BSS has not answered yet are part of the state.
Trusted boundary: none
Main exports: Command, AsgAct, Asg, mscATxAssignmentCmd, gccAssign, pagingCbSilent,
  mscAUpCallAssignmentComplete, mscAUpCallAssignmentFailure, AsgInput, asgStep
-/
import OsmoMsc.Msc.MscAFsm
import OsmoMsc.Msc.Transaction

namespace OsmoMsc.Msc

open Library

/-- Who sends an ASSIGNMENT COMMAND. -/
inductive Requester where
  /-- `msc_a_tx_assignment_cmd()`, for a voice or data call. -/
  | call
  /-- `gcc_assign()`, for the calling subscriber of a group or broadcast call. -/
  | groupCall
  /-- `paging_cb_silent()`. -/
  | silentCall
deriving DecidableEq, Repr, Inhabited

/-- An ASSIGNMENT COMMAND and the transaction it was sent for. -/
structure Command where
  requester : Requester
  trans : Nat
deriving DecidableEq, Repr

/-- What becomes of the transactions, in order. -/
inductive AsgAct where
  | assignmentCommand (command : Command)
  /-- `cc_on_assignment_done()` succeeds. -/
  | callProceeds (trans : Nat)
  /-- `msc_a_abort_assignment()` frees the transaction. -/
  | callAborted (trans : Nat)
  /-- `VGCS_GCC_EV_BSS_ASSIGN_CPL` or `VGCS_GCC_EV_BSS_ASSIGN_FAIL` goes to the group call FSM. -/
  | groupCallResult (trans : Nat) (complete : Bool)
  | silentCallFreed (trans : Nat)
  /-- `msc_a_release_cn()`. -/
  | connReleased
deriving DecidableEq, Repr

/-- `struct msc_a` as far as assignments go, with the network's transactions. -/
structure Asg where
  /-- The number of this connection, and of its subscriber. -/
  self : Nat := 0
  vsub : Option Nat := some 0
  state : MscAState := .authenticated
  transList : List GsmTrans := []
  nextCallId : Nat := 1
  /-- `cc.active_trans`. -/
  activeTrans : Option Nat := none
  /-- `cc.call_leg`, and whether it has an `RTP_TO_RAN` stream. -/
  callLeg : Option Bool := none
  /-- `cc.assignment_request_pending`. -/
  assignmentRequestPending : Bool := false
  /-- The commands the BSS has received and not answered. -/
  outstanding : List Command := []
  log : List AsgAct := []
deriving DecidableEq, Repr

/-- The codec of an ASSIGNMENT COMPLETE. -/
inductive AssignedCodec where
  | csd
  | speech
  /-- A codec without an entry in the codec mapping. -/
  | unknown
deriving DecidableEq, Repr, Inhabited

/-- What the calls that leave the connection answer while one input is handled. -/
structure AsgEnv where
  ranDownOk : Bool := true
  /-- The codec filter leaves the transaction alive and active. -/
  filterKeeps : Bool := true
  /-- There is a codec, or a sane list of bearer services. -/
  codecsOk : Bool := true
  channelTypeOk : Bool := true
  /-- `call_leg_ensure_ci()` has an RTP stream towards the RAN. -/
  rtpAllocOk : Bool := true
  /-- Both RTP ports of an existing call leg are known already. -/
  rtpAvailable : Bool := false
  /-- The calling subscriber's BSC takes part in the group call. -/
  gccBssOk : Bool := true
  osmuxMatches : Bool := true
  codec : Option AssignedCodec := none
  assignmentDoneOk : Bool := true
deriving DecidableEq, Repr

namespace Asg

variable (s : Asg)

/-- Append to the log. -/
def emit (act : AsgAct) : Asg := { s with log := s.log ++ [act] }

/-- `msc_a_in_release()`. -/
def inRelease : Bool := s.state = .releasing || s.state = .released

/-- There is a call leg with an `RTP_TO_RAN` stream. -/
def rtpToRan : Bool := s.callLeg = some true

/-- `osmo_timer_del()` of the assignment timer. -/
def stopTimer : Asg := { s with assignmentRequestPending := false }

/-- An ASSIGNMENT COMMAND goes to the BSS. -/
def send (command : Command) : Asg :=
  { s with outstanding := s.outstanding ++ [command] }.emit (.assignmentCommand command)

/-- The BSS has answered what was asked of it. -/
def answered : Asg := { s with outstanding := [] }

@[simp] theorem stopTimer_rtpToRan : s.stopTimer.rtpToRan = s.rtpToRan := rfl
@[simp] theorem stopTimer_transList : s.stopTimer.transList = s.transList := rfl
@[simp] theorem stopTimer_vsub : s.stopTimer.vsub = s.vsub := rfl
@[simp] theorem stopTimer_activeTrans : s.stopTimer.activeTrans = s.activeTrans := rfl
@[simp] theorem stopTimer_inRelease : s.stopTimer.inRelease = s.inRelease := rfl

end Asg

/-! ### Freeing transactions and the call leg -/

variable (env : AsgEnv) (s : Asg) (callId : Nat)

/-- `trans_free()`; the connection forgets an active call that is freed. -/
def asgTransFree : Asg :=
  { s with
    transList := transUnlink s.transList callId
    activeTrans := if s.activeTrans = some callId then none else s.activeTrans }

/-- `find_waiting_call()`. -/
def findWaitingCall : Option GsmTrans :=
  s.transList.find? fun trans =>
    trans.mscA = some s.self && trans.type = .cc && s.activeTrans ≠ some trans.callId

/-- `MSC_EV_CALL_LEG_TERM`: the call leg is forgotten; in `MSC_A_ST_COMMUNICATING` the active call is
freed and a waiting call gets a call leg of its own, whose RTP ports are not known yet. -/
def mscACallLegTerm : Asg :=
  match s.state with
  | .communicating =>
      let s := { s with callLeg := none }
      let s :=
        match s.activeTrans with
        | some callId => asgTransFree s callId
        | none => s
      match findWaitingCall s with
      | some waiting => { s with
          activeTrans := some waiting.callId
          callLeg := some env.rtpAllocOk }
      | none => s
  | .releasing => { s with callLeg := none }
  | _ => s

/-- `call_leg_release()`. -/
def callLegRelease : Asg :=
  if s.callLeg.isSome then mscACallLegTerm env s else s

/-- `msc_a_abort_assignment()`. -/
def mscAAbortAssignment (ccTrans : Option Nat) : Asg :=
  let s := s.stopTimer
  match ccTrans with
  | some callId => callLegRelease env ((asgTransFree s callId).emit (.callAborted callId))
  | none => callLegRelease env s

/-- `msc_a_fsm_releasing_onenter()` after the change to `MSC_A_ST_RELEASING`. -/
def mscAReleasing : Asg :=
  let s := { s.stopTimer with state := .releasing }
  let s := callLegRelease env s
  let transList := transConnClosed s.transList s.self
  { s with
    transList := transList
    activeTrans := s.activeTrans.filter (transIsLive transList) }

/-- `msc_a_release_cn()` from a state that is not in release. -/
def mscAReleaseCn : Asg :=
  if s.inRelease then s else mscAReleasing env (s.emit .connReleased)

/-! ### Sending the command -/

/-- The Channel Type of the command cannot be composed. -/
def assignmentNotPossible : BearerTransfer → Bool
  | .speech | .csd => !env.codecsOk || !env.channelTypeOk
  | .other => true

/-- `msc_a_tx_assignment_cmd()`. -/
def mscATxAssignmentCmd : Asg :=
  if s.inRelease then s
  else if s.assignmentRequestPending then s
  else
    match s.activeTrans.bind fun callId =>
        s.transList.find? fun trans => trans.callId = callId && trans.type = .cc with
    | none => callLegRelease env { s with activeTrans := none }
    | some ccTrans =>
        let s := { s with assignmentRequestPending := true }
        if !env.filterKeeps then
          (asgTransFree s ccTrans.callId).stopTimer
        else if assignmentNotPossible env ccTrans.bearer || !s.rtpToRan || !env.ranDownOk then
          mscAAbortAssignment env s (some ccTrans.callId)
        else s.send ⟨.call, ccTrans.callId⟩

/-- `MSC_EV_CALL_LEG_RTP_LOCAL_ADDR_AVAILABLE` for the stream towards the RAN. -/
def mscARtpToRanAvailable : Asg :=
  if s.state = .communicating && s.callLeg.isSome then mscATxAssignmentCmd env s else s

/-- `msc_a_try_call_assignment()` and `msc_a_start_assignment()`. -/
def mscATryCallAssignment : Asg :=
  if s.activeTrans.isSome then s
  else
    match s.callLeg with
    | none => { s with activeTrans := some callId, callLeg := some env.rtpAllocOk }
    | some _ =>
        let s := { s with activeTrans := some callId }
        if env.rtpAvailable then mscARtpToRanAvailable env s
        else { s with callLeg := some env.rtpAllocOk }

/-- `msc_a_ensure_call_leg()`. -/
def mscAEnsureCallLeg : Asg :=
  let s := if s.activeTrans.isNone then { s with activeTrans := some callId } else s
  if s.activeTrans ≠ some callId then s
  else if s.callLeg.isNone then { s with callLeg := some false }
  else s

/-- `gcc_assign()`: nothing is noted on the connection. -/
def gccAssign : Asg :=
  match s.transList.find? fun trans => trans.callId = callId with
  | none => s
  | some found =>
      if (found.type = .gcc || found.type = .bcc) && found.mscA = some s.self
          && env.gccBssOk && env.ranDownOk then
        s.send ⟨.groupCall, callId⟩
      else s

/-- `paging_cb_silent()` when the MS has answered the paging: nothing is noted on the connection. -/
def pagingCbSilent : Asg :=
  match s.transList.find? fun trans => trans.callId = callId && trans.type = .silentCall with
  | none => s
  | some _ =>
      let s := { s with
        transList := s.transList.map fun trans =>
          if trans.callId = callId then { trans with mscA := some s.self } else trans
        state := if s.state = .authenticated then .communicating else s.state }
      if env.ranDownOk then s.send ⟨.silentCall, callId⟩
      else asgTransFree s callId

/-! ### Results -/

/-- The checks of an ASSIGNMENT COMPLETE against the call. -/
def assignedCodecRefused (bearer : BearerTransfer) : Option AssignedCodec → Bool
  | none => false
  | some codec => (bearer = .csd && codec ≠ .csd) || codec = .unknown

/-- The end of `msc_a_up_call_assignment_complete()`, for the active call. -/
def assignmentCompleteForCall : Asg :=
  let bearer :=
    match s.transList.find? fun trans => trans.callId = callId with
    | some found => found.bearer
    | none => .speech
  if !env.osmuxMatches || assignedCodecRefused bearer env.codec || !env.assignmentDoneOk then
    mscAAbortAssignment env s (some callId)
  else s.emit (.callProceeds callId)

/-- `msc_a_up_call_assignment_complete()`. -/
def mscAUpCallAssignmentComplete : Asg :=
  if s.inRelease || !s.assignmentRequestPending then s
  else
    let s := s.stopTimer
    match transFindByType s.transList s.vsub .gcc with
    | some gccTrans => s.emit (.groupCallResult gccTrans.callId true)
    | none =>
        match transFindByType s.transList s.vsub .bcc with
        | some gccTrans => s.emit (.groupCallResult gccTrans.callId true)
        | none =>
            if !s.rtpToRan then s
            else
              match s.activeTrans with
              | none => s
              | some callId => assignmentCompleteForCall env s callId

/-- `msc_a_up_call_assignment_failure()` after its check for a pending assignment. -/
def assignmentFailed : Asg :=
  let s := s.stopTimer
  if s.rtpToRan then mscAAbortAssignment env s s.activeTrans
  else
    match transFindByType s.transList s.vsub .gcc with
    | some gccTrans => s.emit (.groupCallResult gccTrans.callId false)
    | none =>
        match transFindByType s.transList s.vsub .bcc with
        | some gccTrans => s.emit (.groupCallResult gccTrans.callId false)
        | none =>
            match transFindByType s.transList s.vsub .silentCall with
            | some silent => (asgTransFree s silent.callId).emit (.silentCallFreed silent.callId)
            | none => mscAReleaseCn env s

/-- `msc_a_up_call_assignment_failure()` for an ASSIGNMENT FAILURE of the RAN. -/
def mscAUpCallAssignmentFailure : Asg :=
  if !s.assignmentRequestPending then s else assignmentFailed env s

/-- The two results of an assignment. -/
inductive AsgResult where
  | complete
  | failure
deriving DecidableEq, Repr, Inhabited

/-- A result arrives: the BSS has answered, and the MSC handles it. -/
def asgResult (result : AsgResult) : Asg :=
  match result with
  | .complete => mscAUpCallAssignmentComplete env s.answered
  | .failure => mscAUpCallAssignmentFailure env s.answered

/-! ### The connection over its inputs -/

/-- One thing that happens to the connection. -/
inductive AsgInput where
  /-- `trans_alloc()`, for any subscriber and any connection. -/
  | transAlloc (type : TransType) (vsub mscA : Option Nat) (bearer : BearerTransfer)
  | transFree (callId : Nat)
  /-- A transaction of another connection or of none is put on this one, or taken off it. -/
  | transConn (callId : Nat) (mscA : Option Nat)
  /-- The MSC-A moves to another state that is not in release. -/
  | stateChanged (state : MscAState)
  | releasing
  | released
  | tryCallAssignment (callId : Nat)
  | ensureCallLeg (callId : Nat)
  /-- The RTP stream towards the RAN is set up or lost. -/
  | rtpStream (present : Bool)
  | rtpToRanAvailable
  /-- `on_mncc_rtp` and its like find that another codec is needed. -/
  | reassign
  | callLegTerm
  /-- CM Re-Establishment hands over the active call and call leg of another connection. -/
  | callMovedIn (callId : Nat) (rtpToRan : Bool)
  /-- CM Re-Establishment takes the active call and call leg away. -/
  | callMovedOut
  /-- `evaluate_acceptance_outcome()` of a re-established connection. -/
  | reEstablished
  | gccAssign (callId : Nat)
  | pagingCbSilent (callId : Nat)
  | result (result : AsgResult)
  /-- `assignment_request_timeout_cb()`. -/
  | timeout
deriving DecidableEq, Repr

/-- What one input does. -/
def asgStep : AsgEnv × AsgInput → Asg
  | (_, .transAlloc type vsub mscA bearer) => { s with
      transList := s.transList ++ [⟨s.nextCallId, type, vsub, mscA, bearer⟩]
      nextCallId := s.nextCallId + 1 }
  | (_, .transFree callId) => asgTransFree s callId
  | (_, .transConn callId mscA) => { s with
      transList := s.transList.map fun trans =>
        if trans.callId = callId then { trans with mscA := mscA } else trans }
  | (_, .stateChanged state) =>
      if s.inRelease || state = .releasing || state = .released then s
      else { s with state := state }
  | (env, .releasing) => if s.inRelease then s else mscAReleasing env s
  | (_, .released) => if s.inRelease then { s with state := .released } else s
  | (env, .tryCallAssignment callId) => mscATryCallAssignment env s callId
  | (_, .ensureCallLeg callId) => mscAEnsureCallLeg s callId
  | (_, .rtpStream present) => { s with callLeg := s.callLeg.map fun _ => present }
  | (env, .rtpToRanAvailable) => mscARtpToRanAvailable env s
  | (env, .reassign) => mscATxAssignmentCmd env s
  | (env, .callLegTerm) => callLegRelease env s
  | (_, .callMovedIn callId rtpToRan) => { s with
      transList := s.transList.map fun trans =>
        if trans.callId = callId then { trans with mscA := some s.self } else trans
      activeTrans := some callId
      callLeg := some rtpToRan }
  | (_, .callMovedOut) => { s with activeTrans := none, callLeg := none }
  | (env, .reEstablished) =>
      match s.activeTrans with
      | none => s
      | some callId => mscATryCallAssignment env { s with activeTrans := none } callId
  | (env, .gccAssign callId) => gccAssign env s callId
  | (env, .pagingCbSilent callId) => pagingCbSilent env s callId
  | (env, .result result) => asgResult env s result
  | (env, .timeout) =>
      if s.assignmentRequestPending then assignmentFailed env s.stopTimer.answered else s

end OsmoMsc.Msc
