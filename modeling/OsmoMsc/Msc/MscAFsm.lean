/-
Module: OsmoMsc.Msc.MscAFsm
Purpose: The MSC-A role of msc_a.c: its states from the first layer 3 message to the release, the
  events of the VLR, the RAN, the call legs and the timer, the detour over a classmark update, and
  the gate `msc_a_up_l3()`.  A call that leaves the MSC-A may come back into it; what is to be done
  after such a call is kept on a stack, and the return is an input of its own.
Trusted boundary: none
Main exports: MscAState, MscAEvent, MscAAct, MscA, mscAStateChg, mscAUpL3, mscADispatch,
  mscARanDecFromMscI, mscAFsmTimerCb, mscAAlloc, MscAInput, mscAStep
-/
import OsmoMsc.Msc.Dtap
import OsmoMsc.Vlr.AccessReqFsm

namespace OsmoMsc.Msc

open Library Vlr

/-- `enum msc_a_states`. -/
inductive MscAState where
  | validateL3
  | authCiph
  | waitClassmarkUpdate
  | authenticated
  | communicating
  | releasing
  | released
deriving DecidableEq, Repr, Inhabited

/-- Who dispatches `MSC_A_EV_AUTHENTICATED`: the two VLR procedures a connection can start, or
`subscr_conn_allocate_sgs()` for a connection the MME has authenticated. -/
inductive AuthSource where
  | lu
  | accessReq
  | sgs
deriving DecidableEq, Repr, Inhabited

/-- The events of `enum msc_a_events` and `enum msc_common_events` that the machine knows. -/
inductive MscAEvent where
  | fromICompleteLayer3
  | fromIProcessAccessSignallingRequest
  | fromIPrepareSubsequentHandoverRequest
  | fromISendEndSignalRequest
  | fromTPrepareHandoverResponse
  | fromTPrepareHandoverFailure
  | fromTProcessAccessSignallingRequest
  | fromTSendEndSignalRequest
  | completeLayer3Ok
  | classmarkUpdate
  | authenticated (by_ : AuthSource)
  | transactionAccepted
  | cnClose
  | moClose
  | unused
  | handoverRequired
  | handoverEnd
  | callLegRtpLocalAddrAvailable
  | callLegRtpComplete
  | callLegTerm
  | mnccCallEnded
deriving DecidableEq, Repr, Inhabited

/-- `msc_a_fsm_states[]`. -/
def mscAFsmTable : Table MscAState MscAEvent where
  inEvent
    | .validateL3, e =>
        e = .fromICompleteLayer3 || e = .fromIProcessAccessSignallingRequest
          || e = .fromISendEndSignalRequest || e = .completeLayer3Ok || e = .moClose
          || e = .cnClose || e = .unused
    | .authCiph, .authenticated _ => true
    | .authCiph, e =>
        e = .fromIProcessAccessSignallingRequest || e = .fromISendEndSignalRequest
          || e = .moClose || e = .cnClose || e = .unused
    | .waitClassmarkUpdate, e =>
        e = .fromIProcessAccessSignallingRequest || e = .fromISendEndSignalRequest
          || e = .classmarkUpdate || e = .moClose || e = .cnClose
    | .authenticated, e =>
        e = .fromIProcessAccessSignallingRequest || e = .fromIPrepareSubsequentHandoverRequest
          || e = .fromISendEndSignalRequest || e = .transactionAccepted || e = .moClose
          || e = .cnClose || e = .unused
    | .communicating, e =>
        e = .fromIProcessAccessSignallingRequest || e = .fromIPrepareSubsequentHandoverRequest
          || e = .fromISendEndSignalRequest || e = .fromTPrepareHandoverResponse
          || e = .fromTPrepareHandoverFailure || e = .fromTProcessAccessSignallingRequest
          || e = .fromTSendEndSignalRequest || e = .transactionAccepted || e = .moClose
          || e = .cnClose || e = .unused || e = .callLegRtpLocalAddrAvailable
          || e = .callLegRtpComplete || e = .callLegTerm || e = .mnccCallEnded
          || e = .handoverRequired || e = .handoverEnd
    | .releasing, e =>
        e = .fromIProcessAccessSignallingRequest || e = .fromISendEndSignalRequest
          || e = .unused || e = .callLegTerm || e = .mnccCallEnded || e = .handoverEnd
          || e = .cnClose
    | .released, e => e = .unused
  outState
    | .validateL3, new => new = .validateL3 || new = .authCiph || new = .releasing
    | .authCiph, new => new = .waitClassmarkUpdate || new = .authenticated || new = .releasing
    | .waitClassmarkUpdate, new => new = .authCiph || new = .releasing
    | .authenticated, new => new = .releasing || new = .communicating
    | .communicating, new => new = .releasing
    | .releasing, new => new = .released
    | .released, _ => false

/-- `enum complete_layer3_type`. -/
inductive CompleteLayer3Type where
  | none
  | lu
  | cmServiceReq
  | pagingResp
  | cmReEstablishReq
deriving DecidableEq, Repr, Inhabited

/-- `enum osmo_rat_type`, the types a connection can have. -/
inductive OsmoRatType where
  | geranA
  | utranIu
  | eutranSgs
deriving DecidableEq, Repr, Inhabited

/-- The functions `msc_a_up_l3()` passes messages to. -/
inductive L3Handler where
  | gsm44068RcvBccGcc
  | gsm0408RcvCc
  | gsm0408RcvMm
  | gsm0408RcvRr
  | gsm0411RcvSms
  | gsm0911RcvNcSs
  | gsm0414RcvTest
deriving DecidableEq, Repr, Inhabited

/-- Why `msc_a_up_l3()` returns without passing the message on. -/
inductive L3Drop where
  | noClassmark
  | duplicate
  | notPermitted
  | ranTypeMismatch
  | bit8
  | bit7
  | unimplemented
  | unknownDiscriminator
deriving DecidableEq, Repr, Inhabited

/-- What the MSC-A does and reports, in order. -/
inductive MscAAct where
  /-- `MSC_A_EV_AUTHENTICATED` reaches the machine. -/
  | authenticated (by_ : AuthSource)
  | enter (state : MscAState)
  | handler (handler : L3Handler) (msg : L3Msg)
  | drop (reason : L3Drop) (msg : L3Msg)
  /-- `update_counters()`. -/
  | outcome (type : CompleteLayer3Type) (accepted : Bool)
  /-- `paging_response()` or `paging_expired()`. -/
  | paging (answered : Bool)
  | subscrAttached
  | cancelAttachFsm
  | classmarkRequest
  | cipherModeCommand (umtsAka retrieveImeisv : Bool) (a5Mask ueaMask : Nat)
  | rxCiphRes (result : CiphResult)
  | clearCommand (csfbInd : Bool)
  | sgsRelease
  | assignmentResult (ok : Bool)
  | sapiNReject
  | handover
  | toMscT
  | tryCallAssignment
  | terminated
deriving DecidableEq, Repr

/-- The fields of `struct vlr_subscr` that the MSC-A reads. -/
structure MscVsub where
  classmark : Classmark := {}
  attachedViaRan : OsmoRatType := .geranA
  hasLastTuple : Bool := false
deriving DecidableEq, Repr

/-- What is left to do when a call that leaves the MSC-A returns. -/
inductive Cont where
  /-- `evaluate_acceptance_outcome()` after the paging was concluded. -/
  | afterPaging (accepted : Bool)
  /-- `evaluate_acceptance_outcome()` after the attach signal. -/
  | afterAttached (accepted : Bool)
  /-- Move to `MSC_A_ST_RELEASING` after `evaluate_acceptance_outcome(fi, false)`. -/
  | release
  /-- The end of `msc_a_fsm_releasing_onenter()`, after all that hangs on the connection is gone. -/
  | releasingRest (vsub : Bool)
  /-- The layer 3 message enclosed in a Cipher Mode Complete. -/
  | ciphL3 (msg : L3Msg)
deriving DecidableEq, Repr

/-- `struct msc_a`, without the call control part. -/
structure MscA where
  fi : Inst MscAState
  ran : OsmoRatType
  vsub : Option MscVsub := none
  completeLayer3Type : CompleteLayer3Type := .none
  temporaryClassmark : Classmark := {}
  /-- `action_on_classmark_update`: the ciphering parameters, if ciphering is to follow. -/
  actionOnClassmarkUpdate : Option (Bool × Bool) := none
  stateBeforeClassmarkUpdate : MscAState := .validateL3
  nSdNext : NSdNext := fun _ => 0
  stack : List Cont := []
  log : List MscAAct := []

/-- The network's cipher configuration. -/
structure MscCfg where
  a5EncryptionMask : Nat := 0x1
  ueaEncryptionMask : Nat := 0x1
deriving DecidableEq, Repr

/-- What the calls that leave the MSC-A answer while one input is handled. -/
structure MscAEnv where
  ranDownOk : Bool := true
  /-- `osmo_use_count_total()` is not zero. -/
  inUse : Bool := true
  /-- The subscriber has an SGs association. -/
  sgsAssociated : Bool := false
  hasMscT : Bool := false
deriving DecidableEq, Repr

namespace MscA

variable (s : MscA)

/-- Append to the log. -/
def emit (act : MscAAct) : MscA := { s with log := s.log ++ [act] }

/-- Remember what follows once the call that is being made returns. -/
def push (cont : Cont) : MscA := { s with stack := cont :: s.stack }

end MscA

variable (cfg : MscCfg) (env : MscAEnv) (s : MscA)

/-- `msc_a_is_accepted()`. -/
def mscAIsAccepted : Bool :=
  s.fi.state = .authenticated || s.fi.state = .communicating

/-- `msc_a_in_release()`. -/
def mscAInRelease : Bool :=
  s.fi.state = .releasing || s.fi.state = .released

/-- `msc_a_fsm_timeouts[]`: the timer after entering a state, given the one that runs. -/
def mscAFsmTimeout (running : Option Nat) : MscAState → Option Nat
  | .validateL3 => some 1
  | .authCiph | .waitClassmarkUpdate | .authenticated => running
  | .communicating => none
  | .releasing | .released => some 2

/-! ### Entering states -/

/-- `osmo_fsm_inst_term()` of the MSC-A. -/
def mscATerm : MscA :=
  match s.fi.term with
  | none => s
  | some fi => { s with fi := fi }.emit .terminated

/-- `evaluate_acceptance_outcome()` up to its first call that leaves the MSC-A. -/
def evaluateAcceptanceOutcome (connAccepted : Bool) : MscA :=
  let s := s.emit (.outcome s.completeLayer3Type connAccepted)
  match s.vsub with
  | none => s
  | some _ =>
      let s := s.push (.afterPaging connAccepted)
      if s.completeLayer3Type = .pagingResp then s.emit (.paging connAccepted) else s

/-- `msc_a_fsm_releasing_onenter()` up to its first call that leaves the MSC-A. -/
def mscAFsmReleasingOnenter : MscA :=
  let s := if s.vsub.isSome then s.emit .cancelAttachFsm else s
  s.push (.releasingRest s.vsub.isSome)

/-- `msc_a_fsm_released_onenter()`. -/
def mscAFsmReleasedOnenter : MscA :=
  if env.inUse then s else mscATerm s

/-- The `onenter` functions of `msc_a_fsm_states[]`. -/
def mscAFsmOnenter : MscAState → MscA
  | .authenticated => evaluateAcceptanceOutcome s true
  | .releasing => mscAFsmReleasingOnenter s
  | .released => mscAFsmReleasedOnenter env s
  | _ => s

/-- The macro `msc_a_state_chg()`: nothing happens when the machine already is in that state. -/
def mscAStateChg (new : MscAState) : MscA :=
  if s.fi.state = new then s
  else
    match s.fi.stateChg mscAFsmTable new (mscAFsmTimeout s.fi.timer new) with
    | none => s
    | some fi => mscAFsmOnenter env ({ s with fi := fi }.emit (.enter new)) new

/-! ### Ciphering -/

/-- `msc_a_need_classmark_for_ciphering()`. -/
def mscANeedClassmarkForCiphering (vsub : MscVsub) : Bool :=
  s.ran = .geranA && (List.range 8).any fun i =>
    cfg.a5EncryptionMask.testBit i && (vsub.classmark.supportsA5 i matches .error _)

/-- `filter_a5()`. -/
def filterA5 (a5Mask : Nat) (umtsAka : Bool) : Nat :=
  a5Mask &&& (if umtsAka then 0x1b else 0x0b)

/-- `msc_a_ran_enc_ciphering()`: whether it succeeds, and the MSC-A after it. -/
def mscARanEncCiphering (umtsAka retrieveImeisv : Bool) : Bool × MscA :=
  match s.vsub with
  | none => (false, s)
  | some vsub =>
      if !vsub.hasLastTuple then (false, s)
      else if !env.ranDownOk then (false, s)
      else (true, s.emit (.cipherModeCommand umtsAka retrieveImeisv
        (filterA5 cfg.a5EncryptionMask umtsAka) cfg.ueaEncryptionMask))

/-- `msc_a_vlr_set_cipher_mode()`, the VLR's `set_ciph_mode` callback. -/
def mscAVlrSetCipherMode (umtsAka retrieveImeisv : Bool) : Bool × MscA :=
  match s.vsub with
  | none => (false, s)
  | some vsub =>
      if !vsub.hasLastTuple then (false, s)
      else if mscANeedClassmarkForCiphering cfg s vsub then
        if !env.ranDownOk then (false, s)
        else
          let s := { s with
            stateBeforeClassmarkUpdate := s.fi.state
            actionOnClassmarkUpdate := some (umtsAka, retrieveImeisv) }
          (true, mscAStateChg env (s.emit .classmarkRequest) .waitClassmarkUpdate)
      else mscARanEncCiphering cfg env s umtsAka retrieveImeisv

/-! ### Events without a RAN message -/

/-- `evaluate_acceptance_outcome(fi, false)` followed by the change to `MSC_A_ST_RELEASING`. -/
def mscAReject : MscA :=
  evaluateAcceptanceOutcome (s.push .release) false

/-- `msc_a_fsm_validate_l3()`. -/
def mscAFsmValidateL3 : MscAEvent → MscA
  | .completeLayer3Ok => mscAStateChg env s .authCiph
  | .moClose | .cnClose => mscAReject s
  | .unused => mscAStateChg env s .releasing
  | _ => s

/-- `msc_a_fsm_auth_ciph()`. -/
def mscAFsmAuthCiph : MscAEvent → MscA
  | .authenticated by_ => mscAStateChg env (s.emit (.authenticated by_)) .authenticated
  | .unused => mscAStateChg env s .releasing
  | .moClose | .cnClose => mscAReject s
  | _ => s

/-- `msc_a_fsm_wait_classmark_update()`. -/
def mscAFsmWaitClassmarkUpdate : MscAEvent → MscA
  | .classmarkUpdate =>
      match s.actionOnClassmarkUpdate with
      | some (umtsAka, retrieveImeisv) =>
          let (ok, s) :=
            mscARanEncCiphering cfg env (mscAStateChg env s .authCiph) umtsAka retrieveImeisv
          if ok then s else mscAStateChg env s .releasing
      | none => mscAStateChg env s s.stateBeforeClassmarkUpdate
  | .unused | .moClose | .cnClose => mscAReject s
  | _ => s

/-- `msc_a_fsm_authenticated()`. -/
def mscAFsmAuthenticated : MscAEvent → MscA
  | .transactionAccepted => mscAStateChg env s .communicating
  | .moClose | .cnClose | .unused => mscAStateChg env s .releasing
  | _ => s

/-- `msc_a_fsm_communicating()`.  The events of the call leg change nothing but the call control
part. -/
def mscAFsmCommunicating : MscAEvent → MscA
  | .handoverRequired => s.emit .handover
  | .moClose | .cnClose | .unused => mscAStateChg env s .releasing
  | _ => s

/-- `msc_a_fsm_released()`. -/
def mscAFsmReleased : MscAEvent → MscA
  | .unused => mscATerm s
  | _ => s

/-- `osmo_fsm_inst_dispatch()` to the MSC-A of an event that carries no RAN message.  In
`MSC_A_ST_RELEASING` such an event changes nothing but the call control part. -/
def mscADispatch (e : MscAEvent) : MscA :=
  if s.fi.accepts mscAFsmTable e then
    match s.fi.state with
    | .validateL3 => mscAFsmValidateL3 env s e
    | .authCiph => mscAFsmAuthCiph env s e
    | .waitClassmarkUpdate => mscAFsmWaitClassmarkUpdate cfg env s e
    | .authenticated => mscAFsmAuthenticated env s e
    | .communicating => mscAFsmCommunicating env s e
    | .releasing => s
    | .released => mscAFsmReleased s e
  else s

/-! ### Layer 3 messages -/

/-- The checks of bit 8 and bit 7 of the message type octet in `msc_a_up_l3()`. -/
def msgTypeBitsDrop (isR99 : Bool) (gh : L3Msg) : Option L3Drop :=
  if (!isR99 || !(gh.pdisc = .mm || gh.pdisc = .cc || gh.pdisc = .ncSs))
      && gh.msgTypeOctet.testBit 7 then some .bit8
  else
    match gh.pdisc with
    | .cc | .mm | .ncSs | .groupCc | .bcastCc | .loc | .rr => none
    | .smGprs => if gh.msgTypeOctet.testBit 6 then none else some .bit7
    | _ => if gh.msgTypeOctet.testBit 6 then some .bit7 else none

/-- The last `switch` of `msc_a_up_l3()`. -/
def l3HandlerOf : Pdisc → Except L3Drop L3Handler
  | .groupCc | .bcastCc => .ok .gsm44068RcvBccGcc
  | .cc => .ok .gsm0408RcvCc
  | .mm => .ok .gsm0408RcvMm
  | .rr => .ok .gsm0408RcvRr
  | .sms => .ok .gsm0411RcvSms
  | .mmGprs | .smGprs => .error .unimplemented
  | .ncSs => .ok .gsm0911RcvNcSs
  | .test => .ok .gsm0414RcvTest
  | .loc | .other => .error .unknownDiscriminator

/-- The part of `msc_a_up_l3()` that follows the duplicate detection: where the message goes. -/
def mscAUpL3Verdict (isR99 : Bool) (gh : L3Msg) : Except L3Drop L3Handler :=
  if !mscAIsAccepted s && !msgIsInitiallyPermitted gh then .error .notPermitted
  else if s.vsub.any (fun vsub => vsub.attachedViaRan ≠ s.ran) then .error .ranTypeMismatch
  else
    match msgTypeBitsDrop isR99 gh with
    | some reason => .error reason
    | none => l3HandlerOf gh.pdisc

/-- `msc_a_up_l3()`.  What the handler makes of the message comes back as later inputs. -/
def mscAUpL3 (gh : L3Msg) : MscA :=
  let isR99 :=
    match s.vsub with
    | some vsub => some vsub.classmark.isR99
    | none => complL3MsgIsR99 gh
  match isR99 with
  | none => s.emit (.drop .noClassmark gh)
  | some isR99 =>
      let (isDuplicate, nSdNext) := ranDecDtapUndupIsDuplicate s.nSdNext isR99 gh
      let s := { s with nSdNext := nSdNext }
      if isDuplicate then s.emit (.drop .duplicate gh)
      else
        match mscAUpL3Verdict s isR99 gh with
        | .error reason => s.emit (.drop reason gh)
        | .ok handler => s.emit (.handler handler gh)

/-! ### Messages from the RAN -/

/-- `struct ran_msg`, the types a subscriber's connection can carry. -/
inductive RanMsg where
  | complL3 (msg : L3Msg)
  | dtap (msg : L3Msg)
  | clearRequest
  | clearComplete
  | classmarkUpdate (classmark : Classmark)
  | cipherModeComplete (utranEncryption : Option Nat) (l3 : Option L3Msg)
  | cipherModeReject
  | assignmentComplete
  | assignmentFailure
  | sapiNReject (dlci : Nat)
  | handoverPerformed
  | handoverRequired
  | handoverRequestAck
  | handoverDetect
  | handoverComplete
  | handoverFailure
  | lclsStatus
  | other
deriving DecidableEq, Repr

/-- `msc_a_up_classmark_update()`; `toMscT` when the destination is the MSC-T's classmark. -/
def mscAUpClassmarkUpdate (classmark : Classmark) (toMscT : Bool) : MscA :=
  let s :=
    if toMscT then s
    else
      match s.vsub with
      | none => { s with temporaryClassmark := s.temporaryClassmark.update classmark }
      | some vsub =>
          { s with vsub := some { vsub with classmark := vsub.classmark.update classmark } }
  if s.fi.state = .waitClassmarkUpdate then mscADispatch cfg env s .classmarkUpdate else s

/-- The chosen UTRAN cipher is not among the configured ones; a missing report counts as UEA0. -/
def utranCipherForbidden (utranEncryption : Option Nat) : Bool :=
  s.ran = .utranIu && !cfg.ueaEncryptionMask.testBit (utranEncryption.getD 0)

/-- The `RAN_MSG_CIPHER_MODE_COMPLETE` case of `msc_a_ran_dec_from_msc_i()`. -/
def mscACipherModeComplete (utranEncryption : Option Nat) (l3 : Option L3Msg) : MscA :=
  if utranCipherForbidden cfg s utranEncryption then
    if s.vsub.isSome then s.emit (.rxCiphRes .reject) else s
  else
    let s :=
      match l3 with
      | none => s
      | some msg => s.push (.ciphL3 msg)
    if s.vsub.isSome then s.emit (.rxCiphRes .compl) else s

/-- The `RAN_MSG_CLEAR_COMPLETE` case of `msc_a_ran_dec_from_msc_i()`. -/
def mscAClearComplete : MscA :=
  match s.fi.state with
  | .releasing => mscAStateChg env s .released
  | .released => s
  | _ => mscAStateChg env s .releasing

/-- `msc_a_ran_dec_from_msc_i()`. -/
def mscARanDecFromMscI : RanMsg → MscA
  | .complL3 msg | .dtap msg => mscAUpL3 s msg
  | .clearRequest => mscADispatch cfg env s .moClose
  | .clearComplete => mscAClearComplete env s
  | .classmarkUpdate classmark => mscAUpClassmarkUpdate cfg env s classmark false
  | .cipherModeComplete utranEncryption l3 => mscACipherModeComplete cfg s utranEncryption l3
  | .cipherModeReject => if s.vsub.isSome then s.emit (.rxCiphRes .reject) else s
  | .assignmentComplete => s.emit (.assignmentResult true)
  | .assignmentFailure => s.emit (.assignmentResult false)
  | .sapiNReject dlci => if dlci % 8 = 3 then s.emit .sapiNReject else s
  | .handoverRequired => mscADispatch cfg env s .handoverRequired
  | .handoverFailure => s.emit .handover
  | .handoverPerformed | .handoverRequestAck | .handoverDetect | .handoverComplete
  | .lclsStatus | .other => s

/-- `msc_a_ran_dec_from_msc_t()`. -/
def mscARanDecFromMscT (msg : RanMsg) : MscA :=
  if !env.hasMscT then s
  else
    match msg with
    | .clearRequest | .clearComplete => s.emit .toMscT
    | .classmarkUpdate classmark => mscAUpClassmarkUpdate cfg env s classmark true
    | .handoverRequestAck | .handoverDetect | .handoverComplete | .handoverFailure =>
        s.emit .handover
    | _ => s

/-- `osmo_fsm_inst_dispatch()` to the MSC-A of an event that carries a RAN message, down to
`msc_a_ran_decode_cb()`. -/
def mscARanDec (e : MscAEvent) (msg : RanMsg) : MscA :=
  if s.fi.accepts mscAFsmTable e then
    match e with
    | .fromICompleteLayer3 | .fromIProcessAccessSignallingRequest
    | .fromIPrepareSubsequentHandoverRequest | .fromISendEndSignalRequest =>
        mscARanDecFromMscI cfg env s msg
    | .fromTPrepareHandoverResponse | .fromTPrepareHandoverFailure
    | .fromTProcessAccessSignallingRequest | .fromTSendEndSignalRequest =>
        mscARanDecFromMscT cfg env s msg
    | _ => s
  else s

/-! ### Timer, subscriber and returns -/

/-- `msc_a_fsm_timer_cb()`. -/
def mscAFsmTimerCb : MscA :=
  match s.fi.state with
  -- cancelling the leftover uses ends the instance, by `MSC_A_EV_UNUSED` or by force
  | .released => mscATerm s
  | .releasing => mscAStateChg env s .released
  | _ => mscADispatch cfg env s .cnClose

/-- `msc_vlr_subscr_assoc()` after `msub_set_vsub()` has accepted the subscriber. -/
def mscVlrSubscrAssoc (vsub : MscVsub) : MscA :=
  let vsub := { vsub with
    attachedViaRan := s.ran
    classmark := vsub.classmark.update s.temporaryClassmark }
  mscADispatch cfg env { s with vsub := some vsub } .completeLayer3Ok

/-- The call that was being made returns: do what is left to do after it. -/
def mscAReturn : Cont → MscA
  | .afterPaging accepted =>
      let s := s.push (.afterAttached accepted)
      if accepted && s.vsub.isSome then s.emit .subscrAttached else s
  | .afterAttached accepted =>
      if accepted && s.completeLayer3Type = .cmReEstablishReq then
        (mscADispatch cfg env s .transactionAccepted).emit .tryCallAssignment
      else s
  | .release => mscAStateChg env s .releasing
  | .releasingRest vsub =>
      if s.ran = .eutranSgs then
        mscAStateChg env (if vsub then s.emit .sgsRelease else s) .released
      else
        let csfbInd := vsub && env.sgsAssociated
        let s := s.emit (.clearCommand csfbInd)
        if csfbInd then
          { s with vsub := s.vsub.map fun vsub => { vsub with attachedViaRan := .eutranSgs } }
        else s
  | .ciphL3 msg => mscAUpL3 s msg

/-- `msc_a_alloc()`. -/
def mscAAlloc (ran : OsmoRatType) : MscA where
  fi := { state := .validateL3, timer := some 1 }
  ran := ran

/-! ### The connection as a machine over its inputs -/

/-- The VLR procedures that have an MSC-A as their parent. -/
inductive VlrProc where
  | lu
  | accessReq
deriving DecidableEq, Repr, Inhabited

/-- The event a VLR procedure dispatches as `parent_event_success`. -/
def VlrProc.source : VlrProc → AuthSource
  | .lu => .lu
  | .accessReq => .accessReq

/-- One thing that happens to a connection. -/
inductive MscAInput where
  | ran (e : MscAEvent) (msg : RanMsg)
  /-- `parent_event_success` of the connection's own VLR procedure. -/
  | vlrSuccess (proc : VlrProc)
  /-- `parent_event_failure` of the connection's own VLR procedure. -/
  | vlrFailure (proc : VlrProc)
  | setCipherMode (umtsAka retrieveImeisv : Bool)
  | subscrAssoc (vsub : MscVsub)
  /-- The subscriber is set, detached or changed by another part of the program. -/
  | vsubChanged (vsub : Option MscVsub)
  /-- A Complete Layer 3 handler stores the type of the request. -/
  | completeLayer3 (type : CompleteLayer3Type)
  | transactionAccepted
  /-- `msc_a_release_mo()` and its like, with `MSC_A_EV_MO_CLOSE`. -/
  | moClose
  /-- `msc_a_release_cn()` and its like, with `MSC_A_EV_CN_CLOSE`. -/
  | cnClose
  /-- The last use of the connection is gone. -/
  | unused
  | handoverEnd
  | callLegRtpLocalAddrAvailable
  | callLegRtpComplete
  | callLegTerm
  | mnccCallEnded
  | timeout
  /-- The call on top of the stack returns. -/
  | returned
deriving DecidableEq, Repr

/-- What one input does to the connection. -/
def mscAStep : MscAEnv × MscAInput → MscA
  | (env, .ran e msg) => mscARanDec cfg env s e msg
  | (env, .vlrSuccess proc) => mscADispatch cfg env s (.authenticated proc.source)
  | (env, .vlrFailure _) => mscADispatch cfg env s .cnClose
  | (env, .setCipherMode umtsAka retrieveImeisv) =>
      (mscAVlrSetCipherMode cfg env s umtsAka retrieveImeisv).2
  | (env, .subscrAssoc vsub) => mscVlrSubscrAssoc cfg env s vsub
  | (_, .vsubChanged vsub) => { s with vsub := vsub }
  | (_, .completeLayer3 type) => { s with completeLayer3Type := type }
  | (env, .transactionAccepted) => mscADispatch cfg env s .transactionAccepted
  | (env, .moClose) => mscADispatch cfg env s .moClose
  | (env, .cnClose) => mscADispatch cfg env s .cnClose
  | (env, .unused) => mscADispatch cfg env s .unused
  | (env, .handoverEnd) => mscADispatch cfg env s .handoverEnd
  | (env, .callLegRtpLocalAddrAvailable) => mscADispatch cfg env s .callLegRtpLocalAddrAvailable
  | (env, .callLegRtpComplete) => mscADispatch cfg env s .callLegRtpComplete
  | (env, .callLegTerm) => mscADispatch cfg env s .callLegTerm
  | (env, .mnccCallEnded) => mscADispatch cfg env s .mnccCallEnded
  | (env, .timeout) =>
      if s.fi.timer.isSome then mscAFsmTimerCb cfg env { s with fi := { s.fi with timer := none } }
      else s
  | (env, .returned) =>
      match s.stack with
      | [] => s
      | cont :: stack => mscAReturn cfg env { s with stack := stack } cont

end OsmoMsc.Msc
