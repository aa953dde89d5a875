/-
Module: OsmoMsc.Vgcs.Call
Purpose: A voice group or broadcast call of msc_vgcs.c: the calling subscriber process (the GCC/BCC
  state machine), the BSS state machines with the uplink control of `vgcs_bss_fsm_active()`, and the
  messages on the calling subscriber's initial channel.  What is sent to a BSS, and every release
  and clearing, is kept in a log.  Where the code follows a pointer to nothing, what comes of it is
  an input.
Trusted boundary: none
Main exports: VgcsAct, VgcsBss, VgcsCall, bssClear, gccAssign, vgcsGccDispatch, vgcsBssFsmActive,
  gsm44068RcvRr, vgcsInit, VgcsInput, vgcsStep
-/
import OsmoMsc.Library.Fsm

namespace OsmoMsc.Vgcs

open Library

/-- `enum vgcs_gcc_fsm_states`. -/
inductive GccState where
  | n0Null
  | n1CallInitiated
  | n2CallActive
  | n3CallEstProc
deriving DecidableEq, Repr, Inhabited

/-- `enum vgcs_gcc_fsm_event`, without the two set-up events that create the call. -/
inductive GccEvent where
  | netTerm
  | userTerm
  | bssEstablished
  | bssAssignCpl
  | bssAssignFail
  | bssReleased
  | timeout
deriving DecidableEq, Repr, Inhabited

/-- `vgcs_gcc_fsm_states[]`. -/
def vgcsGccTable : Table GccState GccEvent where
  inEvent
    | .n0Null, e => e = .netTerm || e = .bssEstablished || e = .bssReleased
    | .n1CallInitiated, e | .n3CallEstProc, e => e ≠ .timeout
    | .n2CallActive, e => e = .netTerm || e = .userTerm || e = .bssReleased || e = .timeout
  outState
    | .n0Null, new => new = .n1CallInitiated || new = .n2CallActive
    | .n1CallInitiated, new => new = .n0Null || new = .n2CallActive || new = .n3CallEstProc
    | .n2CallActive, new => new = .n0Null
    | .n3CallEstProc, new => new = .n2CallActive || new = .n0Null

/-- `enum vgcs_bss_fsm_states`, without `NULL`, which a BSS leaves as it is created, and `RELEASE`,
in which it no longer belongs to the call. -/
inductive BssState where
  | setup
  | assignment
  | active
deriving DecidableEq, Repr, Inhabited

/-- The cells of a BSS when one of them has responded. -/
inductive CellStatus where
  | allGone
  | someWaiting
  | allAssigned
deriving DecidableEq, Repr, Inhabited

/-- `enum vgcs_bss_fsm_event`, with what the action functions read besides the state. -/
inductive BssEvent where
  /-- Whether any cell is left after the assignments were triggered. -/
  | setupAck (cellsLeft : Bool)
  | setupRefuse
  | activeOrFail (cells : CellStatus)
  | ulRequest
  /-- The talker is the originator, and the cell the talker is in. -/
  | ulRequestCnf (originator : Bool) (cell : Option Nat)
  | ulAppData
  /-- A TERMINATION REQUEST with the call reference of this call, or any other message. -/
  | bssDtap (terminationRequest : Bool)
  | ulRelease
  | close
deriving DecidableEq, Repr, Inhabited

/-- `in_event_mask` of `vgcs_bss_fsm_states[]`.  `VGCS_BSS_EV_CLEAR` is accepted everywhere. -/
def vgcsBssInEvent : BssState → BssEvent → Bool
  | .setup, .setupAck _ | .setup, .setupRefuse | .setup, .close => true
  | .assignment, .activeOrFail _ | .assignment, .close => true
  | .active, .ulRequest | .active, .ulRequestCnf _ _ | .active, .ulAppData
  | .active, .bssDtap _ | .active, .ulRelease | .active, .close => true
  | _, _ => false

/-- What is sent, and what the BSSs do with the uplink, in order. -/
inductive VgcsAct where
  | setup (bss : Nat)
  | uplinkRequestAck (bss : Nat)
  | uplinkRejectCmd (bss : Nat)
  | uplinkSeizedCmd (bss : Nat)
  | uplinkReleaseCmd (bss : Nat)
  /-- The BSS reports that its talker has released the uplink. -/
  | uplinkReleased (bss : Nat)
  /-- The BSS is cleared and leaves the call. -/
  | cleared (bss : Nat)
  | assignmentCommand
  | connect
  | setParameter (originator : Bool)
  | termination
  | terminationReject
  | mgwConference
  | freed
deriving DecidableEq, Repr

/-- `enum trans_type` of a group call. -/
inductive VgcsType where
  | gcc
  | bcc
deriving DecidableEq, Repr, Inhabited

/-- `struct vgcs_bss` while it belongs to the call.  `peer` is the address of its BSC. -/
structure VgcsBss where
  id : Nat
  peer : Nat
  cells : List Nat := []
  state : BssState := .setup
deriving DecidableEq, Repr

/-- The group call part of `struct gsm_trans`. -/
structure VgcsCall where
  type : VgcsType
  fi : Inst GccState := { state := .n0Null }
  /-- `trans->msc_a` is set: the calling subscriber is on the initial channel, at a BSC with this
  address and in this cell. -/
  mscA : Option (Nat × Nat) := none
  uplinkBusy : Bool
  uplinkBss : Option Nat := none
  uplinkCell : Option Nat := none
  uplinkOriginator : Bool := true
  inactivityTo : Bool := false
  timerInactivity : Bool := false
  bssList : List VgcsBss := []
  /-- `trans_free()` was called. -/
  freed : Bool := false
  /-- A pointer that points at nothing was followed, and the process is gone. -/
  crashed : Bool := false
  log : List VgcsAct := []
deriving DecidableEq, Repr

namespace VgcsCall

variable (s : VgcsCall)

/-- Append to the log. -/
def emit (act : VgcsAct) : VgcsCall := { s with log := s.log ++ [act] }

/-- A GCC/BCC message goes to the calling subscriber's initial channel or to the BSS of the talker,
and to nobody if there is neither. -/
def emitToTalker (act : VgcsAct) : VgcsCall :=
  if s.mscA.isSome || s.uplinkBss.isSome then s.emit act else s

/-- Nothing reaches a call that was freed, or that went with its process. -/
def gone : Bool := s.freed || s.crashed

/-- `start_inactivity_timer()`. -/
def startInactivityTimer : VgcsCall :=
  if s.inactivityTo then { s with timerInactivity := true } else s

/-- `stop_inactivity_timer()`. -/
def stopInactivityTimer : VgcsCall := { s with timerInactivity := false }

/-- The BSS changes to a new state. -/
def bssStateChg (bss : Nat) (new : BssState) : VgcsCall :=
  { s with bssList := s.bssList.map fun b => if b.id = bss then { b with state := new } else b }

end VgcsCall

/-! ### Uplink state and clearing -/

variable (s : VgcsCall) (bss : Nat) (ranDownOk : Bool)

/-- The message of `update_uplink_state()`. -/
def uplinkStateCmd (uplinkBusy : Bool) : VgcsAct :=
  if uplinkBusy then .uplinkSeizedCmd bss else .uplinkReleaseCmd bss

/-- `update_uplink_state()`. -/
def updateUplinkState (uplinkBusy : Bool) : VgcsCall :=
  s.emit (uplinkStateCmd bss uplinkBusy)

/-- `set_uplink_cell()`; a cell identifier of an unknown kind (`none`) changes nothing. -/
def setUplinkCell (bss : VgcsBss) (cell : Option Nat) : VgcsCall :=
  match cell with
  | none => s
  | some cellId => { s with uplinkCell := if cellId ∈ bss.cells then some cellId else none }

/-- `bss_clear()` without its notification: the BSS leaves the call. -/
def bssDetach : VgcsCall :=
  { s with
    uplinkBss := if s.uplinkBss = some bss then none else s.uplinkBss
    uplinkCell := if s.uplinkBss = some bss then none else s.uplinkCell
    bssList := s.bssList.filter fun b => b.id ≠ bss }.emit (.cleared bss)

/-- `gsm44068_bcc_gcc_trans_free()`: every BSS is cleared. -/
def gccTransFree : VgcsCall :=
  let s := (s.bssList.map VgcsBss.id).foldl bssDetach s
  { s.stopInactivityTimer with freed := true }.emit .freed

/-- `gcc_terminate_and_destroy()`. -/
def gccTerminateAndDestroy : VgcsCall :=
  gccTransFree (s.emitToTalker .termination)

/-! ### The calling subscriber process -/

/-- `gcc_assign()`: whether it succeeds, and the call after it. -/
def gccAssign : Bool × VgcsCall :=
  match s.mscA with
  | none => (true, s)
  | some (peer, _) =>
      match s.bssList.find? fun b => b.peer = peer with
      | none => (false, s)
      | some bss =>
          if ranDownOk then (true, { s.emit .assignmentCommand with uplinkBss := some bss.id })
          else (false, s)

/-- The end of `_assign_complete()`: `set_uplink_cell()` follows `uplink_bss` without a check. -/
def setTalkerCell (cell : Option Nat) : VgcsCall :=
  match s.bssList.find? fun b => s.uplinkBss = some b.id with
  | some bss => (setUplinkCell s bss cell).emit .mgwConference
  | none => { s with crashed := true }

/-- Start the inactivity timer if the uplink is free. -/
def VgcsCall.startTimerIfFree : VgcsCall :=
  if !s.uplinkBusy then s.startInactivityTimer else s

/-- `_assign_complete()`. -/
def assignComplete (sendConnect : Bool) : VgcsCall :=
  let cell := s.mscA.map Prod.snd
  let s := { s with fi := { s.fi with state := .n2CallActive }, mscA := none }
  let s := if sendConnect then s.emitToTalker .connect else s
  let s := (s.emitToTalker (.setParameter s.uplinkOriginator)).startTimerIfFree
  setTalkerCell s cell

/-- `VGCS_GCC_EV_BSS_ESTABLISHED` while the call is being set up for a subscriber. -/
def gccAssignOrDestroy : VgcsCall :=
  let (ok, s) := gccAssign s ranDownOk
  if ok then s else gccTerminateAndDestroy s

/-- The action functions of `vgcs_gcc_fsm_states[]`. -/
def vgcsGccAction : GccState → GccEvent → VgcsCall
  | .n0Null, .bssEstablished =>
      { s with fi := { s.fi with state := .n2CallActive } }.startTimerIfFree
  | .n1CallInitiated, .bssEstablished | .n3CallEstProc, .bssEstablished =>
      gccAssignOrDestroy s ranDownOk
  | .n1CallInitiated, .bssAssignCpl => assignComplete s true
  | .n3CallEstProc, .bssAssignCpl => assignComplete s false
  | .n2CallActive, .userTerm =>
      if s.uplinkOriginator then gccTerminateAndDestroy s else s.emitToTalker .terminationReject
  | _, _ => gccTerminateAndDestroy s

/-- `osmo_fsm_inst_dispatch()` to the calling subscriber process. -/
def vgcsGccDispatch (e : GccEvent) : VgcsCall :=
  if s.fi.accepts vgcsGccTable e then vgcsGccAction s ranDownOk s.fi.state e else s

/-- `bss_clear()` with `notify_trans`: the last BSS to leave ends the call. -/
def bssClear : VgcsCall :=
  let s := bssDetach s bss
  if s.bssList.isEmpty then vgcsGccDispatch s true .bssReleased else s

/-! ### The BSS processes -/

/-- The grant of `vgcs_bss_fsm_active()` in the case `VGCS_BSS_EV_UL_REQUEST`.  The loop runs over
the other BSSs and passes `bss` on. -/
def grantUplink : VgcsCall :=
  let s := { s.emit (.uplinkRequestAck bss) with
    uplinkBss := some bss
    uplinkBusy := true
    uplinkOriginator := false }
  let others := s.bssList.filter fun other => other.id ≠ bss
  (others.foldl (fun s _ => updateUplinkState s bss s.uplinkBusy) s).stopInactivityTimer

/-- The end of the case `VGCS_BSS_EV_UL_RELEASE` of `vgcs_bss_fsm_active()`, with the same loop. -/
def freeUplink : VgcsCall :=
  let s := { s with uplinkBss := none, uplinkCell := none, uplinkBusy := false }
  let others := s.bssList.filter fun other => other.id ≠ bss
  let s := others.foldl (fun s _ => updateUplinkState s bss s.uplinkBusy) s
  (s.emit .mgwConference).startInactivityTimer

/-- The BSS was granted the uplink, as the call sees it. -/
def VgcsCall.talkerIs : Bool :=
  s.uplinkBusy && s.uplinkBss = some bss

/-- `vgcs_bss_fsm_active()`. -/
def vgcsBssFsmActive (bss : VgcsBss) : BssEvent → VgcsCall
  | .ulRequest =>
      if s.uplinkBusy then s.emit (.uplinkRejectCmd bss.id) else grantUplink s bss.id
  | .ulRequestCnf originator cell =>
      if !s.talkerIs bss.id then s
      else
        let s := if originator then { s with uplinkOriginator := true } else s
        let s := s.emitToTalker (.setParameter s.uplinkOriginator)
        (setUplinkCell s bss cell).emit .mgwConference
  | .bssDtap terminationRequest =>
      if s.talkerIs bss.id && terminationRequest then vgcsGccDispatch s true .userTerm else s
  | .ulRelease =>
      let s := s.emit (.uplinkReleased bss.id)
      if s.type = .bcc then gccTerminateAndDestroy s
      else if !s.uplinkBusy then s
      else if s.uplinkBss ≠ some bss.id then s
      else freeUplink s bss.id
  | .close => bssClear s bss.id
  | _ => s

/-- `vgcs_bss_fsm_setup()`. -/
def vgcsBssFsmSetup (bss : VgcsBss) : BssEvent → VgcsCall
  | .setupAck cellsLeft =>
      let s := (updateUplinkState s bss.id s.uplinkBusy).bssStateChg bss.id .assignment
      if cellsLeft then s else bssClear s bss.id
  | .setupRefuse | .close => bssClear s bss.id
  | _ => s

/-- `vgcs_bss_fsm_assignment()`. -/
def vgcsBssFsmAssignment (bss : VgcsBss) : BssEvent → VgcsCall
  | .activeOrFail .allGone | .close => bssClear s bss.id
  | .activeOrFail .allAssigned =>
      vgcsGccDispatch (s.bssStateChg bss.id .active) ranDownOk .bssEstablished
  | _ => s

/-- `osmo_fsm_inst_dispatch()` to a BSS of the call. -/
def vgcsBssDispatch (id : Nat) (e : BssEvent) : VgcsCall :=
  match s.bssList.find? fun b => b.id = id with
  | none => s
  | some bss =>
      if vgcsBssInEvent bss.state e then
        match bss.state with
        | .setup => vgcsBssFsmSetup s bss e
        | .assignment => vgcsBssFsmAssignment s ranDownOk bss e
        | .active => vgcsBssFsmActive s bss e
      else s

/-! ### The calling subscriber's initial channel -/

/-- What comes of `start_inactivity_timer(bss->trans)` at the end of `gsm44068_rcv_rr()`.  The loop
before it leaves `bss` at the head of the list, so that what is read as `bss->trans` is no pointer to
a transaction. -/
inductive StrayTimer where
  | crash
  /-- The process goes on, and the timer of this call runs or does not. -/
  | survives (timerInactivity : Bool)
deriving DecidableEq, Repr, Inhabited

/-- `gsm44068_rcv_rr()` with an UPLINK RELEASE: the uplink becomes free for every BSS. -/
def gsm44068RcvRr (stray : StrayTimer) : VgcsCall :=
  let s := { s with uplinkBss := none, uplinkCell := none, uplinkBusy := false }
  let s := (s.bssList.map VgcsBss.id).foldl (fun s b => updateUplinkState s b s.uplinkBusy) s
  match stray with
  | .crash => { s with crashed := true }
  | .survives timerInactivity => { s with timerInactivity := timerInactivity }

/-! ### Setting up a call -/

/-- The BSSs that `gcc_establish_bss()` creates: the BSC and the cells of each. -/
abbrev BssPlan : Type := List (Nat × List Nat)

/-- The instances for a plan, numbered in order. -/
def bssInstances (plan : BssPlan) : List VgcsBss :=
  plan.zipIdx.map fun ((peer, cells), id) => { id := id, peer := peer, cells := cells }

/-- `gcc_establish_bss()`: each BSS gets a VGCS/VBS SETUP; without any BSS it fails. -/
def gccEstablishBss (plan : BssPlan) : VgcsCall :=
  let bssList := bssInstances plan
  let s := { s with
    bssList := bssList
    log := s.log ++ bssList.map fun b => VgcsAct.setup b.id }
  if bssList.isEmpty then gccTerminateAndDestroy s else s

/-- `vgcs_vty_initiate()`: the uplink is free. -/
def vgcsVtyInitiate (type : VgcsType) (inactivityTo : Bool) (plan : BssPlan) : VgcsCall :=
  gccEstablishBss { type := type, uplinkBusy := false, inactivityTo := inactivityTo } plan

/-- `trans_create_bcc_gcc()` and `VGCS_GCC_EV_USER_SETUP`: the uplink is the caller's. -/
def vgcsUserSetup (type : VgcsType) (inactivityTo : Bool) (caller : Nat × Nat) (plan : BssPlan) :
    VgcsCall :=
  gccEstablishBss
    { type := type, fi := { state := .n1CallInitiated }, mscA := some caller, uplinkBusy := true,
      inactivityTo := inactivityTo } plan

/-- How a call is set up. -/
inductive VgcsSetup where
  | vty
  | user (caller : Nat × Nat)
deriving DecidableEq, Repr

/-- The call after its set-up. -/
def vgcsInit (type : VgcsType) (inactivityTo : Bool) (plan : BssPlan) : VgcsSetup → VgcsCall
  | .vty => vgcsVtyInitiate type inactivityTo plan
  | .user caller => vgcsUserSetup type inactivityTo caller plan

/-! ### The call over its inputs -/

/-- One thing that happens to a call. -/
inductive VgcsInput where
  | bss (id : Nat) (e : BssEvent)
  /-- `vgcs_vty_terminate()`. -/
  | netTerm
  /-- A TERMINATION REQUEST on the initial channel. -/
  | userTerm
  /-- `vgcs_vbs_caller_assign_cpl()`. -/
  | assignCpl
  /-- `vgcs_vbs_caller_assign_fail()`. -/
  | assignFail
  /-- UPLINK RELEASE on the initial channel. -/
  | rrUplinkRelease (stray : StrayTimer)
  | timeout
  /-- The cell of the talker is cleared. -/
  | cellCleared (cell : Nat)
  /-- `trans_conn_closed()` of the initial channel. -/
  | connClosed
deriving DecidableEq, Repr

/-- What one input does; `ranDownOk` tells whether an ASSIGNMENT COMMAND can be sent. -/
def vgcsStep : Bool × VgcsInput → VgcsCall
  | (ranDownOk, input) =>
      if s.gone then s
      else
        match input with
        | .bss id e => vgcsBssDispatch s ranDownOk id e
        | .netTerm => vgcsGccDispatch s ranDownOk .netTerm
        | .userTerm => vgcsGccDispatch s ranDownOk .userTerm
        | .assignCpl => if s.mscA.isSome then vgcsGccDispatch s ranDownOk .bssAssignCpl else s
        | .assignFail => if s.mscA.isSome then vgcsGccDispatch s ranDownOk .bssAssignFail else s
        | .rrUplinkRelease stray => gsm44068RcvRr s stray
        | .timeout =>
            if s.timerInactivity then
              vgcsGccDispatch s.stopInactivityTimer ranDownOk .timeout
            else s
        | .cellCleared cell =>
            { s with uplinkCell := if s.uplinkCell = some cell then none else s.uplinkCell }
        | .connClosed => if s.mscA.isSome then gccTransFree s else s

end OsmoMsc.Vgcs
