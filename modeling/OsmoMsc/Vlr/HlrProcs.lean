/-
Module: OsmoMsc.Vlr.HlrProcs
Purpose: The two procedures of vlr_lu_fsm.c that talk to the HLR on behalf of another machine:
  Update_HLR_VLR (`upd_hlr_vlr_fsm`) and Subscriber_Present_VLR (`sub_pres_vlr_fsm`).  An event
  yields the child, the subscriber's record and, if the child has ended, what its parent gets.
Trusted boundary: none
Main exports: ChildStep, updHlrVlrDispatch, updHlrVlrProcStart, subPresVlrDispatch,
  subPresVlrFsmStart, childTimeout
-/
import OsmoMsc.Library.Fsm
import OsmoMsc.Vlr.Subscr

namespace OsmoMsc.Vlr

open Library

/-- A child after one event.  `ended` is the data its parent's event carries once it is over. -/
structure ChildStep (S : Type*) where
  fi : Inst S
  vsub : VlrSubscr
  ended : Option (Option Nat) := none

/-- Expiry of the timer of a child without `timer_cb`: the number of the timer is the data. -/
def childTimeout {S : Type*} (fi : Inst S) : Option Nat :=
  if fi.terminating then none else fi.timer

/-! ### Update_HLR_VLR -/

/-- `enum upd_hlr_vlr_state`. -/
inductive UpdHlrState where
  | init
  | waitForData
  | done
deriving DecidableEq, Repr, Inhabited

/-- `enum upd_hlr_vlr_evt`; a NACK carries a pointer to the cause the HLR gave. -/
inductive UpdHlrEvent where
  | start
  | insSubData
  | actTraceMode
  | fwCheckSsInd
  | updLocAck
  | updLocNack (cause : Nat)
deriving DecidableEq, Repr

/-- `upd_hlr_vlr_states[]`. -/
def updHlrVlrTable : Table UpdHlrState UpdHlrEvent where
  inEvent
    | .init, .start => true
    | .waitForData, .start => false
    | .waitForData, _ => true
    | _, _ => false
  outState
    | .init, new => new = .waitForData
    | .waitForData, new => new = .done
    | .done, _ => false

/-- `osmo_fsm_inst_state_chg()` on a child whose refused changes have no effect. -/
def childStateChg {S E : Type*} (table : Table S E) (new : S) (timeout : Option Nat)
    (fi : Inst S) : Inst S :=
  (fi.stateChg table new timeout).getD fi

/-- `osmo_fsm_inst_dispatch()` on `upd_hlr_vlr_fsm`. -/
def updHlrVlrDispatch (e : UpdHlrEvent) (fi : Inst UpdHlrState) (vsub : VlrSubscr) :
    ChildStep UpdHlrState :=
  if fi.accepts updHlrVlrTable e then
    match e with
    | .start => { fi := childStateChg updHlrVlrTable .waitForData (some 0) fi, vsub := vsub }
    | .insSubData | .actTraceMode | .fwCheckSsInd => { fi := fi, vsub := vsub }
    | .updLocAck =>
        { fi := { childStateChg updHlrVlrTable .done none fi with terminating := true }
          vsub := { vsub with subDataconfByHlrInd := true, locConfInHlrInd := true }
          ended := some none }
    | .updLocNack cause =>
        { fi := { childStateChg updHlrVlrTable .done none fi with terminating := true }
          vsub := { vsub with subDataconfByHlrInd := false, locConfInHlrInd := false }
          ended := some (some cause) }
  else { fi := fi, vsub := vsub }

/-- `upd_hlr_vlr_proc_start()`: the child after its start event, or NULL without memory. -/
def updHlrVlrProcStart (allocated : Bool) (vsub : VlrSubscr) : Option (Inst UpdHlrState) :=
  if allocated then some (updHlrVlrDispatch .start { state := .init } vsub).fi else none

/-- Only an acknowledgement of the HLR ends the procedure without a cause. -/
theorem updHlrVlrDispatch_ended_none {e : UpdHlrEvent} {fi : Inst UpdHlrState} {vsub : VlrSubscr}
    (ended : (updHlrVlrDispatch e fi vsub).ended = some none) : e = .updLocAck := by
  unfold updHlrVlrDispatch at ended
  split at ended
  · cases e <;> simp at ended ⊢
  · simp at ended

/-! ### Subscriber_Present_VLR -/

/-- `enum sub_pres_vlr_state`. -/
inductive SubPresState where
  | init
  | waitForHlr
  | done
deriving DecidableEq, Repr, Inhabited

/-- `enum sub_pres_vlr_event`. -/
inductive SubPresEvent where
  | start
  | readySmCnf
  | readySmErr
deriving DecidableEq, Repr

/-- `sub_pres_vlr_states[]`. -/
def subPresVlrTable : Table SubPresState SubPresEvent where
  inEvent
    | .init, .start => true
    | .waitForHlr, .readySmCnf => true
    | .waitForHlr, .readySmErr => true
    | _, _ => false
  outState
    | .init, new => new = .waitForHlr || new = .done
    | .waitForHlr, new => new = .done
    | .done, _ => false

/-- `osmo_fsm_inst_dispatch()` on `sub_pres_vlr_fsm`. -/
def subPresVlrDispatch (e : SubPresEvent) (fi : Inst SubPresState) (vsub : VlrSubscr) :
    ChildStep SubPresState :=
  let ended := { childStateChg subPresVlrTable .done none fi with terminating := true }
  if fi.accepts subPresVlrTable e then
    match e with
    | .start =>
        if !vsub.msNotReachableFlag then { fi := ended, vsub := vsub, ended := some none }
        else { fi := childStateChg subPresVlrTable .waitForHlr (some 0) fi, vsub := vsub }
    | .readySmCnf =>
        { fi := ended, vsub := { vsub with msNotReachableFlag := false }, ended := some none }
    | .readySmErr => { fi := ended, vsub := vsub, ended := some none }
  else { fi := fi, vsub := vsub }

/-- `sub_pres_vlr_fsm_start()`. -/
def subPresVlrFsmStart (allocated : Bool) (vsub : VlrSubscr) :
    Option (ChildStep SubPresState) :=
  if allocated then some (subPresVlrDispatch .start { state := .init } vsub) else none

end OsmoMsc.Vlr
