/-
Module: OsmoMsc.Vlr.AuthFsm
Purpose: The authentication procedure `vlr_auth_fsm` of vlr_auth_fsm.c, function by function.  The
  machine is the child of another one and reports its end to it in the middle of its own action
  functions, so the model is parametric in the parent: `AuthIface` says how the parent records what
  the child does and how it reacts to the child's end.
Trusted boundary: none
Main exports: AuthState, AuthAct, AuthInst, AuthIface, AuthCtx, checkAuthResp, authFsmTerm,
  authFsmDispatch, authFsmTimeout, authFsmAlloc, AuthHost
-/
import OsmoMsc.Library.Fsm
import OsmoMsc.Vlr.Subscr

namespace OsmoMsc.Vlr

open Library

/-- `enum vlr_subscr_auth_state`. -/
inductive AuthState where
  | needsAuth
  | needsAuthWaitAi
  | waitResp
  | authenticated
  | needsResync
  | needsAuthWaitSaiResync
  | waitRespResync
  | waitIdImsi
  | authFailed
deriving DecidableEq, Repr, Inhabited

/-- `struct vlr_auth_resp_par`.  `res` and `auts` are `none` for a NULL pointer, and the length
that goes with `res` is that of the list. -/
structure AuthRespPar where
  isR99 : Bool := false
  isUtran : Bool := false
  res : Option (List UInt8) := none
  auts : Option (List UInt8) := none
deriving DecidableEq, Repr

/-- `enum vlr_fsm_auth_event` with the data each event carries. -/
inductive AuthEvent where
  | start
  | hlrSaiAck (gsup : Gsup)
  | hlrSaiNack (gsup : Gsup)
  | hlrSaiAbort (gsup : Gsup)
  | msAuthResp (par : AuthRespPar)
  | msAuthFail (par : AuthRespPar)
  | msIdImsi (imsi : Digits)
deriving DecidableEq, Repr

/-- `auth_fsm_states[]`. -/
def authFsmTable : Table AuthState AuthEvent where
  inEvent
    | .needsAuth, .start => true
    | .needsAuthWaitAi, .hlrSaiAck _ => true
    | .needsAuthWaitAi, .hlrSaiNack _ => true
    | .waitResp, .msAuthResp _ => true
    | .waitResp, .msAuthFail _ => true
    | .needsAuthWaitSaiResync, .hlrSaiAck _ => true
    | .needsAuthWaitSaiResync, .hlrSaiNack _ => true
    | .waitRespResync, .msAuthResp _ => true
    | .waitRespResync, .msAuthFail _ => true
    | .waitIdImsi, .msIdImsi _ => true
    | _, _ => false
  outState
    | .needsAuth, new => new = .needsAuthWaitAi || new = .waitResp
    | .needsAuthWaitAi, new => new = .authFailed || new = .waitResp
    | .waitResp, new =>
        new = .waitIdImsi || new = .authFailed || new = .authenticated
          || new = .needsAuthWaitSaiResync
    | .needsAuthWaitSaiResync, new => new = .authFailed || new = .waitRespResync
    | .waitRespResync, new => new = .authFailed || new = .authenticated
    | .waitIdImsi, new => new = .needsAuth
    | .authenticated, _ => false
    | .needsResync, _ => false
    | .authFailed, _ => false

/-- `msc_auth_tdef_states[]` and `sgsn_auth_tdef_states[]`: the timer that guards a state. -/
def authFsmStateTdef (cfg : VlrCfg) : AuthState → Option Nat
  | .waitResp | .waitRespResync => some (if cfg.isPs then 3360 else 3260)
  | .waitIdImsi => some (if cfg.isPs then 3370 else 3270)
  | _ => none

/-- `enum auth_fsm_result`; also the event the parent gets, as each result has its own. -/
inductive AuthFsmResult where
  | passed
  | noAuthInfo
  | failure
deriving DecidableEq, Repr, Inhabited

/-- What an authentication instance does, in the order in which it does it: messages to the MS and
the HLR, changes to the subscriber's tuples, state changes it requests (granted or not), the
verdict on a response, its termination and the event its parent gets for it. -/
inductive AuthAct where
  | saiReq (auts rand : Option (List UInt8))
  | authReq (slot : Fin 5) (useUmtsAka : Bool)
  | idReq
  | authFailRep
  | stateChg (new : AuthState)
  | useTuple (slot : Fin 5)
  | newTuples
  | checked (ok : Bool)
  | term
  | parentEvent (result : AuthFsmResult) (data : Option Nat)
deriving DecidableEq, Repr

/-- An instance with its `struct auth_fsm_priv`.  `parentTermEvent` is
`fi->proc.parent_term_event`, which `auth_fsm_start()` sets to the failure event. -/
structure AuthInst where
  fi : Inst AuthState := { state := .needsAuth }
  byImsi : Bool := false
  isR99 : Bool := false
  isUtran : Bool := false
  authRequested : Bool := false
  authTupleMaxReuseCount : Int := 0
  parentTermEvent : AuthFsmResult := .failure
deriving DecidableEq, Repr

/-- The parent of an authentication instance: `record` keeps what the child does and `notify` is
the handling of the event the child's end dispatches, with the data pointer as an optional
number. -/
structure AuthIface (P : Type*) where
  record : AuthAct → P → P
  notify : AuthFsmResult → Option Nat → VlrSubscr → P → VlrSubscr × P

/-- Everything an action function of the child can read or write. -/
structure AuthCtx (P : Type*) where
  inst : AuthInst
  vsub : VlrSubscr
  parent : P

variable {P : Type*} (ifc : AuthIface P)

/-- Note one act of the child. -/
def AuthCtx.record (act : AuthAct) (c : AuthCtx P) : AuthCtx P :=
  { c with parent := ifc.record act c.parent }

/-- `auth_fsm_onenter_failed()`: no report to the HLR if authentication was never requested. -/
def authFsmOnenterFailed (c : AuthCtx P) : AuthCtx P :=
  if c.inst.authRequested then c.record ifc .authFailRep else c

/-- `osmo_fsm_inst_state_chg()` on an authentication instance: a refused request changes nothing
and the action function goes on. -/
def authFsmStateChg (new : AuthState) (timeout : Option Nat) (c : AuthCtx P) : AuthCtx P :=
  let c := c.record ifc (.stateChg new)
  match c.inst.fi.stateChg authFsmTable new timeout with
  | none => c
  | some fi =>
      let c := { c with inst := { c.inst with fi := fi } }
      if new = .authFailed then authFsmOnenterFailed ifc c else c

/-- `osmo_fsm_inst_term()` with a cause other than the parent's own end: an instance that is
already terminating ignores it, any other one ends and its parent handles the event. -/
def authFsmInstTerm (data : Option Nat) (c : AuthCtx P) : AuthCtx P :=
  match c.inst.fi.term with
  | none => c
  | some fi =>
      let c := { c with inst := { c.inst with fi := fi } }
      let c := (c.record ifc .term).record ifc (.parentEvent c.inst.parentTermEvent data)
      let after := ifc.notify c.inst.parentTermEvent data c.vsub c.parent
      { c with vsub := after.1, parent := after.2 }

/-- `auth_fsm_term()`: one final state change, then the end with a pointer to the cause. -/
def authFsmTerm (result : AuthFsmResult) (cause : Nat) (c : AuthCtx P) : AuthCtx P :=
  let c := match result with
    | .passed => authFsmStateChg ifc .authenticated none c
    | .noAuthInfo => authFsmStateChg ifc .authFailed none c
    | .failure => authFsmStateChg ifc .authFailed none c
  authFsmInstTerm ifc (some cause) { c with inst := { c.inst with parentTermEvent := result } }

/-- `check_auth_resp()`: the verdict and the record with the security context it sets.  The source
asserts that there is a last tuple; `Tracked` in AuthCheck.lean is why there always is one here. -/
def checkAuthResp (vsub : VlrSubscr) (isR99 isUtran : Bool) (res : Option (List UInt8)) :
    Bool × VlrSubscr :=
  let outFalse := (false, { vsub with secCtx := .none })
  match vsub.lastTuple, res with
  | none, _ => outFalse
  | some _, none => outFalse
  | some last, some res =>
      let vec := (vsub.authTuples last).vec
      if res.length = 0 then outFalse
      -- The length decides between UMTS AKA (RES) and GSM AKA (SRES).
      else if res.length ≠ vec.res.length ∧ res.length ≠ 4 then outFalse
      else
        let resIsUmtsAka := decide (res.length = vec.res.length)
        let checkUmts := isR99 && vec.umts && resIsUmtsAka
        if isUtran && !checkUmts then outFalse
        else if checkUmts then
          if res.length ≠ vec.res.length ∨ res ≠ vec.res then outFalse
          else (true, { vsub with secCtx := .umts })
        else if res.length ≠ 4 ∨ res ≠ vec.sres.toList then outFalse
        else (true, { vsub with secCtx := .gsm })

/-- `_vlr_subscr_authenticate()`: take a tuple, count its use and send the request; without a tuple
the procedure ends. -/
def vlrSubscrAuthenticate (c : AuthCtx P) : AuthCtx P :=
  match vlrSubscrGetAuthTuple c.vsub c.inst.authTupleMaxReuseCount with
  | none => authFsmTerm ifc .failure RejectCause.networkFailure.code c
  | some (slot, vsub) =>
      let c := AuthCtx.record ifc (.useTuple slot) { c with vsub := vsub }
      let useUmtsAka := vlrUseUmtsAka (vsub.authTuples slot).vec c.inst.isR99
      AuthCtx.record ifc (.authReq slot useUmtsAka)
        { c with
          inst := { c.inst with authRequested := true }
          vsub := { c.vsub with lastTuple := some slot } }

variable (cfg : VlrCfg)

variable (c : AuthCtx P) (e : AuthEvent)

/-- `auth_fsm_needs_auth()`. -/
def authFsmNeedsAuth : AuthCtx P :=
  let c := { c with
    inst := { c.inst with authTupleMaxReuseCount := cfg.authTupleMaxReuseCount } }
  if vlrSubscrHasAuthTuple c.vsub c.inst.authTupleMaxReuseCount then
    vlrSubscrAuthenticate ifc (authFsmStateChg ifc .waitResp (authFsmStateTdef cfg .waitResp) c)
  else
    -- Obtain_Authentication_Sets_VLR, guarded by GSM_29002_TIMER_M with the timer number 0
    authFsmStateChg ifc .needsAuthWaitAi (some 0) (c.record ifc (.saiReq none none))

/-- `osmo_fsm_inst_dispatch(fi, VLR_AUTH_E_START, NULL)`. -/
def authFsmDispatchStart : AuthCtx P :=
  if c.inst.fi.accepts authFsmTable .start then authFsmNeedsAuth ifc cfg c else c

/-- The common exit `pass:` of `auth_fsm_wait_ai()`. -/
def authFsmWaitAiPass : AuthCtx P :=
  vlrSubscrAuthenticate ifc (authFsmStateChg ifc .waitResp (authFsmStateTdef cfg .waitResp) c)

/-- `vlr_subscr_update_tuples()` by the instance. -/
def AuthCtx.updateTuples (gsup : Gsup) (c : AuthCtx P) : AuthCtx P :=
  let c := if gsup.authVectors = [] then c else c.record ifc .newTuples
  { c with vsub := vlrSubscrUpdateTuples c.vsub gsup }

/-- An answer of the HLR without usable vectors, other than "IMSI unknown". -/
def saiProcedureError : AuthEvent → Bool
  | .hlrSaiAck gsup => gsup.authVectors = []
  | .hlrSaiNack gsup => gsup.cause ≠ .imsiUnknown
  | .hlrSaiAbort _ => true
  | _ => false

/-- `auth_fsm_wait_ai()`. -/
def authFsmWaitAi (c : AuthCtx P) : AuthCtx P :=
  if saiProcedureError e && cfg.authReuseOldSetsOnError && vlrSubscrHasAuthTuple c.vsub (-1) then
    -- To re-use an old tuple, disable the max_reuse_count constraint.
    authFsmWaitAiPass ifc cfg
      { c with inst := { c.inst with authTupleMaxReuseCount := -1 } }
  else match e with
    | .hlrSaiAck gsup =>
        if gsup.authVectors = [] then
          authFsmTerm ifc .failure RejectCause.networkFailure.code c
        else authFsmWaitAiPass ifc cfg (c.updateTuples ifc gsup)
    | .hlrSaiNack gsup =>
        authFsmTerm ifc .noAuthInfo (vlrGmmCauseToRejectCauseDomain gsup.cause true).code c
    | .hlrSaiAbort gsup =>
        authFsmTerm ifc .failure (vlrGmmCauseToRejectCauseDomain gsup.cause true).code c
    | _ => c

/-- `auth_fsm_wait_auth_resp()`. -/
def authFsmWaitAuthResp (c : AuthCtx P) : AuthCtx P :=
  match e with
  | .msAuthResp par =>
      let checked := checkAuthResp c.vsub par.isR99 par.isUtran par.res
      let c := AuthCtx.record ifc (.checked checked.1) { c with vsub := checked.2 }
      if checked.1 then authFsmTerm ifc .passed 0 c
      else if !c.inst.byImsi then
        authFsmStateChg ifc .waitIdImsi (authFsmStateTdef cfg .waitIdImsi) (c.record ifc .idReq)
      else authFsmTerm ifc .failure RejectCause.illegalMs.code c
  | .msAuthFail par =>
      if par.auts.isSome then
        -- First failure, start re-sync attempt.
        let rand := c.vsub.lastTuple.map fun last => (c.vsub.authTuples last).vec.rand
        authFsmStateChg ifc .needsAuthWaitSaiResync (some 0)
          (c.record ifc (.saiReq par.auts rand))
      else authFsmTerm ifc .failure RejectCause.illegalMs.code c
  | _ => c

/-- `auth_fsm_wait_ai_resync()`.  The first branch ends the instance, and the switch that follows
it runs all the same. -/
def authFsmWaitAiResync (c : AuthCtx P) : AuthCtx P :=
  let c := if saiProcedureError e then
      authFsmTerm ifc .failure RejectCause.networkFailure.code c
    else c
  match e with
  | .hlrSaiAck gsup =>
      vlrSubscrAuthenticate ifc
        (authFsmStateChg ifc .waitRespResync (authFsmStateTdef cfg .waitRespResync)
          (c.updateTuples ifc gsup))
  | .hlrSaiNack gsup =>
      authFsmTerm ifc .failure
        (if gsup.cause = .imsiUnknown then RejectCause.imsiUnknownInHlr.code
          else RejectCause.networkFailure.code) c
  | _ => c

/-- `auth_fsm_wait_auth_resp_resync()`. -/
def authFsmWaitAuthRespResync (c : AuthCtx P) : AuthCtx P :=
  match e with
  | .msAuthResp par =>
      let checked := checkAuthResp c.vsub par.isR99 par.isUtran par.res
      let c := AuthCtx.record ifc (.checked checked.1) { c with vsub := checked.2 }
      if checked.1 then authFsmTerm ifc .passed 0 c
      else if !c.inst.byImsi then
        authFsmStateChg ifc .waitIdImsi (authFsmStateTdef cfg .waitIdImsi) (c.record ifc .idReq)
      else authFsmTerm ifc .failure RejectCause.synchFailure.code c
  | .msAuthFail _ => authFsmTerm ifc .failure RejectCause.synchFailure.code c
  | _ => c

/-- The IMSI of an identity response is taken over unless another one is on record. -/
def VlrSubscr.learnImsi (vsub : VlrSubscr) (imsi : Digits) : VlrSubscr :=
  if vsub.imsi ≠ [] ∧ vsub.imsi ≠ imsi then vsub
  else { vsub with imsi := imsi.take 15 }

/-- `auth_fsm_wait_imsi()`: retry with identity=IMSI. -/
def authFsmWaitImsi (c : AuthCtx P) : AuthCtx P :=
  match e with
  | .msIdImsi imsi =>
      authFsmDispatchStart ifc cfg
        (authFsmStateChg ifc .needsAuth none
          { c with inst := { c.inst with byImsi := true }, vsub := c.vsub.learnImsi imsi })
  | _ => c

/-- `osmo_fsm_inst_dispatch()` on an authentication instance. -/
def authFsmDispatch (c : AuthCtx P) : AuthCtx P :=
  if c.inst.fi.accepts authFsmTable e then
    match c.inst.fi.state with
    | .needsAuth => authFsmNeedsAuth ifc cfg c
    | .needsAuthWaitAi => authFsmWaitAi ifc cfg e c
    | .waitResp => authFsmWaitAuthResp ifc cfg e c
    | .needsAuthWaitSaiResync => authFsmWaitAiResync ifc cfg e c
    | .waitRespResync => authFsmWaitAuthRespResync ifc cfg e c
    | .waitIdImsi => authFsmWaitImsi ifc cfg e c
    | .authenticated | .needsResync | .authFailed => c
  else c

/-- Expiry of the instance's timer: the machine has no `timer_cb`, so it is terminated with a
pointer to the number of the timer. -/
def authFsmTimeout : AuthCtx P :=
  match c.inst.fi.timer with
  | none => c
  | some T => authFsmInstTerm ifc (some T) c

/-- The instance `auth_fsm_start()` allocates, before it dispatches the start event. -/
def authFsmAlloc (vsub : VlrSubscr) (isR99 isUtran : Bool) : AuthInst :=
  { byImsi := decide (vsub.imsi ≠ []), isR99 := isR99, isUtran := isUtran }

/-- How a procedure keeps its authentication child and the subscriber's record. -/
structure AuthHost (P : Type*) where
  child : P → Option AuthInst
  vsub : P → VlrSubscr
  put : VlrSubscr → Option AuthInst → P → P

/-- Let the child, if there is one, handle something; a child that has ended is gone. -/
def AuthHost.run (host : AuthHost P) (act : AuthCtx P → AuthCtx P) (p : P) : P :=
  match host.child p with
  | none => p
  | some inst =>
      let c := act { inst := inst, vsub := host.vsub p, parent := p }
      host.put c.vsub (if c.inst.fi.terminating then none else some c.inst) c.parent

end OsmoMsc.Vlr
