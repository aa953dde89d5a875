/-
Module: OsmoMsc.Vlr.AccessReqFsm
Purpose: The access request procedure of vlr_access_req_fsm.c (Process_Access_Request_VLR), with its
  authentication child, its Update_Location child and its Subscriber_Present child, from
  `vlr_proc_acc_req()` to the event the connection gets.  What it sends or reports is kept in a log.
Trusted boundary: none
Main exports: ArqState, ArqAct, ProcArqPar, ArqEnv, Arq, procArqVlrFnWAuth, arqIface,
  procArqVlrFnPostImsi, vlrProcAccReq, ArqInput, arqStep
-/
import OsmoMsc.Vlr.AuthFsm
import OsmoMsc.Vlr.HlrProcs

namespace OsmoMsc.Vlr

open Library

/-- `enum proc_arq_vlr_state`. -/
inductive ArqState where
  | init
  | waitObtainImsi
  | waitAuth
  | waitCiph
  | waitUpdLocChild
  | waitSubPres
  | waitTraceSub
  | waitCheckImei
  | waitTmsiAck
  | waitCeckConf
  | done
deriving DecidableEq, Repr, Inhabited

/-- `enum vlr_ciph_result_cause`. -/
inductive CiphResult where
  | reject
  | compl
deriving DecidableEq, Repr, Inhabited

/-- `enum proc_arq_vlr_event`.  The three results of the authentication are one constructor, and
the two events that look up a subscriber carry what the lookup finds. -/
inductive ArqEvent where
  | start (found : Option VlrSubscr)
  | idImsi (found : Option VlrSubscr)
  | auth (result : AuthFsmResult) (data : Option Nat)
  | ciphRes (result : CiphResult)
  | updLocRes
  | traceRes
  | imeiRes
  | presRes
  | tmsiAck

/-- `proc_arq_vlr_states[]`. -/
def procArqVlrTable : Table ArqState ArqEvent where
  inEvent
    | .init, .start _ => true
    | .waitObtainImsi, .idImsi _ => true
    | .waitAuth, .auth _ _ => true
    | .waitCiph, .ciphRes _ => true
    | .waitUpdLocChild, .updLocRes => true
    | .waitSubPres, .presRes => true
    | .waitTraceSub, .traceRes => true
    | .waitCheckImei, .imeiRes => true
    | .waitTmsiAck, .tmsiAck => true
    | _, _ => false
  outState
    | .init, new => new ≠ .init && new ≠ .waitCeckConf
    | .waitObtainImsi, new => new ≠ .init && new ≠ .waitObtainImsi && new ≠ .waitCeckConf
    | .waitAuth, new =>
        new = .done || new = .waitCiph || new = .waitUpdLocChild || new = .waitSubPres
          || new = .waitTraceSub || new = .waitCheckImei || new = .waitTmsiAck
    | .waitCiph, new =>
        new = .done || new = .waitUpdLocChild || new = .waitSubPres || new = .waitTraceSub
          || new = .waitCheckImei || new = .waitTmsiAck
    | .waitUpdLocChild, new =>
        new = .done || new = .waitSubPres || new = .waitTraceSub || new = .waitCheckImei
          || new = .waitTmsiAck
    | .waitSubPres, new =>
        new = .done || new = .waitTraceSub || new = .waitCheckImei || new = .waitTmsiAck
    | .waitTraceSub, new => new = .done || new = .waitCheckImei || new = .waitTmsiAck
    | .waitCheckImei, new => new = .done || new = .waitTmsiAck
    | .waitTmsiAck, new => new = .done
    | .waitCeckConf, _ => false
    | .done, _ => false

/-- `msc_parq_tdef_states[]` and `sgsn_parq_tdef_states[]`. -/
def parqFsmStateTdef (cfg : VlrCfg) : ArqState → Option Nat
  | .waitCheckImei | .waitObtainImsi => some (if cfg.isPs then 3370 else 3270)
  | _ => none

/-- `enum vlr_parq_type`. -/
inductive VlrParqType where
  | invalid
  | cmServReq
  | pagingResp
  | cmReEstablishReq
deriving DecidableEq, Repr, Inhabited

/-- `enum osmo_cm_service_type`. -/
inductive CmServiceType where
  | moCallPacket
  | emergency
  | sms
  | supServ
  | vgcs
  | vbs
  | locServ
deriving DecidableEq, Repr, Inhabited

/-- The mobile identity of the request; `other` stands for every type that is rejected. -/
inductive MiType where
  | imsi
  | tmsi
  | other
deriving DecidableEq, Repr, Inhabited

/-- The part of `struct proc_arq_priv` that `vlr_proc_acc_req()` sets once. -/
structure ProcArqPar where
  type : VlrParqType := .cmServReq
  cmServiceType : CmServiceType := .moCallPacket
  mi : MiType := .imsi
  authenticationRequired : Bool := false
  isCipheringToBeAttempted : Bool := false
  isCipheringRequired : Bool := false
  keySeq : Nat := vlrKeySeqInval
  isR99 : Bool := false
  isUtran : Bool := false
deriving DecidableEq, Repr

/-- What the calls that leave the VLR answer while one input is handled. -/
structure ArqEnv where
  assocOk : Bool := true
  authAlloc : Bool := true
  ciphModeOk : Bool := true
  cmServAccOk : Bool := true
  ulChildAlloc : Bool := true
  subPresAlloc : Bool := true
deriving DecidableEq, Repr

/-- What the procedure and its authentication child do, in order. -/
inductive ArqAct where
  | auth (act : AuthAct)
  | setCiphMode (secCtx : SecCtx)
  | commonId
  | updateLocation
  | cmServAcc
  | cmServRej (cause : Nat)
  | parentEvent (success : Bool)
deriving DecidableEq, Repr

/-- One access request with its children and the subscriber's record. -/
structure Arq where
  fi : Inst ArqState := { state := .init }
  vsub : VlrSubscr := {}
  result : Nat := 0
  implicitlyAcceptedParqByCipheringCmd : Bool := false
  auth : Option AuthInst := none
  ulChildFsm : Option (Inst UpdHlrState) := none
  subPresVlrFsm : Option (Inst SubPresState) := none
  env : ArqEnv := {}
  log : List ArqAct := []

/-- Note one act. -/
def Arq.record (act : ArqAct) (s : Arq) : Arq := { s with log := s.log ++ [act] }

/-- `osmo_fsm_inst_state_chg()` to a state without an `onenter` function. -/
def Arq.stateChg (new : ArqState) (timeout : Option Nat) (s : Arq) : Arq :=
  { s with fi := (s.fi.stateChg procArqVlrTable new timeout).getD s.fi }

variable (cfg : VlrCfg) (par : ProcArqPar)

variable (s : Arq)

/-- `proc_arq_vlr_dispatch_result()`.  A CM SERVICE ACCEPT that cannot be sent turns the result
into a failure. -/
def procArqVlrDispatchResult : Arq :=
  if par.type = .cmServReq then
    let accept := decide (s.result = 0) && !s.implicitlyAcceptedParqByCipheringCmd
    let success := decide (s.result = 0) && (!accept || s.env.cmServAccOk)
    let s := if accept then s.record .cmServAcc else s
    let s := if success then s else s.record (.cmServRej s.result)
    s.record (.parentEvent success)
  else s.record (.parentEvent (decide (s.result = 0)))

/-- `_proc_arq_fsm_done()`: 0 is success. -/
def procArqFsmDone (gsm48Rej : Nat) (s : Arq) : Arq :=
  let s := { s with result := gsm48Rej }
  match s.fi.stateChg procArqVlrTable .done none with
  | none => s
  | some fi => procArqVlrDispatchResult par { s with fi := fi }

/-- `_proc_arq_vlr_post_imei()`; TMSI reallocation at access is compiled out. -/
def procArqVlrPostImei : Arq := procArqFsmDone par 0 s

/-- `_proc_arq_vlr_post_trace()`; the IMEI check is compiled out. -/
def procArqVlrPostTrace : Arq := procArqVlrPostImei par s

/-- `_proc_arq_vlr_post_pres()`; tracing is compiled out. -/
def procArqVlrPostPres : Arq := procArqVlrPostTrace par s

/-- `proc_arq_vlr_fn_w_pres()` behind its event mask. -/
def procArqVlrDispatchPresRes : Arq :=
  if s.fi.accepts procArqVlrTable .presRes then procArqVlrPostPres par s else s

/-- `_proc_arq_vlr_node2_post_vlr()`. -/
def procArqVlrNode2PostVlr : Arq :=
  if !s.vsub.subDataconfByHlrInd then
    procArqFsmDone par RejectCause.imsiUnknownInHlr.code s
  else
    let s := { s with vsub := { s.vsub with imsiDetachedFlag := false } }
    if s.vsub.msNotReachableFlag then
      let s := s.stateChg .waitSubPres none
      match subPresVlrFsmStart s.env.subPresAlloc s.vsub with
      | none => s
      | some child =>
          let s := { s with vsub := child.vsub }
          -- A child that ends at once reports while it is being started.
          if child.ended.isSome then procArqVlrDispatchPresRes par s
          else { s with subPresVlrFsm := some child.fi }
    else procArqVlrPostPres par s

/-- `_proc_arq_vlr_node2_post_ciph()`. -/
def procArqVlrNode2PostCiph : Arq :=
  let s := s.record .commonId
  let s := { s with vsub := { s.vsub with confByRadioContactInd := true } }
  if s.vsub.locConfInHlrInd = false then
    let s := if s.env.ulChildAlloc then s.record .updateLocation else s
    let s := { s with ulChildFsm := updHlrVlrProcStart s.env.ulChildAlloc s.vsub }
    s.stateChg .waitUpdLocChild none
  else procArqVlrNode2PostVlr par s

/-- `is_cmc_smc_to_be_attempted()`. -/
def ProcArqPar.isCmcSmcToBeAttempted : Bool :=
  par.isUtran || par.isCipheringToBeAttempted

/-- `_proc_arq_vlr_node2()`. -/
def procArqVlrNode2 : Arq :=
  if !par.isCmcSmcToBeAttempted
      || (decide (s.vsub.secCtx = .none) && !par.isCipheringRequired)
      || decide (par.cmServiceType = .vgcs)
      || decide (par.cmServiceType = .vbs) then
    procArqVlrNode2PostCiph par s
  else if s.vsub.secCtx = .none then
    procArqFsmDone par RejectCause.networkFailure.code s
  else
    let s := s.record (.setCiphMode s.vsub.secCtx)
    if !s.env.ciphModeOk then procArqFsmDone par RejectCause.networkFailure.code s
    else Arq.stateChg .waitCiph none { s with implicitlyAcceptedParqByCipheringCmd := true }

/-- `proc_arq_vlr_fn_w_auth()`: a cause pointer is dereferenced as it is, so that 0 means success
here too. -/
def procArqVlrFnWAuth (result : AuthFsmResult) (data : Option Nat) (s : Arq) : Arq :=
  let cause := data.getD RejectCause.networkFailure.code
  match result with
  | .passed => procArqVlrNode2 par s
  | .failure => procArqFsmDone par cause s
  | .noAuthInfo =>
      if par.authenticationRequired then procArqFsmDone par cause s
      else procArqVlrNode2 par s

/-- The event of the authentication child, behind the event mask. -/
def procArqVlrDispatchAuth (result : AuthFsmResult) (data : Option Nat) (s : Arq) : Arq :=
  if s.fi.accepts procArqVlrTable (.auth result data) then procArqVlrFnWAuth par result data s
  else s

/-- An access request as the parent of an authentication instance. -/
def arqIface : AuthIface Arq where
  record act s := s.record (.auth act)
  notify result data vsub s :=
    let s := procArqVlrDispatchAuth par result data { s with vsub := vsub }
    (s.vsub, s)

/-- `vsub->auth_fsm` of an access request. -/
def arqHost : AuthHost Arq where
  child := Arq.auth
  vsub := Arq.vsub
  put vsub child s := { s with vsub := vsub, auth := child }

/-- `auth_fsm_start()` by the access request. -/
def Arq.authFsmStart : Arq :=
  if s.env.authAlloc then
    arqHost.run (authFsmDispatch (arqIface par) cfg .start)
      { s with auth := some (authFsmAlloc s.vsub par.isR99 par.isUtran) }
  else procArqVlrDispatchAuth par .failure none s

/-- `is_auth_to_be_attempted()`; asking whether a tuple can be re-used counts its use. -/
def isAuthToBeAttempted (vsub : VlrSubscr) : Bool × VlrSubscr :=
  if par.authenticationRequired then (true, vsub)
  else if par.isCipheringToBeAttempted then
    let reuse := authTryReuseTuple cfg vsub par.keySeq
    (!reuse.1, reuse.2)
  else (false, vsub)

/-- `proc_arq_vlr_fn_post_imsi()`. -/
def procArqVlrFnPostImsi : Arq :=
  let attempt := isAuthToBeAttempted cfg par s.vsub
  let s := { s with vsub := attempt.2 }
  if attempt.1 then Arq.authFsmStart cfg par (s.stateChg .waitAuth none)
  else procArqVlrNode2 par s

/-- `assoc_par_with_subscr()` and what its callers do with its result. -/
def procArqVlrAssoc (vsub : VlrSubscr) (s : Arq) : Arq :=
  let s := { s with vsub := vsub }
  if !s.env.assocOk then procArqFsmDone par RejectCause.networkFailure.code s
  else procArqVlrFnPostImsi cfg par s

/-- `proc_arq_vlr_fn_init()`. -/
def procArqVlrFnInit (found : Option VlrSubscr) (s : Arq) : Arq :=
  match found with
  | some vsub => procArqVlrAssoc cfg par vsub s
  | none =>
      if par.mi = .tmsi ∧ cfg.parqRetrieveImsi = true then
        s.stateChg .waitObtainImsi (parqFsmStateTdef cfg .waitObtainImsi)
      else procArqFsmDone par RejectCause.imsiUnknownInVlr.code s

/-- `proc_arq_vlr_fn_w_obt_imsi()`. -/
def procArqVlrFnWObtImsi (found : Option VlrSubscr) (s : Arq) : Arq :=
  match found with
  | none => procArqFsmDone par RejectCause.imsiUnknownInVlr.code s
  | some vsub => procArqVlrAssoc cfg par vsub s

/-- `proc_arq_vlr_fn_w_ciph()`. -/
def procArqVlrFnWCiph (result : CiphResult) (s : Arq) : Arq :=
  match result with
  | .compl => procArqVlrNode2PostCiph par s
  | .reject => procArqFsmDone par RejectCause.illegalMs.code s

/-- `osmo_fsm_inst_dispatch()` on an access request. -/
def procArqVlrDispatch (e : ArqEvent) (s : Arq) : Arq :=
  if s.fi.accepts procArqVlrTable e then
    match e with
    | .start found => procArqVlrFnInit cfg par found s
    | .idImsi found => procArqVlrFnWObtImsi cfg par found s
    | .auth result data => procArqVlrFnWAuth par result data s
    | .ciphRes result => procArqVlrFnWCiph par result s
    | .updLocRes => procArqVlrNode2PostVlr par s
    | .presRes => procArqVlrPostPres par s
    | .traceRes => procArqVlrPostTrace par s
    | .imeiRes => procArqVlrPostImei par s
    | .tmsiAck => procArqFsmDone par 0 s
  else s

/-- `vlr_proc_acc_req()`, with the subscriber the lookup finds. -/
def vlrProcAccReq (env : ArqEnv) (found : Option VlrSubscr) : Arq :=
  let s : Arq := { env := env }
  if par.mi = .other then procArqFsmDone par RejectCause.invalidMandantoryInf.code s
  else procArqVlrDispatch cfg par (.start found) s

/-- `osmo_fsm_inst_term()` on the access request.  Its children end with it and tell nobody. -/
def Arq.term (report : Bool) (s : Arq) : Arq :=
  match s.fi.term with
  | none => s
  | some fi =>
      let s := { s with fi := fi, auth := none, ulChildFsm := none, subPresVlrFsm := none }
      if report then s.record (.parentEvent false) else s

/-- `vlr_parq_cancel()`. -/
def vlrParqCancel (gsm48Cause : RejectCause) (s : Arq) : Arq :=
  if s.fi.state = .done then s else procArqFsmDone par gsm48Cause.code s

/-- Everything that can reach an access request between its start and its end. -/
inductive ArqInput where
  /-- An event of the MS or the HLR for the procedure itself. -/
  | idImsi (found : Option VlrSubscr)
  | ciphRes (result : CiphResult)
  | traceRes
  | imeiRes
  | tmsiAck
  /-- An event for the authentication child, and the expiry of its timer. -/
  | auth (e : AuthEvent)
  | authTimeout
  /-- The other two children; the first one only ever ends by its timer. -/
  | ulChildTimeout
  | subPres (e : SubPresEvent)
  | subPresTimeout
  /-- Expiry of the procedure's own timer. -/
  | timeout
  /-- `vlr_subscr_cancel_attach_fsm()`, from any of its callers. -/
  | cancel (gsm48Cause : RejectCause)
  /-- `vlr_subscr_disconnected()`. -/
  | disconnected
  /-- Another access request of the same subscriber takes over. -/
  | superseded
  /-- The connection goes away. -/
  | parentTerm
  /-- Another procedure writes the subscriber's record. -/
  | vsubWritten (vsub : VlrSubscr)

/-- The Update_Location child ends. -/
def Arq.ulChildEnded : Arq :=
  procArqVlrDispatch cfg par .updLocRes { s with ulChildFsm := none }

/-- The Subscriber_Present child ends. -/
def Arq.subPresEnded : Arq :=
  procArqVlrDispatch cfg par .presRes { s with subPresVlrFsm := none }

/-- One input, with the answers of the outside while it is handled. -/
def arqStep (input : ArqEnv × ArqInput) : Arq :=
  let s := { s with env := input.1 }
  match input.2 with
  | .idImsi found => procArqVlrDispatch cfg par (.idImsi found) s
  | .ciphRes result => procArqVlrDispatch cfg par (.ciphRes result) s
  | .traceRes => procArqVlrDispatch cfg par .traceRes s
  | .imeiRes => procArqVlrDispatch cfg par .imeiRes s
  | .tmsiAck => procArqVlrDispatch cfg par .tmsiAck s
  | .auth e => arqHost.run (authFsmDispatch (arqIface par) cfg e) s
  | .authTimeout => arqHost.run (authFsmTimeout (arqIface par)) s
  | .ulChildTimeout =>
      match s.ulChildFsm.bind childTimeout with
      | none => s
      | some _ => s.ulChildEnded cfg par
  | .subPres e =>
      match s.subPresVlrFsm with
      | none => s
      | some fi =>
          let child := subPresVlrDispatch e fi s.vsub
          let s := { s with vsub := child.vsub, subPresVlrFsm := some child.fi }
          if child.ended.isSome then s.subPresEnded cfg par else s
  | .subPresTimeout =>
      match s.subPresVlrFsm.bind childTimeout with
      | none => s
      | some _ => s.subPresEnded cfg par
  | .timeout => if s.fi.timer.isSome then s.term true else s
  | .cancel cause =>
      arqHost.run (authFsmInstTerm (arqIface par) none) (vlrParqCancel par cause s)
  | .disconnected => arqHost.run (authFsmInstTerm (arqIface par) none) s
  | .superseded => procArqFsmDone par RejectCause.networkFailure.code s
  | .parentTerm => s.term false
  | .vsubWritten vsub => { s with vsub := vsub }

end OsmoMsc.Vlr
