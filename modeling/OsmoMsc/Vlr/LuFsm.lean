/-
Module: OsmoMsc.Vlr.LuFsm
Purpose: The location update procedure of vlr_lu_fsm.c (Update_Location_Area_VLR) with its children:
  authentication, Update_HLR_VLR and Location_Update_Completion_VLR, which has a
  Subscriber_Present_VLR child of its own.  The definitions follow the call order bottom up.
Trusted boundary: none
Main exports: LuAct, LuPar, LuEnv, Lu, luFsmFailure, vlrLocUpdPostAuth, luIface, luFsmDispatch,
  vlrLocUpdate, LuInput, luStep
-/
import OsmoMsc.Vlr.AccessReqFsm

namespace OsmoMsc.Vlr

open Library

/-! ### Types -/

/-- `enum vlr_lu_state`. -/
inductive LuState where
  | idle
  | waitImeisv
  | waitPvlr
  | waitAuth
  | waitCiph
  | waitImsi
  | waitHlrCheckImeiEarly
  | waitHlrUpd
  | waitLuCompl
  | waitLuComplStandalone
  | done
deriving DecidableEq, Repr, Inhabited

/-- `enum vlr_lu_event` with the data of each event; `updateLa` carries the subscriber that
`vlr_subscr_find_or_create_by_…()` returns. -/
inductive LuEvent where
  | updateLa (found : Option VlrSubscr)
  | sendIdAck
  | sendIdNack
  | auth (result : AuthFsmResult) (data : Option Nat)
  | ciphRes (result : CiphResult)
  | idImsi (imsi : Digits)
  | idImei
  | idImeisv
  | hlrImeiAck
  | hlrImeiNack
  | hlrLuRes (cause : Option Nat)
  | updHlrCompl (cause : Option Nat)
  | luComplSuccess
  | luComplFailure (cause : Option Nat)
  | newTmsiAck

/-- `vlr_lu_fsm_states[]`. -/
def vlrLuFsmTable : Table LuState LuEvent where
  inEvent
    | .idle, .updateLa _ => true
    | .waitImeisv, .idImeisv => true
    | .waitPvlr, .sendIdAck => true
    | .waitPvlr, .sendIdNack => true
    | .waitAuth, .auth _ _ => true
    | .waitCiph, .ciphRes _ => true
    | .waitImsi, .idImsi _ => true
    | .waitHlrCheckImeiEarly, .hlrImeiAck => true
    | .waitHlrCheckImeiEarly, .hlrImeiNack => true
    | .waitHlrUpd, .hlrLuRes _ => true
    | .waitHlrUpd, .updHlrCompl _ => true
    | .waitHlrUpd, .idImei => true
    | .waitHlrUpd, .idImeisv => true
    | .waitLuCompl, .luComplSuccess => true
    | .waitLuCompl, .luComplFailure _ => true
    | .waitLuCompl, .newTmsiAck => true
    | .waitLuCompl, .idImei => true
    | .waitLuCompl, .idImeisv => true
    | .waitLuCompl, .hlrImeiAck => true
    | .waitLuCompl, .hlrImeiNack => true
    | .waitLuComplStandalone, .luComplSuccess => true
    | .waitLuComplStandalone, .luComplFailure _ => true
    | .waitLuComplStandalone, .newTmsiAck => true
    | _, _ => false
  outState
    | .idle, new =>
        new = .waitImeisv || new = .waitPvlr || new = .waitImsi || new = .waitAuth
          || new = .waitCiph || new = .waitHlrCheckImeiEarly || new = .waitHlrUpd || new = .done
    | .waitImeisv, new =>
        new = .waitPvlr || new = .waitImsi || new = .waitAuth || new = .waitCiph
          || new = .waitHlrCheckImeiEarly || new = .waitHlrUpd || new = .done
    | .waitPvlr, new =>
        new = .waitImsi || new = .waitAuth || new = .waitCiph || new = .waitHlrCheckImeiEarly
          || new = .done
    | .waitAuth, new =>
        new = .waitCiph || new = .waitLuCompl || new = .waitHlrUpd || new = .done
    | .waitCiph, new => new = .waitLuCompl || new = .waitHlrUpd || new = .done
    | .waitImsi, new =>
        new = .waitAuth || new = .waitCiph || new = .waitHlrCheckImeiEarly || new = .waitHlrUpd
          || new = .done
    | .waitHlrCheckImeiEarly, new =>
        new = .waitAuth || new = .waitCiph || new = .waitHlrUpd || new = .waitLuCompl
          || new = .done
    | .waitHlrUpd, new => new = .waitLuCompl || new = .waitLuComplStandalone || new = .done
    | .waitLuCompl, new => new = .done
    | .waitLuComplStandalone, new => new = .done
    | .done, _ => false

/-- `msc_lu_tdef_states[]` and `sgsn_lu_tdef_states[]`. -/
def luFsmStateTdef (cfg : VlrCfg) : LuState → Option Nat
  | .waitImeisv | .waitHlrCheckImeiEarly | .waitImsi => some (if cfg.isPs then 3370 else 3270)
  | _ => none

/-- `enum lu_compl_vlr_state`. -/
inductive LuComplState where
  | init
  | waitSubPres
  | waitImei
  | waitImeiTmsi
  | waitTmsiCnf
  | done
deriving DecidableEq, Repr, Inhabited

/-- `enum lu_compl_vlr_event`. -/
inductive LuComplEvent where
  | start
  | subPresCompl
  | imeiCheckAck
  | imeiCheckNack
  | newTmsiAck
deriving DecidableEq, Repr

/-- `lu_compl_vlr_states[]`. -/
def luComplVlrTable : Table LuComplState LuComplEvent where
  inEvent
    | .init, .start => true
    | .waitSubPres, .subPresCompl => true
    | .waitImei, .imeiCheckAck => true
    | .waitImei, .imeiCheckNack => true
    | .waitImeiTmsi, .imeiCheckAck => true
    | .waitImeiTmsi, .imeiCheckNack => true
    | .waitTmsiCnf, .newTmsiAck => true
    | _, _ => false
  outState
    | .init, new => new = .done || new = .waitSubPres
    | .waitSubPres, new =>
        new = .waitImei || new = .waitImeiTmsi || new = .waitTmsiCnf || new = .done
    | .waitImei, new => new = .done
    | .waitImeiTmsi, new => new = .done || new = .waitTmsiCnf
    | .waitTmsiCnf, new => new = .done
    | .done, _ => false

/-- `msc_lu_compl_tdef_states[]` and `sgsn_lu_compl_tdef_states[]`. -/
def luComplFsmStateTdef (cfg : VlrCfg) : LuComplState → Option Nat
  | .waitImei | .waitImeiTmsi => some (if cfg.isPs then 3370 else 3270)
  | .waitTmsiCnf => some (if cfg.isPs then 3350 else 3250)
  | _ => none

/-- `struct lu_compl_vlr_priv` with its instance. -/
structure LuCompl where
  fi : Inst LuComplState := { state := .init }
  n : Nat := 0
  subPresVlrFsm : Option (Inst SubPresState) := none

/-- `enum vlr_lu_type`. -/
inductive VlrLuType where
  | periodic
  | imsiAttach
  | regular
deriving DecidableEq, Repr, Inhabited

/-- The parameters of `vlr_loc_update()` and `vlr_ra_update()`.  Both assert that ciphering is
attempted where it is required. -/
structure LuPar where
  luType : VlrLuType := .regular
  newLac : Nat := 0
  authenticationRequired : Bool := false
  isCipheringToBeAttempted : Bool := false
  isCipheringRequired : Bool := false
  keySeq : Nat := vlrKeySeqInval
  isR99 : Bool := false
  isUtran : Bool := false
  assignTmsi : Bool := false
  attempted : isCipheringRequired = true → isCipheringToBeAttempted = true

/-- What the calls that leave the VLR answer while one input is handled.  `newTmsi` is what
`vlr_subscr_alloc_tmsi()` finds. -/
structure LuEnv where
  assocOk : Bool := true
  authAlloc : Bool := true
  ciphModeOk : Bool := true
  updHlrAlloc : Bool := true
  luComplAlloc : Bool := true
  subPresAlloc : Bool := true
  newTmsi : Option Nat := some 0
deriving DecidableEq, Repr

/-- The identity an IDENTITY REQUEST asks for. -/
inductive IdType where
  | imsi
  | imei
  | imeisv
deriving DecidableEq, Repr, Inhabited

/-- What the procedure and its children do, in order, and the two results from outside that gate
the acceptance: that of ciphering and that of the HLR. -/
inductive LuAct where
  | auth (act : AuthAct)
  | ciphRes (result : CiphResult)
  | hlrLuRes (cause : Option Nat)
  | idReq (type : IdType)
  | checkImei
  | setCiphMode (secCtx : SecCtx)
  | commonId
  | updateLocation
  | luAcc (tmsi : Nat)
  | luRej (cause : Nat)
  | mmInfo
  | parentEvent (success : Bool)
deriving DecidableEq, Repr

/-- One location update with its children and the subscriber's record.  `aborted` is set where the
source runs into an assertion; nothing happens any more. -/
structure Lu where
  fi : Inst LuState := { state := .idle }
  vsub : VlrSubscr := {}
  n : Nat := 0
  auth : Option AuthInst := none
  updHlrVlrFsm : Option (Inst UpdHlrState) := none
  luComplVlrFsm : Option LuCompl := none
  env : LuEnv := {}
  aborted : Bool := false
  log : List LuAct := []

/-- Note one act. -/
def Lu.record (act : LuAct) (s : Lu) : Lu := { s with log := s.log ++ [act] }

/-- `osmo_fsm_inst_state_chg()` to a state other than DONE; entering WAIT_IMSI resets the counter
of timeouts. -/
def Lu.stateChg (new : LuState) (timeout : Option Nat) (s : Lu) : Lu :=
  match s.fi.stateChg vlrLuFsmTable new timeout with
  | none => s
  | some fi => { s with fi := fi, n := if new = .waitImsi then 0 else s.n }

/-- `osmo_fsm_inst_term()`: the children end with their parent and tell nobody. -/
def Lu.term (report : Option Bool) (s : Lu) : Lu :=
  match s.fi.term with
  | none => s
  | some fi =>
      let s := { s with fi := fi, auth := none, updHlrVlrFsm := none, luComplVlrFsm := none }
      match report with
      | none => s
      | some success => s.record (.parentEvent success)

variable (cfg : VlrCfg) (par : LuPar)

/-! ### The end of the procedure -/

/-- `_lu_fsm_done()`, with `lu_fsm_dispatch_result()` on entering DONE. -/
def luFsmDone (success : Bool) (s : Lu) : Lu :=
  match s.fi.stateChg vlrLuFsmTable .done none with
  | none => s
  | some fi => Lu.term (some success) { s with fi := fi }

variable (s : Lu)

/-- `lu_fsm_success()`. -/
def luFsmSuccess : Lu := luFsmDone true s

/-- `lu_fsm_failure()`: a cause of 0 is replaced. -/
def luFsmFailure (rejCause : Nat) (s : Lu) : Lu :=
  luFsmDone false
    (s.record (.luRej (if rejCause = 0 then RejectCause.networkFailure.code else rejCause)))

/-- `lu_fsm_discard_lu_compl_fsm()`; the standalone state also takes back what the HLR
confirmed. -/
def luFsmDiscardLuComplFsm : Lu :=
  { s with
    luComplVlrFsm := none
    vsub := if s.fi.state = .waitLuComplStandalone then
        { s.vsub with subDataconfByHlrInd := false } else s.vsub }

/-- `lu_fsm_wait_lu_compl()` and `lu_fsm_wait_lu_compl_standalone()` on the result of the
completion.  The pointer to the cause is read as a `uint8_t`. -/
def luFsmDispatchLuCompl (result : Except (Option Nat) Unit) (s : Lu) : Lu :=
  match result with
  | .ok _ =>
      if s.fi.accepts vlrLuFsmTable .luComplSuccess then
        let discarded := luFsmDiscardLuComplFsm s
        luFsmSuccess (if par.luType = .imsiAttach ∧ s.fi.state = .waitLuCompl then
          discarded.record .mmInfo else discarded)
      else s
  | .error cause =>
      if s.fi.accepts vlrLuFsmTable (.luComplFailure cause) then
        luFsmFailure ((cause.map (· % 256)).getD RejectCause.networkFailure.code)
          (luFsmDiscardLuComplFsm s)
      else s

/-! ### Location_Update_Completion_VLR -/

/-- `osmo_fsm_inst_state_chg()` on the completion to a state other than DONE; the states with a
resend counter reset it. -/
def Lu.luComplStateChg (new : LuComplState) (timeout : Option Nat) (s : Lu) : Lu :=
  match s.luComplVlrFsm with
  | none => s
  | some lc =>
      match lc.fi.stateChg luComplVlrTable new timeout with
      | none => s
      | some fi =>
          let n := if new = .waitImei ∨ new = .waitImeiTmsi ∨ new = .waitTmsiCnf then 0 else lc.n
          { s with luComplVlrFsm := some { lc with fi := fi, n := n } }

/-- `_vlr_lu_compl_fsm_done()`, with `vlr_lu_compl_fsm_dispatch_result()` on entering DONE. -/
def vlrLuComplFsmDone (result : Except Nat Unit) (s : Lu) : Lu :=
  match s.luComplVlrFsm with
  | none => s
  | some lc =>
      match lc.fi.stateChg luComplVlrTable .done none with
      | none => s
      | some fi =>
          luFsmDispatchLuCompl par (result.mapError some)
            { s with luComplVlrFsm := some { lc with fi := fi } }

/-- `vlr_lu_compl_fsm_success()`. -/
def vlrLuComplFsmSuccess : Lu :=
  vlrLuComplFsmDone par (.ok ()) { s with vsub := { s.vsub with luComplete := true } }

/-- `lu_compl_vlr_new_tmsi()`. -/
def luComplVlrNewTmsi : Lu :=
  match s.env.newTmsi with
  | none => vlrLuComplFsmDone par (.error RejectCause.srvOptTmpOutOfOrder.code) s
  | some tmsi =>
      let s := { s with vsub := { s.vsub with tmsiNew := tmsi } }
      (s.luComplStateChg .waitTmsiCnf (luComplFsmStateTdef cfg .waitTmsiCnf)).record (.luAcc tmsi)

/-- The common end of `lu_compl_vlr_wait_subscr_pres()` and `lu_compl_vlr_wait_imei()`: assign a
TMSI, or accept without one. -/
def luComplVlrAccept : Lu :=
  if par.assignTmsi then luComplVlrNewTmsi cfg par s
  else
    let s := { s with vsub := { s.vsub with tmsi := gsmReservedTmsi } }
    vlrLuComplFsmSuccess par (s.record (.luAcc gsmReservedTmsi))

/-- `lu_compl_vlr_wait_subscr_pres()`. -/
def luComplVlrWaitSubscrPres : Lu :=
  let s := { s with
    luComplVlrFsm := s.luComplVlrFsm.map fun lc => { lc with subPresVlrFsm := none } }
  if cfg.checkImeiRqd && !cfg.retrieveImeisvEarly then
    let new := if par.assignTmsi then LuComplState.waitImeiTmsi else .waitImei
    (s.luComplStateChg new (luComplFsmStateTdef cfg new)).record (.idReq .imei)
  else luComplVlrAccept cfg par s

/-- `lu_compl_vlr_wait_imei()`. -/
def luComplVlrWaitImei (ack : Bool) (s : Lu) : Lu :=
  if !ack then vlrLuComplFsmDone par (.error RejectCause.illegalMe.code) s
  else if s.vsub.imei = [] then
    vlrLuComplFsmDone par (.error RejectCause.protocolError.code) s
  else luComplVlrAccept cfg par s

/-- `lu_compl_vlr_wait_tmsi()`. -/
def luComplVlrWaitTmsi : Lu :=
  if s.vsub.tmsiNew = gsmReservedTmsi then
    vlrLuComplFsmDone par (.error RejectCause.networkFailure.code) s
  else
    vlrLuComplFsmSuccess par
      { s with vsub := { s.vsub with tmsi := s.vsub.tmsiNew, tmsiNew := gsmReservedTmsi } }

/-- `osmo_fsm_inst_dispatch()` on the completion, for every event but the start. -/
def luComplVlrDispatch (e : LuComplEvent) (s : Lu) : Lu :=
  match s.luComplVlrFsm with
  | none => s
  | some lc =>
      if lc.fi.accepts luComplVlrTable e then
        match e with
        | .start => s
        | .subPresCompl => luComplVlrWaitSubscrPres cfg par s
        | .imeiCheckAck => luComplVlrWaitImei cfg par true s
        | .imeiCheckNack => luComplVlrWaitImei cfg par false s
        | .newTmsiAck => luComplVlrWaitTmsi par s
      else s

/-- `lu_compl_vlr_init()` for a completion that has just been allocated. -/
def luComplVlrInit : Lu :=
  let s := { s with vsub := { s.vsub with laAllowed := true, imsiDetachedFlag := false } }
  let s := s.luComplStateChg .waitSubPres (some 0)
  if s.vsub.msNotReachableFlag then
    match subPresVlrFsmStart s.env.subPresAlloc s.vsub with
    | none => s
    | some child =>
        let s := { s with vsub := child.vsub }
        if child.ended.isSome then luComplVlrDispatch cfg par .subPresCompl s
        else { s with
          luComplVlrFsm :=
            s.luComplVlrFsm.map fun lc => { lc with subPresVlrFsm := some child.fi } }
  else luComplVlrDispatch cfg par .subPresCompl s

/-- `vlr_loc_upd_start_lu_compl_fsm()`. -/
def vlrLocUpdStartLuComplFsm : Lu :=
  if s.env.luComplAlloc then luComplVlrInit cfg par { s with luComplVlrFsm := some {} }
  else { s with luComplVlrFsm := none }

/-- `lu_compl_vlr_timeout()`, with the termination if it asks for it. -/
def luComplVlrTimeout : Lu :=
  match s.luComplVlrFsm with
  | none => s
  | some lc =>
      match childTimeout lc.fi with
      | none => s
      | some T =>
          if !cfg.isPs || decide (5 ≤ lc.n + 1) then
            luFsmDispatchLuCompl par (.error (some T)) { s with luComplVlrFsm := none }
          else
            let s := { s with luComplVlrFsm := some { lc with n := lc.n + 1 } }
            match lc.fi.state with
            | .waitImei | .waitImeiTmsi => s.record (.idReq .imei)
            | .waitTmsiCnf => s.record (.luAcc s.vsub.tmsiNew)
            | .init | .waitSubPres | .done => { s with aborted := true }

/-! ### Update_HLR_VLR -/

/-- `lu_fsm_wait_hlr_ul_res()` on the end of Update_HLR_VLR. -/
def luFsmUpdHlrCompl (cause : Option Nat) (s : Lu) : Lu :=
  match cause with
  | none => vlrLocUpdStartLuComplFsm cfg par (s.stateChg .waitLuCompl (some 0))
  | some cause => luFsmFailure cause s

/-- The event of the Update_HLR_VLR child, behind the event mask. -/
def luFsmDispatchUpdHlr (cause : Option Nat) (s : Lu) : Lu :=
  if s.fi.accepts vlrLuFsmTable (.updHlrCompl cause) then luFsmUpdHlrCompl cfg par cause s
  else s

/-- `lu_fsm_wait_hlr_ul_res()` on the answer of the HLR, which is passed on to the child. -/
def luFsmHlrLuRes (cause : Option Nat) (s : Lu) : Lu :=
  let s := s.record (.hlrLuRes cause)
  match s.updHlrVlrFsm with
  | none => s
  | some fi =>
      let child := updHlrVlrDispatch (cause.elim .updLocAck .updLocNack) fi s.vsub
      let s := { s with vsub := child.vsub, updHlrVlrFsm := some child.fi }
      match child.ended with
      | none => s
      | some data => luFsmDispatchUpdHlr cfg par data { s with updHlrVlrFsm := none }

/-! ### From the authentication to the HLR -/

/-- `vlr_loc_upd_node_4()`. -/
def vlrLocUpdNode4 : Lu :=
  let s := s.stateChg .waitHlrUpd (some 0)
  let s := if s.env.updHlrAlloc then s.record .updateLocation else s
  { s with updHlrVlrFsm := updHlrVlrProcStart s.env.updHlrAlloc s.vsub }

/-- `vlr_loc_upd_node_b()`. -/
def vlrLocUpdNodeB : Lu :=
  vlrLocUpdStartLuComplFsm cfg par (s.stateChg .waitLuCompl (some 0))

/-- `hlr_update_needed()`. -/
def hlrUpdateNeeded (_ : VlrSubscr) : Bool := true

/-- `vlr_loc_upd_post_ciph()`. -/
def vlrLocUpdPostCiph : Lu :=
  let s := s.record .commonId
  let s := { s with
    vsub := { s.vsub with
      confByRadioContactInd := true, lac := par.newLac, dormantInd := false,
      cancelLocRx := false } }
  if hlrUpdateNeeded s.vsub then vlrLocUpdNode4 s else vlrLocUpdNodeB cfg par s

/-- `is_cmc_smc_to_be_attempted()`. -/
def LuPar.isCmcSmcToBeAttempted : Bool :=
  par.isUtran || par.isCipheringToBeAttempted

/-- `vlr_loc_upd_post_auth()`. -/
def vlrLocUpdPostAuth : Lu :=
  if !par.isCmcSmcToBeAttempted
      || (decide (s.vsub.secCtx = .none) && !par.isCipheringRequired) then
    vlrLocUpdPostCiph cfg par s
  else if s.vsub.lastTuple.isNone || decide (s.vsub.secCtx = .none) then
    luFsmFailure RejectCause.networkFailure.code s
  else
    let s := s.record (.setCiphMode s.vsub.secCtx)
    if !s.env.ciphModeOk then luFsmFailure RejectCause.networkFailure.code s
    else s.stateChg .waitCiph (some 0)

/-- `lu_fsm_wait_auth()`. -/
def luFsmWaitAuth (result : AuthFsmResult) (data : Option Nat) (s : Lu) : Lu :=
  let s := { s with updHlrVlrFsm := none }
  let cause := data.getD RejectCause.networkFailure.code
  match result with
  | .passed => vlrLocUpdPostAuth cfg par s
  | .failure => luFsmFailure cause s
  | .noAuthInfo =>
      if par.authenticationRequired || par.isCipheringRequired then luFsmFailure cause s
      else vlrLocUpdPostAuth cfg par s

/-- The event of the authentication child, behind the event mask. -/
def luFsmDispatchAuth (result : AuthFsmResult) (data : Option Nat) (s : Lu) : Lu :=
  if s.fi.accepts vlrLuFsmTable (.auth result data) then luFsmWaitAuth cfg par result data s
  else s

/-- A location update as the parent of an authentication instance. -/
def luIface : AuthIface Lu where
  record act s := s.record (.auth act)
  notify result data vsub s :=
    let s := luFsmDispatchAuth cfg par result data { s with vsub := vsub }
    (s.vsub, s)

/-- `vsub->auth_fsm` of a location update. -/
def luHost : AuthHost Lu where
  child := Lu.auth
  vsub := Lu.vsub
  put vsub child s := { s with vsub := vsub, auth := child }

/-- `auth_fsm_start()` by the location update. -/
def Lu.authFsmStart : Lu :=
  if s.env.authAlloc then
    luHost.run (authFsmDispatch (luIface cfg par) cfg .start)
      { s with auth := some (authFsmAlloc s.vsub par.isR99 par.isUtran) }
  else luFsmDispatchAuth cfg par .failure none s

/-- `try_auth()`; asking whether a tuple can be re-used counts its use. -/
def tryAuth (vsub : VlrSubscr) : Bool × VlrSubscr :=
  if par.authenticationRequired then (true, vsub)
  else if par.isCipheringToBeAttempted then
    let reuse := authTryReuseTuple cfg vsub par.keySeq
    (!reuse.1, reuse.2)
  else (false, vsub)

/-- `vlr_loc_upd_node1()`. -/
def vlrLocUpdNode1 : Lu :=
  let attempt := tryAuth cfg par s.vsub
  let s := { s with vsub := attempt.2 }
  if attempt.1 then Lu.authFsmStart cfg par (s.stateChg .waitAuth (some 0))
  else vlrLocUpdPostAuth cfg par s

/-- `vlr_loc_upd_node1_pre()`. -/
def vlrLocUpdNode1Pre : Lu :=
  if cfg.checkImeiRqd && cfg.retrieveImeisvEarly then
    (s.stateChg .waitHlrCheckImeiEarly
      (luFsmStateTdef cfg .waitHlrCheckImeiEarly)).record .checkImei
  else vlrLocUpdNode1 cfg par s

/-! ### From the start to the authentication -/

/-- `vlr_loc_upd_want_imsi()`. -/
def vlrLocUpdWantImsi : Lu :=
  (s.stateChg .waitImsi (luFsmStateTdef cfg .waitImsi)).record (.idReq .imsi)

/-- `_start_lu_main()`; every location area is taken to be served by this VLR. -/
def startLuMain : Lu :=
  if s.vsub.imsi = [] then vlrLocUpdWantImsi cfg s else vlrLocUpdNode1Pre cfg par s

/-- `lu_fsm_idle()` with `_lu_fsm_associate_vsub()` and `assoc_lfp_with_sub()`. -/
def luFsmIdle (found : Option VlrSubscr) (s : Lu) : Lu :=
  match found with
  | none => luFsmFailure RejectCause.srvOptTmpOutOfOrder.code s
  | some vsub =>
      let s := { s with vsub := { vsub with subDataconfByHlrInd := false, lac := par.newLac } }
      if !s.env.assocOk then luFsmFailure RejectCause.networkFailure.code s
      else if !cfg.retrieveImeisvEarly
          || (decide (par.luType = .periodic) && decide (s.vsub.imeisv ≠ [])) then
        startLuMain cfg par s
      else
        (s.record (.idReq .imeisv)).stateChg .waitImeisv (luFsmStateTdef cfg .waitImeisv)

/-- `lu_fsm_wait_ciph()`. -/
def luFsmWaitCiph (result : CiphResult) (s : Lu) : Lu :=
  let s := s.record (.ciphRes result)
  match result with
  | .compl => vlrLocUpdPostCiph cfg par s
  | .reject => luFsmFailure RejectCause.invalidMandantoryInf.code s

/-- `osmo_fsm_inst_dispatch()` on a location update. -/
def luFsmDispatch (e : LuEvent) (s : Lu) : Lu :=
  if s.fi.accepts vlrLuFsmTable e then
    match e with
    | .updateLa found => luFsmIdle cfg par found s
    | .sendIdAck => vlrLocUpdNode1Pre cfg par s
    | .sendIdNack => vlrLocUpdWantImsi cfg s
    | .auth result data => luFsmWaitAuth cfg par result data s
    | .ciphRes result => luFsmWaitCiph cfg par result s
    | .idImsi imsi =>
        vlrLocUpdNode1Pre cfg par { s with vsub := { s.vsub with imsi := imsi.take 15 } }
    | .idImei => if s.fi.state = .waitLuCompl then s.record .checkImei else s
    | .idImeisv =>
        if s.fi.state = .waitImeisv then startLuMain cfg par s
        else if s.fi.state = .waitLuCompl then s.record .checkImei
        else s
    | .hlrImeiAck =>
        if s.fi.state = .waitHlrCheckImeiEarly then vlrLocUpdNode1 cfg par s
        else luComplVlrDispatch cfg par .imeiCheckAck s
    | .hlrImeiNack =>
        if s.fi.state = .waitHlrCheckImeiEarly then luFsmFailure RejectCause.illegalMe.code s
        else luComplVlrDispatch cfg par .imeiCheckNack s
    | .hlrLuRes cause => luFsmHlrLuRes cfg par cause s
    | .updHlrCompl cause => luFsmUpdHlrCompl cfg par cause s
    | .luComplSuccess => luFsmDispatchLuCompl par (.ok ()) s
    | .luComplFailure cause => luFsmDispatchLuCompl par (.error cause) s
    | .newTmsiAck => luComplVlrDispatch cfg par .newTmsiAck s
  else s

/-- `vlr_loc_update()` and `vlr_ra_update()`, with the subscriber that is found or created. -/
def vlrLocUpdate (env : LuEnv) (found : Option VlrSubscr) : Lu :=
  luFsmDispatch cfg par (.updateLa found) { env := env }

/-- `fsm_lu_timer_cb()`, with the termination if it asks for it. -/
def fsmLuTimerCb : Lu :=
  if !cfg.isPs then s.term (some false)
  else
    let s := { s with n := s.n + 1 }
    if 5 ≤ s.n then
      let cause := if s.fi.state = .waitImsi ∨ s.fi.state = .waitCiph then
          RejectCause.msIdentityNotDervivable else .networkFailure
      (s.record (.luRej cause.code)).term (some false)
    else
      match s.fi.state with
      | .waitCiph =>
          let s := s.record (.setCiphMode s.vsub.secCtx)
          if !s.env.ciphModeOk then luFsmFailure RejectCause.networkFailure.code s else s
      | .waitImsi => s.record (.idReq .imsi)
      | _ => s

/-- `vlr_loc_update_cancel()`. -/
def vlrLocUpdateCancel (gsm48Cause : Nat) (s : Lu) : Lu :=
  if s.fi.state = .done then s else luFsmFailure gsm48Cause s

/-! ### Inputs -/

/-- Everything that can reach a location update between its start and its end. -/
inductive LuInput where
  /-- Events of the MS, the HLR and the previous VLR. -/
  | sendIdAck
  | sendIdNack
  | ciphRes (result : CiphResult)
  | idImsi (imsi : Digits)
  | idImei
  | idImeisv
  | hlrImeiAck
  | hlrImeiNack
  | hlrLuRes (cause : Option Nat)
  | newTmsiAck
  /-- The children: events and timers. -/
  | auth (e : AuthEvent)
  | authTimeout
  | updHlrTimeout
  | luComplTimeout
  | subPres (e : SubPresEvent)
  | subPresTimeout
  /-- Expiry of the procedure's own timer. -/
  | timeout
  /-- `vlr_loc_update_cancel()`, with any cause. -/
  | cancel (gsm48Cause : Nat)
  /-- `vlr_subscr_disconnected()`. -/
  | disconnected
  /-- The authentication is ended from outside. -/
  | authCancel
  /-- The connection goes away. -/
  | parentTerm
  /-- Another procedure writes the subscriber's record. -/
  | vsubWritten (vsub : VlrSubscr)

/-- The Subscriber_Present child of the completion ends. -/
def Lu.subPresEnded : Lu :=
  luComplVlrDispatch cfg par .subPresCompl
    { s with
      luComplVlrFsm := s.luComplVlrFsm.map fun lc => { lc with subPresVlrFsm := none } }

/-- One input, with the answers of the outside while it is handled. -/
def luStep (input : LuEnv × LuInput) : Lu :=
  if s.aborted then s
  else
    let s := { s with env := input.1 }
    match input.2 with
    | .sendIdAck => luFsmDispatch cfg par .sendIdAck s
    | .sendIdNack => luFsmDispatch cfg par .sendIdNack s
    | .ciphRes result => luFsmDispatch cfg par (.ciphRes result) s
    | .idImsi imsi => luFsmDispatch cfg par (.idImsi imsi) s
    | .idImei => luFsmDispatch cfg par .idImei s
    | .idImeisv => luFsmDispatch cfg par .idImeisv s
    | .hlrImeiAck => luFsmDispatch cfg par .hlrImeiAck s
    | .hlrImeiNack => luFsmDispatch cfg par .hlrImeiNack s
    | .hlrLuRes cause => luFsmDispatch cfg par (.hlrLuRes cause) s
    | .newTmsiAck => luFsmDispatch cfg par .newTmsiAck s
    | .auth e => luHost.run (authFsmDispatch (luIface cfg par) cfg e) s
    | .authTimeout => luHost.run (authFsmTimeout (luIface cfg par)) s
    | .updHlrTimeout =>
        match s.updHlrVlrFsm.bind childTimeout with
        | none => s
        | some T => luFsmDispatchUpdHlr cfg par (some T) { s with updHlrVlrFsm := none }
    | .luComplTimeout => luComplVlrTimeout cfg par s
    | .subPres e =>
        match s.luComplVlrFsm.bind (·.subPresVlrFsm) with
        | none => s
        | some fi =>
            let child := subPresVlrDispatch e fi s.vsub
            let s := { s with
              vsub := child.vsub
              luComplVlrFsm :=
                s.luComplVlrFsm.map fun lc => { lc with subPresVlrFsm := some child.fi } }
            if child.ended.isSome then s.subPresEnded cfg par else s
    | .subPresTimeout =>
        match (s.luComplVlrFsm.bind (·.subPresVlrFsm)).bind childTimeout with
        | none => s
        | some _ => s.subPresEnded cfg par
    | .timeout => if s.fi.timer.isSome then fsmLuTimerCb cfg s else s
    | .cancel cause => vlrLocUpdateCancel cause s
    | .disconnected => s.term (some false)
    | .authCancel => luHost.run (authFsmInstTerm (luIface cfg par) none) s
    | .parentTerm => s.term none
    | .vsubWritten vsub => { s with vsub := vsub }

end OsmoMsc.Vlr
