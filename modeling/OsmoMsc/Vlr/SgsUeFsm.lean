/-
Module: OsmoMsc.Vlr.SgsUeFsm
Purpose: The SGs association of a subscriber: the machine of vlr_sgs_fsm.c, the procedures of
  vlr_sgs.c that drive it, the ends of an attachment in vlr.c, and the restoration of associations
  from the database (sgs_iface.c).
Trusted boundary: `to_null()` and the callbacks write no identities beyond what is shown
Main exports: SgsUeEvent, sgsUeAccepts, sgsUeFsm, sgsUeFsmTimerCb, vlrSgsLocUpdate,
  vlrSgsLocUpdateAccSent, vlrSgsImsiDetach, vlrSgsEpsDetach, vlrSubscrExpire, vlrSubscrDetach,
  sgsRestoreOne
-/
import OsmoMsc.Vlr.SubscrStore

namespace OsmoMsc.Vlr

open Library Sgs

/-- `enum sgs_ue_fsm_event`.  A paging failure carries whether its cause is
`SGSAP_SGS_CAUSE_MT_CSFB_REJ_USER`. -/
inductive SgsUeEvent where
  | vlrFailure
  | rxResetFromMme
  | rxDetachIndFromMme
  | rxDetachIndFromUe
  | rxLuFromAIuGs
  | rxPagingFailure (rejUser : Bool)
  | rxAlertFailure
  | rxLuFromMme
  | txLuReject
  | txLuAccept
  | txPaging
  | rxSgsapUeUnreachable
  | rxTmsiRealloc
  | rxServiceReq
deriving DecidableEq, Repr

/-- `allstate_event_mask` and `in_event_mask` of the machine.  Every state may be left for every
other. -/
def sgsUeAccepts : SgsUeState → SgsUeEvent → Bool
  | _, .vlrFailure | _, .rxResetFromMme | _, .rxDetachIndFromMme | _, .rxDetachIndFromUe
  | _, .rxLuFromAIuGs => true
  | .null, .rxLuFromMme | .null, .txPaging | .null, .rxPagingFailure _ | .null, .rxTmsiRealloc
  | .null, .rxServiceReq => true
  | .laUpdPres, .txLuAccept | .laUpdPres, .txLuReject | .laUpdPres, .txPaging
  | .laUpdPres, .rxPagingFailure _ | .laUpdPres, .rxAlertFailure | .laUpdPres, .rxTmsiRealloc
  | .laUpdPres, .rxServiceReq => true
  | .associated, .txPaging | .associated, .rxTmsiRealloc | .associated, .rxSgsapUeUnreachable
  | .associated, .rxPagingFailure _ | .associated, .rxAlertFailure | .associated, .rxLuFromMme
  | .associated, .rxServiceReq => true
  | _, _ => false

/-- What a procedure of the association meets: the clocks, the random numbers for a TMSI, and whether
the update location request can be sent to the HLR. -/
structure SgsEnv where
  clocks : Clocks
  rand : Nat → Option Nat := fun _ => none
  reqLu : Bool := true

/-- Nobody but the location update uses the record: `vlr_subscr_use_cb()` frees it when the location
update releases its use. -/
def Vsub.unused (vsub : Vsub) : Bool := vsub.attached + vsub.uses ≤ 0

section Machine

variable (cfg : StoreCfg)

variable (env : SgsEnv) (s : Store) (p : Nat)

/-- `osmo_fsm_inst_state_chg()` of the SGs machine. -/
def sgsStateChg (state : SgsUeState) (ts62 : Bool) : Store :=
  s.write p fun vsub => { vsub with sgsState := state, ts62 := ts62 }

/-- `to_null()`. -/
def toNull : Store :=
  let s := sgsStateChg s p .null false
  let s := vlrSubscrRehashTmsi cfg
    (s.write p fun vsub => { vsub with tmsiNew := gsmReservedTmsi }) p
  s.write p fun vsub => { vsub with confByRadioContactInd := false, lastEutranPlmnPresent := false }

/-- The error exit of `perform_lu()`.  `vlr_sgs_loc_update_rej_sent()` is called in state NULL, which
does not accept its event, and releases the location update. -/
def performLuError : Store :=
  let s := toNull cfg s p
  if (s.subscr p).unused then vlrSubscrFree s p else s

/-- `perform_lu()`. -/
def performLu : Store :=
  let allocated :=
    if (s.subscr p).tmsi = gsmReservedTmsi then vlrSubscrAllocTmsi cfg env.rand s p else some s
  match allocated with
  | none => performLuError cfg s p
  | some s =>
      if env.reqLu then sgsStateChg s p .laUpdPres false else performLuError cfg s p

/-- `vlr_subscr_keep_incomplete_expiry()`. -/
def vlrSubscrKeepIncompleteExpiry (clocks : Clocks) (s : Store) (p : Nat) : Store :=
  s.write p fun vsub =>
    if vsub.luComplete then vsub
    else
      { vsub with
        expireLu := match clocks.monotonic with
          | some now => some (now + vlrIncompleteLuSecs)
          | none => vsub.expireLu }

/-- `sgs_ue_fsm_null()`. -/
def sgsUeFsmNull : SgsUeEvent → Store
  | .rxLuFromMme => performLu cfg env s p
  -- A paging response after a restart of the VLR.
  | .rxServiceReq =>
      sgsStateChg (s.write p fun vsub => { vsub with confByRadioContactInd := true }) p .associated
        false
  | _ => s

/-- `sgs_ue_fsm_lau_present()`. -/
def sgsUeFsmLauPresent : SgsUeEvent → Store
  | .txLuAccept =>
      let s := s.write p fun vsub => { vsub with confByRadioContactInd := true }
      let s := s.markAttached p
      -- With a TMSI pending, Ts6-2 guards the TMSI REALLOCATION COMPLETE.
      sgsStateChg s p .associated ((s.subscr p).tmsiNew ≠ gsmReservedTmsi)
  | .rxPagingFailure rejUser => if rejUser then s else toNull cfg s p
  | .txLuReject | .rxAlertFailure => toNull cfg s p
  | _ => s

/-- `sgs_ue_fsm_associated()`. -/
def sgsUeFsmAssociated : SgsUeEvent → Store
  | .rxTmsiRealloc =>
      if (s.subscr p).tmsiNew = gsmReservedTmsi then sgsStateChg s p .associated false
      else sgsStateChg (confirmTmsi cfg s p) p .associated false
  | .rxPagingFailure rejUser => if rejUser then s else toNull cfg s p
  | .rxAlertFailure => toNull cfg s p
  | .rxLuFromMme => performLu cfg env s p
  | _ => s

/-- `osmo_fsm_inst_dispatch()` to the SGs machine, with `sgs_ue_fsm_allstate()`. -/
def sgsUeFsm (event : SgsUeEvent) : Store :=
  if !sgsUeAccepts (s.subscr p).sgsState event then s
  else
    match event with
    | .rxDetachIndFromMme | .rxDetachIndFromUe =>
        let s :=
          if (s.subscr p).luComplete then s.write p fun vsub => { vsub with expireLu := none }
          else vlrSubscrKeepIncompleteExpiry env.clocks s p
        toNull cfg s p
    | .rxResetFromMme | .vlrFailure | .rxLuFromAIuGs => toNull cfg s p
    | event =>
        match (s.subscr p).sgsState with
        | .null => sgsUeFsmNull cfg env s p event
        | .laUpdPres => sgsUeFsmLauPresent cfg s p event
        | .associated => sgsUeFsmAssociated cfg env s p event

/-- `sgs_ue_fsm_timer_cb()`: the TMSI reallocation has failed. -/
def sgsUeFsmTimerCb : Store :=
  if (s.subscr p).ts62 then
    vlrSubscrRehashTmsi cfg
      (s.write p fun vsub =>
        { vsub with ts62 := false, tmsiNew := gsmReservedTmsi, tmsi := gsmReservedTmsi }) p
  else s

/-! ### Procedures -/

/-- `vlr_sgs_loc_update()`. -/
def vlrSgsLocUpdate (imsi : Digits) (mmeName : String) (lai : LocationAreaId)
    (lastEutranPlmn : Option PlmnId) : Store :=
  let (s, p) := vlrSubscrFindOrCreateByImsi cfg env.clocks s imsi
  if (s.subscr p).sgsState = .laUpdPres then s
  else
    let s := vlrSubscrSetImsi cfg {} s p imsi
    let s := s.write p fun vsub =>
      { vsub with
        lastEutranPlmnPresent := lastEutranPlmn.isSome
        lastEutranPlmn := lastEutranPlmn.getD vsub.lastEutranPlmn
        mmeName := mmeName }
    let s := sgsUeFsm cfg env s p .rxLuFromMme
    -- These writes go to freed memory when the failed update dropped the last use.
    s.write p fun vsub =>
      { vsub with
        lai := lai
        expireLu := match env.clocks.monotonic with
          | none => vsub.expireLu
          | some now =>
              if cfg.x3212Secs ≠ 0 then some (now + cfg.x3212Secs)
              else if vsub.luComplete then vsub.expireLu
              else
                let deadline := now + vlrIncompleteLuSecs
                match vsub.expireLu with
                | none => some deadline
                | some expire => some (min expire deadline) }

/-- `vlr_subscr_enable_expire_lu()`. -/
def vlrSubscrEnableExpireLu (clocks : Clocks) (s : Store) (p : Nat) : Store :=
  s.write p fun vsub => { vsub with expireLu := clocks.monotonic.map (· + cfg.t3212Secs) }

/-- `vlr_sgs_loc_update_acc_sent()`. -/
def vlrSgsLocUpdateAccSent : Store :=
  let s := sgsUeFsm cfg env s p .txLuAccept
  let s :=
    if cfg.x3212Secs ≠ 0 then
      s.write p fun vsub =>
        { vsub with
          expireLu := match env.clocks.monotonic with
            | none => vsub.expireLu
            | some now => some (now + cfg.x3212Secs) }
    else if cfg.t3212Secs = 0 then s.write p fun vsub => { vsub with expireLu := none }
    else vlrSubscrEnableExpireLu cfg env.clocks s p
  { s with db := sgsVlrPersistVsub s.db env.clocks (s.subscr p).toSgsVsub }

/-- `vlr_sgs_loc_update_rej_sent()`. -/
def vlrSgsLocUpdateRejSent : Store :=
  sgsUeFsm cfg env s p .txLuReject

/-- `vlr_subscr_expire()`. -/
def vlrSubscrExpire : Store :=
  if (s.subscr p).luComplete then
    let s :=
      if (s.subscr p).imsi = [] then s
      else { s with db := sgsVlrPersistForget s.db (s.subscr p).imsi }
    s.markDetached p
  else s

/-- `vlr_sgs_imsi_detach()`; `implicit` is `SGSAP_ID_NONEPS_T_IMPLICIT_UE_EPS_NONEPS` and `fromUe`
is `SGSAP_ID_NONEPS_T_EXPLICIT_UE_NONEPS`. -/
def vlrSgsImsiDetach (imsi : Digits) (implicit fromUe : Bool) : Store :=
  match vlrSubscrFindByImsi cfg s imsi with
  | none => s
  | some p =>
      if (s.subscr p).sgsState = .null ∧ implicit then s
      else
        vlrSubscrExpire
          (sgsUeFsm cfg env s p (if fromUe then .rxDetachIndFromUe else .rxDetachIndFromMme)) p

/-- `vlr_sgs_eps_detach()`; `fromUe` is `SGSAP_ID_EPS_T_UE_INITIATED`. -/
def vlrSgsEpsDetach (imsi : Digits) (fromUe : Bool) : Store :=
  match vlrSubscrFindByImsi cfg s imsi with
  | none => s
  | some p =>
      let s := sgsUeFsm cfg env s p (if fromUe then .rxDetachIndFromUe else .rxDetachIndFromMme)
      let s :=
        if (s.subscr p).expireLu = none then vlrSubscrEnableExpireLu cfg env.clocks s p else s
      { s with db := sgsVlrPersistForget s.db imsi }

/-- `vlr_sgs_tmsi_reall_compl()`. -/
def vlrSgsTmsiReallCompl (imsi : Digits) : Store :=
  match vlrSubscrFindByImsi cfg s imsi with
  | none => s
  | some p => sgsUeFsm cfg env s p .rxTmsiRealloc

/-- `vlr_subscr_detach()`. -/
def vlrSubscrDetach : Store :=
  let s := sgsUeFsm cfg env s p .rxDetachIndFromUe
  let s := vlrSubscrExpire s p
  vlrSubscrKeepIncompleteExpiry env.clocks s p

/-- `sgs_restore_one()`. -/
def sgsRestoreOne (clocks : Clocks) (s : Store) (row : DbSgsAssoc) : Store :=
  if 0 < row.expireUnix ∧ row.expireUnix ≤ clocks.realtime then
    { s with db := { s.db with table := dbSgsAssocDelete s.db.table row.imsi } }
  else
    let (s, p) := vlrSubscrFindOrCreateByImsi cfg clocks s row.imsi
    let s := s.getAttached p
    let s := if row.msisdn = [] then s else s.write p fun vsub => { vsub with msisdn := row.msisdn }
    let s :=
      if row.tmsi = gsmReservedTmsi then s
      else vlrSubscrRehashTmsi cfg (s.write p fun vsub => { vsub with tmsi := row.tmsi }) p
    let s := s.write p fun vsub =>
      { vsub with
        mmeName := row.mmeName
        lai := row.lai
        lastEutranPlmnPresent := row.lastEutranPlmnPresent
        lastEutranPlmn :=
          if row.lastEutranPlmnPresent then row.lastEutranPlmn else vsub.lastEutranPlmn
        confByRadioContactInd := false
        expireLu :=
          if 0 < row.expireUnix then
            clocks.monotonic.map fun mono => mono + (row.expireUnix - clocks.realtime)
          else none }
    sgsStateChg (vlrSubscrSetLuComplete s p true) p .null false

end Machine

end OsmoMsc.Vlr
