/-
Module: OsmoMsc.Sms.Queue
Purpose: The SMS queue (sms_queue.c) together with the SMS transactions of the 04.11 layer
  (gsm_04_11.c, transaction.c) that it sends through and that report back to it by signals.
Trusted boundary: memory for a `struct gsm_sms` can always be allocated
Main exports: Pending, SmsTrans, SmsNet, SendEnv, gsm411SendSms, smsSmsCb, smsResendPending,
  smsqTakeNextSms, smsSubmitPending, SmsInput, smsQueueStart, smsStep
-/
import OsmoMsc.Library.Registry
import OsmoMsc.Sms.Db

namespace OsmoMsc.Sms

open Library

/-- The fields of `struct sms_queue_config` that the queue reads, and `net->sms_over_gsup`. -/
structure SmsCfg where
  maxFail : Int := 1
  maxPending : Int := 20
  deleteDelivered : Bool := true
  deleteExpired : Bool := true
  smsOverGsup : Bool := false
deriving DecidableEq, Repr

/-- `struct gsm_sms_pending`. -/
structure Pending where
  ptr : Nat
  vsub : Nat
  smsId : Nat
  failedAttempts : Int := 0
  resend : Bool := false
deriving DecidableEq, Repr

/-- A transaction of type `TRANS_SMS`; `ptr` is its callref. -/
structure SmsTrans where
  ptr : Nat
  vsub : Nat
  mscA : Option Nat := none
  /-- `trans->paging_request` is set. -/
  paging : Bool := false
  /-- `trans->sms.sms`. -/
  sms : Option GsmSms := none
deriving DecidableEq, Repr

/-- What the SMS code asks of a connection: `msc_a_is_accepted()` and `msc_a_in_release()`. -/
inductive ConnState where
  | setup
  | accepted
  | inRelease
deriving DecidableEq, Repr, Inhabited

/-- A connection of a subscriber. -/
structure SmsConn where
  id : Nat
  vsub : Nat
  state : ConnState
deriving DecidableEq, Repr

/-- The queue, the transactions and what they look at. -/
structure SmsNet where
  cfg : SmsCfg := {}
  subscribers : List Subscr := []
  db : List SmsRow := []
  now : Nat := 0
  conns : List SmsConn := []
  transList : List SmsTrans := []
  newCallref : Nat := 0
  pendingSms : List Pending := []
  newPending : Nat := 0
  /-- `smsq->pending`. -/
  pending : Int := 0
  /-- The timer `resend_pending` runs. -/
  resendPending : Bool := false
  /-- The timer `push_queue` runs. -/
  pushQueue : Bool := false
  lastMsisdn : Msisdn := []
  /-- `SMSQ_CTR_SMS_DELIVERY_ATTEMPTS`. -/
  deliveryAttempts : Nat := 0
  /-- An `OSMO_ASSERT()` has failed, or a null pointer was used. -/
  aborted : Bool := false
deriving DecidableEq, Repr

/-- What decides about one delivery attempt besides the state: the allocations, whether the TPDU can
be encoded and whether paging can be started. -/
structure SendEnv where
  pendingAlloc : Bool := true
  transAlloc : Bool := true
  msgbAlloc : Bool := true
  tpduOk : Bool := true
  pagingOk : Bool := true
deriving DecidableEq, Repr

/-! ### Entries of the queue -/

section Entries

variable (s : SmsNet)

/-- `sms_find_pending()`. -/
def smsFindPending (smsId : Nat) : Option Pending := s.pendingSms.find? fun p => p.smsId = smsId

/-- `sms_queue_sms_is_pending()`. -/
def smsQueueSmsIsPending (smsId : Nat) : Bool := (smsFindPending s smsId).isSome

/-- `sms_subscriber_find_pending()`. -/
def smsSubscriberFindPending (vsub : Nat) : Option Pending :=
  s.pendingSms.find? fun p => p.vsub = vsub

/-- `sms_subscriber_is_pending()`. -/
def smsSubscriberIsPending (vsub : Nat) : Bool := (smsSubscriberFindPending s vsub).isSome

/-- `sms_pending_from()`, once memory is there. -/
def smsPendingFrom (receiver smsId : Nat) : SmsNet :=
  { s with
    pendingSms := s.pendingSms ++ [{ ptr := s.newPending, vsub := receiver, smsId := smsId }]
    newPending := s.newPending + 1
    pending := s.pending + 1 }

/-- `sms_pending_free()`. -/
def smsPendingFree (ptr : Nat) : SmsNet :=
  { s with pendingSms := remove Pending.ptr ptr s.pendingSms, pending := s.pending - 1 }

/-- `sms_pending_resend()`. -/
def smsPendingResend (ptr : Nat) : SmsNet :=
  { s with
    pendingSms := adjust Pending.ptr ptr (fun p => { p with resend := true }) s.pendingSms
    resendPending := true }

/-- `pending->resend = 0`. -/
def clearResend (ptr : Nat) : SmsNet :=
  { s with
    pendingSms := adjust Pending.ptr ptr (fun p => { p with resend := false }) s.pendingSms }

/-- `sms_pending_failed()`. -/
def smsPendingFailed (p : Pending) : SmsNet :=
  let failedAttempts := p.failedAttempts + 1
  let s := { s with
    pendingSms := adjust Pending.ptr p.ptr (fun q => { q with failedAttempts := failedAttempts })
      s.pendingSms }
  if failedAttempts < s.cfg.maxFail then smsPendingResend s p.ptr else smsPendingFree s p.ptr

/-- `sms_queue_trigger()`. -/
def smsQueueTrigger : SmsNet := { s with pushQueue := true }

/-- The end of `sms_sms_cb()`. -/
def deleteExpired : SmsNet :=
  if s.cfg.deleteExpired then { s with db := dbSmsDeleteOldestExpiredMessage s.db s.now } else s

/-- `sms_sms_cb()` for `S_SMS_UNKNOWN_ERROR`.  Whoever sends this signal passes 0 for
`paging_result`. -/
def smsSmsCbUnknownError (sms : GsmSms) : SmsNet :=
  match smsFindPending s sms.id with
  | none => s
  | some p => deleteExpired (smsPendingFailed s p)

end Entries

/-! ### Transactions -/

section Transactions

variable (s : SmsNet)

/-- The transaction, if it is still there. -/
def transFind (ptr : Nat) : Option SmsTrans := s.transList.find? fun t => t.ptr = ptr

/-- Change a transaction. -/
def updateTrans (ptr : Nat) (f : SmsTrans → SmsTrans) : SmsNet :=
  { s with transList := adjust SmsTrans.ptr ptr f s.transList }

/-- `msc_a_in_release()`. -/
def mscAInRelease (mscA : Nat) : Bool :=
  (s.conns.find? fun c => c.id = mscA).all fun c => c.state = .inRelease

/-- `trans_free()` with `_gsm411_sms_trans_free()`: an SMS that is still there is reported as failed,
but not if the connection is being released. -/
def transFree (t : SmsTrans) : SmsNet :=
  let s := { s with transList := remove SmsTrans.ptr t.ptr s.transList }
  match t.sms with
  | none => s
  | some sms => if t.mscA.any (mscAInRelease s) then s else smsSmsCbUnknownError s sms

/-- `trans_free()` for every transaction in the list that is still there. -/
def transFreeAll (ptrs : List Nat) : SmsNet :=
  ptrs.foldl (fun s ptr => ((transFind s ptr).map (transFree s)).getD s) s

/-- `trans_conn_closed()`. -/
def transConnClosed (mscA : Nat) : SmsNet :=
  transFreeAll s ((s.transList.filter fun t => t.mscA = some mscA).map SmsTrans.ptr)

/-- `trans_free_for_vsub()`. -/
def transFreeForVsub (vsub : Nat) : SmsNet :=
  transFreeAll s ((s.transList.filter fun t => t.vsub = vsub).map SmsTrans.ptr)

/-- The check of `gsm411_alloc_mt_trans()`: one SMS transaction at a time. -/
def hasSmsTrans (vsub : Nat) : Bool := s.transList.any fun t => t.vsub = vsub

/-- `msc_a_for_vsub()` for an accepted connection. -/
def mscAForVsub (vsub : Nat) : Option Nat :=
  ((s.conns.find? fun c => c.vsub = vsub).filter fun c => c.state = .accepted).map SmsConn.id

/-- The transaction of `gsm411_trans_init()`. -/
def gsm411TransInit (vsub : Nat) (mscA : Option Nat) : SmsTrans :=
  { ptr := s.newCallref, vsub := vsub, mscA := mscA }

/-- `gsm411_alloc_mt_trans()`.  With no other SMS transaction of the subscriber around there is
always a free transaction id and a free message reference. -/
def gsm411AllocMtTrans (env : SendEnv) (vsub : Nat) : Option (SmsTrans × SmsNet) :=
  if hasSmsTrans s vsub || !env.transAlloc then none
  else
    let t := gsm411TransInit s vsub (mscAForVsub s vsub)
    some (t, { s with transList := s.transList ++ [t], newCallref := s.newCallref + 1 })

/-- `gsm411_send_sms()` up to `gsm411_mmsms_est_req()`, which uses a connection or starts paging. -/
def gsm411SendSms (env : SendEnv) (vsub : Option Nat) (sms : GsmSms) : SmsNet :=
  match vsub.bind (gsm411AllocMtTrans s env) with
  | none => s
  | some (t, s) =>
      if !env.msgbAlloc || !env.tpduOk then transFree (smsSmsCbUnknownError s sms) t
      else
        let s := updateTrans s t.ptr fun t => { t with sms := some sms, paging := t.mscA.isNone }
        let s := { s with db := dbSmsIncDeliverAttempts s.db sms.id }
        if t.mscA.isSome || env.pagingOk then s else transFree s { t with sms := some sms }

end Transactions

/-! ### Sending from the queue -/

section Sending

variable (env : Nat → SendEnv) (s : SmsNet)

/-- `_gsm411_send_sms()`. -/
def queueGsm411SendSms (vsub : Option Nat) (sms : GsmSms) : SmsNet :=
  gsm411SendSms { s with deliveryAttempts := s.deliveryAttempts + 1 } (env s.deliveryAttempts) vsub
    sms

/-- One round of `sms_resend_pending()`. -/
def resendEntry (ptr : Nat) : SmsNet :=
  match s.pendingSms.find? fun p => p.ptr = ptr with
  | none => s
  | some p =>
      if !p.resend then s
      else
        match dbSmsGet s.subscribers s.db p.smsId with
        | none => smsQueueTrigger (smsPendingFree s ptr)
        | some sms =>
            queueGsm411SendSms env (clearResend s ptr) sms.receiver sms

/-- `sms_resend_pending()`. -/
def smsResendPending : SmsNet := (s.pendingSms.map Pending.ptr).foldl (resendEntry env) s

/-- The loop of `smsq_take_next_sms()`, `sanity` rounds at most: the SMS and `last_msisdn`, which has
room for 15 digits. -/
def takeNextSms (subscribers : List Subscr) (db : List SmsRow) (startedWithMsisdn : Msisdn) :
    Nat → Msisdn → Nat → Option GsmSms × Msisdn
  | 0, lastMsisdn, _ => (none, lastMsisdn)
  | sanity + 1, lastMsisdn, wrapped =>
      if wrapped ≥ 2 then (none, lastMsisdn)
      else if wrapped > 0 && !decide (lastMsisdn < startedWithMsisdn) then (none, lastMsisdn)
      else
        match dbSmsGetNextUnsentRrMsisdn subscribers db lastMsisdn 9 with
        | none => takeNextSms subscribers db startedWithMsisdn sanity [] (wrapped + 1)
        | some sms =>
            let lastMsisdn := sms.dst.take 15
            if sms.id = 0 then takeNextSms subscribers db startedWithMsisdn sanity lastMsisdn wrapped
            else (some sms, lastMsisdn)

/-- `smsq_take_next_sms()`. -/
def smsqTakeNextSms (subscribers : List Subscr) (db : List SmsRow) (lastMsisdn : Msisdn) :
    Option GsmSms × Msisdn :=
  takeNextSms subscribers db lastMsisdn 99 lastMsisdn 0

/-- The part of `sms_submit_pending()` that decides about one SMS: the new state, and whether a
delivery was attempted. -/
def submitSms (receiver : Nat) (sms : GsmSms) : SmsNet × Int :=
  if smsQueueSmsIsPending s sms.id || smsSubscriberIsPending s receiver then (s, 0)
  else if !(env s.deliveryAttempts).pendingAlloc then (s, 0)
  else (queueGsm411SendSms env (smsPendingFrom s receiver sms.id) (some receiver) sms, 1)

/-- The loop of `sms_submit_pending()`, with the rounds that are left and `first_sub` once it is
initialized. -/
def submitLoop (attempts : Int) : Nat → SmsNet → Option Nat → Int → SmsNet
  | 0, s, _, _ => s
  | rounds + 1, s, firstSub, attempted =>
      let (next, lastMsisdn) := smsqTakeNextSms s.subscribers s.db s.lastMsisdn
      let s := { s with lastMsisdn := lastMsisdn }
      match next with
      | none => s
      | some sms =>
          match s.subscribers.find? fun vsub => sms.receiver = some vsub.ptr with
          | none => { s with aborted := true }
          | some vsub =>
              if firstSub = some vsub.id then s
              else
                let (s, one) := submitSms env s vsub.ptr sms
                let attempted := attempted + one
                if attempted < attempts then
                  submitLoop attempts rounds s (some (firstSub.getD vsub.id)) attempted
                else s

/-- `sms_submit_pending()`. -/
def smsSubmitPending : SmsNet :=
  submitLoop env (s.cfg.maxPending - s.pending) 1000 s none 0

/-- `db_sms_get_unsent_for_subscr(vsub, INT_MAX)`. -/
def unsentForSubscr (vsub : Nat) : Option GsmSms :=
  (s.subscribers.find? fun v => v.ptr = vsub).bind fun v =>
    dbSmsGetUnsentForSubscr s.subscribers s.db v 2147483647

/-- `sms_send_next()`. -/
def smsSendNext (vsub : Nat) : SmsNet :=
  if smsSubscriberIsPending s vsub then { s with aborted := true }
  else
    match unsentForSubscr s vsub with
    | none => smsSubmitPending env s
    | some sms =>
        if smsQueueSmsIsPending s sms.id then { s with aborted := true }
        else
          match sms.receiver with
          | none => { s with aborted := true }
          | some receiver =>
              if !(env s.deliveryAttempts).pendingAlloc then smsSubmitPending env s
              else queueGsm411SendSms env (smsPendingFrom s receiver sms.id) (some receiver) sms

/-- `sub_ready_for_sm()`. -/
def subReadyForSm (vsub : Nat) : SmsNet :=
  if smsSubscriberIsPending s vsub then s
  else
    match unsentForSubscr s vsub with
    | none => s
    | some sms =>
        match sms.receiver with
        | none => { s with aborted := true }
        | some receiver =>
            if !(env s.deliveryAttempts).pendingAlloc then s
            else queueGsm411SendSms env (smsPendingFrom s receiver sms.id) (some vsub) sms

end Sending

/-! ### Signals and answers -/

/-- The signals of the subsystem `SS_SMS` that are about one SMS. -/
inductive SmsSignal where
  | delivered
  | memExceeded
  | unknownError
deriving DecidableEq, Repr

section Answers

variable (env : Nat → SendEnv) (s : SmsNet)

/-- The entry and the row of a delivered SMS go. -/
def smsDelivered (p : Pending) : SmsNet :=
  smsPendingFree
    { s with db :=
      if s.cfg.deleteDelivered then dbSmsDeleteMessageById s.db p.smsId
      else dbSmsMarkDelivered s.db p.smsId } p.ptr

/-- `sms_sms_cb()` for a signal about an SMS. -/
def smsSmsCb (signal : SmsSignal) (sms : GsmSms) : SmsNet :=
  match smsFindPending s sms.id with
  | none => s
  | some p =>
      match signal with
      | .delivered =>
          let s := smsSendNext env (smsDelivered s p) p.vsub
          if s.aborted then s else deleteExpired s
      | .memExceeded => deleteExpired (smsQueueTrigger (smsPendingFree s p.ptr))
      | .unknownError => smsSmsCbUnknownError s sms

/-- A report of the phone about the SMS of a transaction: the signal, then the SMS is gone. -/
def rpReport (signal : SmsSignal) (t : SmsTrans) : SmsNet :=
  if t.mscA.isNone || s.cfg.smsOverGsup then s
  else
    match t.sms with
    | none => s
    | some sms =>
        let s := smsSmsCb env s signal sms
        if s.aborted then s else updateTrans s t.ptr fun t => { t with sms := none }

/-- `gsm411_rx_rp_ack()`. -/
def gsm411RxRpAck (t : SmsTrans) : SmsNet := rpReport env s .delivered t

/-- `gsm411_rx_rp_error()`. -/
def gsm411RxRpError (memExceeded : Bool) (t : SmsTrans) : SmsNet :=
  rpReport env s (if memExceeded then .memExceeded else .unknownError) t

/-- `mmsms_paging_cb()`. -/
def mmsmsPagingCb (mscA : Option Nat) (t : SmsTrans) : SmsNet :=
  if !t.paging then s
  else
    match mscA with
    | some mscA => updateTrans s t.ptr fun t => { t with mscA := some mscA, paging := false }
    | none =>
        let s := updateTrans s t.ptr fun t => { t with sms := none, paging := false }
        let s := (t.sms.map (smsSmsCbUnknownError s)).getD s
        transFree s { t with sms := none }

/-- `gsm411_sapi_n_reject()` for one transaction. -/
def sapiNReject (t : SmsTrans) : SmsNet :=
  match t.sms with
  | none => s
  | some sms => transFree (smsSmsCbUnknownError s sms) { t with sms := none }

/-- `gsm411_sapi_n_reject()`. -/
def gsm411SapiNReject (mscA : Nat) : SmsNet :=
  ((s.transList.filter fun t => t.mscA = some mscA).map SmsTrans.ptr).foldl
    (fun s ptr => ((transFind s ptr).map (sapiNReject s)).getD s) s

end Answers

/-! ### The queue over its inputs -/

/-- One thing that happens. -/
inductive SmsInput where
  /-- The timer `push_queue` expires. -/
  | pushQueueTimeout
  /-- The timer `resend_pending` expires. -/
  | resendTimeout
  /-- `S_SUBSCR_ATTACHED`. -/
  | attached (vsub : Nat)
  /-- `S_SMS_SUBMITTED`, `S_SMS_SMMA` or the VTY command. -/
  | trigger
  | rpAck (ptr : Nat)
  | rpError (memExceeded : Bool) (ptr : Nat)
  | pagingResult (mscA : Option Nat) (ptr : Nat)
  /-- `GSM411_MMSMS_REL_REQ` of the SMC entity, which has finished or given up. -/
  | relReq (ptr : Nat)
  | sapiNReject (mscA : Nat)
  /-- A connection is new or gets another state than release. -/
  | connChanged (conn : SmsConn)
  /-- `msc_a_fsm_releasing_onenter()`. -/
  | connReleasing (mscA : Nat)
  /-- `msc_a_fsm_cleanup()`. -/
  | connGone (mscA : Nat)
  /-- The VLR drops a double entry. -/
  | freeForVsub (vsub : Nat)
  /-- A phone opens a transaction with CP-DATA on a connection. -/
  | moTrans (vsub mscA : Nat)
  /-- `gsm411_send_sms()` for the VTY or an ESME. -/
  | sendSms (env : SendEnv) (vsub : Nat) (sms : GsmSms)
  /-- `gsm411_send_rp_data()`; no `gsm_sms` is involved. -/
  | sendRpData (env : SendEnv) (vsub : Nat)
  /-- `sms_queue_clear()`. -/
  | queueClear
  /-- A subscriber is new, or its number or `lu_complete` changes. -/
  | subscrChanged (vsub : Subscr)
  /-- A subscriber is freed, which a reference to it prevents. -/
  | subscrFreed (vsub : Nat)
  /-- Others have stored messages or removed some. -/
  | dbChanged (db : List SmsRow)
  | clock (now : Nat)
deriving DecidableEq, Repr

/-- Put a record in the place of the one with the same key, or at the end. -/
def upsert {α κ : Type} [DecidableEq κ] (key : α → κ) (x : α) (xs : List α) : List α :=
  if xs.any (fun y => key y = key x) then adjust key (key x) (fun _ => x) xs else xs ++ [x]

/-- Run a handler for a transaction that is there. -/
def onTrans (s : SmsNet) (ptr : Nat) (handler : SmsTrans → SmsNet) : SmsNet :=
  match transFind s ptr with
  | none => s
  | some t => handler t

/-- What one input does. -/
def smsInput (env : Nat → SendEnv) (s : SmsNet) : SmsInput → SmsNet
  | .pushQueueTimeout =>
      if s.pushQueue then smsSubmitPending env { s with pushQueue := false } else s
  | .resendTimeout =>
      if s.resendPending then smsResendPending env { s with resendPending := false } else s
  | .attached vsub => subReadyForSm env s vsub
  | .trigger => smsQueueTrigger s
  | .rpAck ptr => onTrans s ptr (gsm411RxRpAck env s)
  | .rpError memExceeded ptr => onTrans s ptr (gsm411RxRpError env s memExceeded)
  | .pagingResult mscA ptr => onTrans s ptr (mmsmsPagingCb s mscA)
  | .relReq ptr => onTrans s ptr (transFree s)
  | .sapiNReject mscA => gsm411SapiNReject s mscA
  | .connChanged conn =>
      if conn.state = .inRelease then s else { s with conns := upsert SmsConn.id conn s.conns }
  | .connReleasing mscA =>
      transConnClosed { s with
        conns := adjust SmsConn.id mscA (fun c => { c with state := .inRelease }) s.conns } mscA
  | .connGone mscA =>
      let s := transConnClosed s mscA
      { s with conns := remove SmsConn.id mscA s.conns }
  | .freeForVsub vsub => transFreeForVsub s vsub
  | .moTrans vsub mscA =>
      { s with
        transList := s.transList ++ [gsm411TransInit s vsub (some mscA)]
        newCallref := s.newCallref + 1 }
  | .sendSms e vsub sms => gsm411SendSms s e (some vsub) sms
  | .sendRpData e vsub => ((gsm411AllocMtTrans s e vsub).map Prod.snd).getD s
  | .queueClear => (s.pendingSms.map Pending.ptr).foldl smsPendingFree s
  | .subscrChanged vsub => { s with subscribers := upsert Subscr.ptr vsub s.subscribers }
  | .subscrFreed vsub =>
      if smsSubscriberIsPending s vsub || hasSmsTrans s vsub then s
      else { s with subscribers := remove Subscr.ptr vsub s.subscribers }
  | .dbChanged db => { s with db := db }
  | .clock now => { s with now := now }

/-- One step; after a failed assertion there are none. -/
def smsStep (env : Nat → SendEnv) (s : SmsNet) (input : SmsInput) : SmsNet :=
  if s.aborted then s else smsInput env s input

/-- `sms_queue_start()`: the first batch of messages is read. -/
def smsQueueStart (env : Nat → SendEnv) (cfg : SmsCfg) (subscribers : List Subscr)
    (conns : List SmsConn) (db : List SmsRow) (now : Nat) : SmsNet :=
  smsSubmitPending env
    { cfg := cfg, subscribers := subscribers, conns := conns, db := db, now := now }

end OsmoMsc.Sms
