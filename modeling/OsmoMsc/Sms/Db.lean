/-
Module: OsmoMsc.Sms.Db
Purpose: The table of short messages (the SMS part of db.c) and the subscribers of the VLR, as far as
  the SMS queue looks at them: which message a query returns, to whom it is addressed, and what the
  updates change.
Trusted boundary: the SQL statements return the first row in the given order
Main exports: Msisdn, Subscr, SmsRow, GsmSms, smsFromResult, dbSmsGet, dbSmsGetUnsentForSubscr,
  dbSmsGetNextUnsentRrMsisdn, dbSmsDeleteMessageById
-/
import Mathlib.Data.List.MinMax
import Mathlib.Data.List.Lex
import Mathlib.Data.Prod.Lex
import Mathlib.Order.Nat

namespace OsmoMsc.Sms

/-- A telephone number, digit by digit. -/
abbrev Msisdn : Type := List Nat

/-- The part of `struct vlr_subscr` that the SMS queue reads.  `ptr` tells the structures apart. -/
structure Subscr where
  ptr : Nat
  imsi : Option Nat
  msisdn : Msisdn
  luComplete : Bool
deriving DecidableEq, Repr

/-- `vsub->id`, the number that the IMSI is. -/
def Subscr.id (vsub : Subscr) : Nat := vsub.imsi.getD 0

/-- A row of the table `SMS`. -/
structure SmsRow where
  id : Nat
  destAddr : Msisdn
  sent : Bool := false
  deliverAttempts : Nat := 0
  validUntil : Nat := 0
deriving DecidableEq, Repr

/-- The part of `struct gsm_sms` that says which message it is and to whom it goes. -/
structure GsmSms where
  id : Nat := 0
  receiver : Option Nat := none
  dst : Msisdn := []
deriving DecidableEq, Repr

/-- `vlr_subscr_find_by_msisdn()`. -/
def vlrSubscrFindByMsisdn (subscribers : List Subscr) (msisdn : Msisdn) : Option Subscr :=
  if msisdn = [] then none
  else subscribers.find? fun vsub => vsub.imsi.isSome && vsub.msisdn = msisdn

/-- `sms_from_result()`: the message of a row.  A message for a subscriber that is not attached gets
no `id`. -/
def smsFromResult (subscribers : List Subscr) (row : SmsRow) : GsmSms :=
  let dst := row.destAddr.take 21
  match vlrSubscrFindByMsisdn subscribers dst with
  | none => { dst := dst }
  | some vsub =>
      if !vsub.luComplete then { receiver := some vsub.ptr, dst := dst }
      else { id := row.id, receiver := some vsub.ptr, dst := dst }

section Queries

variable (subscribers : List Subscr) (db : List SmsRow)

/-- `db_sms_get()`. -/
def dbSmsGet (id : Nat) : Option GsmSms :=
  (db.find? fun row => row.id = id).map (smsFromResult subscribers)

/-- `db_sms_get_unsent_for_subscr()`. -/
def dbSmsGetUnsentForSubscr (vsub : Subscr) (maxFailed : Nat) : Option GsmSms :=
  if !vsub.luComplete || vsub.msisdn = [] then none
  else
    ((db.filter fun row => !row.sent && row.destAddr = vsub.msisdn &&
      row.deliverAttempts ≤ maxFailed).argmin SmsRow.id).map (smsFromResult subscribers)

/-- `db_sms_get_next_unsent_rr_msisdn()`. -/
def dbSmsGetNextUnsentRrMsisdn (lastMsisdn : Msisdn) (maxFailed : Nat) : Option GsmSms :=
  ((db.filter fun row => !row.sent && decide (lastMsisdn < row.destAddr) &&
    row.deliverAttempts ≤ maxFailed).argmin fun row => toLex (row.destAddr, row.id)).map
      (smsFromResult subscribers)

/-- `db_sms_mark_delivered()`. -/
def dbSmsMarkDelivered (id : Nat) : List SmsRow :=
  db.map fun row => if row.id = id then { row with sent := true } else row

/-- `db_sms_inc_deliver_attempts()`. -/
def dbSmsIncDeliverAttempts (id : Nat) : List SmsRow :=
  db.map fun row =>
    if row.id = id then { row with deliverAttempts := row.deliverAttempts + 1 } else row

/-- `db_sms_delete_message_by_id()`. -/
def dbSmsDeleteMessageById (id : Nat) : List SmsRow := db.filter fun row => row.id ≠ id

/-- `db_sms_delete_oldest_expired_message()`. -/
def dbSmsDeleteOldestExpiredMessage (now : Nat) : List SmsRow :=
  match db.argmin SmsRow.validUntil with
  | some row => if row.validUntil > now then db else dbSmsDeleteMessageById db row.id
  | none => db

end Queries

end OsmoMsc.Sms
