/-
Module: OsmoMsc.Msc.Transaction
Purpose: The network's list of transactions (transaction.c) as its users search and change it.
Trusted boundary: none
Main exports: TransType, GsmTrans, transFindByType, transIsLive, transUnlink, transOnConn
-/
import Mathlib.Tactic.Common

namespace OsmoMsc.Msc

/-- `enum trans_type`. -/
inductive TransType where
  | cc
  | sms
  | ussd
  | silentCall
  | gcc
  | bcc
deriving DecidableEq, Repr, Inhabited

/-- The classes of `bearer_cap.transfer` that an assignment distinguishes. -/
inductive BearerTransfer where
  | speech
  /-- 3.1 kHz audio, fax and unrestricted digital information. -/
  | csd
  | other
deriving DecidableEq, Repr, Inhabited

/-- `struct gsm_trans`, one entry of `net->trans_list`.  `callId` is unique, since `trans_alloc()`
counts it up; subscribers and connections are named by numbers. -/
structure GsmTrans where
  callId : Nat
  type : TransType
  vsub : Option Nat := none
  mscA : Option Nat := none
  bearer : BearerTransfer := .speech
deriving DecidableEq, Repr

/-- `trans_find_by_type()`: the subscriber's first transaction of the type. -/
def transFindByType (transList : List GsmTrans) (vsub : Option Nat) (type : TransType) :
    Option GsmTrans :=
  transList.find? fun trans => trans.vsub = vsub && trans.type = type

/-- `trans_is_live()`. -/
def transIsLive (transList : List GsmTrans) (callId : Nat) : Bool :=
  transList.any fun trans => trans.callId = callId

/-- The list after `trans_free()` has unlinked the transaction. -/
def transUnlink (transList : List GsmTrans) (callId : Nat) : List GsmTrans :=
  transList.filter fun trans => trans.callId ≠ callId

/-- The list after `trans_conn_closed()` has freed everything that hangs on the connection. -/
def transConnClosed (transList : List GsmTrans) (mscA : Nat) : List GsmTrans :=
  transList.filter fun trans => trans.mscA ≠ some mscA

end OsmoMsc.Msc
