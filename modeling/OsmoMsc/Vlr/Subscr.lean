/-
Module: OsmoMsc.Vlr.Subscr
Purpose: The VLR subscriber record as far as the authentication, access request and location
  update procedures read or write it, with the functions on its authentication tuples
  (`_vlr_subscr_next_auth_tuple()` and its callers in vlr_auth_fsm.c, `vlr_subscr_update_tuples()`
  in vlr.c) and the mapping from GMM causes to reject causes.
Trusted boundary: none
Main exports: RejectCause, AuthVector, AuthTuple, VlrSubscr, vlrSubscrNextAuthTuple,
  vlrSubscrGetAuthTuple, vlrSubscrUpdateTuples, authTryReuseTuple, vlrGmmCauseToRejectCauseDomain
-/
import Mathlib.Algebra.GroupWithZero.Nat
import Mathlib.Data.Int.ConditionallyCompleteOrder
import Mathlib.Data.List.MinMax
import Mathlib.Order.ConditionallyCompleteLattice.Basic
import Mathlib.Tactic.Common

namespace OsmoMsc.Vlr

/-! ### Causes -/

/-- `enum gsm48_reject_value`, the members the sources use. -/
inductive RejectCause where
  | imsiUnknownInHlr
  | illegalMs
  | imsiUnknownInVlr
  | imeiNotAccepted
  | illegalMe
  | gprsNotAllowed
  | servicesNotAllowed
  | msIdentityNotDervivable
  | implicitlyDetached
  | plmnNotAllowed
  | locNotAllowed
  | roamingNotAllowed
  | gprsNotAllowedInPlmn
  | noSuitCellInLa
  | mscTmpNotReachable
  | networkFailure
  | macFailure
  | synchFailure
  | congestion
  | gsmAuthUnacceptable
  | notAuthForCsg
  | smsProvViaGprsInRa
  | srvOptTmpOutOfOrder
  | callCanNotBeIdentified
  | noPdpContextActivated
  | incorrectMessage
  | invalidMandantoryInf
  | msgTypeNotImplemented
  | msgTypeNotCompatible
  | infElemeNotImplemented
  | condtionalIeError
  | msgNotCompatible
  | protocolError
deriving DecidableEq, Repr, Inhabited

/-- The cause values of 3GPP TS 24.008, 10.5.3.6 and 10.5.5.14.  None of them is 0, which the
sources use for "no error". -/
def RejectCause.code : RejectCause → Nat
  | .imsiUnknownInHlr => 2
  | .illegalMs => 3
  | .imsiUnknownInVlr => 4
  | .imeiNotAccepted => 5
  | .illegalMe => 6
  | .gprsNotAllowed => 7
  | .servicesNotAllowed => 8
  | .msIdentityNotDervivable => 9
  | .implicitlyDetached => 10
  | .plmnNotAllowed => 11
  | .locNotAllowed => 12
  | .roamingNotAllowed => 13
  | .gprsNotAllowedInPlmn => 14
  | .noSuitCellInLa => 15
  | .mscTmpNotReachable => 16
  | .networkFailure => 17
  | .macFailure => 20
  | .synchFailure => 21
  | .congestion => 22
  | .gsmAuthUnacceptable => 23
  | .notAuthForCsg => 25
  | .smsProvViaGprsInRa => 28
  | .srvOptTmpOutOfOrder => 34
  | .callCanNotBeIdentified => 38
  | .noPdpContextActivated => 40
  | .incorrectMessage => 95
  | .invalidMandantoryInf => 96
  | .msgTypeNotImplemented => 97
  | .msgTypeNotCompatible => 98
  | .infElemeNotImplemented => 99
  | .condtionalIeError => 100
  | .msgNotCompatible => 101
  | .protocolError => 111

@[simp] theorem RejectCause.code_ne_zero (cause : RejectCause) : cause.code ≠ 0 := by
  cases cause <;> decide

/-- `enum gsm48_gmm_cause` as received in GSUP; `other` stands for every value without a case in
`vlr_gmm_cause_to_reject_cause()`. -/
inductive GmmCause where
  | imsiUnknown
  | illegalMs
  | imeiNotAccepted
  | illegalMe
  | gprsNotallowed
  | gprsOtherNotallowed
  | msIdNotDerived
  | implDetached
  | plmnNotallowed
  | laNotallowed
  | roamingNotallowed
  | noGprsPlmn
  | mscTempNotreach
  | syncFail
  | congestion
  | semIncorrMsg
  | invMandInfo
  | msgtNotexistNotimpl
  | msgtIncompPState
  | ieNotexistNotimpl
  | condIeErr
  | msgIncompPState
  | protoErrUnspec
  | noSuitCellInLa
  | macFail
  | gsmAuthUnaccept
  | notAuthForCsg
  | smsViaGprsInRa
  | noPdpActivated
  | netFail
  | other (value : Nat)
deriving DecidableEq, Repr, Inhabited

/-- `vlr_gmm_cause_to_reject_cause()`. -/
def vlrGmmCauseToRejectCause : GmmCause → RejectCause
  | .imsiUnknown => .imsiUnknownInHlr
  | .illegalMs => .illegalMs
  | .imeiNotAccepted => .imeiNotAccepted
  | .illegalMe => .illegalMe
  | .gprsNotallowed => .gprsNotAllowed
  | .gprsOtherNotallowed => .servicesNotAllowed
  | .msIdNotDerived => .msIdentityNotDervivable
  | .implDetached => .implicitlyDetached
  | .plmnNotallowed => .plmnNotAllowed
  | .laNotallowed => .locNotAllowed
  | .roamingNotallowed => .roamingNotAllowed
  | .noGprsPlmn => .gprsNotAllowedInPlmn
  | .mscTempNotreach => .mscTmpNotReachable
  | .syncFail => .synchFailure
  | .congestion => .congestion
  | .semIncorrMsg => .incorrectMessage
  | .invMandInfo => .invalidMandantoryInf
  | .msgtNotexistNotimpl => .msgTypeNotImplemented
  | .msgtIncompPState => .msgTypeNotCompatible
  | .ieNotexistNotimpl => .infElemeNotImplemented
  | .condIeErr => .condtionalIeError
  | .msgIncompPState => .msgNotCompatible
  | .protoErrUnspec => .protocolError
  | .noSuitCellInLa => .noSuitCellInLa
  | .macFail => .macFailure
  | .gsmAuthUnaccept => .gsmAuthUnacceptable
  | .notAuthForCsg => .notAuthForCsg
  | .smsViaGprsInRa => .smsProvViaGprsInRa
  | .noPdpActivated => .noPdpContextActivated
  | .netFail => .networkFailure
  | .other _ => .networkFailure

/-- `vlr_reject_causes_ps()`. -/
def vlrRejectCausesPs : RejectCause → RejectCause
  | .callCanNotBeIdentified => .networkFailure
  | cause => cause

/-- `vlr_reject_causes_cs()`. -/
def vlrRejectCausesCs : RejectCause → RejectCause
  | .noSuitCellInLa | .macFailure | .gsmAuthUnacceptable | .notAuthForCsg
  | .smsProvViaGprsInRa | .noPdpContextActivated => .networkFailure
  | cause => cause

/-- `vlr_gmm_cause_to_reject_cause_domain()`. -/
def vlrGmmCauseToRejectCauseDomain (cause : GmmCause) (isCs : Bool) : RejectCause :=
  if isCs then vlrRejectCausesCs (vlrGmmCauseToRejectCause cause)
  else vlrRejectCausesPs (vlrGmmCauseToRejectCause cause)

/-! ### Authentication vectors and tuples -/

/-- `struct osmo_auth_vector`.  `res` holds the first `res_len` octets of the RES field; a field
whose token the HLR did not send is all zero, and `gsm`, `umts` are the two bits of `auth_types`
that say which tokens it sent. -/
structure AuthVector where
  rand : List UInt8 := List.replicate 16 0
  res : List UInt8 := []
  sres : Vector UInt8 4 := Vector.replicate 4 0
  gsm : Bool := false
  umts : Bool := false
deriving DecidableEq, Repr

/-- `VLR_KEY_SEQ_INVAL`. -/
def vlrKeySeqInval : Nat := 7

/-- `struct vlr_auth_tuple`. -/
structure AuthTuple where
  useCount : Int := 0
  keySeq : Nat := vlrKeySeqInval
  vec : AuthVector := {}
deriving DecidableEq, Repr

/-- `enum vlr_subscr_security_context`. -/
inductive SecCtx where
  | none
  | gsm
  | umts
deriving DecidableEq, Repr, Inhabited

/-- A string of BCD digits; the empty one is the cleared `imsi[]`, `imei[]` or `imeisv[]`. -/
abbrev Digits := List (Fin 10)

instance neZero_ten : NeZero 10 := ⟨by decide⟩

/-- `GSM_RESERVED_TMSI`. -/
def gsmReservedTmsi : Nat := 0xFFFFFFFF

/-- `struct vlr_subscr`, the fields the modelled procedures use.  `lastTuple` is the pointer into
`auth_tuples[]`. -/
structure VlrSubscr where
  imsi : Digits := []
  authTuples : Fin 5 → AuthTuple := fun _ => {}
  lastTuple : Option (Fin 5) := none
  secCtx : SecCtx := .none
  tmsi : Nat := gsmReservedTmsi
  tmsiNew : Nat := gsmReservedTmsi
  imeisv : Digits := []
  imei : Digits := []
  imsiDetachedFlag : Bool := false
  confByRadioContactInd : Bool := false
  subDataconfByHlrInd : Bool := false
  locConfInHlrInd : Bool := false
  dormantInd : Bool := false
  cancelLocRx : Bool := false
  msNotReachableFlag : Bool := false
  laAllowed : Bool := false
  luComplete : Bool := false
  lac : Nat := 0

/-- The part of `vlr->cfg` the modelled procedures use. -/
structure VlrCfg where
  retrieveImeisvEarly : Bool := false
  retrieveImeisvCiphered : Bool := false
  checkImeiRqd : Bool := false
  authTupleMaxReuseCount : Int := 0
  authReuseOldSetsOnError : Bool := false
  parqRetrieveImsi : Bool := false
  isPs : Bool := false
deriving DecidableEq, Repr

/-- `vlr_use_umts_aka()`. -/
def vlrUseUmtsAka (vec : AuthVector) (isR99 : Bool) : Bool :=
  isR99 && vec.umts

/-- The loop of `_vlr_subscr_next_auth_tuple()`: `count` rounds, each of which moves to the next
slot and keeps it if it is valid and used less often than the best one so far. -/
def nextAuthTupleLoop (tuples : Fin 5 → AuthTuple) :
    Nat → Fin 5 → Option (Fin 5) → Option (Fin 5)
  | 0, _, best => best
  | count + 1, idx, best =>
      let idx := idx + 1
      let best :=
        if (tuples idx).keySeq = vlrKeySeqInval then best
        else match best with
          | none => some idx
          | some at' =>
              if (tuples idx).useCount < (tuples at').useCount then some idx else some at'
      nextAuthTupleLoop tuples count idx best

/-- `_vlr_subscr_next_auth_tuple()`. -/
def vlrSubscrNextAuthTuple (vsub : VlrSubscr) (maxReuseCount : Int) : Option (Fin 5) :=
  let keySeq := match vsub.lastTuple with
    | some last => (vsub.authTuples last).keySeq
    | none => vlrKeySeqInval
  -- Start with 0 after the increment modulo the array size when there is no last tuple.
  let idx : Fin 5 := if keySeq = vlrKeySeqInval then 4 else Fin.ofNat 5 keySeq
  match nextAuthTupleLoop vsub.authTuples 5 idx none with
  | none => none
  | some found =>
      if 0 ≤ maxReuseCount ∧ maxReuseCount < (vsub.authTuples found).useCount then none
      else some found

/-- `vlr_subscr_has_auth_tuple()`. -/
def vlrSubscrHasAuthTuple (vsub : VlrSubscr) (maxReuseCount : Int) : Bool :=
  (vlrSubscrNextAuthTuple vsub maxReuseCount).isSome

/-- `at->use_count++` on one slot. -/
def VlrSubscr.useTuple (vsub : VlrSubscr) (slot : Fin 5) : VlrSubscr :=
  { vsub with
    authTuples := Function.update vsub.authTuples slot
      { vsub.authTuples slot with useCount := (vsub.authTuples slot).useCount + 1 } }

/-- `vlr_subscr_get_auth_tuple()`: the chosen slot and the record with its use counted. -/
def vlrSubscrGetAuthTuple (vsub : VlrSubscr) (maxReuseCount : Int) :
    Option (Fin 5 × VlrSubscr) :=
  (vlrSubscrNextAuthTuple vsub maxReuseCount).map fun slot => (slot, vsub.useTuple slot)

/-- The GSUP messages the procedures receive: the vectors of a SendAuthInfo result and the cause
of an error. -/
structure Gsup where
  authVectors : List AuthVector := []
  cause : GmmCause := .netFail
deriving DecidableEq, Repr

/-- The loop of `vlr_subscr_update_tuples()` from index `i`: vectors past the array are skipped. -/
def fillTuples : Nat → List AuthVector → (Fin 5 → AuthTuple) → (Fin 5 → AuthTuple)
  | _, [], tuples => tuples
  | i, vec :: vecs, tuples =>
      fillTuples (i + 1) vecs
        (if inArray : i < 5 then
          Function.update tuples ⟨i, inArray⟩
            { tuples ⟨i, inArray⟩ with vec := vec, keySeq := i }
        else tuples)

/-- `vlr_subscr_update_tuples()`: the old tuples are cleared only if the message has vectors;
`last_tuple` becomes invalid in any case. -/
def vlrSubscrUpdateTuples (vsub : VlrSubscr) (gsup : Gsup) : VlrSubscr :=
  let cleared := if gsup.authVectors = [] then vsub.authTuples else fun _ => {}
  { vsub with authTuples := fillTuples 0 gsup.authVectors cleared, lastTuple := none }

/-- `auth_try_reuse_tuple()`: whether the last tuple may be used once more, and the record with
that use counted. -/
def authTryReuseTuple (cfg : VlrCfg) (vsub : VlrSubscr) (keySeq : Nat) : Bool × VlrSubscr :=
  match vsub.lastTuple with
  | none => (false, vsub)
  | some last =>
      if 0 ≤ cfg.authTupleMaxReuseCount
          ∧ cfg.authTupleMaxReuseCount < (vsub.authTuples last).useCount then (false, vsub)
      else if (vsub.authTuples last).keySeq ≠ keySeq then (false, vsub)
      else (true, vsub.useTuple last)

/-- Using a tuple leaves every vector as it is. -/
@[simp] theorem useTuple_vec (vsub : VlrSubscr) (slot other : Fin 5) :
    ((vsub.useTuple slot).authTuples other).vec = (vsub.authTuples other).vec := by
  by_cases same : other = slot <;> simp [VlrSubscr.useTuple, same]

/-! ### The next tuple -/

open List

variable {vsub : VlrSubscr}

/-- A slot of `auth_tuples[]` that holds a tuple. -/
def AuthTuple.Valid (tuple : AuthTuple) : Prop := tuple.keySeq ≠ vlrKeySeqInval

/-- The slots that hold a tuple, in circular order after the `key_seq` of the last tuple. -/
def VlrSubscr.validSlots (vsub : VlrSubscr) : List (Fin 5) :=
  let keySeq := match vsub.lastTuple with
    | some last => (vsub.authTuples last).keySeq
    | none => vlrKeySeqInval
  let last : Fin 5 := if keySeq = vlrKeySeqInval then 4 else Fin.ofNat 5 keySeq
  (List.iterate (· + 1) (last + 1) 5).filter fun slot =>
    (vsub.authTuples slot).keySeq ≠ vlrKeySeqInval

theorem mem_validSlots {slot : Fin 5} : slot ∈ vsub.validSlots ↔ (vsub.authTuples slot).Valid := by
  have everywhere : ∀ first slot : Fin 5, slot ∈ List.iterate (· + 1) first 5 := by decide
  simp only [VlrSubscr.validSlots, mem_filter, everywhere, true_and, decide_eq_true_iff,
    AuthTuple.Valid]

/-- The loop keeps the first of the least used tuples it has seen. -/
theorem nextAuthTupleLoop_eq (tuples : Fin 5 → AuthTuple) (count : Nat) (idx : Fin 5)
    (seen : List (Fin 5)) :
    nextAuthTupleLoop tuples count idx (seen.argmin fun slot => (tuples slot).useCount) =
      (seen ++ (List.iterate (· + 1) (idx + 1) count).filter
        fun slot => (tuples slot).keySeq ≠ vlrKeySeqInval).argmin
          fun slot => (tuples slot).useCount := by
  induction count generalizing idx seen with
  | zero => simp [nextAuthTupleLoop]
  | succ count ih =>
      unfold nextAuthTupleLoop
      dsimp only
      rw [List.iterate, filter_cons]
      by_cases invalid : (tuples (idx + 1)).keySeq = vlrKeySeqInval
      · rw [if_pos invalid, if_neg (by simpa using invalid), ih]
      · have next := ih (idx + 1) (seen ++ [idx + 1])
        rw [argmin_concat, append_assoc] at next
        rw [if_neg invalid, if_pos (by simpa using invalid)]
        refine Eq.trans ?_ next
        cases seen.argmin fun slot => (tuples slot).useCount <;> rfl

theorem vlrSubscrNextAuthTuple_eq (vsub : VlrSubscr) (maxReuseCount : Int) :
    vlrSubscrNextAuthTuple vsub maxReuseCount =
      (vsub.validSlots.argmin fun slot => (vsub.authTuples slot).useCount).filter fun slot =>
        ¬ (0 ≤ maxReuseCount ∧ maxReuseCount < (vsub.authTuples slot).useCount) := by
  have limit (found : Option (Fin 5)) :
      (match found with
        | none => none
        | some slot =>
            if 0 ≤ maxReuseCount ∧ maxReuseCount < (vsub.authTuples slot).useCount then none
            else some slot) = found.filter fun slot =>
        ¬ (0 ≤ maxReuseCount ∧ maxReuseCount < (vsub.authTuples slot).useCount) := by
    cases found <;> simp only [Option.filter, decide_eq_true_iff, ite_not]
  exact (limit _).trans (congrArg _ (nextAuthTupleLoop_eq vsub.authTuples 5 _ []))

/-- A tuple is only ever taken from a slot that holds one, and within the limit. -/
theorem vlrSubscrNextAuthTuple_some {maxReuseCount : Int} {slot : Fin 5}
    (found : vlrSubscrNextAuthTuple vsub maxReuseCount = some slot) :
    (vsub.authTuples slot).Valid ∧
      ¬ (0 ≤ maxReuseCount ∧ maxReuseCount < (vsub.authTuples slot).useCount) := by
  rw [vlrSubscrNextAuthTuple_eq, Option.filter_eq_some_iff] at found
  exact ⟨mem_validSlots.mp (argmin_mem found.1), of_decide_eq_true found.2⟩

end OsmoMsc.Vlr
