/-
Module: OsmoMsc.Vlr.SubscrProcs
Purpose: One subscriber's record with all the location updates and access requests that run on it,
  each the machine of its own module.  Every step of one starts from the record as the others have
  left it.  `vsub->lu_fsm` and `vsub->proc_arq_fsm` are kept, and the answer of the HLR to an
  UpdateLocation goes the way `vlr_subscr_handle_lu_res()` and `vlr_subscr_handle_lu_err()` send it.
  A watch on the side notes what becomes of each vector the HLR has delivered.
Trusted boundary: every other event may reach any procedure, whichever machine `vsub->auth_fsm`
  points to; merging two records of one subscriber (`dedup_vsub()`) is left out
Main exports: Proc, TupleWatch, SubscrProcs, SubscrProcs.locUpdate, SubscrProcs.accReq,
  SubscrProcs.vlrSubscrHandleLu, ProcsInput, procsStep, procsRun
-/
import OsmoMsc.Vlr.LuFrame
import OsmoMsc.Vlr.ArqFrame
import OsmoMsc.Vlr.SubscrStore

namespace OsmoMsc.Vlr

open Library

/-! ### Procedures -/

/-- A procedure of the subscriber with the parameters it was started with. -/
inductive Proc where
  | lu (par : LuPar) (s : Lu)
  | arq (par : ProcArqPar) (s : Arq)

namespace Proc

def vsub : Proc → VlrSubscr
  | .lu _ s => s.vsub
  | .arq _ s => s.vsub

def auth : Proc → Option AuthInst
  | .lu _ s => s.auth
  | .arq _ s => s.auth

def tupleActs : Proc → List TupleAct
  | .lu _ s => s.tupleActs
  | .arq _ s => s.tupleActs

def said : Proc → AuthFsmResult → Bool
  | .lu _ s => s.said
  | .arq _ s => s.said

def isCipheringToBeAttempted : Proc → Bool
  | .lu par _ => par.isCipheringToBeAttempted
  | .arq par _ => par.isCipheringToBeAttempted

/-- The instance is gone. -/
def terminating : Proc → Bool
  | .lu _ s => s.fi.terminating
  | .arq _ s => s.fi.terminating

/-- The source has run into an assertion. -/
def aborted : Proc → Bool
  | .lu _ s => s.aborted
  | .arq _ _ => false

end Proc

/-! ### The vectors -/

/-- What is known of a procedure that asks for ciphering. -/
structure CiphRequest where
  /-- It has authenticated the subscriber itself. -/
  authenticated : Bool
  /-- It has tried to, but the HLR had no vectors. -/
  noAuthInfo : Bool
  /-- `is_ciphering_to_be_attempted`. -/
  attempted : Bool
deriving DecidableEq, Repr

def Proc.request (p : Proc) : CiphRequest :=
  { authenticated := p.said .passed
    noAuthInfo := p.said .noAuthInfo
    attempted := p.isCipheringToBeAttempted }

/-- What has become of the vectors.  A vector is named by the SendAuthInfo result it came with,
counted from 0 before the first one, and its slot. -/
structure TupleWatch where
  /-- SendAuthInfo results with vectors so far. -/
  deliveries : Nat := 0
  /-- One entry for each authentication request with a vector, and for each time its keys are taken
  for ciphering by a procedure that has not authenticated the subscriber itself. -/
  uses : List (Nat × Fin 5) := []
  /-- The present vectors against which a response has been verified, with the security context
  that was established by it. -/
  verified : List (Fin 5 × SecCtx) := []
  /-- A response has been checked since the last authentication request, and `last_tuple` has not
  been reset since. -/
  answered : Bool := false
  /-- The request for ciphering in the last step, if there was one. -/
  request : Option CiphRequest := none
deriving DecidableEq, Repr

/-- One entry of a procedure's log.  Entries do not repeat what the record holds at that time: no
step touches the last tuple or the security context after checking a response or asking for
ciphering, so the record after the step has it. -/
def TupleWatch.observe (vsub : VlrSubscr) (request : CiphRequest) (w : TupleWatch) :
    TupleAct → TupleWatch
  | .newTuples => { w with deliveries := w.deliveries + 1, verified := [], answered := false }
  | .authReq slot => { w with uses := (w.deliveries, slot) :: w.uses, answered := false }
  | .checked ok =>
      { w with
        answered := true
        verified := if ok then (vsub.lastTuple.map (·, vsub.secCtx)).toList ++ w.verified
          else w.verified }
  | .ciphMode =>
      { w with
        request := some request
        uses := if request.authenticated then w.uses
          else (vsub.lastTuple.map (w.deliveries, ·)).toList ++ w.uses }

/-- One step of a procedure that found the record as `vsub`. -/
def TupleWatch.step (vsub : VlrSubscr) (before after : Proc) (w : TupleWatch) : TupleWatch :=
  let reset := vsub.lastTuple.isSome && after.vsub.lastTuple.isNone
  (after.tupleActs.drop before.tupleActs.length).foldl
    (TupleWatch.observe after.vsub after.request)
    { w with answered := w.answered && !reset }

/-! ### The subscriber -/

/-- The subscriber's record, its procedures in the order in which they were started, and the
pointers of the record to two of them. -/
structure SubscrProcs where
  vsub : VlrSubscr := {}
  sgsState : SgsUeState := .null
  procs : List Proc := []
  luFsm : Option Nat := none
  procArqFsm : Option Nat := none
  watch : TupleWatch := {}

namespace SubscrProcs

/-- A procedure has handled something.  An instance that ends takes its pointer with it
(`fsm_lu_cleanup()`, `proc_arq_vlr_cleanup()`). -/
def settle (i : Nat) (before after : Proc) (s : SubscrProcs) : SubscrProcs :=
  { s with
    vsub := after.vsub
    procs := s.procs.set i after
    luFsm := if s.luFsm = some i ∧ after.terminating = true then none else s.luFsm
    procArqFsm := if s.procArqFsm = some i ∧ after.terminating = true then none else s.procArqFsm
    watch := s.watch.step s.vsub before after }

/-- A location update handles something. -/
def onLu (cfg : VlrCfg) (i : Nat) (env : LuEnv) (input : LuInput) (s : SubscrProcs) : SubscrProcs :=
  match s.procs[i]? with
  | some (.lu par lu) =>
      s.settle i (.lu par lu) (.lu par (luStep cfg par { lu with vsub := s.vsub } (env, input)))
  | _ => s

/-- An access request handles something. -/
def onArq (cfg : VlrCfg) (i : Nat) (env : ArqEnv) (input : ArqInput) (s : SubscrProcs) :
    SubscrProcs :=
  match s.procs[i]? with
  | some (.arq par arq) =>
      s.settle i (.arq par arq)
        (.arq par (arqStep cfg par { arq with vsub := s.vsub } (env, input)))
  | _ => s

variable (cfg : VlrCfg)

/-- `assoc_lfp_with_sub()` cancels a location update that is still going on. -/
def replaceLu (s : SubscrProcs) : SubscrProcs :=
  match s.luFsm with
  | some old => s.onLu cfg old {} (.cancel RejectCause.congestion.code)
  | none => s

/-- The new location update.  Once it is associated, `lu_fsm_idle()` tells the SGs machine. -/
def startLu (par : LuPar) (env : LuEnv) (s : SubscrProcs) : SubscrProcs :=
  let started := { s with
    procs := s.procs ++ [Proc.lu par {}]
    luFsm := if env.assocOk then some s.procs.length else none
    sgsState := if env.assocOk then .null else s.sgsState }
  started.settle s.procs.length (.lu par {}) (.lu par (vlrLocUpdate cfg par env (some s.vsub)))

/-- `vlr_loc_update()` for this subscriber. -/
def locUpdate (par : LuPar) (env : LuEnv) (s : SubscrProcs) : SubscrProcs :=
  startLu cfg par env (replaceLu cfg s)

/-- `proc_arq_vlr_fn_init()` ends an access request that is still associated. -/
def replaceArq (s : SubscrProcs) : SubscrProcs :=
  match s.procArqFsm with
  | some old => s.onArq cfg old {} .superseded
  | none => s

/-- The new access request. -/
def startArq (par : ProcArqPar) (env : ArqEnv) (s : SubscrProcs) : SubscrProcs :=
  let started := { s with
    procs := s.procs ++ [Proc.arq par {}]
    procArqFsm := some s.procs.length }
  started.settle s.procs.length (.arq par {})
    (.arq par (vlrProcAccReq cfg par env (some s.vsub)))

/-- `vlr_proc_acc_req()`, when the lookup finds this subscriber and when it finds nobody. -/
def accReq (par : ProcArqPar) (env : ArqEnv) (found : Bool) (s : SubscrProcs) : SubscrProcs :=
  if found = true ∧ par.mi ≠ .other then startArq cfg par env (replaceArq cfg s)
  else { s with procs := s.procs ++ [Proc.arq par (vlrProcAccReq cfg par env none)] }

/-- `vlr_subscr_handle_lu_res()`, and with a cause `vlr_subscr_handle_lu_err()`.  A location update
over SGs that is waiting for the HLR gets the answer in place of the one over A or Iu. -/
def vlrSubscrHandleLu (env : LuEnv) (cause : Option Nat) (s : SubscrProcs) : SubscrProcs :=
  if s.sgsState = .laUpdPres then s
  else
    match s.luFsm with
    | none => s
    | some i => s.onLu cfg i env (.hlrLuRes cause)

end SubscrProcs

/-! ### Inputs -/

/-- Everything that can happen to the subscriber. -/
inductive ProcsInput where
  /-- A LOCATION UPDATING REQUEST, and a CM SERVICE REQUEST, CM RE-ESTABLISHMENT REQUEST or PAGING
  RESPONSE. -/
  | locUpdate (par : LuPar) (env : LuEnv)
  | accReq (par : ProcArqPar) (env : ArqEnv) (found : Bool)
  /-- An event for one of the procedures, or for one of its children. -/
  | lu (i : Nat) (env : LuEnv) (input : LuInput)
  | arq (i : Nat) (env : ArqEnv) (input : ArqInput)
  /-- The answer of the HLR to an UpdateLocation. -/
  | handleLu (env : LuEnv) (cause : Option Nat)
  /-- The SGs machine changes its state. -/
  | sgs (state : SgsUeState)
  /-- Another part of the VLR writes fields of the record. -/
  | written (vsub : VlrSubscr)

/-- What reaches a location update without going through the record. -/
def LuInput.isDirect : LuInput → Bool
  | .hlrLuRes _ | .vsubWritten _ => false
  | _ => true

def ArqInput.isDirect : ArqInput → Bool
  | .vsubWritten _ => false
  | _ => true

/-- The record an access request finds by the IMSI it has asked for is this one. -/
def ArqInput.atRecord (vsub : VlrSubscr) : ArqInput → ArqInput
  | .idImsi found => .idImsi (found.map fun _ => vsub)
  | input => input

/-- One input to a VLR that is still running. -/
def SubscrProcs.handle (cfg : VlrCfg) (s : SubscrProcs) : ProcsInput → SubscrProcs
  | .locUpdate par env => s.locUpdate cfg par env
  | .accReq par env found => s.accReq cfg par env found
  | .lu i env input => if input.isDirect then s.onLu cfg i env input else s
  | .arq i env input => if input.isDirect then s.onArq cfg i env (input.atRecord s.vsub) else s
  | .handleLu env cause => s.vlrSubscrHandleLu cfg env cause
  | .sgs state => { s with sgsState := state }
  | .written vsub =>
      { s with
        vsub := { vsub with
          authTuples := s.vsub.authTuples
          lastTuple := s.vsub.lastTuple
          secCtx := s.vsub.secCtx } }

/-- An assertion that fails in one procedure is the end of the whole VLR. -/
def SubscrProcs.aborted (s : SubscrProcs) : Bool := s.procs.any Proc.aborted

/-- One input. -/
def procsStep (cfg : VlrCfg) (s : SubscrProcs) (input : ProcsInput) : SubscrProcs :=
  if s.aborted then s
  else SubscrProcs.handle cfg { s with watch := { s.watch with request := none } } input

/-- A subscriber from the creation of its record on. -/
def procsRun (cfg : VlrCfg) (inputs : List ProcsInput) : SubscrProcs :=
  inputs.foldl (procsStep cfg) {}

end OsmoMsc.Vlr
