/-
Module: OsmoMsc.Vlr.TupleStep
Purpose: What one step of a procedure can do to the authentication tuples of the subscriber, said
  once for every procedure that has an authentication child.  The authentication machine only ever
  takes such steps, as long as its parent leaves the tuples alone and answers the child's end with a
  request for ciphering at most.
Trusted boundary: none
Main exports: VlrSubscr.tupleState, TupleAct, TupleStep, Grounds.Hold, InstOk, TupleParent,
  AuthStep, authFsmDispatch_tuples
-/
import OsmoMsc.Vlr.AuthContract
import OsmoMsc.Vlr.HlrProcs

namespace OsmoMsc.Vlr

open Library

/-! ### The tuples of a record -/

/-- The tuples, the last one used and the security context, with everything else of the record left
out. -/
def VlrSubscr.tupleState (vsub : VlrSubscr) : VlrSubscr :=
  { authTuples := vsub.authTuples, lastTuple := vsub.lastTuple, secCtx := vsub.secCtx }

/-- The record after an authentication request with the tuple in this slot. -/
def VlrSubscr.challenged (vsub : VlrSubscr) (slot : Fin 5) : VlrSubscr :=
  { vsub.useTuple slot with lastTuple := some slot }

/-- The tuple may be used once more under the configured limit, where that limit is never
suspended. -/
def Reusable (cfg : VlrCfg) (vsub : VlrSubscr) (slot : Fin 5) : Prop :=
  cfg.authReuseOldSetsOnError = false → 0 ≤ cfg.authTupleMaxReuseCount →
    (vsub.authTuples slot).useCount ≤ cfg.authTupleMaxReuseCount

/-! ### Steps -/

/-- What a procedure's log says about the tuples. -/
inductive TupleAct where
  | newTuples
  | authReq (slot : Fin 5)
  | checked (ok : Bool)
  | ciphMode
deriving DecidableEq, Repr

/-- On what grounds a procedure asks for ciphering. -/
inductive Grounds where
  /-- Its authentication child has verified a response. -/
  | authenticated
  /-- Its authentication child has got no vectors, and can do without. -/
  | noAuthInfo
  /-- `auth_try_reuse_tuple()` has granted one more use of the last tuple. -/
  | reused
  /-- Neither authentication nor ciphering was to be attempted, but UTRAN wants its command. -/
  | notAttempted
  /-- It has asked before and nobody has answered; only the packet switched domain asks again. -/
  | repeated
deriving DecidableEq, Repr

/-- The entry of a SendAuthInfo result, which only leaves one if it has vectors. -/
def Gsup.tupleActs (gsup : Gsup) : List TupleAct :=
  if gsup.authVectors = [] then [] else [.newTuples]

/-- One step of a procedure as the tuples see it, with the entries it leaves in the log and, if it
asks for ciphering, the grounds. -/
inductive TupleStep (cfg : VlrCfg) (vsub : VlrSubscr) :
    VlrSubscr → List TupleAct → Option Grounds → Prop where
  | quiet : TupleStep cfg vsub vsub [] none
  | challenge (slot : Fin 5) (reusable : Reusable cfg vsub slot) :
      TupleStep cfg vsub (vsub.challenged slot) [.authReq slot] none
  | update (gsup : Gsup) :
      TupleStep cfg vsub (vlrSubscrUpdateTuples vsub gsup) gsup.tupleActs none
  | updateChallenge (gsup : Gsup) (slot : Fin 5)
      (reusable : Reusable cfg (vlrSubscrUpdateTuples vsub gsup) slot) :
      TupleStep cfg vsub ((vlrSubscrUpdateTuples vsub gsup).challenged slot)
        (gsup.tupleActs ++ [.authReq slot]) none
  | checked (isR99 isUtran : Bool) (res : Option (List UInt8)) :
      TupleStep cfg vsub (checkAuthResp vsub isR99 isUtran res).2
        [.checked (checkAuthResp vsub isR99 isUtran res).1] none
  | verified (isR99 isUtran : Bool) (res : Option (List UInt8))
      (ok : (checkAuthResp vsub isR99 isUtran res).1 = true) :
      TupleStep cfg vsub (checkAuthResp vsub isR99 isUtran res).2 [.checked true, .ciphMode]
        (some .authenticated)
  | ciphered (grounds : Grounds) (unchecked : grounds ≠ .authenticated)
      (uncounted : grounds ≠ .reused) (context : grounds ≠ .repeated → vsub.secCtx ≠ .none) :
      TupleStep cfg vsub vsub [.ciphMode] (some grounds)
  | reused (slot : Fin 5) (last : vsub.lastTuple = some slot) (reusable : Reusable cfg vsub slot) :
      TupleStep cfg vsub (vsub.useTuple slot) [] none
  | reusedCiphered (slot : Fin 5) (last : vsub.lastTuple = some slot)
      (reusable : Reusable cfg vsub slot) (context : vsub.secCtx ≠ .none) :
      TupleStep cfg vsub (vsub.useTuple slot) [.ciphMode] (some .reused)

/-- The grounds a procedure may have: `attempted` says that it tries to cipher and `said` is what
its authentication child has reported. -/
def Grounds.Hold (cfg : VlrCfg) (attempted : Bool) (said : AuthFsmResult → Prop) : Grounds → Prop
  | .authenticated => said .passed
  | .noAuthInfo => said .noAuthInfo
  | .reused => attempted = true
  | .notAttempted => attempted = false
  | .repeated => cfg.isPs = true

/-! ### Operations on the record -/

section

variable (vsub : VlrSubscr)
include vsub

theorem updateTuples_tupleState (gsup : Gsup) :
    (vlrSubscrUpdateTuples vsub gsup).tupleState = vlrSubscrUpdateTuples vsub.tupleState gsup := rfl

theorem challenged_tupleState (slot : Fin 5) :
    (vsub.challenged slot).tupleState = vsub.tupleState.challenged slot := rfl

theorem useTuple_tupleState (slot : Fin 5) :
    (vsub.useTuple slot).tupleState = vsub.tupleState.useTuple slot := rfl

/-- The check reads and writes nothing but the tuples. -/
theorem checkAuthResp_tupleState (isR99 isUtran : Bool) (res : Option (List UInt8)) :
    (checkAuthResp vsub.tupleState isR99 isUtran res).1 = (checkAuthResp vsub isR99 isUtran res).1 ∧
      (checkAuthResp vsub.tupleState isR99 isUtran res).2 =
        (checkAuthResp vsub isR99 isUtran res).2.tupleState := by
  unfold checkAuthResp VlrSubscr.tupleState
  dsimp only
  split
  · exact ⟨rfl, rfl⟩
  · exact ⟨rfl, rfl⟩
  · split_ifs <;> exact ⟨rfl, rfl⟩

theorem learnImsi_tupleState (imsi : Digits) :
    (vsub.learnImsi imsi).tupleState = vsub.tupleState := by
  unfold VlrSubscr.learnImsi
  split <;> rfl

end

variable {vsub : VlrSubscr}

theorem subPresVlrDispatch_tupleState {e : SubPresEvent} {fi : Inst SubPresState} : (subPresVlrDispatch e fi vsub).vsub.tupleState = vsub.tupleState := by
  unfold subPresVlrDispatch
  split
  · cases e with
    | start =>
        dsimp only
        split <;> rfl
    | readySmCnf | readySmErr => rfl
  · rfl

theorem subPresVlrFsmStart_tupleState {allocated : Bool} {child : ChildStep SubPresState}
    (started : subPresVlrFsmStart allocated vsub = some child) :
    child.vsub.tupleState = vsub.tupleState := by
  unfold subPresVlrFsmStart at started
  split at started
  · rw [← Option.some.inj started]
    exact subPresVlrDispatch_tupleState
  · cases started

theorem updHlrVlrDispatch_tupleState {e : UpdHlrEvent} {fi : Inst UpdHlrState} :
    (updHlrVlrDispatch e fi vsub).vsub.tupleState = vsub.tupleState := by
  unfold updHlrVlrDispatch
  split
  · cases e <;> rfl
  · rfl

/-- `auth_try_reuse_tuple()` either refuses or counts one more use of the last tuple. -/
theorem authTryReuseTuple_cases (cfg : VlrCfg) (vsub : VlrSubscr) (keySeq : Nat) :
    authTryReuseTuple cfg vsub keySeq = (false, vsub) ∨
      ∃ slot, vsub.lastTuple = some slot ∧ Reusable cfg vsub slot ∧
        authTryReuseTuple cfg vsub keySeq = (true, vsub.useTuple slot) := by
  unfold authTryReuseTuple
  split
  · exact Or.inl rfl
  · rename_i slot last
    split
    · exact Or.inl rfl
    · rename_i allowed
      split
      · exact Or.inl rfl
      · refine Or.inr ⟨slot, last, fun _ limited => ?_, rfl⟩
        exact Int.not_lt.mp fun exceeded => allowed ⟨limited, exceeded⟩

/-! ### The authentication instance -/

/-- The limit of a running instance is the configured one, or not yet set; and its end is a failure
unless it says otherwise. -/
structure InstOk (cfg : VlrCfg) (inst : AuthInst) : Prop where
  limit : inst.authTupleMaxReuseCount = 0 ∨
    inst.authTupleMaxReuseCount = cfg.authTupleMaxReuseCount ∨ cfg.authReuseOldSetsOnError = true
  initial : inst.fi.terminating = false → inst.parentTermEvent = .failure

theorem authFsmAlloc_ok (cfg : VlrCfg) (vsub : VlrSubscr) (isR99 isUtran : Bool) :
    InstOk cfg (authFsmAlloc vsub isR99 isUtran) := ⟨Or.inl rfl, fun _ => rfl⟩

/-- The tuple an instance takes may be used under the configured limit. -/
theorem InstOk.reusable {cfg : VlrCfg} {inst : AuthInst} (ok : InstOk cfg inst) {slot : Fin 5}
    (found : vlrSubscrNextAuthTuple vsub inst.authTupleMaxReuseCount = some slot) :
    Reusable cfg vsub slot := by
  intro strict limited
  have allowed := (vlrSubscrNextAuthTuple_some found).2
  rcases ok.limit with zero | same | suspended
  · rw [zero] at allowed
    have unused : (vsub.authTuples slot).useCount ≤ 0 :=
      Int.not_lt.mp fun exceeded => allowed ⟨Int.le_refl 0, exceeded⟩
    exact Int.le_trans unused limited
  · rw [same] at allowed
    exact Int.not_lt.mp fun exceeded => allowed ⟨limited, exceeded⟩
  · rw [strict] at suspended
    cases suspended

/-- The entry an act of the child leaves. -/
def AuthAct.tupleAct : AuthAct → Option TupleAct
  | .newTuples => some .newTuples
  | .authReq slot _ => some (.authReq slot)
  | .checked ok => some (.checked ok)
  | .saiReq _ _ | .idReq | .authFailRep | .stateChg _ | .useTuple _ | .term
  | .parentEvent _ _ => none

section Child

variable {P : Type*}

/-- What the tuples require of a parent: its log is seen through `acts`, what its child has reported
through `said`; it does nothing to the tuples, and it only asks for ciphering, with a security
context, when its child has not failed. -/
structure TupleParent (ifc : AuthIface P) (acts : P → List TupleAct)
    (said : P → AuthFsmResult → Prop) : Prop where
  record : ∀ act p, acts (ifc.record act p) = acts p ++ act.tupleAct.toList
  event : ∀ result data p, said (ifc.record (.parentEvent result data) p) result
  tuples : ∀ result data vsub p,
    (ifc.notify result data vsub p).1.tupleState = vsub.tupleState
  failure : ∀ data vsub p, acts (ifc.notify .failure data vsub p).2 = acts p
  success : ∀ result data vsub p, said p result →
    acts (ifc.notify result data vsub p).2 = acts p ∨
      acts (ifc.notify result data vsub p).2 = acts p ++ [.ciphMode] ∧ vsub.secCtx ≠ .none ∧
        said (ifc.notify result data vsub p).2 result

/-- Nothing has happened to the tuples, and the instance is as it may be. -/
structure AuthQuiet (cfg : VlrCfg) (acts : P → List TupleAct) (c c' : AuthCtx P) : Prop where
  inst : InstOk cfg c'.inst
  tuples : c'.vsub.tupleState = c.vsub.tupleState
  acts : acts c'.parent = acts c.parent

/-- The grounds that come from the child. -/
def Grounds.FromChild (said : AuthFsmResult → Prop) : Grounds → Prop
  | .authenticated => said .passed
  | .noAuthInfo => said .noAuthInfo
  | .reused | .notAttempted | .repeated => False

theorem Grounds.FromChild.hold {said : AuthFsmResult → Prop} {grounds : Grounds}
    (fromChild : grounds.FromChild said) (cfg : VlrCfg) (attempted : Bool) :
    grounds.Hold cfg attempted said := by
  cases grounds with
  | authenticated | noAuthInfo => exact fromChild
  | reused | notAttempted | repeated => exact fromChild.elim

/-- What the child has done is one step on the tuples. -/
structure AuthStep (cfg : VlrCfg) (acts : P → List TupleAct) (said : P → AuthFsmResult → Prop)
    (c c' : AuthCtx P) : Prop where
  inst : InstOk cfg c'.inst
  step : ∃ new grounds,
    TupleStep cfg c.vsub.tupleState c'.vsub.tupleState new grounds ∧
      acts c'.parent = acts c.parent ++ new ∧
      ∀ ground ∈ grounds, ground.FromChild (said c'.parent)

variable {ifc : AuthIface P} {acts : P → List TupleAct} {said : P → AuthFsmResult → Prop}
  {cfg : VlrCfg} {c c' c'' : AuthCtx P}

/-- An end changes nothing of the instance that counts, as there is no second one. -/
theorem authFsmInstTerm_ok (ifc : AuthIface P) (data : Option Nat)
    (limit : c.inst.authTupleMaxReuseCount = 0 ∨
      c.inst.authTupleMaxReuseCount = cfg.authTupleMaxReuseCount ∨
        cfg.authReuseOldSetsOnError = true) : InstOk cfg (authFsmInstTerm ifc data c).inst := by
  refine ⟨?_, fun alive => ?_⟩
  · unfold authFsmInstTerm
    split <;> exact limit
  · rw [authFsmInstTerm_terminating] at alive
    cases alive

theorem AuthQuiet.trans (first : AuthQuiet cfg acts c c') (second : AuthQuiet cfg acts c' c'') :
    AuthQuiet cfg acts c c'' :=
  ⟨second.inst, second.tuples.trans first.tuples, second.acts.trans first.acts⟩

theorem AuthQuiet.step (quiet : AuthQuiet cfg acts c c') : AuthStep cfg acts said c c' := by
  refine ⟨quiet.inst, [], none, ?_, ?_, nofun⟩
  · rw [quiet.tuples]
    exact .quiet
  · rw [quiet.acts, List.append_nil]

theorem AuthStep.after (first : AuthQuiet cfg acts c c') (second : AuthStep cfg acts said c' c'') :
    AuthStep cfg acts said c c'' := by
  obtain ⟨new, grounds, taken, grown, held⟩ := second.step
  refine ⟨second.inst, new, grounds, ?_, ?_, held⟩
  · rw [← first.tuples]
    exact taken
  · rw [grown, first.acts]

section Operations

variable (lawful : TupleParent ifc acts said)

include lawful

theorem record_quiet {act : AuthAct} (silent : act.tupleAct = none) (ok : InstOk cfg c.inst) :
    AuthQuiet cfg acts c (c.record ifc act) := by
  refine ⟨ok, rfl, ?_⟩
  rw [record_parent, lawful.record, silent]
  exact List.append_nil _

theorem Requested.acts_eq {new : AuthState} (asked : Requested ifc new c c') :
    acts c'.parent = acts c.parent := by
  rcases asked.parent with once | reported
  · simp [once, lawful.record, AuthAct.tupleAct]
  · simp [reported, lawful.record, AuthAct.tupleAct]

/-- A state change touches neither the tuples nor what the end of the instance will be. -/
theorem authFsmStateChg_quiet (new : AuthState) (timeout : Option Nat) (ok : InstOk cfg c.inst) :
    AuthQuiet cfg acts c (authFsmStateChg ifc new timeout c) := by
  obtain ⟨asked, event⟩ := authFsmStateChg_requested ifc new timeout c
  refine ⟨⟨asked.limit ▸ ok.limit, fun alive => ?_⟩, by rw [asked.vsub], asked.acts_eq lawful⟩
  rw [event]
  exact ok.initial (asked.terminating ▸ alive)

/-- The end of an instance that reports a failure, or that has ended before. -/
theorem authFsmInstTerm_quiet (data : Option Nat) (ok : InstOk cfg c.inst) :
    AuthQuiet cfg acts c (authFsmInstTerm ifc data c) := by
  have inst := authFsmInstTerm_ok ifc data ok.limit
  cases running : c.inst.fi.terminating with
  | true =>
      rw [authFsmInstTerm_of_terminating running]
      exact ⟨ok, rfl, rfl⟩
  | false =>
      obtain ⟨-, parent, vsub⟩ := authFsmInstTerm_eq running
      rw [ok.initial running] at parent vsub
      refine ⟨inst, ?_, ?_⟩
      · rw [vsub]
        exact lawful.tuples _ _ _ _
      · rw [parent]
        unfold AuthIface.finish
        rw [lawful.failure, lawful.record, lawful.record]
        simp [AuthAct.tupleAct]

/-- `auth_fsm_term()` with a failure. -/
theorem authFsmTerm_failure_quiet (cause : Nat) (ok : InstOk cfg c.inst) :
    AuthQuiet cfg acts c (authFsmTerm ifc .failure cause c) := by
  obtain ⟨_, d, asked, event, same⟩ := authFsmTerm_requested ifc .failure cause c
  rw [same]
  have marked : AuthQuiet cfg acts c d :=
    ⟨⟨asked.limit ▸ ok.limit, fun _ => event⟩, by rw [asked.vsub], asked.acts_eq lawful⟩
  exact marked.trans (authFsmInstTerm_quiet lawful _ marked.inst)

/-- `auth_fsm_term()` with any result: the parent may ask for ciphering. -/
theorem authFsmTerm_asks (result : AuthFsmResult) (cause : Nat) (ok : InstOk cfg c.inst) :
    InstOk cfg (authFsmTerm ifc result cause c).inst ∧
      (authFsmTerm ifc result cause c).vsub.tupleState = c.vsub.tupleState ∧
      (acts (authFsmTerm ifc result cause c).parent = acts c.parent ∨
        acts (authFsmTerm ifc result cause c).parent = acts c.parent ++ [.ciphMode] ∧
          c.vsub.secCtx ≠ .none ∧ said (authFsmTerm ifc result cause c).parent result) := by
  obtain ⟨_, d, asked, event, same⟩ := authFsmTerm_requested ifc result cause c
  have inst := authFsmInstTerm_ok ifc (some cause) (asked.limit ▸ ok.limit)
  have kept := asked.acts_eq lawful
  rw [same, ← asked.vsub]
  refine ⟨inst, ?_⟩
  cases running : d.inst.fi.terminating with
  | true =>
      rw [authFsmInstTerm_of_terminating running]
      exact ⟨rfl, Or.inl kept⟩
  | false =>
      obtain ⟨-, parent, vsub⟩ := authFsmInstTerm_eq running
      rw [event] at parent vsub
      have noted : acts (ifc.record (.parentEvent result (some cause))
          (ifc.record .term d.parent)) = acts c.parent := by
        rw [lawful.record, lawful.record, ← kept]
        simp [AuthAct.tupleAct]
      refine ⟨?_, ?_⟩
      · rw [vsub]
        exact lawful.tuples _ _ _ _
      · rw [parent]
        unfold AuthIface.finish
        rcases lawful.success result (some cause) d.vsub _ (lawful.event result (some cause)
          (ifc.record .term d.parent)) with silent | ⟨asks, established, told⟩
        · exact Or.inl (silent.trans noted)
        · exact Or.inr ⟨by rw [← noted]; exact asks, established, told⟩

/-- `auth_fsm_term()` of an authentication that has not passed. -/
theorem authFsmTerm_tuples {result : AuthFsmResult} (unsuccessful : result ≠ .passed) (cause : Nat)
    (ok : InstOk cfg c.inst) : AuthStep cfg acts said c (authFsmTerm ifc result cause c) := by
  cases result with
  | passed => exact absurd rfl unsuccessful
  | failure => exact (authFsmTerm_failure_quiet lawful cause ok).step
  | noAuthInfo =>
      obtain ⟨inst, tuples, silent | ⟨asked, context, told⟩⟩ :=
        authFsmTerm_asks lawful .noAuthInfo cause ok
      · exact AuthQuiet.step ⟨inst, tuples, silent⟩
      · refine ⟨inst, [.ciphMode], some .noAuthInfo, ?_, asked, ?_⟩
        · rw [tuples]
          exact .ciphered .noAuthInfo nofun nofun fun _ => context
        · rintro _ ⟨rfl⟩
          exact told

/-- `_vlr_subscr_authenticate()` sends a request, or the procedure ends. -/
theorem vlrSubscrAuthenticate_cases (ok : InstOk cfg c.inst) :
    AuthQuiet cfg acts c (vlrSubscrAuthenticate ifc c) ∨
      ∃ slot, Reusable cfg c.vsub slot ∧ InstOk cfg (vlrSubscrAuthenticate ifc c).inst ∧
        (vlrSubscrAuthenticate ifc c).vsub.tupleState = (c.vsub.challenged slot).tupleState ∧
        acts (vlrSubscrAuthenticate ifc c).parent = acts c.parent ++ [.authReq slot] := by
  unfold vlrSubscrAuthenticate
  split
  · exact Or.inl (authFsmTerm_failure_quiet lawful _ ok)
  · rename_i slot vsub taken
    unfold vlrSubscrGetAuthTuple at taken
    obtain ⟨found, next, same⟩ := Option.map_eq_some_iff.mp taken
    obtain ⟨rfl, rfl⟩ := Prod.mk.inj same
    refine Or.inr ⟨found, ok.reusable next, ⟨ok.limit, ok.initial⟩, rfl, ?_⟩
    simp only [record_parent, lawful.record]
    simp [AuthAct.tupleAct]

theorem vlrSubscrAuthenticate_tuples (ok : InstOk cfg c.inst) :
    AuthStep cfg acts said c (vlrSubscrAuthenticate ifc c) := by
  rcases vlrSubscrAuthenticate_cases lawful ok with quiet | ⟨slot, reusable, inst, tuples, asked⟩
  · exact quiet.step
  · refine ⟨inst, [.authReq slot], none, ?_, asked, nofun⟩
    rw [tuples]
    exact .challenge slot reusable

/-- `vlr_subscr_update_tuples()`, a state change, and the request with one of the new tuples. -/
theorem updateTuples_authenticate_tuples (gsup : Gsup) (new : AuthState) (timeout : Option Nat)
    (ok : InstOk cfg c.inst) :
    AuthStep cfg acts said c
      (vlrSubscrAuthenticate ifc (authFsmStateChg ifc new timeout (c.updateTuples ifc gsup))) := by
  have updated : acts (c.updateTuples ifc gsup).parent = acts c.parent ++ gsup.tupleActs := by
    unfold AuthCtx.updateTuples Gsup.tupleActs
    split
    · exact (List.append_nil _).symm
    · exact lawful.record _ _
  have renewed : InstOk cfg (c.updateTuples ifc gsup).inst := by
    rw [updateTuples_inst]
    exact ok
  have moved := authFsmStateChg_quiet lawful new timeout renewed
  have same : (authFsmStateChg ifc new timeout (c.updateTuples ifc gsup)).vsub.tupleState =
      vlrSubscrUpdateTuples c.vsub.tupleState gsup := by
    rw [moved.tuples, updateTuples_vsub, updateTuples_tupleState]
  have listed := moved.acts.trans updated
  have kept := moved.inst
  generalize authFsmStateChg ifc new timeout (c.updateTuples ifc gsup) = d at same listed kept ⊢
  rcases vlrSubscrAuthenticate_cases lawful kept with
    quiet | ⟨slot, reusable, inst, tuples, asked⟩
  · refine ⟨quiet.inst, gsup.tupleActs, none, ?_, quiet.acts.trans listed, nofun⟩
    rw [quiet.tuples, same]
    exact .update gsup
  · refine ⟨inst, gsup.tupleActs ++ [.authReq slot], none, ?_, ?_, nofun⟩
    · rw [tuples, challenged_tupleState, same]
      refine .updateChallenge gsup slot ?_
      rw [← same]
      exact reusable
    · rw [asked, listed, List.append_assoc]

/-- A response is judged: if it is right the parent is told, and otherwise the child asks for the
IMSI or fails. -/
theorem authFsmVerdict_tuples (cause : RejectCause) (par : AuthRespPar)
    (ok : InstOk cfg c.inst) :
    AuthStep cfg acts said c (authFsmVerdict ifc cfg cause par c) := by
  obtain ⟨sameVerdict, sameRecord⟩ :=
    checkAuthResp_tupleState c.vsub par.isR99 par.isUtran par.res
  have stepped : TupleStep cfg c.vsub.tupleState _ _ none :=
    .checked par.isR99 par.isUtran par.res
  have verified : _ → TupleStep cfg c.vsub.tupleState _ [.checked true, .ciphMode] _ :=
    .verified par.isR99 par.isUtran par.res
  rw [sameVerdict, sameRecord] at stepped verified
  unfold authFsmVerdict
  generalize checkAuthResp c.vsub par.isR99 par.isUtran par.res = judged at stepped verified
  dsimp only
  have noted : acts (AuthCtx.record ifc (.checked judged.1) { c with vsub := judged.2 }).parent =
      acts c.parent ++ [.checked judged.1] := lawful.record _ _
  split
  · rename_i right
    obtain ⟨inst, tuples, silent | ⟨asked, -, told⟩⟩ := authFsmTerm_asks lawful .passed 0
      (c := AuthCtx.record ifc (.checked judged.1) { c with vsub := judged.2 }) ok
    · refine ⟨inst, [.checked judged.1], none, ?_, silent.trans noted, nofun⟩
      rw [tuples]
      exact stepped
    · refine ⟨inst, [.checked true, .ciphMode], some .authenticated, ?_, ?_, ?_⟩
      · rw [tuples]
        exact verified right
      · rw [asked, noted, right, List.append_assoc]
        rfl
      · rintro _ ⟨rfl⟩
        exact told
  · have goesOn : ∀ d : AuthCtx P, InstOk cfg d.inst → AuthQuiet cfg acts d
        (if !d.inst.byImsi then
          authFsmStateChg ifc .waitIdImsi (authFsmStateTdef cfg .waitIdImsi) (d.record ifc .idReq)
        else authFsmTerm ifc .failure cause.code d) := by
      intro d ok
      split
      · exact (record_quiet lawful rfl ok).trans (authFsmStateChg_quiet lawful _ _ ok)
      · exact authFsmTerm_failure_quiet lawful _ ok
    have quiet := goesOn (AuthCtx.record ifc (.checked judged.1) { c with vsub := judged.2 }) ok
    refine ⟨quiet.inst, [.checked judged.1], none, ?_, quiet.acts.trans noted, nofun⟩
    rw [quiet.tuples]
    exact stepped

/-- Every event of the authentication is one step on the tuples. -/
theorem authFsmDispatch_tuples (e : AuthEvent) (ok : InstOk cfg c.inst) :
    AuthStep cfg acts said c (authFsmDispatch ifc cfg e c) := by
  refine AuthMoves.dispatch (I := AuthQuiet cfg acts c) {
    start := ⟨ok, rfl, rfl⟩
    done := AuthQuiet.step
    saiReq := fun _ _ quiet => quiet.trans (record_quiet lawful rfl quiet.inst)
    stateChg := fun _ _ quiet => quiet.trans (authFsmStateChg_quiet lawful _ _ quiet.inst)
    limit := fun allowed quiet =>
      ⟨⟨Or.inr allowed, quiet.inst.initial⟩, quiet.tuples, quiet.acts⟩
    learn := fun imsi quiet => ⟨⟨quiet.inst.limit, quiet.inst.initial⟩,
      (learnImsi_tupleState _ _).trans quiet.tuples, quiet.acts⟩
    resyncError := fun _ _ => authFsmTerm_failure_quiet lawful _ ok
    failed := fun unsuccessful _ quiet =>
      (authFsmTerm_tuples lawful unsuccessful _ quiet.inst).after quiet
    challenge := fun new timeout quiet => ?_
    renew := fun _ _ _ quiet =>
      (updateTuples_authenticate_tuples lawful _ _ _ quiet.inst).after quiet
    verdict := fun cause _ => authFsmVerdict_tuples lawful cause _ ok }
  have asked := quiet.trans (authFsmStateChg_quiet lawful new timeout quiet.inst)
  exact (vlrSubscrAuthenticate_tuples lawful asked.inst).after asked

/-- Any end of an instance as it is while it runs. -/
theorem authFsmInstTerm_tuples (data : Option Nat) (ok : InstOk cfg c.inst) :
    AuthStep cfg acts said c (authFsmInstTerm ifc data c) :=
  (authFsmInstTerm_quiet lawful data ok).step

theorem authFsmTimeout_tuples (ok : InstOk cfg c.inst) :
    AuthStep cfg acts said c (authFsmTimeout ifc c) := by
  unfold authFsmTimeout
  split
  · exact AuthQuiet.step ⟨ok, rfl, rfl⟩
  · exact authFsmInstTerm_tuples lawful _ ok

end Operations

end Child

end OsmoMsc.Vlr
