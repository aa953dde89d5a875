/-
Module: OsmoMsc.Vlr.AuthMoves
Purpose: What an event can do to an authentication instance, said once.  The action functions are
  made of a few moves: a request for a state, an end, an authentication request, the renewal of the
  tuples and the verdict on a response.  `AuthMoves` asks of a predicate `I` before the main move
  and a predicate `J` after it that each move respects them; then every event leads to `J`.
Trusted boundary: none
Main exports: Requested, authFsmStateChg_requested, authFsmTerm_requested, authFsmInstTerm_eq,
  authFsmVerdict, AuthMoves, AuthMoves.dispatch
-/
import OsmoMsc.Vlr.AuthFsm

namespace OsmoMsc.Vlr

open Library

variable {P : Type*} {ifc : AuthIface P} {c d : AuthCtx P}

/-! ### Operations -/

@[simp] theorem record_inst (act : AuthAct) : (c.record ifc act).inst = c.inst := rfl

@[simp] theorem record_vsub (act : AuthAct) : (c.record ifc act).vsub = c.vsub := rfl

@[simp] theorem record_parent (act : AuthAct) :
    (c.record ifc act).parent = ifc.record act c.parent := rfl

@[simp] theorem updateTuples_inst (gsup : Gsup) : (c.updateTuples ifc gsup).inst = c.inst := by
  unfold AuthCtx.updateTuples
  split <;> rfl

@[simp] theorem updateTuples_vsub (gsup : Gsup) :
    (c.updateTuples ifc gsup).vsub = vlrSubscrUpdateTuples c.vsub gsup := by
  unfold AuthCtx.updateTuples
  split <;> rfl

/-- What a request for a state change can do, whether it is granted or not: the subscriber and the
limit of the instance stay, and the parent notes the request and perhaps the report of a failure. -/
structure Requested (ifc : AuthIface P) (new : AuthState) (c c' : AuthCtx P) : Prop where
  vsub : c'.vsub = c.vsub
  limit : c'.inst.authTupleMaxReuseCount = c.inst.authTupleMaxReuseCount
  terminating : c'.inst.fi.terminating = c.inst.fi.terminating
  state : c'.inst.fi.state = new ∨ c'.inst.fi.state = c.inst.fi.state
  parent : c'.parent = ifc.record (.stateChg new) c.parent ∨
    c'.parent = ifc.record .authFailRep (ifc.record (.stateChg new) c.parent)

theorem authFsmStateChg_requested (ifc : AuthIface P) (new : AuthState) (timeout : Option Nat)
    (c : AuthCtx P) :
    Requested ifc new c (authFsmStateChg ifc new timeout c) ∧
      (authFsmStateChg ifc new timeout c).inst.parentTermEvent = c.inst.parentTermEvent := by
  unfold authFsmStateChg
  dsimp only
  split
  · exact ⟨⟨rfl, rfl, rfl, Or.inr rfl, Or.inl rfl⟩, rfl⟩
  · rename_i fi changed
    obtain ⟨-, -, rfl⟩ := Inst.stateChg_eq_some.mp changed
    unfold authFsmOnenterFailed
    split
    · split
      · exact ⟨⟨rfl, rfl, rfl, Or.inl rfl, Or.inr rfl⟩, rfl⟩
      · exact ⟨⟨rfl, rfl, rfl, Or.inl rfl, Or.inl rfl⟩, rfl⟩
    · exact ⟨⟨rfl, rfl, rfl, Or.inl rfl, Or.inl rfl⟩, rfl⟩

/-- The parent's handling of the child's end, after the end has been noted. -/
def AuthIface.finish (ifc : AuthIface P) (result : AuthFsmResult) (data : Option Nat)
    (vsub : VlrSubscr) (p : P) : VlrSubscr × P :=
  ifc.notify result data vsub (ifc.record (.parentEvent result data) (ifc.record .term p))

/-- Ending a running child: the parent handles the event that is set. -/
theorem authFsmInstTerm_eq {ifc : AuthIface P} {data : Option Nat}
    (alive : c.inst.fi.terminating = false) :
    (authFsmInstTerm ifc data c).inst.fi.terminating = true ∧
      (authFsmInstTerm ifc data c).parent =
        (ifc.finish c.inst.parentTermEvent data c.vsub c.parent).2 ∧
      (authFsmInstTerm ifc data c).vsub =
        (ifc.finish c.inst.parentTermEvent data c.vsub c.parent).1 := by
  have ends : c.inst.fi.term = some { c.inst.fi with terminating := true, timer := none } :=
    Inst.term_eq_some.mpr ⟨alive, rfl⟩
  unfold authFsmInstTerm
  rw [ends]
  exact ⟨rfl, rfl, rfl⟩

theorem authFsmInstTerm_of_terminating (ended : c.inst.fi.terminating = true)
    (data : Option Nat) : authFsmInstTerm ifc data c = c := by
  simp [authFsmInstTerm, Inst.term, ended]

theorem authFsmInstTerm_terminating (data : Option Nat) :
    (authFsmInstTerm ifc data c).inst.fi.terminating = true := by
  cases running : c.inst.fi.terminating with
  | false => exact (authFsmInstTerm_eq running).1
  | true =>
      rw [authFsmInstTerm_of_terminating running]
      exact running

/-- `auth_fsm_term()` requests the final state, sets the event of the result and ends. -/
theorem authFsmTerm_requested (ifc : AuthIface P) (result : AuthFsmResult) (cause : Nat)
    (c : AuthCtx P) :
    ∃ new d, Requested ifc new c d ∧ d.inst.parentTermEvent = result ∧
      authFsmTerm ifc result cause c = authFsmInstTerm ifc (some cause) d := by
  have asked : ∀ new, Requested ifc new c { authFsmStateChg ifc new none c with
      inst := { (authFsmStateChg ifc new none c).inst with parentTermEvent := result } } := by
    intro new
    obtain ⟨vsub, limit, terminating, state, parent⟩ :=
      (authFsmStateChg_requested ifc new none c).1
    exact ⟨vsub, limit, terminating, state, parent⟩
  cases result with
  | passed => exact ⟨_, _, asked .authenticated, rfl, rfl⟩
  | noAuthInfo | failure => exact ⟨_, _, asked .authFailed, rfl, rfl⟩

theorem authFsmTerm_terminating {result : AuthFsmResult} {cause : Nat} :
    (authFsmTerm ifc result cause c).inst.fi.terminating = true := by
  obtain ⟨_, d, -, -, same⟩ := authFsmTerm_requested ifc result cause c
  rw [same]
  exact authFsmInstTerm_terminating (some cause)

/-! ### Moves -/

/-- The instance waits for the MS to answer an authentication request. -/
def AuthState.AwaitsResponse (state : AuthState) : Prop :=
  state = .waitResp ∨ state = .waitRespResync

/-- The response branch of `auth_fsm_wait_auth_resp()` and `auth_fsm_wait_auth_resp_resync()`,
which differ in the cause of a wrong response. -/
def authFsmVerdict (ifc : AuthIface P) (cfg : VlrCfg) (cause : RejectCause) (par : AuthRespPar)
    (c : AuthCtx P) : AuthCtx P :=
  let judged := checkAuthResp c.vsub par.isR99 par.isUtran par.res
  let c := AuthCtx.record ifc (.checked judged.1) { c with vsub := judged.2 }
  if judged.1 then authFsmTerm ifc .passed 0 c
  else if !c.inst.byImsi then
    authFsmStateChg ifc .waitIdImsi (authFsmStateTdef cfg .waitIdImsi) (c.record ifc .idReq)
  else authFsmTerm ifc .failure cause.code c

/-- The moves of event `e` on the instance `c`: those before the main one keep `I`, and the main one
leads to `J`.  Only the re-sync handler goes on after an end, in its error branch. -/
structure AuthMoves (ifc : AuthIface P) (cfg : VlrCfg) (e : AuthEvent) (c : AuthCtx P)
    (I J : AuthCtx P → Prop) : Prop where
  start : I c
  done : ∀ {d}, I d → J d
  saiReq : ∀ {d} auts rand, I d → I (d.record ifc (.saiReq auts rand))
  stateChg : ∀ {d new} timeout, ¬ new.AwaitsResponse → I d → I (authFsmStateChg ifc new timeout d)
  limit : ∀ {d n}, n = cfg.authTupleMaxReuseCount ∨ cfg.authReuseOldSetsOnError = true → I d →
    I { d with inst := { d.inst with authTupleMaxReuseCount := n } }
  learn : ∀ {d} imsi, I d →
    I { d with inst := { d.inst with byImsi := true }, vsub := d.vsub.learnImsi imsi }
  resyncError : c.inst.fi.state = .needsAuthWaitSaiResync → saiProcedureError e = true →
    I (authFsmTerm ifc .failure RejectCause.networkFailure.code c)
  failed : ∀ {d result cause}, result ≠ .passed → cause ≠ 0 → I d →
    J (authFsmTerm ifc result cause d)
  challenge : ∀ {d} new timeout, I d →
    J (vlrSubscrAuthenticate ifc (authFsmStateChg ifc new timeout d))
  renew : ∀ {d gsup} new timeout, e = .hlrSaiAck gsup → I d →
    J (vlrSubscrAuthenticate ifc (authFsmStateChg ifc new timeout (d.updateTuples ifc gsup)))
  verdict : ∀ {par} cause, e = .msAuthResp par → J (authFsmVerdict ifc cfg cause par c)

namespace AuthMoves

variable {cfg : VlrCfg} {e : AuthEvent} {I J : AuthCtx P → Prop}
  (moves : AuthMoves ifc cfg e c I J)

include moves

theorem needsAuth (before : I d) : J (authFsmNeedsAuth ifc cfg d) := by
  have limited := moves.limit (Or.inl rfl) before
  unfold authFsmNeedsAuth
  dsimp only
  split
  · exact moves.challenge _ _ limited
  · exact moves.done (moves.stateChg _ (by simp [AuthState.AwaitsResponse])
      (moves.saiReq _ _ limited))

theorem waitAi : J (authFsmWaitAi ifc cfg e c) := by
  unfold authFsmWaitAi authFsmWaitAiPass
  split
  · rename_i reuse
    simp only [Bool.and_eq_true] at reuse
    exact moves.challenge _ _ (moves.limit (Or.inr reuse.1.2) moves.start)
  · split
    · split
      · exact moves.failed nofun (by simp) moves.start
      · exact moves.renew _ _ rfl moves.start
    · exact moves.failed nofun (by simp) moves.start
    · exact moves.failed nofun (by simp) moves.start
    · exact moves.done moves.start

theorem waitAuthResp : J (authFsmWaitAuthResp ifc cfg e c) := by
  unfold authFsmWaitAuthResp
  split
  · exact moves.verdict .illegalMs rfl
  · split
    · exact moves.done (moves.stateChg _ (by simp [AuthState.AwaitsResponse])
        (moves.saiReq _ _ moves.start))
    · exact moves.failed nofun (by simp) moves.start
  · exact moves.done moves.start

theorem waitAiResync (waiting : c.inst.fi.state = .needsAuthWaitSaiResync) :
    J (authFsmWaitAiResync ifc cfg e c) := by
  have first : I (if saiProcedureError e then
      authFsmTerm ifc .failure RejectCause.networkFailure.code c else c) := by
    split
    · exact moves.resyncError waiting ‹_›
    · exact moves.start
  unfold authFsmWaitAiResync
  dsimp only
  split
  · exact moves.renew _ _ rfl first
  · exact moves.failed nofun (by split <;> simp) first
  · exact moves.done first

theorem waitAuthRespResync : J (authFsmWaitAuthRespResync ifc cfg e c) := by
  unfold authFsmWaitAuthRespResync
  split
  · exact moves.verdict .synchFailure rfl
  · exact moves.failed nofun (by simp) moves.start
  · exact moves.done moves.start

theorem waitImsi : J (authFsmWaitImsi ifc cfg e c) := by
  unfold authFsmWaitImsi authFsmDispatchStart
  split
  · rename_i imsi
    have back : I (authFsmStateChg ifc .needsAuth none _) :=
      moves.stateChg none (by simp [AuthState.AwaitsResponse]) (moves.learn imsi moves.start)
    split
    · exact moves.needsAuth back
    · exact moves.done back
  · exact moves.done moves.start

/-- Every event is made of these moves. -/
theorem dispatch : J (authFsmDispatch ifc cfg e c) := by
  unfold authFsmDispatch
  split
  · split
    · exact moves.needsAuth moves.start
    · exact moves.waitAi
    · exact moves.waitAuthResp
    · exact moves.waitAiResync ‹_›
    · exact moves.waitAuthRespResync
    · exact moves.waitImsi
    all_goals exact moves.done moves.start
  · exact moves.done moves.start

end AuthMoves

end OsmoMsc.Vlr
