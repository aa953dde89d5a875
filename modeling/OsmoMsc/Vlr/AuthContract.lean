/-
Module: OsmoMsc.Vlr.AuthContract
Purpose: What an authentication instance can do to its parent, said once for every parent.  A
  contract names what the parent knows while the child runs (`A`), once a response has been verified
  (`B`), and after it has handled the child's end (`D`).  If the parent's own steps respect it,
  every event takes a running child to a running or to a finished one.
Trusted boundary: none
Main exports: AuthAct.isEnd, Keeps, AuthContract, Running, Finished, authFsmDispatch_contract,
  authFsmTimeout_contract, AuthHost.Lawful, Hosted
-/
import OsmoMsc.Vlr.AuthMoves

namespace OsmoMsc.Vlr

open Library

variable {P : Type*}

/-- The event the parent gets. -/
def AuthAct.isParentEvent : AuthAct → Bool
  | .parentEvent _ _ => true
  | _ => false

/-- An act that belongs to the end of an instance. -/
def AuthAct.isEnd (act : AuthAct) : Bool :=
  act = .term || act.isParentEvent

/-- Noting an act of a child that neither ends nor verifies a response keeps `R`. -/
def Keeps (ifc : AuthIface P) (R : P → Prop) : Prop :=
  ∀ act p, act.isEnd = false → act ≠ .checked true → R p → R (ifc.record act p)

/-- `F` is the data an unsuccessful end may carry; every reject cause must be among it. -/
structure AuthContract (ifc : AuthIface P) (F : Option Nat → Prop) (A B D : P → Prop) :
    Prop where
  keepsRunning : Keeps ifc A
  keepsVerified : Keeps ifc B
  causes : ∀ cause, cause ≠ 0 → F (some cause)
  failed : ∀ result data vsub p, result ≠ .passed → F data → A p →
    D (ifc.finish result data vsub p).2
  passed : ∀ vsub p, B p → D (ifc.finish .passed (some 0) vsub p).2

/-- A running child of a parent in `R`. -/
structure Running (R : P → Prop) (c : AuthCtx P) : Prop where
  alive : c.inst.fi.terminating = false
  initial : c.inst.parentTermEvent = .failure
  parent : R c.parent

/-- A child that has ended, with its parent in `D`. -/
structure Finished (D : P → Prop) (c : AuthCtx P) : Prop where
  ended : c.inst.fi.terminating = true
  parent : D c.parent

/-! ### Operations -/

variable {data : Option Nat}

section Operations

variable {ifc : AuthIface P} {F : Option Nat → Prop} {R A B D : P → Prop} {c : AuthCtx P}

theorem Running.record (running : Running R c) (keeps : Keeps ifc R) (act : AuthAct)
    (inner : act.isEnd = false) (unverified : act ≠ .checked true) : Running R (c.record ifc act) :=
  ⟨running.alive, running.initial, keeps act _ inner unverified running.parent⟩

/-- A request for a state change keeps what the parent knows. -/
theorem Requested.keeps {new : AuthState} {d : AuthCtx P} (asked : Requested ifc new c d)
    (keeps : Keeps ifc R) (known : R c.parent) : R d.parent := by
  have noted : R (ifc.record (.stateChg new) c.parent) := keeps _ _ rfl nofun known
  rcases asked.parent with once | reported
  · rw [once]
    exact noted
  · rw [reported]
    exact keeps _ _ rfl nofun noted

theorem Running.stateChg (keeps : Keeps ifc R) (new : AuthState) (timeout : Option Nat)
    (running : Running R c) : Running R (authFsmStateChg ifc new timeout c) := by
  obtain ⟨asked, event⟩ := authFsmStateChg_requested ifc new timeout c
  exact ⟨asked.terminating ▸ running.alive, event ▸ running.initial,
    asked.keeps keeps running.parent⟩

/-- An end from outside, or by a timer, is an unsuccessful one. -/
theorem authFsmInstTerm_finished (contract : AuthContract ifc F A B D) (allowed : F data)
    (running : Running A c) : Finished D (authFsmInstTerm ifc data c) := by
  obtain ⟨ended, parent, -⟩ := authFsmInstTerm_eq running.alive
  refine ⟨ended, ?_⟩
  rw [parent, running.initial]
  exact contract.failed .failure data c.vsub c.parent nofun allowed running.parent

/-- The state change of `auth_fsm_term()` comes before the end and keeps what the parent knows. -/
theorem authFsmTerm_eq (keeps : Keeps ifc R) (result : AuthFsmResult) (cause : Nat)
    (running : Running R c) :
    ∃ p vsub, R p ∧ (authFsmTerm ifc result cause c).parent =
      (ifc.finish result (some cause) vsub p).2 := by
  obtain ⟨_, d, asked, event, same⟩ := authFsmTerm_requested ifc result cause c
  obtain ⟨-, parent, -⟩ :=
    authFsmInstTerm_eq (asked.terminating.trans running.alive)
  rw [event] at parent
  exact ⟨_, _, asked.keeps keeps running.parent, same ▸ parent⟩

theorem authFsmTerm_failed (contract : AuthContract ifc F A B D) {result : AuthFsmResult}
    {cause : Nat} (unsuccessful : result ≠ .passed) (isCause : cause ≠ 0) (running : Running A c) :
    Finished D (authFsmTerm ifc result cause c) := by
  obtain ⟨p, vsub, known, parent⟩ := authFsmTerm_eq contract.keepsRunning result cause running
  refine ⟨authFsmTerm_terminating, ?_⟩
  rw [parent]
  exact contract.failed result _ vsub p unsuccessful (contract.causes cause isCause) known

theorem authFsmTerm_passed (contract : AuthContract ifc F A B D) (running : Running B c) :
    Finished D (authFsmTerm ifc .passed 0 c) := by
  obtain ⟨p, vsub, known, parent⟩ := authFsmTerm_eq contract.keepsVerified .passed 0 running
  refine ⟨authFsmTerm_terminating, ?_⟩
  rw [parent]
  exact contract.passed vsub p known

theorem updateTuples_keeps (keeps : Keeps ifc R) (gsup : Gsup) (known : R c.parent) :
    R (c.updateTuples ifc gsup).parent := by
  unfold AuthCtx.updateTuples
  split
  · exact known
  · exact keeps _ _ rfl nofun known

theorem Running.updateTuples (keeps : Keeps ifc R) (gsup : Gsup) (running : Running R c) :
    Running R (c.updateTuples ifc gsup) := by
  refine ⟨?_, ?_, updateTuples_keeps keeps gsup running.parent⟩
  · rw [updateTuples_inst]
    exact running.alive
  · rw [updateTuples_inst]
    exact running.initial

/-- A refused state change of an ended child is noted, nothing else. -/
theorem Finished.stateChg (keeps : Keeps ifc D) (new : AuthState) (timeout : Option Nat)
    (finished : Finished D c) : Finished D (authFsmStateChg ifc new timeout c) := by
  obtain ⟨asked, -⟩ := authFsmStateChg_requested ifc new timeout c
  exact ⟨asked.terminating.trans finished.ended, asked.keeps keeps finished.parent⟩

/-- Ending an ended child asks for the final state change again, and nothing else. -/
theorem Finished.term (keeps : Keeps ifc D) (result : AuthFsmResult) (cause : Nat)
    (finished : Finished D c) : Finished D (authFsmTerm ifc result cause c) := by
  obtain ⟨_, d, asked, -, same⟩ := authFsmTerm_requested ifc result cause c
  have ended := asked.terminating.trans finished.ended
  rw [same, authFsmInstTerm_of_terminating ended]
  exact ⟨ended, asked.keeps keeps finished.parent⟩

theorem Finished.updateTuples (keeps : Keeps ifc D) (gsup : Gsup) (finished : Finished D c) :
    Finished D (c.updateTuples ifc gsup) := by
  refine ⟨?_, updateTuples_keeps keeps gsup finished.parent⟩
  rw [updateTuples_inst]
  exact finished.ended

theorem Finished.authenticate (keeps : Keeps ifc D) (finished : Finished D c) :
    Finished D (vlrSubscrAuthenticate ifc c) := by
  unfold vlrSubscrAuthenticate
  split
  · exact finished.term keeps _ _
  · exact ⟨finished.ended, keeps _ _ rfl nofun (keeps _ _ rfl nofun finished.parent)⟩

end Operations

/-! ### Events, timers -/

section Events

variable {ifc : AuthIface P} {F : Option Nat → Prop} {A B D : P → Prop} {c : AuthCtx P}
  (cfg : VlrCfg) (contract : AuthContract ifc F A B D)

include contract

theorem vlrSubscrAuthenticate_contract (running : Running A c) :
    Running A (vlrSubscrAuthenticate ifc c) ∨ Finished D (vlrSubscrAuthenticate ifc c) := by
  unfold vlrSubscrAuthenticate
  split
  · exact Or.inr (authFsmTerm_failed contract nofun (by simp) running)
  · rename_i slot _ _
    have counted := contract.keepsRunning (.useTuple slot) _ rfl nofun running.parent
    exact Or.inl ⟨running.alive, running.initial, contract.keepsRunning _ _ rfl nofun counted⟩

/-- A response is judged; then the child ends, or asks for the IMSI. -/
theorem authFsmVerdict_contract (verified : ∀ p, A p → B (ifc.record (.checked true) p))
    (cause : RejectCause) (par : AuthRespPar) (running : Running A c) :
    Running A (authFsmVerdict ifc cfg cause par c) ∨
      Finished D (authFsmVerdict ifc cfg cause par c) := by
  unfold authFsmVerdict
  generalize checkAuthResp c.vsub par.isR99 par.isUtran par.res = judged
  obtain ⟨ok, vsub⟩ := judged
  cases ok with
  | true =>
      have passes : Running B (AuthCtx.record ifc (.checked true) { c with vsub := vsub }) :=
        ⟨running.alive, running.initial, verified _ running.parent⟩
      exact Or.inr (authFsmTerm_passed contract passes)
  | false =>
      have continues : Running A (AuthCtx.record ifc (.checked false) { c with vsub := vsub }) :=
        ⟨running.alive, running.initial, contract.keepsRunning _ _ rfl nofun running.parent⟩
      simp only [Bool.false_eq_true, if_false]
      split
      · exact Or.inl (.stateChg contract.keepsRunning _ _
          (continues.record contract.keepsRunning _ rfl nofun))
      · exact Or.inr (authFsmTerm_failed contract nofun (by simp) continues)

/-- Every event leaves a running child running or finished.  The re-sync handler goes on after it
has ended the child in its error branch; that is harmless to a parent whose `D` survives further
notes. -/
theorem authFsmDispatch_contract {e : AuthEvent}
    (verified : ∀ par, e = .msAuthResp par → ∀ p, A p → B (ifc.record (.checked true) p))
    (survives : c.inst.fi.state = .needsAuthWaitSaiResync → saiProcedureError e = true →
      Keeps ifc D)
    (running : Running A c) :
    Running A (authFsmDispatch ifc cfg e c) ∨ Finished D (authFsmDispatch ifc cfg e c) := by
  have keepsRunning := contract.keepsRunning
  refine AuthMoves.dispatch (I := fun d => Running A d ∨ Finished D d ∧ Keeps ifc D)
    (J := fun d => Running A d ∨ Finished D d) {
      start := Or.inl running
      done := Or.imp_right And.left
      saiReq := ?_, stateChg := ?_, limit := ?_, learn := ?_
      resyncError := fun waiting error =>
        Or.inr ⟨authFsmTerm_failed contract nofun (by simp) running, survives waiting error⟩
      failed := ?_, challenge := ?_, renew := ?_
      verdict := fun cause response =>
        authFsmVerdict_contract cfg contract (verified _ response) cause _ running }
  · rintro d auts rand (running | ⟨finished, keeps⟩)
    · exact Or.inl (running.record keepsRunning _ rfl nofun)
    · exact Or.inr ⟨⟨finished.ended, keeps _ _ rfl nofun finished.parent⟩, keeps⟩
  · rintro d new timeout - (running | ⟨finished, keeps⟩)
    · exact Or.inl (running.stateChg keepsRunning _ _)
    · exact Or.inr ⟨finished.stateChg keeps _ _, keeps⟩
  · rintro d limit - (running | ⟨finished, keeps⟩)
    · exact Or.inl ⟨running.alive, running.initial, running.parent⟩
    · exact Or.inr ⟨⟨finished.ended, finished.parent⟩, keeps⟩
  · rintro d imsi (running | ⟨finished, keeps⟩)
    · exact Or.inl ⟨running.alive, running.initial, running.parent⟩
    · exact Or.inr ⟨⟨finished.ended, finished.parent⟩, keeps⟩
  · rintro d result cause unsuccessful isCause (running | ⟨finished, keeps⟩)
    · exact Or.inr (authFsmTerm_failed contract unsuccessful isCause running)
    · exact Or.inr (finished.term keeps _ _)
  · rintro d new timeout (running | ⟨finished, keeps⟩)
    · exact vlrSubscrAuthenticate_contract contract (running.stateChg keepsRunning _ _)
    · exact Or.inr ((finished.stateChg keeps _ _).authenticate keeps)
  · rintro d gsup new timeout - (running | ⟨finished, keeps⟩)
    · exact vlrSubscrAuthenticate_contract contract
        ((running.updateTuples keepsRunning _).stateChg keepsRunning _ _)
    · exact Or.inr (((finished.updateTuples keeps _).stateChg keeps _ _).authenticate keeps)

/-- So does the timer, if the parent can bear the number of the timer as data. -/
theorem authFsmTimeout_contract (allowed : ∀ T, c.inst.fi.timer = some T → F (some T))
    (running : Running A c) :
    Running A (authFsmTimeout ifc c) ∨ Finished D (authFsmTimeout ifc c) := by
  unfold authFsmTimeout
  split
  · exact Or.inl running
  · rename_i T armed
    exact Or.inr (authFsmInstTerm_finished contract (allowed T armed) running)

end Events

/-! ### Procedures with a child -/

/-- Putting the record and the child back stores the child and does not disturb `R`. -/
structure AuthHost.Lawful (host : AuthHost P) (R : P → Prop) : Prop where
  child_put : ∀ vsub child p, host.child (host.put vsub child p) = child
  keeps : ∀ vsub child p, R p → R (host.put vsub child p)

/-- A procedure between two inputs: a child that is still there is running, with the event set that
its parent gave it. -/
structure Hosted (host : AuthHost P) (R : P → Prop) (p : P) : Prop where
  parent : R p
  child : ∀ inst, host.child p = some inst →
    inst.fi.terminating = false ∧ inst.parentTermEvent = .failure

section Hosts

variable {host : AuthHost P} {ifc : AuthIface P} {F : Option Nat → Prop} {R B : P → Prop} {p : P}

theorem Hosted.of_noChild (parent : R p) (gone : host.child p = none) : Hosted host R p :=
  ⟨parent, fun inst there => by simp [gone] at there⟩

/-- The child may stay or go. -/
theorem Hosted.of_child {p' : P} (hosted : Hosted host R p) (parent : R p')
    (child : host.child p' = host.child p ∨ host.child p' = none) : Hosted host R p' := by
  rcases child with same | gone
  · exact ⟨parent, same ▸ hosted.child⟩
  · exact .of_noChild parent gone

variable (lawful : host.Lawful R)
include lawful

theorem Hosted.run {act : AuthCtx P → AuthCtx P}
    (keeps : ∀ c, host.child p = some c.inst → Running R c →
      Running R (act c) ∨ Finished R (act c))
    (hosted : Hosted host R p) : Hosted host R (host.run act p) := by
  unfold AuthHost.run
  split
  · exact hosted
  · rename_i inst there
    obtain ⟨alive, initial⟩ := hosted.child inst there
    have before : Running R { inst := inst, vsub := host.vsub p, parent := p } :=
      ⟨alive, initial, hosted.parent⟩
    rcases keeps _ there before with running | finished
    · refine ⟨lawful.keeps _ _ _ running.parent, fun inst same => ?_⟩
      simp only [lawful.child_put, running.alive, Bool.false_eq_true, if_false,
        Option.some.injEq] at same
      exact same ▸ ⟨running.alive, running.initial⟩
    · refine Hosted.of_noChild (lawful.keeps _ _ _ finished.parent) ?_
      simp [lawful.child_put, finished.ended]

variable (contract : AuthContract ifc F R B R)
include contract

theorem Hosted.dispatch (cfg : VlrCfg) (e : AuthEvent)
    (verified : ∀ p, R p → B (ifc.record (.checked true) p)) (hosted : Hosted host R p) :
    Hosted host R (host.run (authFsmDispatch ifc cfg e) p) :=
  hosted.run lawful fun _ _ running =>
    authFsmDispatch_contract cfg contract (fun _ _ => verified)
      (fun _ _ => contract.keepsRunning) running

theorem Hosted.timeout
    (allowed : ∀ inst T, host.child p = some inst → inst.fi.timer = some T → F (some T))
    (hosted : Hosted host R p) : Hosted host R (host.run (authFsmTimeout ifc) p) :=
  hosted.run lawful fun _ there running =>
    authFsmTimeout_contract contract (fun T armed => allowed _ T there armed) running

theorem Hosted.instTerm (allowed : F data) (hosted : Hosted host R p) :
    Hosted host R (host.run (authFsmInstTerm ifc data) p) :=
  hosted.run lawful fun _ _ running =>
    Or.inr (authFsmInstTerm_finished contract allowed running)

end Hosts

end OsmoMsc.Vlr
