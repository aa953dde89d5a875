/-
Module: OsmoMsc.Vlr.AccessReqRun
Purpose: Runs of the access request procedure when authentication is required.  Until a response has
  been verified the procedure stays in one of four states that only a reject leaves.  The
  authentication child respects this as long as it is not ended by a timer with the number 0, which
  the parent reads as a cause and takes for success.
Trusted boundary: none
Main exports: PassIsVerified, arqRun_passIsVerified
-/
import OsmoMsc.Vlr.ArqFrame
import OsmoMsc.Library.Run

namespace OsmoMsc.Vlr

open Library

/-- The access request is reported as passed. -/
def ArqAct.isPass : ArqAct → Bool
  | .cmServAcc | .parentEvent true => true
  | _ => false

/-- `check_auth_resp()` has returned true. -/
def Verified (log : List ArqAct) : Prop := .auth (.checked true) ∈ log

instance (log : List ArqAct) : Decidable (Verified log) :=
  inferInstanceAs (Decidable (_ ∈ log))

/-- Every report of success comes after a verified response. -/
def PassIsVerified (log : List ArqAct) : Prop :=
  Guarded (fun before act => act.isPass = true → Verified before) log

/-- Once a response is verified, whatever is added to the log is in order. -/
theorem PassIsVerified.grow {log log' : List ArqAct} (passes : PassIsVerified log)
    (verified : Verified log) (grown : log <+: log') : PassIsVerified log' ∧ Verified log' := by
  have kept : ∀ before, log <+: before → Verified before := fun _ grown => grown.subset verified
  exact ⟨passes.extend grown fun before _ grown _ => kept before grown, kept log' grown⟩

/-! ### The invariant -/

/-- The states an access request can be in before a response is verified. -/
def ArqState.isHeld : ArqState → Bool
  | .init | .waitObtainImsi | .waitAuth | .done => true
  | _ => false

/-- The events that belong to what follows the authentication. -/
def ArqEvent.isLate : ArqEvent → Bool
  | .start _ | .idImsi _ | .auth _ _ => false
  | .ciphRes _ | .updLocRes | .traceRes | .imeiRes | .presRes | .tmsiAck => true

/-- No state before a verified response accepts a later event. -/
theorem inEvent_of_isHeld {state : ArqState} {e : ArqEvent} (held : state.isHeld = true)
    (late : e.isLate = true) : procArqVlrTable.inEvent state e = false := by
  cases state <;> simp only [ArqState.isHeld, Bool.false_eq_true] at held <;> cases e <;>
    first | rfl | exact absurd late Bool.false_ne_true

/-- What holds of an access request that must authenticate, apart from its child. -/
structure ArqSafe (s : Arq) : Prop where
  passes : PassIsVerified s.log
  held : Verified s.log ∨ s.fi.state.isHeld = true

/-- The invariant of an access request that must authenticate, with its child. -/
abbrev ArqInv (s : Arq) : Prop := Hosted arqHost ArqSafe s

section Steps

variable (cfg : VlrCfg) {par : ProcArqPar} {s : Arq}

/-- The safety of a state depends on its log and its state only. -/
theorem ArqSafe.of_eq {s' : Arq} (safe : ArqSafe s) (log : s'.log = s.log)
    (state : s'.fi.state = s.fi.state) : ArqSafe s' :=
  ⟨log ▸ safe.passes, by rw [log, state]; exact safe.held⟩

theorem ArqSafe.of_verified {s' : Arq} (passes : PassIsVerified s.log)
    (verified : Verified s.log) (grown : s.log <+: s'.log) : ArqSafe s' :=
  have after := passes.grow verified grown
  ⟨after.1, Or.inl after.2⟩

/-- Noting an act that is no report of success. -/
theorem ArqSafe.record {act : ArqAct} (safe : ArqSafe s) (silent : act.isPass = false) :
    ArqSafe (s.record act) := by
  refine ⟨guarded_snoc.mpr ⟨safe.passes, fun pass => ?_⟩, ?_⟩
  · rw [silent] at pass
    cases pass
  · exact safe.held.imp (fun verified => List.mem_append_left _ verified) id

theorem ArqSafe.stateChg {new : ArqState} {timeout : Option Nat} (safe : ArqSafe s)
    (held : new.isHeld = true) : ArqSafe (s.stateChg new timeout) := by
  refine ⟨safe.passes, safe.held.imp id fun before => ?_⟩
  cases changed : s.fi.stateChg procArqVlrTable new timeout with
  | none => simpa [Arq.stateChg, changed] using before
  | some fi =>
      obtain ⟨-, -, rfl⟩ := Inst.stateChg_eq_some.mp changed
      simpa [Arq.stateChg, changed] using held

/-- A result other than 0 is reported as a failure. -/
theorem dispatchResult_safe (failed : s.result ≠ 0) (safe : ArqSafe s) :
    ArqSafe (procArqVlrDispatchResult par s) := by
  unfold procArqVlrDispatchResult
  simp only [failed, decide_false, Bool.false_and, Bool.false_eq_true, if_false]
  split
  · exact (safe.record rfl).record rfl
  · exact safe.record rfl

/-- A reject is safe in every state. -/
theorem procArqFsmDone_safe {cause : Nat} (rejects : cause ≠ 0) (safe : ArqSafe s) :
    ArqSafe (procArqFsmDone par cause s) := by
  unfold procArqFsmDone
  dsimp only
  split
  · exact safe.of_eq rfl rfl
  · rename_i fi changed
    obtain ⟨-, -, rfl⟩ := Inst.stateChg_eq_some.mp changed
    exact dispatchResult_safe rejects ⟨safe.passes, Or.inr rfl⟩

/-- An unsuccessful end of the authentication, unless its data is a 0. -/
theorem dispatchAuth_failed (required : par.authenticationRequired = true)
    {result : AuthFsmResult} {data : Option Nat} (failed : result ≠ .passed)
    (nonzero : data ≠ some 0) (safe : ArqSafe s) :
    ArqSafe (procArqVlrDispatchAuth par result data s) := by
  have rejects : data.getD RejectCause.networkFailure.code ≠ 0 := by
    cases data with
    | none => exact RejectCause.code_ne_zero .networkFailure
    | some cause => exact fun zero => nonzero (congrArg some zero)
  unfold procArqVlrDispatchAuth procArqVlrFnWAuth
  simp only [required, if_true]
  split
  · cases result with
    | passed => exact absurd rfl failed
    | failure | noAuthInfo => exact procArqFsmDone_safe rejects safe
  · exact safe

/-- An access request that requires authentication is a parent any authentication can have. -/
theorem arqIface_contract (required : par.authenticationRequired = true) :
    AuthContract (arqIface par) (fun data => data ≠ some 0) ArqSafe
      (fun s => PassIsVerified s.log ∧ Verified s.log) ArqSafe where
  keepsRunning _ _ _ _ safe := safe.record rfl
  keepsVerified act s _ _ safe := by
    exact safe.1.grow safe.2 (List.prefix_append _ _)
  causes cause nonzero zero := nonzero (Option.some.inj zero)
  failed result data vsub s failed nonzero safe := by
    have noted : ArqSafe ((s.record (.auth .term)).record (.auth (.parentEvent result data))) :=
      (safe.record rfl).record rfl
    exact dispatchAuth_failed required failed nonzero (noted.of_eq rfl rfl)
  passed vsub s safe := by
    let ended : Arq :=
      { (s.record (.auth .term)).record (.auth (.parentEvent .passed (some 0))) with vsub := vsub }
    have noted : s.log <+: ended.log := (List.prefix_append _ _).trans (List.prefix_append _ _)
    have handled : ArqAsks ended (procArqVlrDispatchAuth par .passed (some 0) ended) :=
      procArqVlrDispatchAuth_asks
    exact ArqSafe.of_verified safe.1 safe.2 (noted.trans handled.grows)

/-- A verified response is what lets the authentication pass. -/
theorem arqIface_verified (s : Arq) (safe : ArqSafe s) :
    PassIsVerified ((arqIface par).record (.checked true) s).log ∧
      Verified ((arqIface par).record (.checked true) s).log :=
  ⟨(safe.record rfl).passes, by simp [arqIface, Arq.record, Verified]⟩

/-! ### Steps -/

theorem arqHost_lawful : arqHost.Lawful ArqSafe where
  child_put _ _ _ := rfl
  keeps _ _ _ safe := safe.of_eq rfl rfl

/-- What one function of an access request may do. -/
abbrev ArqTakes (cfg : VlrCfg) (par : ProcArqPar) : Arq → Arq → Prop :=
  HostTakes cfg par.isCipheringToBeAttempted arqTuples ArqSafe (par.authenticationRequired = true)

theorem procArqFsmDone_takes {cause : Nat} (rejects : cause ≠ 0) :
    ArqTakes cfg par s (procArqFsmDone par cause s) :=
  (procArqFsmDone_keeps cause).takes fun _ => procArqFsmDone_safe rejects

theorem arqAuthFsmStart_takes : ArqTakes cfg par s (s.authFsmStart cfg par) := by
  unfold Arq.authFsmStart
  split
  · have started : ArqTakes cfg par s _ :=
      arqTuples_reads.start arqIface_tupleParent par.isR99 par.isUtran (fun _ safe => safe.of_eq rfl rfl)
        fun required _ hosted => Hosted.dispatch arqHost_lawful (arqIface_contract required) cfg
          .start arqIface_verified hosted
    exact started
  · exact procArqVlrDispatchAuth_failure_keeps.takes fun required =>
      dispatchAuth_failed required nofun nofun

/-- With authentication required there is no way around it once the subscriber is known. -/
theorem procArqVlrAssoc_takes (vsub : VlrSubscr) :
    ArqTakes cfg par { s with vsub := vsub } (procArqVlrAssoc cfg par vsub s) := by
  unfold procArqVlrAssoc
  dsimp only
  split
  · exact procArqFsmDone_takes cfg (RejectCause.code_ne_zero _)
  · generalize { s with vsub := vsub } = s
    refine Attempt.takes
      (fun vsub => Arq.authFsmStart cfg par (Arq.stateChg .waitAuth none { s with vsub := vsub }))
      (fun vsub => procArqVlrNode2 par { s with vsub := vsub })
      (attempt_cases cfg par.authenticationRequired _ s.vsub par.keySeq) arqTuples_reads ?_
      (fun _ => procArqVlrNode2_asks) fun _ optional required _ => ?_
    · exact (arqAuthFsmStart_takes cfg).after (arqStateChg_keeps _ _) fun _ safe =>
        safe.stateChg rfl
    · rw [optional] at required
      cases required

/-- The record that has been found may be another one. -/
theorem procArqVlrAssoc_inv (required : par.authenticationRequired = true) (vsub : VlrSubscr)
    (inv : ArqInv s) : ArqInv (procArqVlrAssoc cfg par vsub s) :=
  (procArqVlrAssoc_takes cfg vsub).inv required (inv.of_child (inv.parent.of_eq rfl rfl) (Or.inl rfl))

/-- A lookup finds somebody, or the request is refused. -/
theorem procArqVlrDispatch_idImsi (found : Option VlrSubscr) :
    (par.authenticationRequired = true → ArqInv s →
        ArqInv (procArqVlrDispatch cfg par (.idImsi found) s)) ∧
      ((∀ vsub ∈ found, vsub.tupleState = s.vsub.tupleState) → ChildOk cfg s.auth →
        HostStepped cfg par.isCipheringToBeAttempted arqTuples s
          (procArqVlrDispatch cfg par (.idImsi found) s)) := by
  unfold procArqVlrDispatch
  split
  · cases found with
    | none =>
        have refused : ArqTakes cfg par s (procArqVlrFnWObtImsi cfg par none s) :=
          procArqFsmDone_takes cfg (RejectCause.code_ne_zero _)
        exact ⟨refused.inv, fun _ => refused.stepped⟩
    | some vsub =>
        refine ⟨fun required => procArqVlrAssoc_inv cfg required vsub, fun known => ?_⟩
        have same : ArqKeeps s { s with vsub := vsub } := HostKeeps.of_eq (known vsub rfl) rfl rfl
        have takes : ArqTakes cfg par s (procArqVlrAssoc cfg par vsub s) :=
          (procArqVlrAssoc_takes cfg vsub).after same fun _ safe => safe.of_eq rfl rfl
        exact takes.stepped
  · have same : ArqKeeps s s := HostKeeps.refl s
    exact ⟨fun _ inv => inv, fun _ => same.stepped⟩

/-- After a verified response the procedure may go anywhere, and only then is a later event
accepted. -/
theorem procArqVlrDispatch_takes (e : ArqEvent) (late : e.isLate = true) :
    ArqTakes cfg par s (procArqVlrDispatch cfg par e s) := by
  unfold procArqVlrDispatch
  split
  · rename_i accepted
    have goesOn : ∀ {s'}, ArqKeeps s s' → ArqTakes cfg par s s' := by
      refine fun keeps => keeps.takes fun _ safe => ArqSafe.of_verified safe.passes ?_ keeps.grows
      refine safe.held.resolve_right fun held => ?_
      simp [Inst.accepts, inEvent_of_isHeld held late] at accepted
    cases e with
    | start _ | idImsi _ | auth _ _ => cases late
    | ciphRes result =>
        cases result with
        | compl => exact goesOn procArqVlrNode2PostCiph_keeps
        | reject => exact goesOn (procArqFsmDone_keeps _)
    | updLocRes => exact goesOn procArqVlrNode2PostVlr_keeps
    | presRes | traceRes | imeiRes | tmsiAck => exact goesOn (procArqFsmDone_keeps 0)
  · exact HostTakes.refl s

end Steps

/-! ### Runs -/

/-- The input is not the expiry of an authentication timer with the number 0.  Those are the timers
that guard the wait for the HLR, in NEEDS_AUTH_WAIT_AI and NEEDS_AUTH_WAIT_SAI_RESYNC. -/
def TimerIsNumbered (s : Arq) (input : ArqEnv × ArqInput) : Prop :=
  match input.2 with
  | .authTimeout => s.auth.bind (·.fi.timer) ≠ some 0
  | _ => True

instance (s : Arq) (input : ArqEnv × ArqInput) : Decidable (TimerIsNumbered s input) := by
  unfold TimerIsNumbered
  split <;> infer_instance

section Runs

variable (cfg : VlrCfg) {par : ProcArqPar} {s : Arq}

/-- The end of an access request by its own timer or with its connection is no success. -/
theorem arqTerm_takes (report : Bool) : ArqTakes cfg par s (s.term report) := by
  refine arqTerm_keeps.takes fun _ safe => ?_
  unfold Arq.term
  split
  · exact safe
  · rename_i fi ended
    obtain ⟨-, rfl⟩ := Inst.term_eq_some.mp ended
    split
    · exact ArqSafe.record ⟨safe.passes, safe.held⟩ rfl
    · exact ⟨safe.passes, safe.held⟩

theorem vlrProcAccReq_inv (required : par.authenticationRequired = true) (env : ArqEnv)
    (found : Option VlrSubscr) : ArqInv (vlrProcAccReq cfg par env found) := by
  have idle : ArqInv { env := env } := .of_noChild ⟨guarded_nil, Or.inr rfl⟩ rfl
  unfold vlrProcAccReq
  split
  · exact (procArqFsmDone_takes cfg (RejectCause.code_ne_zero _)).inv required idle
  · cases found with
    | some vsub => exact procArqVlrAssoc_inv cfg required vsub idle
    | none =>
        change ArqInv (procArqVlrFnInit cfg par none { env := env })
        unfold procArqVlrFnInit
        dsimp only
        split
        · exact ⟨idle.parent.stateChg rfl, idle.child⟩
        · exact (procArqFsmDone_takes cfg (RejectCause.code_ne_zero _)).inv required idle

/-- The record as it is found when an input is handled, with the tuples it must keep. -/
def ArqInput.keepsTuples (vsub : VlrSubscr) : ArqInput → Prop
  | .vsubWritten written => written.tupleState = vsub.tupleState
  | .idImsi found => ∀ known ∈ found, known.tupleState = vsub.tupleState
  | _ => True

/-- Every input of an access request keeps the invariant, and is one step on the tuples. -/
theorem arqStep_takes (input : ArqEnv × ArqInput) :
    (par.authenticationRequired = true → TimerIsNumbered s input → ArqInv s →
        ArqInv (arqStep cfg par s input)) ∧
      (input.2.keepsTuples s.vsub → ChildOk cfg s.auth → HostStepped cfg
        par.isCipheringToBeAttempted arqTuples s (arqStep cfg par s input)) := by
  obtain ⟨env, input⟩ := input
  have answered : ArqKeeps s { s with env := env } := HostKeeps.of_eq rfl rfl rfl
  have ready : ArqInv s → ArqInv { s with env := env } :=
    fun inv => inv.of_child (inv.parent.of_eq rfl rfl) (Or.inl rfl)
  have handled : ∀ {s'}, ArqTakes cfg par { s with env := env } s' →
      (par.authenticationRequired = true → TimerIsNumbered s (env, input) → ArqInv s → ArqInv s') ∧
        (input.keepsTuples s.vsub → ChildOk cfg s.auth →
          HostStepped cfg par.isCipheringToBeAttempted arqTuples s s') := by
    intro s' takes
    have after := takes.after answered fun _ safe => safe.of_eq rfl rfl
    exact ⟨fun required _ => after.inv required, fun _ => after.stepped⟩
  have written : ∀ {t u}, ArqTakes cfg par t u → ArqKeeps { s with env := env } t →
      t.fi = s.fi → t.log = s.log → ArqTakes cfg par { s with env := env } u :=
    fun takes keeps fi log => takes.after keeps fun _ safe => safe.of_eq log (congrArg _ fi)
  have authEnds : ∀ t : Arq, ArqTakes cfg par t
      (arqHost.run (authFsmInstTerm (arqIface par) none) t) := fun t =>
    ⟨fun required inv => inv.instTerm arqHost_lawful (arqIface_contract required) nofun,
      arqTuples_reads.run _ fun _ ok => authFsmInstTerm_tuples arqIface_tupleParent none ok⟩
  unfold arqStep
  dsimp only
  cases input with
  | idImsi found =>
      obtain ⟨kept, stepped⟩ := procArqVlrDispatch_idImsi (s := { s with env := env }) cfg found
      refine ⟨fun required _ inv => kept required (ready inv), fun known ok => ?_⟩
      obtain ⟨taken, child⟩ := stepped known ok
      exact ⟨taken, child⟩
  | vsubWritten vsub =>
      exact ⟨fun _ _ inv => inv.of_child (inv.parent.of_eq rfl rfl) (Or.inl rfl),
        fun foreign ok => ⟨Stepped.quiet foreign rfl, ok⟩⟩
  | authTimeout =>
      refine ⟨fun required numbered inv => (ready inv).timeout arqHost_lawful
        (arqIface_contract required) fun inst T there armed zero => numbered ?_, fun _ ok => ?_⟩
      · have child : s.auth = some inst := there
        simp [child, armed, Option.some.inj zero]
      · obtain ⟨taken, child⟩ : HostStepped cfg par.isCipheringToBeAttempted arqTuples
            { s with env := env } (arqHost.run (authFsmTimeout (arqIface par)) { s with env := env }) :=
          arqTuples_reads.run _ (fun _ ok => authFsmTimeout_tuples arqIface_tupleParent ok) ok
        exact ⟨taken, child⟩
  | auth e =>
      refine handled ⟨fun required inv => ?_, ?_⟩
      · exact inv.dispatch arqHost_lawful (arqIface_contract required) cfg e arqIface_verified
      · exact arqTuples_reads.run _ fun _ ok => authFsmDispatch_tuples arqIface_tupleParent e ok
  | ciphRes _ | traceRes | imeiRes | tmsiAck => exact handled (procArqVlrDispatch_takes cfg _ rfl)
  | ulChildTimeout =>
      refine handled ?_
      dsimp only
      split
      · exact HostTakes.refl _
      · exact written (procArqVlrDispatch_takes cfg .updLocRes rfl) (HostKeeps.of_eq rfl rfl rfl) rfl rfl
  | subPres e =>
      refine handled ?_
      dsimp only
      split
      · exact HostTakes.refl _
      · rename_i fi _
        have heard : ∀ child, ArqKeeps { s with env := env } { s with
            env := env, vsub := (subPresVlrDispatch e fi s.vsub).vsub, subPresVlrFsm := child } :=
          fun _ => HostKeeps.of_eq subPresVlrDispatch_tupleState rfl rfl
        split
        · exact written (procArqVlrDispatch_takes cfg .presRes rfl) (heard none) rfl rfl
        · exact written (HostTakes.refl _) (heard _) rfl rfl
  | subPresTimeout =>
      refine handled ?_
      dsimp only
      split
      · exact HostTakes.refl _
      · exact written (procArqVlrDispatch_takes cfg .presRes rfl) (HostKeeps.of_eq rfl rfl rfl) rfl rfl
  | timeout =>
      refine handled ?_
      dsimp only
      split
      · exact arqTerm_takes cfg true
      · exact HostTakes.refl _
  | cancel cause =>
      have rejected : ArqKeeps { s with env := env } (vlrParqCancel par cause { s with env := env }) := by
        unfold vlrParqCancel
        split
        · exact HostKeeps.refl _
        · exact procArqFsmDone_keeps _
      refine handled ((authEnds _).after rejected fun _ safe => ?_)
      unfold vlrParqCancel
      split
      · exact safe
      · exact procArqFsmDone_safe (RejectCause.code_ne_zero cause) safe
  | disconnected => exact handled (authEnds _)
  | superseded => exact handled (procArqFsmDone_takes cfg (RejectCause.code_ne_zero _))
  | parentTerm => exact handled (arqTerm_takes cfg false)

end Runs

/-- Whenever authentication is required, an access request is reported as passed only after a
response has been verified in the same run, unless a timer with the number 0 has ended the
authentication. -/
theorem arqRun_passIsVerified (cfg : VlrCfg) (par : ProcArqPar)
    (required : par.authenticationRequired = true) (env : ArqEnv) (found : Option VlrSubscr)
    (inputs : List (ArqEnv × ArqInput))
    (numbered : StepsMeet (arqStep cfg par) TimerIsNumbered (vlrProcAccReq cfg par env found)
      inputs) :
    PassIsVerified (inputs.foldl (arqStep cfg par) (vlrProcAccReq cfg par env found)).log :=
  ArqSafe.passes <| Hosted.parent <| foldl_invariant
    (fun _ input inv numbered => (arqStep_takes cfg input).1 required numbered inv) inputs _
    (vlrProcAccReq_inv cfg required env found) numbered

/-- The MS does not answer the authentication request, and T3260 ends the access request. -/
theorem arqRun_passIsVerified_noAnswer :
    PassIsVerified (List.foldl (arqStep {} { authenticationRequired := true })
      (vlrProcAccReq {} { authenticationRequired := true } {} (some { imsi := [0, 0, 1] }))
      [({}, .auth (.hlrSaiAck { authVectors := [{ gsm := true }] })), ({}, .authTimeout)]).log :=
  arqRun_passIsVerified {} { authenticationRequired := true } rfl {} _ _ (by decide)

/-- The HLR does not answer the request for vectors: the timer has the number 0, and the access
request is accepted without any response. -/
theorem hlr_timeout_passes_access_request :
    ¬ PassIsVerified (List.foldl (arqStep {} { authenticationRequired := true })
      (vlrProcAccReq {} { authenticationRequired := true } {} (some { imsi := [0, 0, 1] }))
      [({}, .authTimeout)]).log := by
  intro passes
  have verified := passes
    [.auth (.saiReq none none), .auth (.stateChg .needsAuthWaitAi), .auth .term,
     .auth (.parentEvent .failure (some 0))] .cmServAcc [.parentEvent true] (by decide) rfl
  exact absurd verified (by decide)

end OsmoMsc.Vlr
