/-
Module: OsmoMsc.Vlr.LuRun
Purpose: When a location update may be accepted: after the authentication reported success and
  ciphering was completed, where they are required, and the HLR acknowledged the update.  Each state
  stands for the facts established on the way to it, and the completion procedure, which alone sends
  the acceptance, is started when all three hold.  The same walk shows where the procedure can be
  with its children.
Trusted boundary: none
Main exports: AccIsGated, LuSound, LuGood, LuTakes, luStep_takes, luRun_accIsGated, luRun_sound
-/
import OsmoMsc.Vlr.LuFrame
import OsmoMsc.Library.Run

namespace OsmoMsc.Vlr

open Library List

/-! ### The gate -/

section Gate

variable (par : LuPar) (log : List LuAct)

/-- The authentication child has reported success, if authentication is required. -/
def Authed : Prop :=
  par.authenticationRequired = true → .auth (.parentEvent .passed (some 0)) ∈ log

/-- `VLR_CIPH_COMPL` has been received, if ciphering is required. -/
def Ciphered : Prop := par.isCipheringRequired = true → .ciphRes .compl ∈ log

/-- Everything that must have happened before the acceptance is sent. -/
structure Ready : Prop where
  authed : Authed par log
  ciphered : Ciphered par log
  acked : .hlrLuRes none ∈ log

/-- LOCATION UPDATING ACCEPT. -/
def LuAct.isAcc : LuAct → Bool
  | .luAcc _ => true
  | _ => false

/-- Every acceptance is sent when all of that has happened. -/
def AccIsGated : Prop := Guarded (fun before act => act.isAcc = true → Ready par before) log

/-- The facts a state stands for. -/
def Stage : LuState → Prop
  | .waitCiph => Authed par log
  | .waitHlrUpd => Authed par log ∧ Ciphered par log
  | .waitLuCompl | .waitLuComplStandalone => Ready par log
  | .idle | .waitImeisv | .waitPvlr | .waitAuth | .waitImsi | .waitHlrCheckImeiEarly
  | .done => True

end Gate

section Monotone

variable {par : LuPar} {log log' : List LuAct}

theorem Authed.mono (authed : Authed par log) (grown : log <+: log') : Authed par log' :=
  fun required => grown.subset (authed required)

theorem Ciphered.mono (ciphered : Ciphered par log) (grown : log <+: log') : Ciphered par log' :=
  fun required => grown.subset (ciphered required)

theorem Ready.mono (ready : Ready par log) (grown : log <+: log') : Ready par log' :=
  ⟨ready.authed.mono grown, ready.ciphered.mono grown, grown.subset ready.acked⟩

theorem Stage.mono {state : LuState} (stage : Stage par log state) (grown : log <+: log') :
    Stage par log' state := by
  cases state with
  | waitCiph => exact Authed.mono stage grown
  | waitHlrUpd => exact ⟨stage.1.mono grown, stage.2.mono grown⟩
  | waitLuCompl | waitLuComplStandalone => exact Ready.mono stage grown
  | _ => trivial

/-- All facts together are enough for any state. -/
theorem Ready.stage (ready : Ready par log) (state : LuState) : Stage par log state := by
  cases state with
  | waitCiph => exact ready.authed
  | waitHlrUpd => exact ⟨ready.authed, ready.ciphered⟩
  | waitLuCompl | waitLuComplStandalone => exact ready
  | _ => trivial

end Monotone

/-! ### The invariant -/

/-- What the log says of the state. -/
structure LuSafe (par : LuPar) (s : Lu) : Prop where
  gated : AccIsGated par s.log
  stage : Stage par s.log s.fi.state
  compl : s.luComplVlrFsm.isSome = true → Ready par s.log

/-- Where a location update can be with its children.  `ended` is whether it had ended at an earlier
time. -/
structure LuSound (ended : Bool) (s : Lu) : Prop where
  final : ended = true → s.fi.terminating = true
  done : s.fi.state = .done → s.fi.terminating = true
  noPvlr : s.fi.state ≠ .waitPvlr
  waits : ∀ fi, s.updHlrVlrFsm = some fi →
    s.fi.state = .waitHlrUpd ∧ fi.state = .waitForData ∧ fi.terminating = false
  compl : s.luComplVlrFsm.isSome = true → s.fi.state = .waitLuCompl ∨ s.fi.state = .done

/-- The procedure may still ask the HLR. -/
def Lu.isOpening (s : Lu) : Prop :=
  s.fi.terminating = false ∧ vlrLuFsmTable.outState s.fi.state .waitHlrUpd = true

/-- What holds of a location update apart from its authentication child. -/
structure LuGood (par : LuPar) (ended : Bool) (s : Lu) : Prop where
  safe : LuSafe par s
  sound : LuSound ended s

/-- The invariant of a location update. -/
abbrev LuInv (par : LuPar) (ended : Bool) (s : Lu) : Prop := Hosted luHost (LuGood par ended) s

variable {timeout : Option Nat} {cause : Option Nat} {new : LuState}

section Good

variable {cfg : VlrCfg} {par : LuPar} {ended : Bool} {s s' : Lu}

/-- With all facts established nothing can go wrong any more. -/
theorem LuSafe.of_ready (gated : AccIsGated par s.log) (ready : Ready par s.log)
    (grown : s.log <+: s'.log) : LuSafe par s' :=
  have later := ready.mono grown
  ⟨gated.extend grown fun _ _ before _ => ready.mono before, later.stage _, fun _ => later⟩

section

variable (sound : LuSound ended s)
include sound

theorem LuSound.of_eq (fi : s'.fi = s.fi)
    (updHlr : s'.updHlrVlrFsm = s.updHlrVlrFsm ∨ s'.updHlrVlrFsm = none)
    (compl : s'.luComplVlrFsm.isSome = true → s.luComplVlrFsm.isSome = true) :
    LuSound ended s' := by
  refine ⟨?_, ?_, ?_, fun child there => ?_, fun there => ?_⟩
  · rw [fi]
    exact sound.final
  · rw [fi]
    exact sound.done
  · rw [fi]
    exact sound.noPvlr
  · rw [fi]
    rcases updHlr with same | gone
    · exact sound.waits child (same ▸ there)
    · rw [gone] at there
      cases there
  · rw [fi]
    exact sound.compl (compl there)

/-- No Update_HLR_VLR child in any state but one. -/
theorem LuSound.noChild (other : s.fi.state ≠ .waitHlrUpd) : s.updHlrVlrFsm = none := by
  cases there : s.updHlrVlrFsm with
  | none => rfl
  | some fi => exact absurd (sound.waits fi there).1 other

/-- Neither of the two children is there before the HLR has been asked. -/
theorem LuSound.opening (opening : s.isOpening) :
    s.updHlrVlrFsm = none ∧ s.luComplVlrFsm = none := by
  refine ⟨sound.noChild fun state => ?_, ?_⟩
  · have permitted := opening.2
    rw [state] at permitted
    cases permitted
  · cases there : s.luComplVlrFsm with
    | none => rfl
    | some lc =>
        have permitted := opening.2
        rcases sound.compl (by simp [there]) with state | state <;>
          simp [state, vlrLuFsmTable] at permitted

/-- Once the completion has begun, everything stays within the frame. -/
theorem LuSound.close (frame : LuFrame s s')
    (closing : s.fi.state = .waitLuCompl ∨ s.fi.state = .done) : LuSound ended s' := by
  have absent : s.updHlrVlrFsm = none := by
    refine sound.noChild fun state => ?_
    rcases closing with other | other <;> rw [state] at other <;> cases other
  have gone : s'.updHlrVlrFsm = none := by
    rcases frame.updHlr with same | gone
    · rw [same, absent]
    · exact gone
  have none : ∀ fi, s'.updHlrVlrFsm = some fi →
      s'.fi.state = .waitHlrUpd ∧ fi.state = .waitForData ∧ fi.terminating = false := by
    intro fi there
    rw [gone] at there
    cases there
  rcases frame.fi with same | ⟨terminating, state⟩
  · refine ⟨?_, ?_, ?_, none, fun _ => ?_⟩
    · rw [same]
      exact sound.final
    · rw [same]
      exact sound.done
    · rw [same]
      exact sound.noPvlr
    · rw [same]
      exact closing
  · have still : s'.fi.state = .waitLuCompl ∨ s'.fi.state = .done := by
      rcases state with same | done
      · rw [same]
        exact closing
      · exact Or.inr done
    refine ⟨fun _ => terminating, fun _ => terminating, fun pvlr => ?_, none, fun _ => still⟩
    rcases still with other | other <;> rw [pvlr] at other <;> cases other

end

/-- Fields outside the invariant may change at will. -/
theorem LuGood.of_eq (good : LuGood par ended s) (fi : s'.fi = s.fi) (log : s'.log = s.log)
    (updHlr : s'.updHlrVlrFsm = s.updHlrVlrFsm ∨ s'.updHlrVlrFsm = none)
    (compl : s'.luComplVlrFsm.isSome = true → s.luComplVlrFsm.isSome = true) :
    LuGood par ended s' := by
  refine ⟨⟨log ▸ good.safe.gated, ?_, fun there => log ▸ good.safe.compl (compl there)⟩,
    good.sound.of_eq fi updHlr compl⟩
  rw [log, fi]
  exact good.safe.stage

/-- Noting anything but an acceptance. -/
theorem LuGood.record {act : LuAct} (good : LuGood par ended s) (other : act.isAcc = false) :
    LuGood par ended (s.record act) := by
  have grown : s.log <+: s.log ++ [act] := prefix_append _ _
  refine ⟨⟨guarded_snoc.mpr ⟨good.safe.gated, fun acc => ?_⟩, good.safe.stage.mono grown,
    fun there => (good.safe.compl there).mono grown⟩, good.sound.of_eq rfl (Or.inl rfl) id⟩
  rw [other] at acc
  cases acc

/-- The completion is only there when all facts are established. -/
theorem LuGood.close (good : LuGood par ended s) (frame : LuFrame s s')
    (there : s.luComplVlrFsm.isSome = true) : LuGood par ended s' :=
  ⟨LuSafe.of_ready good.safe.gated (good.safe.compl there) frame.grows,
    good.sound.close frame (good.sound.compl there)⟩

theorem LuGood.term (good : LuGood par ended s) (report : Option Bool) :
    LuGood par ended (s.term report) := by
  unfold Lu.term
  split
  · exact good
  · rename_i fi ends
    obtain ⟨-, rfl⟩ := Inst.term_eq_some.mp ends
    have finished : LuGood par ended { s with
        fi := { s.fi with terminating := true, timer := none }
        auth := none, updHlrVlrFsm := none, luComplVlrFsm := none } :=
      ⟨⟨good.safe.gated, good.safe.stage, nofun⟩,
        ⟨fun _ => rfl, fun _ => rfl, good.sound.noPvlr, nofun, nofun⟩⟩
    split
    · exact finished
    · exact finished.record rfl

theorem luFsmFailure_good {cause : Nat} (good : LuGood par ended s) :
    LuGood par ended (luFsmFailure cause s) := by
  unfold luFsmFailure
  have rejected : LuGood par ended (s.record (.luRej (if cause = 0 then
      RejectCause.networkFailure.code else cause))) := good.record rfl
  generalize s.record _ = s at rejected
  rcases luFsmDone_cases with ⟨same, -⟩ | finished
  · rw [same]
    exact rejected
  · rw [finished]
    exact LuGood.record ⟨⟨rejected.safe.gated, trivial, nofun⟩,
      ⟨fun _ => rfl, fun _ => rfl, nofun, nofun, nofun⟩⟩ rfl

/-- A step on the way to the HLR. -/
theorem LuGood.stateChg (good : LuGood par ended s) (ongoing : new ≠ .done ∧ new ≠ .waitPvlr)
    (opening : s.isOpening) (stage : Stage par s.log new) :
    LuGood par ended (s.stateChg new timeout) := by
  obtain ⟨noUpdHlr, noCompl⟩ := good.sound.opening opening
  unfold Lu.stateChg
  split
  · exact good
  · rename_i fi changed
    obtain ⟨-, -, rfl⟩ := Inst.stateChg_eq_some.mp changed
    refine ⟨⟨good.safe.gated, stage, good.safe.compl⟩, good.sound.final,
      fun done => absurd done ongoing.1, ongoing.2, fun fi there => ?_, fun there => ?_⟩
    · rw [noUpdHlr] at there
      cases there
    · rw [noCompl] at there
      cases there

/-- A change of state that the table permits. -/
theorem luStateChg_eq (running : s.fi.terminating = false)
    (permitted : vlrLuFsmTable.outState s.fi.state new = true) :
    s.stateChg new timeout = { s with
      fi := { s.fi with state := new, timer := timeout }
      n := if new = .waitImsi then 0 else s.n } := by
  have changed : s.fi.stateChg vlrLuFsmTable new timeout =
      some { s.fi with state := new, timer := timeout } :=
    Inst.stateChg_eq_some.mpr ⟨running, permitted, rfl⟩
  unfold Lu.stateChg
  rw [changed]

/-- The child waits as soon as it is there. -/
theorem vlrLocUpdNode4_good (good : LuGood par ended s) (opening : s.isOpening)
    (authed : Authed par s.log) (ciphered : Ciphered par s.log) :
    LuGood par ended (vlrLocUpdNode4 s) := by
  obtain ⟨-, noCompl⟩ := good.sound.opening opening
  have asked : ∀ log, s.log <+: log → AccIsGated par log → LuGood par ended { s with
      fi := { s.fi with state := .waitHlrUpd, timer := some 0 }
      log := log
      updHlrVlrFsm := updHlrVlrProcStart s.env.updHlrAlloc s.vsub } := by
    intro log grown gated
    refine ⟨⟨gated, ⟨authed.mono grown, ciphered.mono grown⟩, fun there => ?_⟩,
      good.sound.final, nofun, nofun, fun fi there => ⟨rfl, ?_⟩, fun there => ?_⟩
    · exact (good.safe.compl there).mono grown
    · change updHlrVlrProcStart s.env.updHlrAlloc s.vsub = some fi at there
      unfold updHlrVlrProcStart at there
      split at there
      · rw [← Option.some.inj there]
        exact ⟨rfl, rfl⟩
      · cases there
    · change s.luComplVlrFsm.isSome = true at there
      rw [noCompl] at there
      cases there
  unfold vlrLocUpdNode4
  rw [luStateChg_eq opening.1 opening.2]
  dsimp only
  split
  · have noted : LuGood par ended (s.record .updateLocation) := good.record rfl
    exact asked _ (prefix_append _ _) noted.safe.gated
  · exact asked _ (prefix_refl _) good.safe.gated

/-- The HLR is asked once authentication and ciphering are done with. -/
theorem vlrLocUpdPostCiph_good (good : LuGood par ended s) (opening : s.isOpening)
    (authed : Authed par s.log) (ciphered : Ciphered par s.log) :
    LuGood par ended (vlrLocUpdPostCiph cfg par s) := by
  have noted : LuGood par ended (s.record .commonId) := good.record rfl
  have grown : s.log <+: (s.record .commonId).log := prefix_append _ _
  exact vlrLocUpdNode4_good (noted.of_eq rfl rfl (.inl rfl) id) opening (authed.mono grown)
    (ciphered.mono grown)

/-- The only way past ciphering without its completion is where it is not required. -/
theorem vlrLocUpdPostAuth_good (good : LuGood par ended s) (opening : s.isOpening)
    (authed : Authed par s.log) : LuGood par ended (vlrLocUpdPostAuth cfg par s) := by
  unfold vlrLocUpdPostAuth
  split
  · rename_i skipped
    refine vlrLocUpdPostCiph_good good opening authed fun required => ?_
    simp [LuPar.isCmcSmcToBeAttempted, par.attempted required, required] at skipped
  · split
    · exact luFsmFailure_good good
    · dsimp only
      have sent : LuGood par ended (s.record (.setCiphMode s.vsub.secCtx)) := good.record rfl
      split
      · exact luFsmFailure_good sent
      · exact sent.stateChg ⟨nofun, nofun⟩ opening (authed.mono (prefix_append _ _))

/-- The end of the authentication.  Without success the update goes on only if neither
authentication nor ciphering is required. -/
theorem luFsmDispatchAuth_good {result : AuthFsmResult} {data : Option Nat}
    (good : LuGood par ended s) (authed : result = .passed → Authed par s.log) :
    LuGood par ended (luFsmDispatchAuth cfg par result data s) := by
  unfold luFsmDispatchAuth
  split
  · rename_i accepted
    have opening : s.isOpening := by
      unfold Inst.accepts at accepted
      cases state : s.fi.state <;> simp [state, vlrLuFsmTable] at accepted
      exact ⟨accepted, by rw [state]; rfl⟩
    have cleared : LuGood par ended { s with updHlrVlrFsm := none } :=
      good.of_eq rfl rfl (Or.inr rfl) id
    cases result with
    | passed => exact vlrLocUpdPostAuth_good cleared opening (authed rfl)
    | failure => exact luFsmFailure_good cleared
    | noAuthInfo =>
        dsimp only [luFsmWaitAuth]
        split
        · exact luFsmFailure_good cleared
        · rename_i optional
          refine vlrLocUpdPostAuth_good cleared opening fun required => ?_
          simp [required] at optional
  · exact good

/-- A location update is a parent any authentication can have. -/
theorem luIface_contract :
    AuthContract (luIface cfg par) (fun _ => True) (LuGood par ended) (LuGood par ended)
      (LuGood par ended) where
  keepsRunning _ _ _ _ good := good.record rfl
  keepsVerified _ _ _ _ good := good.record rfl
  causes _ _ := trivial
  failed result data vsub s failed _ good := by
    have noted : LuGood par ended
        ((s.record (.auth .term)).record (.auth (.parentEvent result data))) :=
      (good.record rfl).record rfl
    exact luFsmDispatchAuth_good (noted.of_eq rfl rfl (.inl rfl) id)
      fun passed => absurd passed failed
  passed vsub s good := by
    have noted : LuGood par ended
        ((s.record (.auth .term)).record (.auth (.parentEvent .passed (some 0)))) :=
      (good.record rfl).record rfl
    refine luFsmDispatchAuth_good (noted.of_eq rfl rfl (.inl rfl) id) fun _ _ => ?_
    exact mem_concat_self

theorem luHost_lawful : luHost.Lawful (LuGood par ended) where
  child_put _ _ _ := rfl
  keeps _ _ _ good := good.of_eq rfl rfl (.inl rfl) id

/-- The completion runs only where it may. -/
theorem luComplVlrDispatch_good {e : LuComplEvent} (good : LuGood par ended s) :
    LuGood par ended (luComplVlrDispatch cfg par e s) := by
  cases there : s.luComplVlrFsm with
  | none => simpa [luComplVlrDispatch, there] using good
  | some lc => exact good.close luComplVlrDispatch_frame (by simp [there])

theorem luSubPresEnded_good (good : LuGood par ended s) :
    LuGood par ended (s.subPresEnded cfg par) :=
  luComplVlrDispatch_good (good.of_eq rfl rfl (Or.inl rfl) (by simp))

theorem luComplVlrTimeout_good (good : LuGood par ended s) :
    LuGood par ended (luComplVlrTimeout cfg par s) := by
  cases there : s.luComplVlrFsm with
  | none => simpa [luComplVlrTimeout, there] using good
  | some lc => exact good.close luComplVlrTimeout_frame (by simp [there])

/-- The end of Update_HLR_VLR: without a cause it starts the completion. -/
theorem luFsmDispatchUpdHlr_good (good : LuGood par ended s) (gone : s.updHlrVlrFsm = none)
    (acked : cause = none → .hlrLuRes none ∈ s.log) :
    LuGood par ended (luFsmDispatchUpdHlr cfg par cause s) := by
  unfold luFsmDispatchUpdHlr
  split
  · rename_i accepted
    obtain ⟨running, state⟩ : s.fi.terminating = false ∧ s.fi.state = .waitHlrUpd := by
      unfold Inst.accepts at accepted
      cases state : s.fi.state <;> simp [state, vlrLuFsmTable] at accepted
      exact ⟨accepted, rfl⟩
    cases cause with
    | some cause => exact luFsmFailure_good good
    | none =>
        have stage := good.safe.stage
        rw [state] at stage
        have closing : LuSound ended { s with
            fi := { s.fi with state := .waitLuCompl, timer := some 0 } } := by
          refine ⟨good.sound.final, nofun, nofun, fun fi there => ?_, fun _ => Or.inl rfl⟩
          change s.updHlrVlrFsm = some fi at there
          rw [gone] at there
          cases there
        refine ⟨LuSafe.of_ready good.safe.gated ⟨stage.1, stage.2, acked rfl⟩
          luFsmUpdHlrCompl_keeps.grows, ?_⟩
        dsimp only [luFsmUpdHlrCompl]
        rw [luStateChg_eq running (by rw [state]; rfl)]
        exact closing.close vlrLocUpdStartLuComplFsm_frame (Or.inl rfl)
  · exact good

/-- The answer of the HLR: only an acknowledgement ends Update_HLR_VLR without a cause. -/
theorem luFsmHlrLuRes_good (good : LuGood par ended s) :
    LuGood par ended (luFsmHlrLuRes cfg par cause s) := by
  have noted : LuGood par ended (s.record (.hlrLuRes cause)) := good.record rfl
  unfold luFsmHlrLuRes
  dsimp only
  split
  · exact noted
  · rename_i fi there
    split
    · rename_i ongoing
      -- A child that has not ended has not changed.
      have unchanged : (updHlrVlrDispatch (cause.elim .updLocAck .updLocNack) fi
          (s.record (.hlrLuRes cause)).vsub).fi = fi := by
        revert ongoing
        unfold updHlrVlrDispatch
        split
        · cases cause <;> nofun
        · exact fun _ => rfl
      rw [unchanged]
      exact noted.of_eq rfl rfl (Or.inl there.symm) id
    · rename_i data reported
      refine luFsmDispatchUpdHlr_good (noted.of_eq rfl rfl (Or.inr rfl) id) rfl fun none => ?_
      subst none
      have ack := updHlrVlrDispatch_ended_none reported
      cases cause with
      | none => exact mem_concat_self
      | some cause => simp at ack

theorem luFsmWaitCiph_good {result : CiphResult} (good : LuGood par ended s) (opening : s.isOpening)
    (authed : Authed par s.log) : LuGood par ended (luFsmWaitCiph cfg par result s) := by
  have noted : LuGood par ended (s.record (.ciphRes result)) := good.record rfl
  have grown : s.log <+: (s.record (.ciphRes result)).log := prefix_append _ _
  cases result with
  | reject => exact luFsmFailure_good noted
  | compl =>
      have ciphered : Ciphered par (s.record (.ciphRes .compl)).log :=
        fun _ => mem_concat_self
      have passed : LuGood par ended (vlrLocUpdPostCiph cfg par (s.record (.ciphRes .compl))) :=
        vlrLocUpdPostCiph_good noted opening (authed.mono grown) ciphered
      exact passed

end Good

/-! ### Steps -/

section Steps

variable {cfg : VlrCfg} {par : LuPar} {ended : Bool} {may : Prop} {s : Lu}

/-- What one function of a location update may do. -/
abbrev LuTakes (cfg : VlrCfg) (par : LuPar) (ended : Bool) : Prop → Lu → Lu → Prop :=
  HostTakes cfg par.isCipheringToBeAttempted luTuples (LuGood par ended)

theorem luAuthFsmStart_takes : LuTakes cfg par ended may s (s.authFsmStart cfg par) := by
  unfold Lu.authFsmStart
  split
  · refine luTuples_reads.start luIface_tupleParent par.isR99 par.isUtran
      (fun _ good => good.of_eq rfl rfl (.inl rfl) id) fun _ _ hosted => ?_
    exact Hosted.dispatch luHost_lawful luIface_contract cfg .start
      (fun _ good => good.record rfl) hosted
  · exact luFsmDispatchAuth_failure_keeps.takes fun _ good =>
      luFsmDispatchAuth_good good nofun

/-- Where no authentication is attempted, none is required. -/
theorem vlrLocUpdNode1_takes : LuTakes cfg par ended s.isOpening s (vlrLocUpdNode1 cfg par s) := by
  refine Attempt.takes
    (fun vsub => Lu.authFsmStart cfg par (Lu.stateChg .waitAuth (some 0) { s with vsub := vsub }))
    (fun vsub => vlrLocUpdPostAuth cfg par { s with vsub := vsub })
    (attempt_cases cfg par.authenticationRequired _ s.vsub par.keySeq) luTuples_reads ?_
    (fun _ => vlrLocUpdPostAuth_asks) fun _ optional opening good => ?_
  · exact luAuthFsmStart_takes.after luStateChg_keeps fun opening good =>
      good.stateChg ⟨nofun, nofun⟩ opening trivial
  · refine vlrLocUpdPostAuth_good (good.of_eq rfl rfl (.inl rfl) id) opening fun required => ?_
    rw [optional] at required
    cases required

theorem vlrLocUpdNode1Pre_takes :
    LuTakes cfg par ended s.isOpening s (vlrLocUpdNode1Pre cfg par s) := by
  unfold vlrLocUpdNode1Pre
  split
  · exact (luStateChg_keeps.trans (LuFrame.record rfl).toLuKeeps).takes fun opening good =>
      LuGood.record (good.stateChg ⟨nofun, nofun⟩ opening trivial) rfl
  · exact vlrLocUpdNode1_takes

theorem vlrLocUpdWantImsi_takes : LuTakes cfg par ended s.isOpening s (vlrLocUpdWantImsi cfg s) :=
  (luStateChg_keeps.trans (LuFrame.record rfl).toLuKeeps).takes fun opening good =>
    LuGood.record (good.stateChg ⟨nofun, nofun⟩ opening trivial) rfl

theorem startLuMain_takes : LuTakes cfg par ended s.isOpening s (startLuMain cfg par s) := by
  unfold startLuMain
  split
  · exact vlrLocUpdWantImsi_takes
  · exact vlrLocUpdNode1Pre_takes

/-- The start of a location update that has found the subscriber's record. -/
theorem luFsmIdle_takes (vsub : VlrSubscr) :
    LuTakes cfg par ended s.isOpening { s with vsub := vsub } (luFsmIdle cfg par (some vsub) s) := by
  have known : LuFrame { s with vsub := vsub }
      { s with vsub := { vsub with subDataconfByHlrInd := false, lac := par.newLac } } :=
    LuFrame.of_eq rfl rfl
  have same : ∀ v, LuGood par ended { s with vsub := vsub } → LuGood par ended { s with vsub := v } :=
    fun _ good => good.of_eq rfl rfl (.inl rfl) id
  unfold luFsmIdle
  dsimp only
  split
  · exact (known.trans luFsmFailure_frame).takes fun _ good => luFsmFailure_good (same _ good)
  · split
    · exact startLuMain_takes.after known.toLuKeeps fun _ good => same _ good
    · exact ((known.trans (LuFrame.record rfl)).toLuKeeps.trans luStateChg_keeps).takes
        fun opening good => ((same _ good).record rfl).stateChg ⟨nofun, nofun⟩ opening trivial

/-- The events that reach a location update that has begun from outside the VLR. -/
def LuEvent.isExternal : LuEvent → Bool
  | .updateLa _ | .auth _ _ | .updHlrCompl _ | .luComplSuccess | .luComplFailure _ => false
  | _ => true

/-- An event from outside: which facts hold can be read off the state that accepts it. -/
theorem luFsmDispatch_takes {e : LuEvent} (external : e.isExternal = true) :
    LuTakes cfg par ended True s (luFsmDispatch cfg par e s) := by
  unfold luFsmDispatch
  split
  · rename_i accepted
    unfold Inst.accepts at accepted
    have running : s.fi.terminating = false := by
      simpa using (Bool.and_eq_true_iff.mp accepted).1
    have opening : vlrLuFsmTable.outState s.fi.state .waitHlrUpd = true → True → s.isOpening :=
      fun permitted _ => ⟨running, permitted⟩
    have noted : ∀ act, act.isAcc = false → act.tupleAct = none →
        LuTakes cfg par ended True s (s.record act) := fun _ other silent =>
      (LuFrame.record silent).takes fun _ good => good.record other
    have previous : s.fi.state = .waitPvlr → ∀ {s'}, LuTakes cfg par ended s.isOpening s s' →
        LuTakes cfg par ended True s s' :=
      fun pvlr _ takes => ⟨fun _ inv => absurd pvlr inv.parent.sound.noPvlr, takes.stepped⟩
    have completes : ∀ e, LuTakes cfg par ended True s (luComplVlrDispatch cfg par e s) :=
      fun e => luComplVlrDispatch_frame.takes fun _ => luComplVlrDispatch_good
    cases e with
    | updateLa _ | auth _ _ | updHlrCompl _ | luComplSuccess | luComplFailure _ => cases external
    | sendIdAck =>
        refine previous ?_ vlrLocUpdNode1Pre_takes
        cases state : s.fi.state <;> simp [state, vlrLuFsmTable] at accepted ⊢
    | sendIdNack =>
        refine previous ?_ vlrLocUpdWantImsi_takes
        cases state : s.fi.state <;> simp [state, vlrLuFsmTable] at accepted ⊢
    | ciphRes result =>
        refine luFsmWaitCiph_keeps.takes fun _ good => ?_
        have stage := good.safe.stage
        cases state : s.fi.state with
        | waitCiph =>
            rw [state] at stage
            exact luFsmWaitCiph_good good (opening (by rw [state]; rfl) trivial) stage
        | _ => simp [vlrLuFsmTable, state] at accepted
    | idImsi imsi =>
        have learnt : LuFrame s { s with vsub := { s.vsub with imsi := imsi.take 15 } } :=
          LuFrame.of_eq rfl rfl
        refine HostTakes.mono (vlrLocUpdNode1Pre_takes.after learnt.toLuKeeps fun _ good =>
          good.of_eq rfl rfl (.inl rfl) id) (opening ?_)
        cases state : s.fi.state <;> simp [state, vlrLuFsmTable] at accepted ⊢
    | idImei =>
        dsimp only
        split
        · exact noted _ rfl rfl
        · exact HostTakes.refl s
    | idImeisv =>
        dsimp only
        split
        · rename_i state
          exact startLuMain_takes.mono (opening (by rw [state]; rfl))
        · split
          · exact noted _ rfl rfl
          · exact HostTakes.refl s
    | hlrImeiAck =>
        dsimp only
        split
        · rename_i state
          exact vlrLocUpdNode1_takes.mono (opening (by rw [state]; rfl))
        · exact completes _
    | hlrImeiNack =>
        dsimp only
        split
        · exact luFsmFailure_frame.takes fun _ => luFsmFailure_good
        · exact completes _
    | hlrLuRes cause => exact luFsmHlrLuRes_keeps.takes fun _ => luFsmHlrLuRes_good
    | newTmsiAck => exact completes _
  · exact HostTakes.refl s

/-- The timer: the packet switched domain sends its command for ciphering again. -/
theorem fsmLuTimerCb_takes : LuTakes cfg par ended True s (fsmLuTimerCb cfg s) := by
  have counted : LuFrame s { s with n := s.n + 1 } := LuFrame.of_eq rfl rfl
  have same : LuGood par ended s → LuGood par ended { s with n := s.n + 1 } :=
    fun good => good.of_eq rfl rfl (.inl rfl) id
  unfold fsmLuTimerCb
  dsimp only
  split
  · exact luTerm_frame.takes fun _ good => good.term _
  · rename_i packet
    split
    · exact (counted.trans ((LuFrame.record rfl).trans luTerm_frame)).takes fun _ good =>
        ((same good).record rfl).term _
    · split
      · have again : ∀ s', LuKeeps (Lu.record (.setCiphMode s.vsub.secCtx) { s with n := s.n + 1 }) s' →
            (LuGood par ended s → LuGood par ended s') → LuTakes cfg par ended True s s' := by
          intro s' keeps safe
          refine ⟨fun _ inv => inv.of_child (safe inv.parent) keeps.auth, fun ok =>
            ⟨⟨[.ciphMode], some .repeated, ?_, ?_, ?_⟩, ok.of_child keeps.auth⟩⟩
          · rw [keeps.tuples]
            exact .ciphered .repeated nofun nofun fun new => absurd rfl new
          · rw [keeps.acts]
            simp [TupleHost.acts, luTuples, Lu.record, LuAct.tupleAct]
          · rintro _ ⟨rfl⟩
            change cfg.isPs = true
            simpa using packet
        have sent : LuGood par ended s → LuGood par ended
            (Lu.record (.setCiphMode s.vsub.secCtx) { s with n := s.n + 1 }) :=
          fun good => (same good).record rfl
        split
        · exact again _ luFsmFailure_frame.toLuKeeps fun good => luFsmFailure_good (sent good)
        · exact again _ (LuFrame.refl _).toLuKeeps sent
      · exact (counted.trans (LuFrame.record rfl)).takes fun _ good => (same good).record rfl
      · exact counted.takes fun _ => same

/-- The record as it is found when an input is handled, with the tuples it must keep. -/
def LuInput.keepsTuples (vsub : VlrSubscr) : LuInput → Prop
  | .vsubWritten written => written.tupleState = vsub.tupleState
  | _ => True

/-- Every input of a location update keeps the invariant, and is one step on the tuples. -/
theorem luStep_takes (input : LuEnv × LuInput) :
    (LuInv par ended s → LuInv par ended (luStep cfg par s input)) ∧
      (input.2.keepsTuples s.vsub → ChildOk cfg s.auth → HostStepped cfg
        par.isCipheringToBeAttempted luTuples s (luStep cfg par s input)) := by
  obtain ⟨env, input⟩ := input
  unfold luStep
  split
  · exact ⟨id, fun _ => (LuFrame.refl s).stepped⟩
  · have answered : LuFrame s { s with env := env } := LuFrame.of_eq rfl rfl
    have handled : ∀ {s'}, LuTakes cfg par ended True { s with env := env } s' →
        (LuInv par ended s → LuInv par ended s') ∧ (input.keepsTuples s.vsub →
          ChildOk cfg s.auth → HostStepped cfg par.isCipheringToBeAttempted luTuples s s') := by
      intro s' takes
      have after := takes.after answered.toLuKeeps fun _ good =>
        good.of_eq rfl rfl (.inl rfl) id
      exact ⟨after.inv trivial, fun _ => after.stepped⟩
    have authStep : ∀ act, (∀ c, InstOk cfg c.inst → AuthStep cfg luTuples.acts luTuples.said c
        (act c)) → (LuInv par ended { s with env := env } → LuInv par ended
        (luHost.run act { s with env := env })) →
        LuTakes cfg par ended True { s with env := env } (luHost.run act { s with env := env }) :=
      fun act steps kept => ⟨fun _ => kept, luTuples_reads.run act steps⟩
    cases input with
    | vsubWritten vsub =>
        refine ⟨fun inv => inv.of_child ?_ (Or.inl rfl), fun foreign ok => ?_⟩
        · exact inv.parent.of_eq rfl rfl (Or.inl rfl) id
        · exact ⟨Stepped.quiet foreign rfl, ok⟩
    | sendIdAck | sendIdNack | ciphRes _ | idImsi _ | idImei | idImeisv | hlrImeiAck | hlrImeiNack
    | hlrLuRes _ | newTmsiAck =>
        exact handled (luFsmDispatch_takes rfl)
    | auth e =>
        refine handled (authStep _ (fun _ => authFsmDispatch_tuples luIface_tupleParent e) ?_)
        exact fun inv => inv.dispatch luHost_lawful luIface_contract cfg e fun _ good => good.record rfl
    | authTimeout =>
        refine handled (authStep _ (fun _ => authFsmTimeout_tuples luIface_tupleParent) ?_)
        exact fun inv => inv.timeout luHost_lawful luIface_contract fun _ _ _ _ => trivial
    | authCancel =>
        refine handled (authStep _ (fun _ => authFsmInstTerm_tuples luIface_tupleParent none) ?_)
        exact fun inv => inv.instTerm luHost_lawful luIface_contract trivial
    | updHlrTimeout =>
        refine handled ?_
        dsimp only
        split
        · exact HostTakes.refl _
        · have ended : LuKeeps { s with env := env } { s with env := env, updHlrVlrFsm := none } :=
            HostKeeps.of_eq rfl rfl rfl
          exact (ended.trans luFsmDispatchUpdHlr_keeps).takes fun _ good =>
            luFsmDispatchUpdHlr_good (good.of_eq rfl rfl (Or.inr rfl) id) rfl nofun
    | luComplTimeout =>
        exact handled (luComplVlrTimeout_frame.takes fun _ => luComplVlrTimeout_good)
    | subPres e =>
        refine handled ?_
        dsimp only
        split
        · exact HostTakes.refl _
        · rename_i fi _
          have heard : LuFrame { s with env := env } { s with
              env := env
              vsub := (subPresVlrDispatch e fi s.vsub).vsub
              luComplVlrFsm := s.luComplVlrFsm.map fun lc =>
                { lc with subPresVlrFsm := some (subPresVlrDispatch e fi s.vsub).fi } } :=
            LuFrame.of_eq subPresVlrDispatch_tupleState rfl
          split
          · exact (heard.trans luSubPresEnded_frame).takes fun _ good =>
              luSubPresEnded_good (good.of_eq rfl rfl (Or.inl rfl) (by simp))
          · exact heard.takes fun _ good => good.of_eq rfl rfl (Or.inl rfl) (by simp)
    | subPresTimeout =>
        refine handled ?_
        dsimp only
        split
        · exact HostTakes.refl _
        · exact luSubPresEnded_frame.takes fun _ => luSubPresEnded_good
    | timeout =>
        refine handled ?_
        dsimp only
        split
        · exact fsmLuTimerCb_takes
        · exact HostTakes.refl _
    | cancel cause =>
        refine handled ?_
        dsimp only [vlrLocUpdateCancel]
        split
        · exact HostTakes.refl _
        · exact luFsmFailure_frame.takes fun _ => luFsmFailure_good
    | disconnected | parentTerm => exact handled (luTerm_frame.takes fun _ good => good.term _)

end Steps

/-! ### Runs -/

theorem luGood_fresh (par : LuPar) (env : LuEnv) (vsub : VlrSubscr) :
    LuGood par false { env := env, vsub := vsub } :=
  ⟨⟨guarded_nil, trivial, by nofun⟩, by nofun, by nofun, by nofun, by nofun, by nofun⟩

/-- The new location update as it stands after its first event. -/
theorem vlrLocUpdate_inv {cfg : VlrCfg} {par : LuPar} {env : LuEnv} {found : Option VlrSubscr} :
    LuInv par false (vlrLocUpdate cfg par env found) := by
  have fresh : ∀ vsub, LuInv par false { env := env, vsub := vsub } :=
    fun vsub => .of_noChild (luGood_fresh par env vsub) rfl
  cases found with
  | none =>
      have rejected : LuTakes cfg par false True { env := env }
          (luFsmFailure RejectCause.srvOptTmpOutOfOrder.code { env := env }) :=
        luFsmFailure_frame.takes fun _ => luFsmFailure_good
      exact rejected.inv trivial (fresh {})
  | some vsub => exact (luFsmIdle_takes vsub).inv ⟨rfl, rfl⟩ (fresh vsub)

/-- In every run of a location update the acceptance is sent only after the authentication has
reported success if it is required, after ciphering has been completed if it is required, and after
the HLR has acknowledged the update. -/
theorem luRun_accIsGated (cfg : VlrCfg) (par : LuPar) (env : LuEnv) (found : Option VlrSubscr)
    (inputs : List (LuEnv × LuInput)) :
    AccIsGated par (inputs.foldl (luStep cfg par) (vlrLocUpdate cfg par env found)).log := by
  exact (foldl_invariant_always (fun _ input => (luStep_takes input).1) inputs _
    vlrLocUpdate_inv).parent.safe.gated

/-- In every run a location update has its children only in the states that wait for them. -/
theorem luRun_sound (cfg : VlrCfg) (par : LuPar) (env : LuEnv) (found : Option VlrSubscr)
    (inputs : List (LuEnv × LuInput)) :
    LuSound false (inputs.foldl (luStep cfg par) (vlrLocUpdate cfg par env found)) :=
  (foldl_invariant_always (fun _ input => (luStep_takes input).1) inputs _
    vlrLocUpdate_inv).parent.sound

/-- Authentication and ciphering both required. -/
def strictPar : LuPar where
  authenticationRequired := true
  isCipheringToBeAttempted := true
  isCipheringRequired := true
  attempted _ := rfl

/-- A location update that goes through all three gates. -/
example : LuAct.luAcc gsmReservedTmsi ∈ (List.foldl (luStep {} strictPar)
    (vlrLocUpdate {} strictPar {} (some { imsi := [0, 0, 1] }))
    [({}, .auth (.hlrSaiAck { authVectors := [{ gsm := true, sres := #v[1, 2, 3, 4] }] })),
     ({}, .auth (.msAuthResp { res := some [1, 2, 3, 4] })),
     ({}, .ciphRes .compl), ({}, .hlrLuRes none)]).log := by decide

end OsmoMsc.Vlr
