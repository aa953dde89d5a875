/-
Module: OsmoMsc.Msc.MscARun
Purpose: Safety of a connection over whole runs.  Services are only reached on a connection whose own
  VLR procedure has reported success and whose release has not begun, and a connection in release is
  never accepted again.  The invariant relates the machine's state to what the log says happened.
Trusted boundary: none
Main exports: Delivered, ReleaseBegun, Allowed, mscARun_l3IsGated
-/
import OsmoMsc.Library.Run
import OsmoMsc.Msc.MscAFsm

namespace OsmoMsc.Msc

open Library Vlr

/-- `MSC_A_EV_AUTHENTICATED` was delivered by the connection's own Location Update or access request
procedure. -/
def Delivered (log : List MscAAct) : Prop :=
  .authenticated .lu ∈ log ∨ .authenticated .accessReq ∈ log

/-- The release of the connection has begun. -/
def ReleaseBegun (log : List MscAAct) : Prop :=
  .enter .releasing ∈ log

instance (log : List MscAAct) : Decidable (Delivered log) :=
  inferInstanceAs (Decidable (_ ∨ _))

instance (log : List MscAAct) : Decidable (ReleaseBegun log) :=
  inferInstanceAs (Decidable (MscAAct.enter .releasing ∈ log))

/-- The handlers of call control, short messages, supplementary services, group and broadcast calls
and test procedures. -/
def L3Handler.isService : L3Handler → Bool
  | .gsm0408RcvMm | .gsm0408RcvRr => false
  | _ => true

/-- The connection is open for services, judged by its history. -/
def Open (log : List MscAAct) : Prop :=
  Delivered log ∧ ¬ ReleaseBegun log

variable {handler : L3Handler} {act : MscAAct}

theorem Open.snoc {log : List MscAAct} (isOpen : Open log) (harmless : act ≠ .enter .releasing) :
    Open (log ++ [act]) := by
  refine ⟨isOpen.1.imp (List.mem_append_left _) (List.mem_append_left _), fun begun => ?_⟩
  exact isOpen.2 ((mem_concat.mp begun).resolve_right harmless.symm)

/-- What may follow a history: a service gets a message, any handler gets a message that is not
among the initially permitted ones, and the connection becomes accepted, only when it is open. -/
def Allowed (before : List MscAAct) : MscAAct → Prop
  | .handler handler msg =>
      handler.isService = true ∨ msgIsInitiallyPermitted msg = false → Open before
  | .enter state => state = .authenticated ∨ state = .communicating → Open before
  | _ => True

/-- What the history says about the state. -/
structure MscAInv (s : MscA) : Prop where
  guarded : Guarded Allowed s.log
  accepted : mscAIsAccepted s = true → Open s.log
  inRelease : ReleaseBegun s.log → mscAInRelease s = true

/-! ### Elementary moves -/

section Moves

variable {s s' : MscA}

section

variable (inv : MscAInv s)
include inv

/-- The invariant reads the log and the machine's state only. -/
theorem MscAInv.congr (log : s'.log = s.log) (state : s'.fi.state = s.fi.state) : MscAInv s' := by
  obtain ⟨guarded, accepted, inRelease⟩ := inv
  refine ⟨log ▸ guarded, ?_, ?_⟩
  · intro isAccepted
    rw [log]
    exact accepted (by simpa [mscAIsAccepted, state] using isAccepted)
  · intro begun
    rw [log] at begun
    simpa [mscAInRelease, state] using inRelease begun

/-- An act that is allowed at this point and does not begin the release. -/
theorem MscAInv.emit (allowed : Allowed s.log act) (harmless : act ≠ .enter .releasing) :
    MscAInv (s.emit act) := by
  refine ⟨guarded_snoc.mpr ⟨inv.guarded, allowed⟩, ?_, ?_⟩
  · intro isAccepted
    exact (inv.accepted isAccepted).snoc harmless
  · intro begun
    exact inv.inRelease ((mem_concat.mp begun).resolve_right harmless.symm)

/-- A state is entered: an accepted one when the connection is open, and one before the release only
when that has not begun. -/
theorem MscAInv.enter (fi : Inst MscAState)
    (isOpen : fi.state = .authenticated ∨ fi.state = .communicating → Open s.log)
    (inRelease : ReleaseBegun s.log → fi.state = .releasing ∨ fi.state = .released) :
    MscAInv ({ s with fi := fi }.emit (.enter fi.state)) := by
  refine ⟨guarded_snoc.mpr ⟨inv.guarded, isOpen⟩, ?_, ?_⟩
  · intro isAccepted
    have entered : fi.state = .authenticated ∨ fi.state = .communicating :=
      ((Bool.or_eq_true _ _).mp isAccepted).imp of_decide_eq_true of_decide_eq_true
    refine (isOpen entered).snoc ?_
    rcases entered with state | state <;> simp [state]
  · intro begun
    have entered : fi.state = .releasing ∨ fi.state = .released := by
      rcases mem_concat.mp begun with before | here
      · exact inRelease before
      · exact .inl (by simpa using here.symm)
    exact (Bool.or_eq_true _ _).mpr (entered.imp decide_eq_true decide_eq_true)

/-- The acts that only report something are allowed at any point. -/
theorem MscAInv.report (act : MscAAct) (isReport : (act matches .handler _ _ | .enter _) = false) :
    MscAInv (s.emit act) := by
  cases act with
  | handler | enter => simp at isReport
  | _ => exact inv.emit trivial (by simp)

theorem MscAInv.push (cont : Cont) : MscAInv (s.push cont) :=
  inv.congr rfl rfl

theorem MscAInv.term : MscAInv (mscATerm s) := by
  unfold mscATerm
  split
  · exact inv
  · rename_i fi ended
    obtain ⟨-, rfl⟩ := Inst.term_eq_some.mp ended
    have ended_inv : MscAInv { s with fi := { s.fi with terminating := true, timer := none } } :=
      inv.congr rfl rfl
    exact ended_inv.report .terminated rfl

theorem MscAInv.outcome (connAccepted : Bool) :
    MscAInv (evaluateAcceptanceOutcome s connAccepted) := by
  have counted := inv.report (.outcome s.completeLayer3Type connAccepted) rfl
  unfold evaluateAcceptanceOutcome
  dsimp only
  split
  · exact counted
  · split
    · exact (counted.push _).report _ rfl
    · exact counted.push _

theorem MscAInv.onenter (env : MscAEnv) (new : MscAState) : MscAInv (mscAFsmOnenter env s new) := by
  cases new with
  | authenticated => exact inv.outcome true
  | releasing =>
      simp only [mscAFsmOnenter, mscAFsmReleasingOnenter]
      split
      · exact (inv.report _ rfl).push _
      · exact inv.push _
  | released =>
      simp only [mscAFsmOnenter, mscAFsmReleasedOnenter]
      split
      · exact inv
      · exact inv.term
  | _ => exact inv

/-- Any state change keeps the invariant, provided that `MSC_A_ST_AUTHENTICATED` is only asked for
after the event was delivered: the masks of the table do the rest. -/
theorem MscAInv.stateChg (env : MscAEnv) (new : MscAState)
    (delivered : new = .authenticated → Delivered s.log) : MscAInv (mscAStateChg env s new) := by
  unfold mscAStateChg
  split
  · exact inv
  · split
    · exact inv
    · rename_i fi changed
      obtain ⟨-, permitted, rfl⟩ := Inst.stateChg_eq_some.mp changed
      refine MscAInv.onenter (inv.enter _ ?_ ?_) env new
      · rintro (rfl | rfl)
        · have from_authCiph : s.fi.state = .authCiph := by
            cases state : s.fi.state <;> simp [mscAFsmTable, state] at permitted ⊢
          refine ⟨delivered rfl, fun begun => ?_⟩
          have := inv.inRelease begun
          simp [mscAInRelease, from_authCiph] at this
        · have from_authenticated : s.fi.state = .authenticated := by
            cases state : s.fi.state <;> simp [mscAFsmTable, state] at permitted ⊢
          exact inv.accepted (by simp [mscAIsAccepted, from_authenticated])
      · intro begun
        have := inv.inRelease begun
        cases state : s.fi.state <;> cases new <;>
          simp [mscAFsmTable, mscAInRelease, state] at permitted this ⊢

theorem MscAInv.reject : MscAInv (mscAReject s) :=
  (inv.push .release).outcome false

end

end Moves

/-! ### Events -/

section Events

variable {s : MscA} (cfg : MscCfg) (env : MscAEnv)

section

variable (inv : MscAInv s)
include inv

theorem MscAInv.ranEncCiphering (umtsAka retrieveImeisv : Bool) :
    MscAInv (mscARanEncCiphering cfg env s umtsAka retrieveImeisv).2 := by
  unfold mscARanEncCiphering
  split
  · exact inv
  · split
    · exact inv
    · split
      · exact inv
      · exact inv.report _ rfl

theorem MscAInv.setCipherMode (umtsAka retrieveImeisv : Bool) :
    MscAInv (mscAVlrSetCipherMode cfg env s umtsAka retrieveImeisv).2 := by
  unfold mscAVlrSetCipherMode
  split
  · exact inv
  · split
    · exact inv
    · split
      · split
        · exact inv
        · have saved : MscAInv { s with
              stateBeforeClassmarkUpdate := s.fi.state
              actionOnClassmarkUpdate := some (umtsAka, retrieveImeisv) } := inv.congr rfl rfl
          exact (saved.report .classmarkRequest rfl).stateChg env .waitClassmarkUpdate (by simp)
      · exact inv.ranEncCiphering cfg env umtsAka retrieveImeisv

/-- The classmark detour: the saved state is restored through the table, which never leads from
`MSC_A_ST_WAIT_CLASSMARK_UPDATE` to an accepted state. -/
theorem MscAInv.waitClassmarkUpdate (waiting : s.fi.state = .waitClassmarkUpdate) (e : MscAEvent) :
    MscAInv (mscAFsmWaitClassmarkUpdate cfg env s e) := by
  cases e with
  | classmarkUpdate =>
      simp only [mscAFsmWaitClassmarkUpdate]
      split
      · rename_i umtsAka retrieveImeisv _
        have back := inv.stateChg env .authCiph (by simp)
        have ciphered := back.ranEncCiphering cfg env umtsAka retrieveImeisv
        split
        · exact ciphered
        · exact ciphered.stateChg env .releasing (by simp)
      · by_cases refused : s.stateBeforeClassmarkUpdate = .authenticated
        · have unchanged : mscAStateChg env s s.stateBeforeClassmarkUpdate = s := by
            simp [mscAStateChg, refused, waiting, Inst.stateChg, mscAFsmTable]
          rw [unchanged]
          exact inv
        · exact inv.stateChg env _ (fun asked => absurd asked refused)
  | unused | moClose | cnClose => exact inv.reject
  | _ => exact inv

/-- Every event keeps the invariant, if a success report comes from a VLR procedure. -/
theorem MscAInv.dispatch (e : MscAEvent) (own : e ≠ .authenticated .sgs) :
    MscAInv (mscADispatch cfg env s e) := by
  unfold mscADispatch
  split
  · split
    · cases e with
      | completeLayer3Ok => exact inv.stateChg env .authCiph (by simp)
      | moClose | cnClose => exact inv.reject
      | unused => exact inv.stateChg env .releasing (by simp)
      | _ => exact inv
    · cases e with
      | authenticated by_ =>
          refine MscAInv.stateChg (inv.report _ rfl) env .authenticated ?_
          intro _
          cases by_ with
          | lu => exact .inl (by simp [MscA.emit])
          | accessReq => exact .inr (by simp [MscA.emit])
          | sgs => exact absurd rfl own
      | moClose | cnClose => exact inv.reject
      | unused => exact inv.stateChg env .releasing (by simp)
      | _ => exact inv
    · exact inv.waitClassmarkUpdate cfg env ‹_› e
    · cases e with
      | transactionAccepted => exact inv.stateChg env .communicating (by simp)
      | moClose | cnClose | unused => exact inv.stateChg env .releasing (by simp)
      | _ => exact inv
    · cases e with
      | handoverRequired => exact inv.report _ rfl
      | moClose | cnClose | unused => exact inv.stateChg env .releasing (by simp)
      | _ => exact inv
    · exact inv
    · cases e with
      | unused => exact inv.term
      | _ => exact inv
  · exact inv

/-! ### Layer 3 messages -/

omit inv in
/-- A message that is passed on went through the gate. -/
theorem mscAUpL3Verdict_ok {isR99 : Bool} {gh : L3Msg}
    (passed : mscAUpL3Verdict s isR99 gh = .ok handler) :
    (mscAIsAccepted s = true ∨ msgIsInitiallyPermitted gh = true) ∧
      l3HandlerOf gh.pdisc = .ok handler := by
  unfold mscAUpL3Verdict at passed
  split at passed
  · cases passed
  · rename_i gate
    split at passed
    · cases passed
    · split at passed
      · cases passed
      · refine ⟨?_, passed⟩
        cases accepted : mscAIsAccepted s <;> cases permitted : msgIsInitiallyPermitted gh <;>
          simp_all

omit inv in
/-- None of the initially permitted messages is for a service. -/
theorem isService_of_permitted {gh : L3Msg} (permitted : msgIsInitiallyPermitted gh = true)
    (handled : l3HandlerOf gh.pdisc = .ok handler) : handler.isService = false := by
  unfold msgIsInitiallyPermitted at permitted
  cases pdisc : gh.pdisc <;> simp only [pdisc, l3HandlerOf, Except.ok.injEq] at permitted handled <;>
    first | exact absurd permitted Bool.false_ne_true | (subst handled; rfl)

theorem MscAInv.upL3 (gh : L3Msg) : MscAInv (mscAUpL3 s gh) := by
  unfold mscAUpL3
  dsimp only
  split
  · exact inv.report _ rfl
  · rename_i isR99 _
    set counted : MscA :=
      { s with nSdNext := (ranDecDtapUndupIsDuplicate s.nSdNext isR99 gh).2 } with counted_eq
    have counted_inv : MscAInv counted := inv.congr rfl rfl
    split
    · exact counted_inv.report _ rfl
    · split
      · exact counted_inv.report _ rfl
      · rename_i handler passed
        obtain ⟨gate, handled⟩ := mscAUpL3Verdict_ok passed
        refine counted_inv.emit ?_ (by simp)
        intro gated
        rcases gate with accepted | permitted
        · exact counted_inv.accepted accepted
        · rcases gated with service | notPermitted
          · exact absurd (isService_of_permitted permitted handled) (by simp [service])
          · exact absurd permitted (by simp [notPermitted])

/-! ### Messages from the RAN -/

theorem MscAInv.upClassmarkUpdate (classmark : Classmark) (toMscT : Bool) :
    MscAInv (mscAUpClassmarkUpdate cfg env s classmark toMscT) := by
  have bump : ∀ t : MscA, MscAInv t → MscAInv (if t.fi.state = .waitClassmarkUpdate then
      mscADispatch cfg env t .classmarkUpdate else t) := by
    intro t held
    split
    · exact held.dispatch cfg env _ (by simp)
    · exact held
  unfold mscAUpClassmarkUpdate
  apply bump
  split
  · exact inv
  · split <;> exact inv.congr rfl rfl

theorem MscAInv.cipherModeComplete (utranEncryption : Option Nat) (l3 : Option L3Msg) :
    MscAInv (mscACipherModeComplete cfg s utranEncryption l3) := by
  unfold mscACipherModeComplete
  split
  · split
    · exact inv.report _ rfl
    · exact inv
  · cases l3 with
    | none =>
        dsimp only
        split
        · exact inv.report _ rfl
        · exact inv
    | some msg =>
        dsimp only
        split
        · exact (inv.push _).report _ rfl
        · exact inv.push _

theorem MscAInv.ranDecFromMscI (msg : RanMsg) : MscAInv (mscARanDecFromMscI cfg env s msg) := by
  cases msg with
  | complL3 msg | dtap msg => exact inv.upL3 msg
  | clearRequest | handoverRequired => exact inv.dispatch cfg env _ (by simp)
  | clearComplete =>
      simp only [mscARanDecFromMscI, mscAClearComplete]
      split
      · exact inv.stateChg env .released (by simp)
      · exact inv
      · exact inv.stateChg env .releasing (by simp)
  | classmarkUpdate classmark => exact inv.upClassmarkUpdate cfg env classmark false
  | cipherModeComplete utranEncryption l3 => exact inv.cipherModeComplete cfg utranEncryption l3
  | cipherModeReject | sapiNReject =>
      simp only [mscARanDecFromMscI]
      split
      · exact inv.report _ rfl
      · exact inv
  | assignmentComplete | assignmentFailure | handoverFailure => exact inv.report _ rfl
  | _ => exact inv

theorem MscAInv.ranDecFromMscT (msg : RanMsg) : MscAInv (mscARanDecFromMscT cfg env s msg) := by
  unfold mscARanDecFromMscT
  split
  · exact inv
  · cases msg with
    | classmarkUpdate classmark => exact inv.upClassmarkUpdate cfg env classmark true
    | clearRequest | clearComplete | handoverRequestAck | handoverDetect | handoverComplete
    | handoverFailure => exact inv.report _ rfl
    | _ => exact inv

theorem MscAInv.ranDec (e : MscAEvent) (msg : RanMsg) : MscAInv (mscARanDec cfg env s e msg) := by
  unfold mscARanDec
  split
  · split
    iterate 4 exact inv.ranDecFromMscI cfg env msg
    iterate 4 exact inv.ranDecFromMscT cfg env msg
    exact inv
  · exact inv

/-! ### Timer and returns -/

theorem MscAInv.timerCb : MscAInv (mscAFsmTimerCb cfg env s) := by
  unfold mscAFsmTimerCb
  split
  · exact inv.term
  · exact inv.stateChg env .released (by simp)
  · exact inv.dispatch cfg env _ (by simp)

theorem MscAInv.resume (cont : Cont) : MscAInv (mscAReturn cfg env s cont) := by
  cases cont with
  | afterPaging accepted =>
      simp only [mscAReturn]
      split
      · exact (inv.push _).report _ rfl
      · exact inv.push _
  | afterAttached accepted =>
      simp only [mscAReturn]
      split
      · exact (inv.dispatch cfg env _ (by simp)).report _ rfl
      · exact inv
  | release => exact inv.stateChg env .releasing (by simp)
  | releasingRest vsub =>
      simp only [mscAReturn]
      split
      · split
        · exact (inv.report _ rfl).stateChg env .released (by simp)
        · exact inv.stateChg env .released (by simp)
      · have cleared := inv.report (.clearCommand (vsub && env.sgsAssociated)) rfl
        split
        · exact cleared.congr rfl rfl
        · exact cleared
  | ciphL3 msg => exact inv.upL3 msg

end

end Events

/-! ### Runs -/

/-- One input keeps the invariant. -/
theorem mscAStep_inv (cfg : MscCfg) (s : MscA) (input : MscAEnv × MscAInput) (inv : MscAInv s) :
    MscAInv (mscAStep cfg s input) := by
  obtain ⟨env, input⟩ := input
  cases input with
  | ran e msg => exact inv.ranDec cfg env e msg
  | vlrSuccess proc =>
      refine inv.dispatch cfg env _ ?_
      cases proc <;> simp [VlrProc.source]
  | setCipherMode umtsAka retrieveImeisv => exact inv.setCipherMode cfg env umtsAka retrieveImeisv
  | subscrAssoc vsub =>
      refine MscAInv.dispatch cfg env ?_ .completeLayer3Ok (by simp)
      exact inv.congr rfl rfl
  | vsubChanged _ | completeLayer3 _ => exact inv.congr rfl rfl
  | timeout =>
      simp only [mscAStep]
      split
      · exact MscAInv.timerCb cfg env (inv.congr rfl rfl)
      · exact inv
  | returned =>
      simp only [mscAStep]
      split
      · exact inv
      · refine MscAInv.resume cfg env ?_ _
        exact inv.congr rfl rfl
  | _ => exact inv.dispatch cfg env _ (by simp)

theorem mscAAlloc_inv {ran : OsmoRatType} : MscAInv (mscAAlloc ran) :=
  ⟨guarded_nil, by simp [mscAAlloc, mscAIsAccepted], by simp [mscAAlloc, ReleaseBegun]⟩

/-- On every connection, after any inputs in any order, every message a service handler got was
passed on after the connection's own VLR procedure had delivered `MSC_A_EV_AUTHENTICATED` and before
the release began, and a connection whose release has begun is not accepted. -/
theorem mscARun_l3IsGated (cfg : MscCfg) (ran : OsmoRatType) (inputs : List (MscAEnv × MscAInput)) :
    let s := inputs.foldl (mscAStep cfg) (mscAAlloc ran)
    Guarded Allowed s.log ∧ (ReleaseBegun s.log → mscAIsAccepted s = false) := by
  have inv : MscAInv (inputs.foldl (mscAStep cfg) (mscAAlloc ran)) :=
    foldl_invariant_always (mscAStep_inv cfg) inputs _ mscAAlloc_inv
  refine ⟨inv.guarded, ?_⟩
  intro begun
  cases accepted : mscAIsAccepted (inputs.foldl (mscAStep cfg) (mscAAlloc ran)) with
  | false => rfl
  | true => exact absurd begun (inv.accepted accepted).2

/-- In every run an accepted connection is one whose own VLR procedure has reported success and whose
release has not begun, and once it has begun the machine stays in the states of release. -/
theorem mscARun_accepted (cfg : MscCfg) (ran : OsmoRatType) (inputs : List (MscAEnv × MscAInput)) :
    let s := inputs.foldl (mscAStep cfg) (mscAAlloc ran)
    (mscAIsAccepted s = true → Open s.log) ∧ (ReleaseBegun s.log → mscAInRelease s = true) := by
  have inv : MscAInv (inputs.foldl (mscAStep cfg) (mscAAlloc ran)) :=
    foldl_invariant_always (mscAStep_inv cfg) inputs _ mscAAlloc_inv
  exact ⟨inv.accepted, inv.inRelease⟩

/-- A CM Service Request, a successful access request, a SETUP, and another one after the subscriber
has closed the connection. -/
def mobileOriginatedCall : List (MscAEnv × MscAInput) :=
  [.ran .fromICompleteLayer3 (.complL3 ⟨.mm, 0x24, false⟩), .completeLayer3 .cmServiceReq,
    .subscrAssoc {}, .vlrSuccess .accessReq,
    .ran .fromIProcessAccessSignallingRequest (.dtap ⟨.cc, 0x45, false⟩), .moClose,
    .ran .fromIProcessAccessSignallingRequest (.dtap ⟨.cc, 0x05, false⟩)].map ({}, ·)

example : (mobileOriginatedCall.foldl (mscAStep {}) (mscAAlloc .geranA)).log =
    [.handler .gsm0408RcvMm ⟨.mm, 0x24, false⟩, .enter .authCiph, .authenticated .accessReq,
      .enter .authenticated, .outcome .cmServiceReq true,
      .handler .gsm0408RcvCc ⟨.cc, 0x45, false⟩, .enter .releasing, .cancelAttachFsm,
      .drop .notPermitted ⟨.cc, 0x05, false⟩] := by decide

end OsmoMsc.Msc
