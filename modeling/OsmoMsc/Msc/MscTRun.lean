/-
Module: OsmoMsc.Msc.MscTRun
Purpose: How many answers MSC-A gets to a PREPARE HANDOVER REQUEST.  Answers are sent when messages
  of the BSS are relayed, on local errors, and from the cleanup function of the MSC-T, which only
  knows of a failure that it has sent itself.  Exactly one answer was sent by the time the MSC-T is
  gone, in the runs that `BOk` admits.
Trusted boundary: none
Main exports: answers, mscBRun_oneAnswer
-/
import OsmoMsc.Library.Run
import OsmoMsc.Msc.MscT

namespace OsmoMsc.Msc

open Library

variable {b : MscB}

/-- An answer to the request the MSC-T was created for. -/
def BAct.isAnswer : BAct → Bool
  | .prepareHandoverResult | .prepareHandoverError => true
  | _ => false

def answers (acts : List BAct) : List BAct := acts.filter BAct.isAnswer

/-- A step that keeps the answers in order.  The request comes from GERAN with a PDU.  MSC-A does not
close before it has an answer.  The RAN connection is not closed while the MGW is being set up.  Once
an answer was sent, the BSS sends no HANDOVER FAILURE and no HANDOVER REQUEST ACK, and neither the RAN
connection nor the call leg ends before the MSC-T. -/
def BOk (b : MscB) (input : BInput) : Prop :=
  match b.mscT, input with
  | none, .gsup (.prepareHandoverRequest req) => b.ran = .geranA ∧ req.pdu = true
  | some _, .gsup .close => answers b.acts ≠ []
  | some _, .ranUpL2 .handoverFailure _ => answers b.acts = []
  | some t, .ranUpL2 .handoverRequestAck _ => t.fi.state = .waitHoComplete ∨ answers b.acts = []
  | some t, .ranConnReleased =>
      t.fi.accepts mscTFsm .fromRanConnReleased = true ∧ answers b.acts = []
  | some _, .callLegTerm => answers b.acts = []
  | _, _ => True

instance BOk.decidable (b : MscB) (input : BInput) : Decidable (BOk b input) := by
  unfold BOk
  split <;> infer_instance

/-! ### The invariant -/

/-- What holds while the MSC-T exists. -/
structure Serving (b : MscB) (t : MscT) : Prop where
  current : b.mscT = some t
  mscA : b.mscA = true
  noMscI : b.mscI = false
  geran : b.ran = .geranA
  noSuccess : t.hoSuccess = false
  noFailSent : t.hoFailSent = false
  ranConn : t.ranConn ≠ .freed
  running : t.fi.terminating = false
  atMostOne : (answers b.acts).length ≤ 1
  answered : t.fi.state = .waitHoComplete → answers b.acts ≠ []

/-- Nothing asked yet, an MSC-T that serves a request, or one that is gone after one answer. -/
inductive BInv (b : MscB) : Prop where
  | idle (noMscT : b.mscT = none) (fresh : b.created = false) (mscA : b.mscA = true)
      (noMscI : b.mscI = false) (unanswered : answers b.acts = [])
  | serving (t : MscT) (serving : Serving b t)
  | done (noMscT : b.mscT = none) (one : (answers b.acts).length = 1)
      (closed : b.mscA = true → b.mscI = true ∨ b.crashed = true)

variable {act : BAct}

/-- Acts that are no answers leave the answers alone. -/
theorem answers_emit_other (other : act.isAnswer = false) :
    answers (b.emit act).acts = answers b.acts := by
  simp [answers, MscB.emit, other]

theorem answers_emit_answer (answer : act.isAnswer = true) :
    answers (b.emit act).acts = answers b.acts ++ [act] := by
  simp [answers, MscB.emit, answer]

theorem toMscA_eq (mscA : b.mscA = true) (act : BAct) : b.toMscA act = b.emit act := by
  simp [MscB.toMscA, mscA]

/-! ### The MSC-T ends -/

/-- An MSC-T that ends without success and without an answer has its cleanup function send one. -/
theorem Serving.clear {t t' : MscT} (serving : Serving b t) (noSuccess : t'.hoSuccess = false)
    (noFailSent : t'.hoFailSent = false) (ranConn : t'.ranConn ≠ .freed)
    (unanswered : answers b.acts = []) : BInv (mscTClear b t') := by
  have failed : b.sendHandoverFailure = b.emit .prepareHandoverError := by
    simp [MscB.sendHandoverFailure, serving.geran, toMscA_eq serving.mscA]
  have cleared : mscTClear b t' = (b.emit .prepareHandoverError).mscTTerminated := by
    simp [mscTClear, noSuccess, noFailSent, ranConn, failed]
  have sent : answers (b.emit .prepareHandoverError).acts = [.prepareHandoverError] := by
    rw [answers_emit_answer rfl, unanswered]
    rfl
  rw [cleared]
  refine .done rfl ?_ ?_
  · exact congrArg List.length sent
  · simp [MscB.mscTTerminated, MscB.emit, serving.noMscI]

theorem Serving.error {t t' : MscT} (serving : Serving b t) (noFailSent : t'.hoFailSent = false)
    (ranConn : t'.ranConn ≠ .freed) (unanswered : answers b.acts = []) : BInv (mscTError b t') :=
  serving.clear rfl noFailSent ranConn unanswered

/-! ### The MSC-T goes on -/

section

variable {t t' : MscT} (serving : Serving b t)
include serving

/-- A change of the MSC-T that keeps its flags, and waits for completion only after an answer. -/
theorem Serving.put (flags : t'.hoSuccess = t.hoSuccess ∧ t'.hoFailSent = t.hoFailSent)
    (ranConn : t'.ranConn ≠ .freed) (running : t'.fi.terminating = false)
    (answered : t'.fi.state = .waitHoComplete → answers b.acts ≠ []) : Serving (b.put t') t' where
  current := rfl
  mscA := serving.mscA
  noMscI := serving.noMscI
  geran := serving.geran
  noSuccess := flags.1.trans serving.noSuccess
  noFailSent := flags.2.trans serving.noFailSent
  ranConn := ranConn
  running := running
  atMostOne := serving.atMostOne
  answered := answered

/-- A change of anything but the flags, the connection and the state. -/
theorem Serving.put_data (flags : t'.hoSuccess = t.hoSuccess ∧ t'.hoFailSent = t.hoFailSent)
    (ranConn : t'.ranConn = t.ranConn) (fi : t'.fi = t.fi) : Serving (b.put t') t' :=
  serving.put flags (ranConn ▸ serving.ranConn) (fi ▸ serving.running)
    (by rw [fi]; exact serving.answered)

theorem Serving.put_stateChg (new : MscTState)
    (answered : new = .waitHoComplete → answers b.acts ≠ []) :
    Serving (b.put (t.stateChg new)) (t.stateChg new) := by
  unfold MscT.stateChg
  cases changed : t.fi.stateChg mscTFsm new none with
  | none => exact serving.put_data ⟨rfl, rfl⟩ rfl rfl
  | some fi =>
      obtain ⟨running, -, rfl⟩ := Inst.stateChg_eq_some.mp changed
      exact serving.put ⟨rfl, rfl⟩ serving.ranConn running answered

/-- Another message to MSC-A or to the BSS. -/
theorem Serving.emit_other (other : act.isAnswer = false) : Serving (b.emit act) t :=
  { serving with
    atMostOne := by simpa [answers_emit_other other] using serving.atMostOne
    answered := by simpa [answers_emit_other other] using serving.answered }

/-- The first answer. -/
theorem Serving.emit_answer (act : BAct) (answer : act.isAnswer = true)
    (unanswered : answers b.acts = []) :
    Serving (b.emit act) t ∧ answers (b.emit act).acts ≠ [] := by
  have sent : answers (b.emit act).acts = [act] := by
    rw [answers_emit_answer answer, unanswered]
    rfl
  exact ⟨{ serving with atMostOne := by simp [sent], answered := by simp [sent] }, by simp [sent]⟩

theorem Serving.one (answered : answers b.acts ≠ []) : (answers b.acts).length = 1 := by
  have atMost := serving.atMostOne
  have atLeast := List.length_pos_iff.mpr answered
  omega

end

/-! ### One step -/

variable {msg : TargetMsg} {input : BInput}

section

variable {t : MscT} (serving : Serving b t)
include serving

theorem Serving.firstRequest {req : HoRequest} (unanswered : answers b.acts = [])
    (pdu : req.pdu = true) : BInv (mscTFsmPendingFirstCoInitialMsg b t req) := by
  have error : BInv (mscTError b t) :=
    serving.error serving.noFailSent serving.ranConn unanswered
  unfold mscTFsmPendingFirstCoInitialMsg
  split
  · exact error
  · rw [if_neg (by simp [pdu])]
    split
    · unfold mscTFindRanPeerFromHoRequest
      split
      · exact error
      · exact error
      · rename_i connects _
        -- the peer is set, with or without a connection, and the call leg follows
        have peer : Serving (b.put { t with ranConn := if connects then .up else .none })
            { t with ranConn := if connects then .up else .none } := by
          refine serving.put ⟨rfl, rfl⟩ ?_ serving.running serving.answered
          cases connects <;> simp
        have waiting := peer.put_stateChg .waitLocalRtp (by simp)
        unfold mscTFsmWaitLocalRtpOnenter
        simp only
        split
        · exact .serving _ (waiting.put_data ⟨rfl, rfl⟩ rfl rfl)
        · exact serving.error waiting.noFailSent waiting.ranConn unanswered
    · exact error

theorem Serving.rtpLocalAddr (leg : CallLegLocal) (sends : Bool) :
    BInv (mscTFsmWaitLocalRtp b t leg sends) := by
  unfold mscTFsmWaitLocalRtp
  split
  · have waiting := serving.put_stateChg .waitHoRequestAck (by simp)
    unfold mscTSendStoredHoRequest
    split
    · exact .serving _ waiting
    · split
      · exact .serving _ (waiting.emit_other rfl)
      · exact .serving _ waiting
    · rename_i freed
      exact absurd freed serving.ranConn
  · exact .serving t serving

/-- A message that is passed on to MSC-A. -/
theorem Serving.relayed (other : act.isAnswer = false) : BInv (b.toMscA act) := by
  rw [toMscA_eq serving.mscA]
  exact .serving t (serving.emit_other other)

theorem Serving.ranUpInRequestAck {env : AckEnv}
    (fits : msg = .handoverFailure ∨ msg = .handoverRequestAck → answers b.acts = []) :
    BInv (mscTWaitHoRequestAckDecodeCb b t msg env) := by
  cases msg with
  | undecodable => exact .serving t serving
  | handoverComplete | handoverDetect | clearRequest | other => exact serving.relayed rfl
  | handoverFailure =>
      simp only [mscTWaitHoRequestAckDecodeCb, toMscA_eq serving.mscA]
      exact .serving t (serving.emit_answer _ rfl (fits (.inl rfl))).1
  | handoverRequestAck =>
      have error : BInv (mscTError b t) :=
        serving.error serving.noFailSent serving.ranConn (fits (.inr rfl))
      simp only [mscTWaitHoRequestAckDecodeCb, mscTPatchAndSendHoRequestAck]
      cases env.number with
      | none => exact error
      | some number =>
          by_cases works : env.bcd && env.encodes && b.mscA
          · simp only [if_pos works, toMscA_eq serving.mscA]
            obtain ⟨sent, answered⟩ :=
              serving.emit_answer .prepareHandoverResult rfl (fits (.inr rfl))
            have numbered : Serving
                ((b.emit .prepareHandoverResult).put { t with handoverNumber := some number })
                { t with handoverNumber := some number } := sent.put_data ⟨rfl, rfl⟩ rfl rfl
            exact .serving _ (numbered.put_stateChg .waitHoComplete fun _ => answered)
          · simp only [if_neg works]
            exact error

theorem Serving.ranUpInComplete (waiting : t.fi.state = .waitHoComplete)
    (fits : msg = .handoverFailure → answers b.acts = []) :
    BInv (mscTWaitHoCompleteDecodeCb b t msg) := by
  have answered := serving.answered waiting
  cases msg with
  | undecodable => exact .serving t serving
  | handoverRequestAck | handoverDetect | clearRequest | other => exact serving.relayed rfl
  | handoverFailure => exact absurd (fits rfl) answered
  | handoverComplete =>
      have one := serving.one answered
      simp only [mscTWaitHoCompleteDecodeCb, mscTClear, MscB.put, MscB.toMscA, serving.mscA]
      split
      · refine .done ?_ ?_ ?_
        · simp [MscB.mscTTerminated]
        · simpa [MscB.mscTTerminated, MscB.emit, answers, BAct.isAnswer] using one
        · simp [MscB.mscTTerminated, MscB.emit]
      · refine .done rfl ?_ ?_
        · simpa [MscB.crash, MscB.emit, answers, BAct.isAnswer] using one
        · simp [MscB.crash]

omit serving in
/-- MSC-A closes: the MSC-T goes without another answer. -/
theorem MscB.mscAReleaseCn_done (one : (answers b.acts).length = 1) (mscA : b.mscA = true)
    (ranConn : ∀ t, b.mscT = some t → t.ranConn ≠ .freed) : BInv (MscB.mscAReleaseCn b) := by
  unfold MscB.mscAReleaseCn
  rw [if_pos mscA]
  cases role : b.mscT with
  | none =>
      cases noMscI : b.mscI <;>
        simp only [role, MscB.emit, Option.isSome_none, Bool.false_eq_true, if_false, if_true]
      · exact .done rfl one (by simp)
      · exact .done rfl (by simpa [answers, BAct.isAnswer] using one) (by simp)
  | some t =>
      cases noMscI : b.mscI <;>
        simp only [role, MscB.emit, Option.isSome_some, Bool.false_eq_true, if_false, if_true,
          ranConn t role]
      · exact .done rfl (by simpa [answers, BAct.isAnswer] using one) (by simp)
      · exact .done rfl (by simpa [answers, BAct.isAnswer] using one) (by simp)

theorem Serving.step (fits : BOk b input) (event : ∀ msg, input ≠ .gsup msg) :
    BInv (mscTStep b t input) := by
  simp only [BOk, serving.current] at fits
  cases input with
  | gsup msg => exact absurd rfl (event msg)
  | ranUpL2 msg env =>
      simp only [mscTStep]
      split
      · unfold mscTRanUpL2
        split
        · refine serving.ranUpInRequestAck ?_
          rintro (rfl | rfl)
          · exact fits
          · rename_i waiting
            simpa [waiting] using fits
        · rename_i waiting
          refine serving.ranUpInComplete waiting ?_
          rintro rfl
          exact fits
        · exact .serving t serving
      · exact .serving t serving
  | ranConnReleased =>
      simp only [mscTStep]
      split
      · rw [if_pos fits.1]
        exact serving.clear serving.noSuccess serving.noFailSent (by simp) fits.2
      · exact .serving t serving
  | rtpLocalAddr dir sends =>
      simp only [mscTStep]
      split
      · exact .serving t serving
      · rename_i leg _
        have known : Serving (b.put { t with callLeg := some (leg.set dir) })
            { t with callLeg := some (leg.set dir) } := serving.put_data ⟨rfl, rfl⟩ rfl rfl
        split
        · exact known.rtpLocalAddr (leg.set dir) sends
        · exact .serving _ known
  | callLegTerm =>
      simp only [mscTStep]
      split
      · exact serving.error serving.noFailSent serving.ranConn fits
      · exact .serving t serving
  | mnccSetupReq _ | mnccCallEnded =>
      simp only [mscTStep]
      split
      · exact .serving _ (serving.put_data ⟨rfl, rfl⟩ rfl rfl)
      · exact .serving t serving

end

theorem BInv.gsup {msg : GsupFromA} (inv : BInv b) (fits : BOk b (.gsup msg)) (mscA : b.mscA = true)
    (up : b.crashed = false) : BInv (mscARemoteRxGsup b msg) := by
  cases inv with
  | idle noMscT fresh _ noMscI unanswered =>
      cases msg with
      | prepareHandoverRequest req =>
          simp only [BOk, noMscT] at fits
          have asked : Serving { b.put {} with created := true } {} :=
            { current := rfl, mscA := mscA, noMscI := noMscI, geran := fits.1, noSuccess := rfl,
              noFailSent := rfl, ranConn := by simp, running := rfl,
              atMostOne := by simp [MscB.put, unanswered], answered := by simp }
          simp only [mscARemoteRxGsup, noMscT, noMscI]
          exact asked.firstRequest unanswered fits.2
      | close => simpa [mscARemoteRxGsup, noMscT, noMscI] using
          BInv.idle noMscT fresh mscA noMscI unanswered
      | forwardAccessSignallingRequest | sendEndSignalRequest | other =>
          exact .idle noMscT fresh mscA noMscI unanswered
  | serving t serving =>
      cases msg with
      | prepareHandoverRequest req =>
          simp only [mscARemoteRxGsup, serving.current, serving.geran, Option.isSome_some,
            Bool.true_or, if_true]
          exact .serving t (serving.emit_other rfl)
      | close =>
          simp only [BOk, serving.current] at fits
          simp only [mscARemoteRxGsup, serving.current, Option.isSome_some, Bool.true_or, if_true]
          refine MscB.mscAReleaseCn_done (serving.one fits) mscA ?_
          intro t' current
          obtain rfl : t = t' := by simpa [serving.current] using current
          exact serving.ranConn
      | forwardAccessSignallingRequest | sendEndSignalRequest | other => exact .serving t serving
  | done noMscT one closed =>
      have mscI : b.mscI = true := by simpa [up] using closed mscA
      cases msg with
      | prepareHandoverRequest req =>
          simp only [BOk, noMscT] at fits
          simp only [mscARemoteRxGsup, mscI, fits.1, Bool.or_true, if_true]
          refine .done noMscT ?_ fun _ => .inl mscI
          rw [answers_emit_other rfl]
          exact one
      | close =>
          simp only [mscARemoteRxGsup, mscI, Bool.or_true, if_true]
          exact MscB.mscAReleaseCn_done one mscA (by simp [noMscT])
      | forwardAccessSignallingRequest | sendEndSignalRequest | other =>
          exact .done noMscT one closed

theorem BInv.step (inv : BInv b) (fits : BOk b input) : BInv (mscBStep b input) := by
  unfold mscBStep
  split
  · exact inv
  · rename_i up
    split
    · split
      · rename_i mscA
        exact inv.gsup fits mscA (by simpa using up)
      · exact inv
    · rename_i event
      split
      · exact inv
      · rename_i t current
        cases inv with
        | idle noMscT | done noMscT => simp [noMscT] at current
        | serving t' serving =>
            obtain rfl : t = t' := by simpa [serving.current] using current.symm
            exact serving.step fits event

/-- `msc_new_msc_t_for_handover_request()`: an `msub` with a remote MSC-A and no other role. -/
def mscBInit (ran : Ran) : MscB := { ran := ran }

/-- When the MSC-T is gone, MSC-A has had exactly one PREPARE HANDOVER RESULT or PREPARE HANDOVER
ERROR for it. -/
theorem mscBRun_oneAnswer (ran : Ran) (inputs : List BInput)
    (fits : StepsMeet mscBStep BOk (mscBInit ran) inputs)
    (created : (inputs.foldl mscBStep (mscBInit ran)).created = true)
    (gone : (inputs.foldl mscBStep (mscBInit ran)).mscT = none) :
    (answers (inputs.foldl mscBStep (mscBInit ran)).acts).length = 1 := by
  have start : BInv (mscBInit ran) := .idle rfl rfl rfl rfl rfl
  cases foldl_invariant (fun _ _ inv fits => BInv.step inv fits) inputs _ start fits with
  | idle _ fresh => simp [created] at fresh
  | serving t serving => simp [serving.current] at gone
  | done _ one => exact one

/-- An incoming handover up to the setup of the MGW. -/
def preparedRun : List BInput :=
  [.gsup (.prepareHandoverRequest {}), .rtpLocalAddr .toRan true, .rtpLocalAddr .toCn true,
    .ranUpL2 .handoverRequestAck {}]

/-- A handover that succeeds: the call to the Handover Number comes in and the MS arrives. -/
def completedRun : List BInput :=
  preparedRun ++ [.mnccSetupReq 1, .ranUpL2 .handoverDetect {}, .ranUpL2 .handoverComplete {}]

theorem mscBRun_oneAnswer_completed :
    StepsMeet mscBStep BOk (mscBInit .geranA) completedRun ∧
    (completedRun.foldl mscBStep (mscBInit .geranA)).mscT = none ∧
    (answers (completedRun.foldl mscBStep (mscBInit .geranA)).acts).length = 1 := by
  have fits : StepsMeet mscBStep BOk (mscBInit .geranA) completedRun := by decide
  exact ⟨fits, by decide, mscBRun_oneAnswer .geranA completedRun fits (by decide) (by decide)⟩

/-- The radio link fails after the acknowledge: the BSC releases the connection, and the cleanup
function sends an error for a request that was answered with a result. -/
def releasedAfterAck : List BInput := preparedRun ++ [.ranConnReleased]

theorem releasedAfterAck_twoAnswers :
    (releasedAfterAck.foldl mscBStep (mscBInit .geranA)).mscT = none ∧
    answers (releasedAfterAck.foldl mscBStep (mscBInit .geranA)).acts =
      [.prepareHandoverResult, .prepareHandoverError] := by
  decide

end OsmoMsc.Msc
