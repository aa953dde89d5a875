/-
Module: OsmoMsc.Vlr.AuthCheck
Purpose: What a successful authentication rests on.  `check_auth_resp()` accepts a response as UMTS
  AKA (R99 MS, vector with UMTS tokens, equal to RES) or, on GERAN, because it equals the SRES
  field, without asking whether the vector has GSM tokens.  Where an accepted SRES belongs to a
  vector with GSM tokens, a pass is always a match of the right kind with a vector of the HLR.
Trusted boundary: none
Main exports: UmtsAka, GsmAka, MatchesSres, checkAuthResp_cases, Tracked, Delivered,
  authRun_pass_is_aka_match
-/
import OsmoMsc.Vlr.AuthRun

namespace OsmoMsc.Vlr

open Library List

variable {vsub : VlrSubscr} {known : AuthVector → Prop} {c : AuthRun Unit}

/-! ### The verdict on one response -/

/-- The response is the RES of a vector with UMTS tokens, from an R99 MS. -/
def UmtsAka (vec : AuthVector) (par : AuthRespPar) : Prop :=
  par.isR99 = true ∧ vec.umts = true ∧ par.res = some vec.res

/-- The response is the SRES of a vector with GSM tokens, on GERAN. -/
def GsmAka (vec : AuthVector) (par : AuthRespPar) : Prop :=
  par.isUtran = false ∧ vec.gsm = true ∧ par.res = some vec.sres.toList

/-- What the GSM branch of `check_auth_resp()` accepts: on GERAN, four octets that equal the SRES
field, unless their number makes them a UMTS response of an R99 MS. -/
def MatchesSres (vec : AuthVector) (par : AuthRespPar) : Prop :=
  par.isUtran = false ∧ par.res = some vec.sres.toList ∧
    ¬ (par.isR99 = true ∧ vec.umts = true ∧ vec.res.length = 4)

instance (vec : AuthVector) (par : AuthRespPar) : Decidable (UmtsAka vec par) :=
  inferInstanceAs (Decidable (_ ∧ _ ∧ _))

instance (vec : AuthVector) (par : AuthRespPar) : Decidable (MatchesSres vec par) :=
  inferInstanceAs (Decidable (_ ∧ _ ∧ ¬ _))

/-- The outcomes of `check_auth_resp()`. -/
theorem checkAuthResp_cases (vsub : VlrSubscr) (par : AuthRespPar) :
    checkAuthResp vsub par.isR99 par.isUtran par.res = (false, { vsub with secCtx := .none }) ∨
      ∃ slot secCtx, vsub.lastTuple = some slot ∧
        (UmtsAka (vsub.authTuples slot).vec par ∧ secCtx = .umts ∨
          MatchesSres (vsub.authTuples slot).vec par ∧ secCtx = .gsm) ∧
        checkAuthResp vsub par.isR99 par.isUtran par.res = (true, { vsub with secCtx := secCtx }) := by
  obtain ⟨isR99, isUtran, res, auts⟩ := par
  unfold checkAuthResp
  dsimp only
  split
  · exact Or.inl rfl
  · exact Or.inl rfl
  · rename_i last octets _
    split
    · exact Or.inl rfl
    · split
      · exact Or.inl rfl
      · split
        · exact Or.inl rfl
        · rename_i lengths bearer
          split
          · rename_i umts
            split
            · exact Or.inl rfl
            · rename_i equal
              simp only [ne_eq, not_or, not_not] at equal
              simp only [Bool.and_eq_true, decide_eq_true_eq] at umts
              refine Or.inr ⟨last, _, by assumption, Or.inl ⟨⟨umts.1.1, umts.1.2, ?_⟩, rfl⟩, rfl⟩
              rw [equal.2]
          · rename_i noUmts
            split
            · exact Or.inl rfl
            · rename_i equal
              simp only [ne_eq, not_or, not_not] at equal
              refine Or.inr ⟨last, _, by assumption, Or.inr ⟨⟨?_, ?_, ?_⟩, rfl⟩, rfl⟩
              · cases isUtran with
                | false => rfl
                | true => simp [noUmts] at bearer
              · rw [equal.2]
              · rintro ⟨r99, tokens, four⟩
                apply noUmts
                dsimp only at r99 tokens four
                simp [r99, tokens, equal.1, four]

/-! ### Which vector is compared -/

/-- The tuple is the first of the least used ones in circular order, and there is none just when no
slot holds one or the least used one was used more often than allowed. -/
theorem vlrSubscrNextAuthTuple_least (vsub : VlrSubscr) (maxReuseCount : Int) :
    (∀ slot, vlrSubscrNextAuthTuple vsub maxReuseCount = some slot →
      vsub.validSlots.argmin (fun slot => (vsub.authTuples slot).useCount) = some slot) ∧
    (vlrSubscrNextAuthTuple vsub maxReuseCount = none ↔
      (∀ slot, ¬ (vsub.authTuples slot).Valid) ∨
      0 ≤ maxReuseCount ∧
        ∀ slot, (vsub.authTuples slot).Valid → maxReuseCount < (vsub.authTuples slot).useCount) := by
  simp only [vlrSubscrNextAuthTuple_eq, Option.filter_eq_some_iff, ← mem_validSlots]
  refine ⟨fun _ found => found.1, ?_⟩
  cases best : vsub.validSlots.argmin fun slot => (vsub.authTuples slot).useCount with
  | none => simp [argmin_eq_none.mp best]
  | some best =>
      have valid := argmin_mem best
      have least (slot) (member : slot ∈ vsub.validSlots) := le_of_mem_argmin member best
      simp only [Option.filter_eq_none_iff, Option.some.injEq, decide_eq_true_iff]
      constructor
      · intro exceeded
        obtain ⟨limited, used⟩ := not_not.mp (exceeded _ rfl)
        exact Or.inr ⟨limited, fun slot member => used.trans_le (least slot member)⟩
      · rintro (nothing | ⟨limited, used⟩) _ rfl allowed
        · exact nothing _ valid
        · exact allowed ⟨limited, used _ valid⟩

/-- Filling slots from delivered vectors leaves only delivered vectors in valid slots. -/
theorem fillTuples_known {vecs : List AuthVector} :
    ∀ (i : Nat) (tuples : Fin 5 → AuthTuple), (∀ vec ∈ vecs, known vec) →
      (∀ slot, (tuples slot).Valid → known (tuples slot).vec) →
      ∀ slot, (fillTuples i vecs tuples slot).Valid → known (fillTuples i vecs tuples slot).vec := by
  induction vecs with
  | nil =>
      intro i tuples _ old slot valid
      exact old slot valid
  | cons vec vecs ih =>
      intro i tuples delivered old
      refine ih (i + 1) _ (fun v member => delivered v (mem_cons_of_mem vec member)) ?_
      intro slot valid
      split at valid
      · rename_i inArray
        simp only [inArray, dif_pos]
        by_cases same : slot = ⟨i, inArray⟩
        · subst same
          simpa using delivered vec mem_cons_self
        · rw [Function.update_of_ne same] at valid ⊢
          exact old slot valid
      · rename_i outside
        simp only [outside, dif_neg, not_false_iff]
        exact old slot valid

theorem vlrSubscrUpdateTuples_known {gsup : Gsup} (delivered : ∀ vec ∈ gsup.authVectors, known vec)
    (old : ∀ slot, (vsub.authTuples slot).Valid → known (vsub.authTuples slot).vec) :
    ∀ slot, ((vlrSubscrUpdateTuples vsub gsup).authTuples slot).Valid →
      known ((vlrSubscrUpdateTuples vsub gsup).authTuples slot).vec := by
  refine fillTuples_known 0 _ delivered ?_
  intro slot valid
  split at valid
  · rename_i empty
    simpa [empty] using old slot valid
  · exact absurd rfl valid

/-- Every stored vector is known, and an instance that awaits a response knows which one it sent:
this is the assertion `OSMO_ASSERT(at)` in `check_auth_resp()`. -/
structure Tracked (known : AuthVector → Prop) (vsub : VlrSubscr) (state : AuthState) :
    Prop where
  tuples : ∀ slot, (vsub.authTuples slot).Valid → known (vsub.authTuples slot).vec
  last : state.AwaitsResponse →
    ∃ slot, vsub.lastTuple = some slot ∧ (vsub.authTuples slot).Valid

/-- An instance is tracked as long as it has not ended. -/
def TrackedRun {P : Type*} (known : AuthVector → Prop) (c : AuthCtx P) : Prop :=
  c.inst.fi.terminating = false → Tracked known c.vsub c.inst.fi.state

variable {par : AuthRespPar} {cfg : VlrCfg} {inputs : List AuthInput} {input : AuthInput}
  {new : AuthState} {e : AuthEvent}

section Tracking

variable {P : Type*} {ifc : AuthIface P} {known : AuthVector → Prop} {c : AuthCtx P}
  (cfg : VlrCfg)

/-- A request for a state in which no response is awaited loses nothing. -/
theorem authFsmStateChg_tracked (idle : ¬ new.AwaitsResponse) (timeout : Option Nat)
    (tracked : TrackedRun known c) : TrackedRun known (authFsmStateChg ifc new timeout c) := by
  obtain ⟨asked, -⟩ := authFsmStateChg_requested ifc new timeout c
  intro alive
  have before := tracked (asked.terminating ▸ alive)
  refine ⟨asked.vsub ▸ before.tuples, ?_⟩
  intro awaits
  rw [asked.vsub]
  rcases asked.state with moved | stayed
  · rw [moved] at awaits
    exact absurd awaits idle
  · rw [stayed] at awaits
    exact before.last awaits

/-- An instance that has ended has nothing left to track. -/
theorem trackedRun_of_ended (ended : c.inst.fi.terminating = true) : TrackedRun known c := by
  intro alive
  rw [ended] at alive
  cases alive

/-- Sending a request makes the tuple that was sent the last one, in whatever state. -/
theorem vlrSubscrAuthenticate_tracked (new : AuthState) (timeout : Option Nat)
    (tuples : c.inst.fi.terminating = false →
      ∀ slot, (c.vsub.authTuples slot).Valid → known (c.vsub.authTuples slot).vec) :
    TrackedRun known (vlrSubscrAuthenticate ifc (authFsmStateChg ifc new timeout c)) := by
  obtain ⟨asked, -⟩ := authFsmStateChg_requested ifc new timeout c
  rw [← asked.vsub, ← asked.terminating] at tuples
  generalize authFsmStateChg ifc new timeout c = d at tuples
  unfold vlrSubscrAuthenticate
  split
  · exact trackedRun_of_ended authFsmTerm_terminating
  · rename_i taken
    simp only [vlrSubscrGetAuthTuple, Option.map_eq_some_iff, Prod.mk.injEq] at taken
    obtain ⟨slot, found, rfl, rfl⟩ := taken
    intro alive
    -- Counting a use changes neither the vectors nor the key sequence numbers.
    have sameKey : ∀ other, ((d.vsub.useTuple slot).authTuples other).Valid ↔
        (d.vsub.authTuples other).Valid := by
      intro other
      by_cases same : other = slot <;> simp [VlrSubscr.useTuple, AuthTuple.Valid, same]
    refine ⟨?_, fun _ => ⟨slot, rfl, (sameKey slot).mpr (vlrSubscrNextAuthTuple_some found).1⟩⟩
    intro other valid
    have old := tuples alive other ((sameKey other).mp valid)
    simpa using old

/-- A verdict sets the security context only. -/
theorem checkAuthResp_tracked {state : AuthState} (tracked : Tracked known vsub state) :
    Tracked known (checkAuthResp vsub par.isR99 par.isUtran par.res).2 state := by
  rcases checkAuthResp_cases vsub par with no | ⟨_, _, _, _, yes⟩
  · rw [no]
    exact ⟨tracked.tuples, tracked.last⟩
  · rw [yes]
    exact ⟨tracked.tuples, tracked.last⟩

/-- A response that is judged ends the instance or makes it ask for the IMSI. -/
theorem authFsmVerdict_tracked (cause : RejectCause) (par : AuthRespPar)
    (tracked : TrackedRun known c) : TrackedRun known (authFsmVerdict ifc cfg cause par c) := by
  unfold authFsmVerdict
  dsimp only
  split
  · exact trackedRun_of_ended authFsmTerm_terminating
  · split
    · refine authFsmStateChg_tracked (by simp [AuthState.AwaitsResponse]) _ ?_
      exact fun alive => checkAuthResp_tracked (tracked alive)
    · exact trackedRun_of_ended authFsmTerm_terminating

theorem learnImsi_tuples (vsub : VlrSubscr) (imsi : Digits) :
    (vsub.learnImsi imsi).authTuples = vsub.authTuples ∧
      (vsub.learnImsi imsi).lastTuple = vsub.lastTuple := by
  unfold VlrSubscr.learnImsi
  split <;> exact ⟨rfl, rfl⟩

/-- Every event keeps an instance tracked, if the vectors it delivers are known. -/
theorem authFsmDispatch_tracked
    (delivered : ∀ gsup, e = .hlrSaiAck gsup → ∀ vec ∈ gsup.authVectors, known vec)
    (tracked : TrackedRun known c) : TrackedRun known (authFsmDispatch ifc cfg e c) := by
  refine AuthMoves.dispatch (I := TrackedRun known) {
    start := tracked
    done := id
    saiReq := fun _ _ tracked => tracked
    stateChg := fun timeout idle => authFsmStateChg_tracked idle timeout
    limit := fun _ tracked => tracked
    learn := ?_
    resyncError := fun _ _ => trackedRun_of_ended authFsmTerm_terminating
    failed := fun _ _ _ => trackedRun_of_ended authFsmTerm_terminating
    challenge := fun new timeout tracked =>
      vlrSubscrAuthenticate_tracked new timeout fun alive => (tracked alive).tuples
    renew := fun new timeout ack tracked =>
      vlrSubscrAuthenticate_tracked new timeout fun alive => ?_
    verdict := fun cause _ => authFsmVerdict_tracked cfg cause _ tracked }
  · intro d imsi tracked alive
    obtain ⟨sameTuples, sameLast⟩ := learnImsi_tuples d.vsub imsi
    have before := tracked alive
    exact ⟨by simpa [sameTuples] using before.tuples,
      by simpa [sameTuples, sameLast] using before.last⟩
  · rw [updateTuples_inst] at alive
    rw [updateTuples_vsub]
    exact vlrSubscrUpdateTuples_known (delivered _ ack) (tracked alive).tuples

end Tracking

/-! ### Reports of success -/

/-- The report of a successful authentication. -/
def AuthAct.isPassReport : AuthAct → Bool
  | .parentEvent .passed _ => true
  | _ => false

/-- How often the parent has been told that authentication passed. -/
def passReports (c : AuthRun Unit) : Nat := c.log.countP AuthAct.isPassReport

section Reports

variable {c : AuthRun Unit} (cfg : VlrCfg)

theorem passReports_record (act : AuthAct) :
    passReports (c.record (observed passive) act) =
      passReports c + if act.isPassReport then 1 else 0 := by
  simp [passReports, AuthCtx.log, observed, countP_append, countP_singleton]

theorem passReports_requested {d : AuthRun Unit} (asked : Requested (observed passive) new c d) :
    passReports d = passReports c := by
  rcases asked.parent with once | reported
  · simp [passReports, AuthCtx.log, once, observed, AuthAct.isPassReport]
  · simp [passReports, AuthCtx.log, reported, observed, AuthAct.isPassReport]

/-- The end of a running instance under a parent that changes nothing. -/
theorem passive_instTerm {data : Option Nat} (alive : c.inst.fi.terminating = false) :
    (authFsmInstTerm (observed passive) data c).vsub = c.vsub ∧
      passReports (authFsmInstTerm (observed passive) data c) =
        passReports c + if c.inst.parentTermEvent = .passed then 1 else 0 := by
  obtain ⟨-, parent, vsub⟩ := authFsmInstTerm_eq alive
  refine ⟨by rw [vsub]; rfl, ?_⟩
  simp only [passReports, AuthCtx.log, parent]
  cases event : c.inst.parentTermEvent <;>
    simp [AuthIface.finish, observed, passive, AuthAct.isPassReport]

theorem passive_term (result : AuthFsmResult) (cause : Nat)
    (alive : c.inst.fi.terminating = false) :
    (authFsmTerm (observed passive) result cause c).vsub = c.vsub ∧
      passReports (authFsmTerm (observed passive) result cause c) =
        passReports c + if result = .passed then 1 else 0 := by
  obtain ⟨_, d, asked, event, same⟩ := authFsmTerm_requested (observed passive) result cause c
  obtain ⟨vsub, reports⟩ := passive_instTerm (asked.terminating.trans alive)
  rw [passReports_requested asked, event] at reports
  rw [same]
  exact ⟨vsub.trans asked.vsub, reports⟩

/-- A response that is judged: the verdict is what the security context says, and only a positive
one is reported as a success. -/
theorem authFsmVerdict_reports (cause : RejectCause) (par : AuthRespPar)
    (alive : c.inst.fi.terminating = false) :
    let judged := checkAuthResp c.vsub par.isR99 par.isUtran par.res
    (authFsmVerdict (observed passive) cfg cause par c).vsub = judged.2 ∧
      passReports (authFsmVerdict (observed passive) cfg cause par c) =
        passReports c + if judged.1 then 1 else 0 := by
  unfold authFsmVerdict
  generalize checkAuthResp c.vsub par.isR99 par.isUtran par.res = judged
  obtain ⟨ok, vsub⟩ := judged
  have noted : passReports (AuthCtx.record (observed passive) (.checked ok)
      { c with vsub := vsub }) = passReports c := by
    rw [passReports_record]
    rfl
  cases ok with
  | true =>
      obtain ⟨kept, reports⟩ := passive_term .passed 0
        (c := AuthCtx.record (observed passive) (.checked true) { c with vsub := vsub }) alive
      exact ⟨kept, by rw [if_pos rfl, reports, noted]; rfl⟩
  | false =>
      simp only [Bool.false_eq_true, if_false]
      split
      · obtain ⟨asked, -⟩ := authFsmStateChg_requested (observed passive) .waitIdImsi
          (authFsmStateTdef cfg .waitIdImsi) (AuthCtx.record (observed passive) .idReq
            (AuthCtx.record (observed passive) (.checked false) { c with vsub := vsub }))
        refine ⟨asked.vsub, ?_⟩
        rw [passReports_requested asked, passReports_record, noted]
        rfl
      · obtain ⟨kept, reports⟩ := passive_term .failure cause.code
          (c := AuthCtx.record (observed passive) (.checked false) { c with vsub := vsub }) alive
        exact ⟨kept, by rw [reports, noted]; rfl⟩

/-- An accepted response is judged, and nothing else happens to the subscriber. -/
theorem authFsmDispatch_response
    (accepted : c.inst.fi.accepts authFsmTable (.msAuthResp par) = true) :
    c.inst.fi.terminating = false ∧ c.inst.fi.state.AwaitsResponse ∧
      (authFsmDispatch (observed passive) cfg (.msAuthResp par) c).vsub =
        (checkAuthResp c.vsub par.isR99 par.isUtran par.res).2 ∧
      passReports (authFsmDispatch (observed passive) cfg (.msAuthResp par) c) =
        passReports c +
          if (checkAuthResp c.vsub par.isR99 par.isUtran par.res).1 then 1 else 0 := by
  have alive : c.inst.fi.terminating = false := by
    cases running : c.inst.fi.terminating with
    | false => rfl
    | true => simp [running] at accepted
  unfold authFsmDispatch
  simp only [accepted, if_true]
  cases state : c.inst.fi.state with
  | waitResp => exact ⟨alive, Or.inl rfl, authFsmVerdict_reports cfg .illegalMs par alive⟩
  | waitRespResync => exact ⟨alive, Or.inr rfl, authFsmVerdict_reports cfg .synchFailure par alive⟩
  | _ => simp [Inst.accepts, authFsmTable, state] at accepted

/-- No other event of a running instance is reported as a success. -/
theorem authFsmDispatch_other (other : ∀ par, e ≠ .msAuthResp par)
    (running : Running (fun _ => True) c) :
    passReports (authFsmDispatch (observed passive) cfg e c) = passReports c := by
  let same : Unit × List AuthAct → Prop :=
    fun p => p.2.countP AuthAct.isPassReport = passReports c
  have keeps : Keeps (observed passive) same := by
    intro act p inner _ holds
    have unreported : act.isPassReport = false := by
      cases act <;> simp_all [AuthAct.isEnd, AuthAct.isParentEvent, AuthAct.isPassReport]
    simpa [same, observed, countP_append, unreported] using holds
  have contract : AuthContract (observed passive) (fun _ => True) same (fun _ => False) same := by
    refine ⟨keeps, fun _ _ _ _ => id, fun _ _ => trivial, ?_, fun _ _ => False.elim⟩
    intro result data vsub p unsuccessful _ holds
    cases result with
    | passed => exact absurd rfl unsuccessful
    | noAuthInfo | failure =>
        simpa [same, AuthIface.finish, observed, passive, AuthAct.isPassReport] using holds
  have running' : Running same c := ⟨running.alive, running.initial, rfl⟩
  rcases authFsmDispatch_contract cfg contract (fun par response => absurd response (other par))
    (fun _ _ => keeps) running' with continues | finished
  · exact continues.parent
  · exact finished.parent

end Reports

/-! ### Runs -/

/-- A vector the subscriber's record held, or one the HLR delivered during the run. -/
def Delivered (vsub : VlrSubscr) (inputs : List AuthInput) (vec : AuthVector) : Prop :=
  (∃ slot, (vsub.authTuples slot).Valid ∧ vec = (vsub.authTuples slot).vec) ∨
    ∃ gsup, AuthInput.event (.hlrSaiAck gsup) ∈ inputs ∧ vec ∈ gsup.authVectors

/-- A response that `check_auth_resp()` would accept for its SRES answers a vector with GSM
tokens. -/
def SresIsBacked (c : AuthRun Unit) : AuthInput → Prop
  | .event (.msAuthResp par) =>
      ∀ slot, c.vsub.lastTuple = some slot → MatchesSres (c.vsub.authTuples slot).vec par →
        (c.vsub.authTuples slot).vec.gsm = true
  | _ => True

instance (c : AuthRun Unit) : ∀ input, Decidable (SresIsBacked c input)
  | .event (.msAuthResp _) => inferInstanceAs (Decidable (∀ _, _ → _ → _))
  | .event .start | .event (.hlrSaiAbort _) | .event (.hlrSaiAck _) | .event (.hlrSaiNack _)
  | .event (.msAuthFail _) | .event (.msIdImsi _) | .timeout | .cancel => .isTrue trivial

/-- What holds between any two inputs of a run: the vectors are tracked, and a running instance
still has its initial event set. -/
def Watched (known : AuthVector → Prop) (c : AuthRun Unit) : Prop :=
  TrackedRun known c ∧ (Running (fun _ => True) c ∨ Finished (fun _ => True) c)

theorem trivial_contract {P : Type*} {ifc : AuthIface P} :
    AuthContract ifc (fun _ => True) (fun _ => True) (fun _ => True) (fun _ => True) :=
  ⟨fun _ _ _ _ _ => trivial, fun _ _ _ _ _ => trivial, fun _ _ => trivial,
    fun _ _ _ _ _ _ _ => trivial, fun _ _ _ => trivial⟩

theorem authStep_watched (watched : Watched known c)
    (delivered : ∀ gsup, input = .event (.hlrSaiAck gsup) → ∀ vec ∈ gsup.authVectors, known vec) :
    Watched known (authStep passive cfg c input) := by
  obtain ⟨tracked, running | finished⟩ := watched
  · cases input with
    | event e =>
        refine ⟨authFsmDispatch_tracked cfg (fun gsup same => delivered gsup (by rw [same]))
          tracked, ?_⟩
        exact authFsmDispatch_contract cfg trivial_contract (fun _ _ _ _ => trivial)
          (fun _ _ _ _ _ _ _ => trivial) running
    | timeout =>
        refine ⟨?_, authFsmTimeout_contract trivial_contract (fun _ _ => trivial) running⟩
        simp only [authStep, authFsmTimeout]
        split
        · exact tracked
        · exact trackedRun_of_ended (authFsmInstTerm_terminating _)
    | cancel =>
        exact ⟨trackedRun_of_ended (authFsmInstTerm_terminating _),
          Or.inr (authFsmInstTerm_finished trivial_contract trivial running)⟩
  · rw [authStep_of_terminating passive cfg finished.ended]
    exact ⟨tracked, Or.inr finished⟩

theorem authRun_watched (cfg : VlrCfg) (vsub : VlrSubscr) (isR99 isUtran : Bool)
    (inputs : List AuthInput) :
    Watched (Delivered vsub inputs)
      (inputs.foldl (authStep passive cfg) (authRunInit vsub isR99 isUtran ())) := by
  have initial : Watched (Delivered vsub inputs) (authRunInit vsub isR99 isUtran ()) := by
    refine ⟨fun _ => ⟨?_, ?_⟩, Or.inl ⟨rfl, rfl, trivial⟩⟩
    · intro slot valid
      exact Or.inl ⟨slot, valid, rfl⟩
    · rintro (waiting | waiting) <;> cases waiting
  refine foldl_invariant (fun c input (watched : Watched (Delivered vsub inputs) c) member => ?_)
    inputs _ initial (stepsMeet_of_forall (fun _ _ member => member) _)
  exact authStep_watched watched fun gsup same vec inGsup =>
    Or.inr ⟨gsup, same ▸ member, inGsup⟩

/-- What the last input of a run shows about authentication.  A success is reported only for a
response that equals RES or SRES of a vector the HLR delivered, of the right kind, and the
security context names that kind; a response that is not a success leaves no security context. -/
structure PassIsAkaMatch (vsub : VlrSubscr) (inputs : List AuthInput) (before : AuthRun Unit)
    (input : AuthInput) (after : AuthRun Unit) : Prop where
  passed : passReports before < passReports after →
    ∃ par vec, input = .event (.msAuthResp par) ∧ Delivered vsub inputs vec ∧
      (UmtsAka vec par ∧ after.vsub.secCtx = .umts ∨ GsmAka vec par ∧ after.vsub.secCtx = .gsm)
  refused : ∀ par, input = .event (.msAuthResp par) →
    before.inst.fi.accepts authFsmTable (.msAuthResp par) = true →
    passReports after = passReports before → after.vsub.secCtx = .none

/-- A response judged with a tracked vector and an SRES that is backed. -/
theorem response_isAkaMatch (watched : Watched (Delivered vsub inputs) c)
    (accepted : c.inst.fi.accepts authFsmTable (.msAuthResp par) = true)
    (backed : SresIsBacked c (.event (.msAuthResp par))) :
    PassIsAkaMatch vsub inputs c (.event (.msAuthResp par))
      (authStep passive cfg c (.event (.msAuthResp par))) := by
  obtain ⟨alive, awaits, kept, reports⟩ := authFsmDispatch_response cfg accepted
  obtain ⟨slot, last, valid⟩ := (watched.1 alive).last awaits
  have delivered := (watched.1 alive).tuples slot valid
  rcases checkAuthResp_cases c.vsub par with no | ⟨_, secCtx, judgedBy, kind, yes⟩
  · rw [no] at kept reports
    refine ⟨fun more => ?_, fun _ _ _ _ => by simp [authStep, kept]⟩
    simp [authStep, reports] at more
  · cases last.symm.trans judgedBy
    rw [yes] at kept reports
    have context : (authStep passive cfg c (.event (.msAuthResp par))).vsub.secCtx = secCtx := by
      simp [authStep, kept]
    refine ⟨fun _ => ⟨par, _, rfl, delivered, ?_⟩, ?_⟩
    · rw [context]
      refine kind.imp_right ?_
      rintro ⟨sres, gsm⟩
      exact ⟨⟨sres.1, backed slot last sres, sres.2.1⟩, gsm⟩
    · intro _ _ _ unchanged
      simp [authStep, reports] at unchanged

/-- An input that is no accepted response reports no success. -/
theorem other_isAkaMatch (watched : Watched (Delivered vsub inputs) c)
    (other : ∀ par, input = .event (.msAuthResp par) →
      c.inst.fi.accepts authFsmTable (.msAuthResp par) = false) :
    PassIsAkaMatch vsub inputs c input (authStep passive cfg c input) := by
  have ended (running : Running (fun _ => True) c) (data : Option Nat) :
      passReports (authFsmInstTerm (observed passive) data c) = passReports c := by
    rw [(passive_instTerm running.alive).2, running.initial]
    simp
  have unreported : passReports (authStep passive cfg c input) = passReports c := by
    rcases watched.2 with running | finished
    · cases input with
      | event e =>
          by_cases response : ∃ par, e = .msAuthResp par
          · obtain ⟨par, rfl⟩ := response
            simp [authStep, authFsmDispatch, other par rfl]
          · exact authFsmDispatch_other cfg (fun par same => response ⟨par, same⟩) running
      | timeout =>
          simp only [authStep, authFsmTimeout]
          split
          · rfl
          · exact ended running _
      | cancel => exact ended running _
    · rw [authStep_of_terminating passive cfg finished.ended]
  refine ⟨fun more => ?_, fun par same accepted => ?_⟩
  · omega
  · rw [other par same] at accepted
    cases accepted

/-- In every run in which an accepted SRES always belongs to a vector with GSM tokens, a success
is a match of the right kind with a vector of the HLR, and the security context says which. -/
theorem authRun_pass_is_aka_match (cfg : VlrCfg) (vsub : VlrSubscr) (isR99 isUtran : Bool)
    (inputs : List AuthInput) (input : AuthInput)
    (backed : StepsMeet (authStep passive cfg) SresIsBacked (authRunInit vsub isR99 isUtran ())
      (inputs ++ [input])) :
    PassIsAkaMatch vsub inputs
      (inputs.foldl (authStep passive cfg) (authRunInit vsub isR99 isUtran ())) input
      ((inputs ++ [input]).foldl (authStep passive cfg)
        (authRunInit vsub isR99 isUtran ())) := by
  have watched := authRun_watched cfg vsub isR99 isUtran inputs
  have backedLast := (stepsMeet_append.mp backed).2.1
  rw [foldl_append]
  generalize inputs.foldl (authStep passive cfg) (authRunInit vsub isR99 isUtran ()) = c
    at watched backedLast
  by_cases response : ∃ par, input = .event (.msAuthResp par) ∧
      c.inst.fi.accepts authFsmTable (.msAuthResp par) = true
  · obtain ⟨par, rfl, accepted⟩ := response
    exact response_isAkaMatch watched accepted backedLast
  · refine other_isAkaMatch watched fun par same => ?_
    by_contra accepted
    exact response ⟨par, same, by simpa using accepted⟩

/-- A vector with UMTS tokens only: its SRES field is all zero. -/
def umtsOnlyVector : AuthVector := { res := [1, 2, 3, 4, 5, 6, 7, 8], umts := true }

/-- An R99 MS answers a vector that has both kinds of tokens with its RES. -/
theorem authRun_pass_is_aka_match_umts :
    PassIsAkaMatch { imsi := [0, 0, 1] } [.event .start, .event (.hlrSaiAck twoVectors)]
      (List.foldl (authStep passive {}) (authRunInit { imsi := [0, 0, 1] } true false ())
        [.event .start, .event (.hlrSaiAck twoVectors)])
      (.event (.msAuthResp { isR99 := true, res := some [1, 2, 3, 4, 5, 6, 7, 8] }))
      (List.foldl (authStep passive {}) (authRunInit { imsi := [0, 0, 1] } true false ())
        ([.event .start, .event (.hlrSaiAck twoVectors)] ++
          [.event (.msAuthResp { isR99 := true, res := some [1, 2, 3, 4, 5, 6, 7, 8] })])) :=
  authRun_pass_is_aka_match {} { imsi := [0, 0, 1] } true false _ _ (by decide)

/-- On GERAN four zero octets pass for a vector without GSM tokens. -/
theorem umtsOnlyVector_passes_zero_sres :
    ¬ PassIsAkaMatch { imsi := [0, 0, 1] }
      [.event .start, .event (.hlrSaiAck { authVectors := [umtsOnlyVector] })]
      (List.foldl (authStep passive {}) (authRunInit { imsi := [0, 0, 1] } true false ())
        [.event .start, .event (.hlrSaiAck { authVectors := [umtsOnlyVector] })])
      (.event (.msAuthResp { isR99 := true, res := some [0, 0, 0, 0] }))
      (List.foldl (authStep passive {}) (authRunInit { imsi := [0, 0, 1] } true false ())
        ([.event .start, .event (.hlrSaiAck { authVectors := [umtsOnlyVector] })] ++
          [.event (.msAuthResp { isR99 := true, res := some [0, 0, 0, 0] })])) := by
  intro isMatch
  obtain ⟨par, vec, same, delivered, kind⟩ := isMatch.passed (by decide)
  cases same
  have only : vec = umtsOnlyVector := by
    rcases delivered with ⟨slot, valid, -⟩ | ⟨gsup, member, inGsup⟩
    · exact absurd rfl valid
    · simp at member
      simpa [member] using inGsup
  subst only
  rcases kind with ⟨umts, -⟩ | ⟨gsm, -⟩
  · exact absurd umts.2.2 (by decide)
  · exact absurd gsm.2.1 (by decide)

end OsmoMsc.Vlr
