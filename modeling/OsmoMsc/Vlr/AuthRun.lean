/-
Module: OsmoMsc.Vlr.AuthRun
Purpose: Whole runs of one authentication instance under a parent that may react in any way to its
  end.  An instance is either live or ended (the last two acts are its termination and its report);
  an ended one ignores every input.  The one exception is `auth_fsm_wait_ai_resync()`, which goes on
  after it has ended the instance; the runs that avoid it end once and report once.
Trusted boundary: none
Main exports: observed, AuthInput, authStep, authRunInit, EndsOnce, authRun_endsOnce
-/
import OsmoMsc.Library.Run
import OsmoMsc.Vlr.AuthContract

namespace OsmoMsc.Vlr

open Library

/-! ### Runs -/

variable {Q : Type*}

/-- The reaction of a parent to the end of its authentication child. -/
abbrev Reaction (Q : Type*) := AuthFsmResult → Option Nat → VlrSubscr → Q → VlrSubscr × Q

/-- A parent with its own state `Q` and reaction that also keeps all the child does. -/
def observed (react : Reaction Q) : AuthIface (Q × List AuthAct) where
  record act p := (p.1, p.2 ++ [act])
  notify result data vsub p :=
    let after := react result data vsub p.1
    (after.1, after.2, p.2)

/-- An observed instance. -/
abbrev AuthRun (Q : Type*) := AuthCtx (Q × List AuthAct)

/-- All the instance has done so far. -/
def AuthCtx.log (c : AuthRun Q) : List AuthAct := c.parent.2

/-- What can reach an instance: an event, the expiry of its timer, or a termination from outside
(`vlr_subscr_cancel_attach_fsm()`, `vlr_subscr_disconnected()`), which carries no data. -/
inductive AuthInput where
  | event (e : AuthEvent)
  | timeout
  | cancel
deriving DecidableEq, Repr

/-- One input. -/
def authStep (react : Reaction Q) (cfg : VlrCfg) (c : AuthRun Q) : AuthInput → AuthRun Q
  | .event e => authFsmDispatch (observed react) cfg e c
  | .timeout => authFsmTimeout (observed react) c
  | .cancel => authFsmInstTerm (observed react) none c

/-- The instance as `auth_fsm_start()` allocates it, for any subscriber record. -/
def authRunInit (vsub : VlrSubscr) (isR99 isUtran : Bool) (q : Q) : AuthRun Q :=
  { inst := authFsmAlloc vsub isR99 isUtran, vsub := vsub, parent := (q, []) }

/-- An act an ended instance must not do: request a state change, send an authentication request
or change a tuple. -/
def AuthAct.isWork : AuthAct → Bool
  | .stateChg _ | .authReq _ _ | .useTuple _ | .newTuples => true
  | _ => false

/-- The instance terminates at most once, its parent gets exactly one event for that, and nothing
is done afterwards. -/
structure EndsOnce (c : AuthRun Q) : Prop where
  terms : c.log.count .term = if c.inst.fi.terminating then 1 else 0
  reports : c.log.countP AuthAct.isParentEvent = if c.inst.fi.terminating then 1 else 0
  quiet : Guarded (fun before act => .term ∈ before → act.isWork = false) c.log

/-! ### Live and ended instances -/

/-- The log of an instance that nothing has ended. -/
def LiveLog (p : Q × List AuthAct) : Prop := ∀ act ∈ p.2, act.isEnd = false

/-- The log of an instance whose last acts are its termination and the report of it. -/
def EndedLog (p : Q × List AuthAct) : Prop :=
  ∃ before result data, p.2 = before ++ [.term, .parentEvent result data] ∧
    ∀ act ∈ before, act.isEnd = false

/-- The invariant of every run that stays clear of the exception. -/
def Settled (c : AuthRun Q) : Prop := Running LiveLog c ∨ Finished EndedLog c

theorem authRunInit_live (vsub : VlrSubscr) (isR99 isUtran : Bool) (q : Q) :
    Running LiveLog (authRunInit vsub isR99 isUtran q) :=
  ⟨rfl, rfl, by simp [authRunInit, LiveLog]⟩

variable {react : Reaction Q}

theorem liveLog_record {p : Q × List AuthAct} {act : AuthAct} (inner : act.isEnd = false)
    (live : LiveLog p) : LiveLog ((observed react).record act p) := by
  intro other member
  rcases mem_concat.mp member with old | rfl
  · exact live other old
  · exact inner

/-- An observing parent keeps its side of the contract whatever its reaction is: the end adds
exactly the termination and its report. -/
theorem observed_contract :
    AuthContract (observed react) (fun _ => True) LiveLog LiveLog EndedLog where
  keepsRunning _ _ inner _ live := liveLog_record inner live
  keepsVerified _ _ inner _ live := liveLog_record inner live
  causes _ _ := trivial
  failed result data vsub p _ _ live :=
    ⟨p.2, result, data, by simp [AuthIface.finish, observed], live⟩
  passed vsub p live := ⟨p.2, .passed, some 0, by simp [AuthIface.finish, observed], live⟩

/-! ### Steps and runs -/

/-- The input does not take the error branch of `auth_fsm_wait_ai_resync()`: a live instance that
waits for the re-sync vectors gets no acknowledgement without vectors and no error other than
"IMSI unknown". -/
def AvoidsResyncError (c : AuthRun Q) : AuthInput → Prop
  | .event (.hlrSaiAck gsup) =>
      c.inst.fi.terminating = false → c.inst.fi.state = .needsAuthWaitSaiResync →
        gsup.authVectors ≠ []
  | .event (.hlrSaiNack gsup) =>
      c.inst.fi.terminating = false → c.inst.fi.state = .needsAuthWaitSaiResync →
        gsup.cause = .imsiUnknown
  | _ => True

instance (c : AuthRun Q) (input : AuthInput) : Decidable (AvoidsResyncError c input) := by
  unfold AvoidsResyncError
  split <;> infer_instance

section Steps

variable (react : Reaction Q) (cfg : VlrCfg) {c : AuthRun Q}

theorem authFsmDispatch_settled {e : AuthEvent} (avoids : AvoidsResyncError c (.event e))
    (live : Running LiveLog c) : Settled (authFsmDispatch (observed react) cfg e c) := by
  by_cases accepted : c.inst.fi.accepts authFsmTable e = true
  · refine authFsmDispatch_contract cfg observed_contract
      (fun _ _ _ live => liveLog_record rfl live) ?_ live
    intro waiting error
    -- Only the two answers of the HLR are accepted here, and both are usable.
    cases e with
    | hlrSaiAck _ | hlrSaiNack _ => simp [saiProcedureError, avoids live.alive waiting] at error
    | _ => simp [Inst.accepts, authFsmTable, waiting] at accepted
  · left
    simpa [authFsmDispatch, accepted] using live

/-- A terminating instance ignores every input. -/
theorem authStep_of_terminating (ended : c.inst.fi.terminating = true) (input : AuthInput) :
    authStep react cfg c input = c := by
  cases input with
  | event e => simp [authStep, authFsmDispatch, ended]
  | timeout =>
      simp only [authStep, authFsmTimeout]
      split
      · rfl
      · exact authFsmInstTerm_of_terminating ended _
  | cancel => exact authFsmInstTerm_of_terminating ended none

theorem authStep_settled (input : AuthInput) (settled : Settled c)
    (avoids : AvoidsResyncError c input) : Settled (authStep react cfg c input) := by
  rcases settled with live | ended
  · cases input with
    | event e => exact authFsmDispatch_settled react cfg avoids live
    | timeout =>
        exact authFsmTimeout_contract observed_contract (fun _ _ => trivial) live
    | cancel => exact Or.inr (authFsmInstTerm_finished observed_contract trivial live)
  · rw [authStep_of_terminating react cfg ended.ended]
    exact Or.inr ended

end Steps

/-- The acts of a log without ends count nothing and guard nothing. -/
theorem count_of_noEnd {log : List AuthAct} (noEnd : ∀ act ∈ log, act.isEnd = false) :
    log.count .term = 0 ∧ log.countP AuthAct.isParentEvent = 0 := by
  constructor
  · refine List.count_eq_zero.mpr fun member => ?_
    simpa [AuthAct.isEnd] using noEnd _ member
  · refine List.countP_eq_zero.mpr fun act member => ?_
    have inner := noEnd act member
    simp only [AuthAct.isEnd, Bool.or_eq_false_iff] at inner
    simp [inner.2]

variable {c : AuthRun Q}

theorem endsOnce_of_live (live : Running LiveLog c) : EndsOnce c := by
  have noEnd : ∀ act ∈ c.log, act.isEnd = false := live.parent
  obtain ⟨terms, reports⟩ := count_of_noEnd noEnd
  refine ⟨by simp [terms, live.alive], by simp [reports, live.alive], ?_⟩
  intro before act after split member
  have inner := noEnd .term (by rw [split]; exact List.mem_append_left _ member)
  simp [AuthAct.isEnd] at inner

theorem endsOnce_of_ended (ended : Finished EndedLog c) : EndsOnce c := by
  obtain ⟨terminating, before, result, data, log, noEnd⟩ := ended
  obtain ⟨terms, reports⟩ := count_of_noEnd noEnd
  have logSplit : c.log = (before ++ [.term]) ++ [.parentEvent result data] := by
    simp [AuthCtx.log, log]
  refine ⟨?_, ?_, ?_⟩
  · simp [logSplit, terminating, terms]
  · simp [logSplit, terminating, reports, AuthAct.isParentEvent]
  · rw [logSplit, guarded_snoc, guarded_snoc]
    refine ⟨⟨?_, fun _ => rfl⟩, fun _ => rfl⟩
    intro inner act after split member
    have clean := noEnd .term (by rw [split]; exact List.mem_append_left _ member)
    simp [AuthAct.isEnd] at clean

theorem Settled.endsOnce (settled : Settled c) : EndsOnce c :=
  settled.elim endsOnce_of_live endsOnce_of_ended

/-- Every run that never takes the error branch of the re-sync handler ends at most once, reports
its end exactly once and is quiet afterwards, whatever the parent does with the report. -/
theorem authRun_endsOnce (react : Reaction Q) (cfg : VlrCfg) (vsub : VlrSubscr)
    (isR99 isUtran : Bool) (q : Q) (inputs : List AuthInput)
    (avoids : StepsMeet (authStep react cfg) AvoidsResyncError
      (authRunInit vsub isR99 isUtran q) inputs) :
    EndsOnce (inputs.foldl (authStep react cfg) (authRunInit vsub isR99 isUtran q)) :=
  Settled.endsOnce <| foldl_invariant
    (fun _ input settled avoids => authStep_settled react cfg input settled avoids) inputs _
    (Or.inl (authRunInit_live vsub isR99 isUtran q)) avoids

/-- A parent that keeps no state and changes nothing. -/
def passive : Reaction Unit := fun _ _ vsub q => (vsub, q)

/-- Two vectors with tokens for both kinds of AKA. -/
def twoVectors : Gsup :=
  { authVectors :=
      [{ res := [1, 2, 3, 4, 5, 6, 7, 8], sres := #v[1, 2, 3, 4], gsm := true, umts := true },
       { res := [8, 7, 6, 5, 4, 3, 2, 1], sres := #v[4, 3, 2, 1], gsm := true, umts := true }] }

/-- An authentication that the MS answers with a synchronisation failure, up to the wait for the
re-sync vectors. -/
def untilResync : List AuthInput :=
  [.event .start, .event (.hlrSaiAck twoVectors),
   .event (.msAuthFail { auts := some (List.replicate 14 0) })]

/-- A re-sync the HLR answers with vectors and the MS with the right response. -/
theorem authRun_endsOnce_resync :
    EndsOnce (List.foldl (authStep passive {}) (authRunInit { imsi := [0, 0, 1] } true false ())
      (untilResync ++ [.event (.hlrSaiAck twoVectors),
        .event (.msAuthResp { isR99 := true, res := some [1, 2, 3, 4, 5, 6, 7, 8] })])) :=
  authRun_endsOnce passive {} { imsi := [0, 0, 1] } true false () _ (by decide)

/-- A re-sync the HLR answers without vectors: the instance ends, and then asks for a state change,
takes the second of the old tuples and sends another authentication request. -/
theorem resync_without_vectors_goes_on :
    ¬ EndsOnce (List.foldl (authStep passive {}) (authRunInit { imsi := [0, 0, 1] } true false ())
      (untilResync ++ [.event (.hlrSaiAck { authVectors := [] })])) := by
  intro once
  have sent := once.quiet
    [.saiReq none none, .stateChg .needsAuthWaitAi, .newTuples, .stateChg .waitResp,
     .useTuple 0, .authReq 0 true, .saiReq (some (List.replicate 14 0)) (some (List.replicate 16 0)),
     .stateChg .needsAuthWaitSaiResync, .stateChg .authFailed, .authFailRep, .term,
     .parentEvent .failure (some 17), .stateChg .waitRespResync, .useTuple 1]
    (.authReq 1 true) [] (by decide) (by decide)
  exact absurd sent (by decide)

end OsmoMsc.Vlr
