/-
Module: OsmoMsc.Vlr.ProcTuples
Purpose: Procedures with an authentication child, as the tuples of the subscriber see them.  One
  function of such a procedure leaves the tuples alone, or asks for ciphering besides, or is one
  step on the tuples in the sense of `TupleStep`; along with that it keeps an invariant of the
  procedure, so that one walk over the functions shows both.
Trusted boundary: none
Main exports: Stepped, ChildOk, TupleHost, HostKeeps, HostAsks, HostStepped, HostTakes, Attempt
-/
import OsmoMsc.Vlr.TupleStep

namespace OsmoMsc.Vlr

open Library List

/-- From one record and log to another by one step on the tuples, with grounds for ciphering that
hold. -/
def Stepped (cfg : VlrCfg) (attempted : Bool) (vsub vsub' : VlrSubscr)
    (acts acts' : List TupleAct) (said : AuthFsmResult → Prop) : Prop :=
  ∃ new grounds, TupleStep cfg vsub.tupleState vsub'.tupleState new grounds ∧
    acts' = acts ++ new ∧ ∀ ground ∈ grounds, ground.Hold cfg attempted said

/-- The authentication child of a procedure, if there is one, is as it should be. -/
def ChildOk (cfg : VlrCfg) (child : Option AuthInst) : Prop :=
  ∀ inst, child = some inst → InstOk cfg inst

theorem ChildOk.empty (cfg : VlrCfg) : ChildOk cfg none :=
  fun _ there => by cases there

theorem ChildOk.of_child {cfg : VlrCfg} {child child' : Option AuthInst} (ok : ChildOk cfg child)
    (kept : child' = child ∨ child' = none) : ChildOk cfg child' := by
  intro inst there
  rcases kept with same | gone
  · exact ok inst (same ▸ there)
  · rw [gone] at there
    cases there

section Steps

variable {cfg : VlrCfg} {attempted : Bool} {vsub vsub' vsub'' : VlrSubscr}
  {acts acts' : List TupleAct} {said : AuthFsmResult → Prop}

theorem Stepped.quiet (tuples : vsub'.tupleState = vsub.tupleState) (same : acts' = acts) :
    Stepped cfg attempted vsub vsub' acts acts' said := by
  refine ⟨[], none, ?_, by rw [same, append_nil], nofun⟩
  rw [tuples]
  exact .quiet

/-- The record may be rewritten before the step as long as its tuples stay. -/
theorem Stepped.of_tuples (stepped : Stepped cfg attempted vsub' vsub'' acts acts' said)
    (tuples : vsub'.tupleState = vsub.tupleState) :
    Stepped cfg attempted vsub vsub'' acts acts' said := by
  unfold Stepped at stepped ⊢
  rw [← tuples]
  exact stepped

/-- A procedure that attempts neither authentication nor ciphering may ask for ciphering all the
same. -/
theorem Stepped.notAttempted (idle : attempted = false)
    (tuples : vsub'.tupleState = vsub.tupleState)
    (asked : acts' = acts ∨ acts' = acts ++ [.ciphMode] ∧ vsub.secCtx ≠ .none) :
    Stepped cfg attempted vsub vsub' acts acts' said := by
  rcases asked with silent | ⟨sent, context⟩
  · exact Stepped.quiet tuples silent
  · refine ⟨[.ciphMode], some .notAttempted, ?_, sent, ?_⟩
    · rw [tuples]
      exact .ciphered .notAttempted nofun nofun fun _ => context
    · rintro _ ⟨rfl⟩
      exact idle

/-- Ciphering may have been asked for after `auth_try_reuse_tuple()` has granted it. -/
theorem Stepped.reuse {slot : Fin 5} (last : vsub.lastTuple = some slot)
    (reusable : Reusable cfg vsub slot) (attempts : attempted = true)
    (tuples : vsub'.tupleState = (vsub.useTuple slot).tupleState)
    (asked : acts' = acts ∨ acts' = acts ++ [.ciphMode] ∧ vsub.secCtx ≠ .none) :
    Stepped cfg attempted vsub vsub' acts acts' said := by
  rw [useTuple_tupleState] at tuples
  rcases asked with silent | ⟨sent, context⟩
  · refine ⟨[], none, ?_, by rw [silent, append_nil], nofun⟩
    rw [tuples]
    exact .reused slot last reusable
  · refine ⟨[.ciphMode], some .reused, ?_, sent, ?_⟩
    · rw [tuples]
      exact .reusedCiphered slot last reusable context
    · rintro _ ⟨rfl⟩
      exact attempts

end Steps

/-! ### Procedures with an authentication child -/

/-- How the tuples see a procedure: its record and its child, its log, what an entry of the log says
about the tuples, which entries are those of the child, and which of them report a result. -/
structure TupleHost (P A : Type*) extends AuthHost P where
  log : P → List A
  tupleAct : A → Option TupleAct
  auth : AuthAct → A
  reports : AuthFsmResult → A → Bool

section Hosts

variable {P A : Type*}

/-- What the log says about the tuples. -/
def TupleHost.acts (host : TupleHost P A) (s : P) : List TupleAct :=
  (host.log s).filterMap host.tupleAct

/-- The authentication child has reported this result. -/
def TupleHost.said (host : TupleHost P A) (s : P) (result : AuthFsmResult) : Prop :=
  (host.log s).any (host.reports result) = true

/-- The record and the child are stored where they are looked for, and the entries of the child are
read as what they are. -/
structure TupleHost.Reads (host : TupleHost P A) : Prop where
  vsub_put : ∀ vsub child s, host.vsub (host.put vsub child s) = vsub
  child_put : ∀ vsub child s, host.child (host.put vsub child s) = child
  log_put : ∀ vsub child s, host.log (host.put vsub child s) = host.log s
  noted : ∀ act, host.tupleAct (host.auth act) = act.tupleAct
  reported : ∀ result data, host.reports result (host.auth (.parentEvent result data)) = true

/-- Nothing has happened to the tuples, and no authentication child has been started. -/
structure HostKeeps (host : TupleHost P A) (s s' : P) : Prop where
  tuples : (host.vsub s').tupleState = (host.vsub s).tupleState
  acts : host.acts s' = host.acts s
  grows : host.log s <+: host.log s'
  auth : host.child s' = host.child s ∨ host.child s' = none

/-- Nothing has happened to the tuples, but ciphering may have been asked for. -/
structure HostAsks (host : TupleHost P A) (s s' : P) : Prop where
  tuples : (host.vsub s').tupleState = (host.vsub s).tupleState
  acts : host.acts s' = host.acts s ∨
    host.acts s' = host.acts s ++ [.ciphMode] ∧ (host.vsub s).secCtx ≠ .none
  grows : host.log s <+: host.log s'
  auth : host.child s' = host.child s ∨ host.child s' = none

/-- One step of a procedure. -/
structure HostStepped (cfg : VlrCfg) (attempted : Bool) (host : TupleHost P A) (s s' : P) :
    Prop where
  stepped : Stepped cfg attempted (host.vsub s) (host.vsub s') (host.acts s) (host.acts s')
    (host.said s')
  child : ChildOk cfg (host.child s')

/-- What one function of a procedure may do: it keeps the invariant `R` where it may be called, and
it is one step on the tuples. -/
structure HostTakes (cfg : VlrCfg) (attempted : Bool) (host : TupleHost P A) (R : P → Prop)
    (may : Prop) (s s' : P) : Prop where
  inv : may → Hosted host.toAuthHost R s → Hosted host.toAuthHost R s'
  stepped : ChildOk cfg (host.child s) → HostStepped cfg attempted host s s'

variable {cfg : VlrCfg} {attempted : Bool} {host : TupleHost P A} {R : P → Prop} {may : Prop}
  {s s' s'' : P}

section Keeps

theorem HostKeeps.of_eq (tuples : (host.vsub s').tupleState = (host.vsub s).tupleState)
    (log : host.log s' = host.log s) (auth : host.child s' = host.child s) : HostKeeps host s s' :=
  ⟨tuples, by rw [TupleHost.acts, log, TupleHost.acts], log ▸ prefix_refl _, Or.inl auth⟩

theorem HostKeeps.refl (s : P) : HostKeeps host s s := of_eq rfl rfl rfl

/-- Noting something that is not about the tuples. -/
theorem HostKeeps.note {act : A} (tuples : (host.vsub s').tupleState = (host.vsub s).tupleState)
    (log : host.log s' = host.log s ++ [act]) (silent : host.tupleAct act = none)
    (auth : host.child s' = host.child s ∨ host.child s' = none) : HostKeeps host s s' :=
  ⟨tuples, by simp [TupleHost.acts, log, silent], log ▸ prefix_append _ _, auth⟩

theorem HostKeeps.trans (first : HostKeeps host s s') (second : HostKeeps host s' s'') :
    HostKeeps host s s'' :=
  ⟨second.tuples.trans first.tuples, second.acts.trans first.acts,
    first.grows.trans second.grows, second.auth.elim (fun same => same ▸ first.auth) Or.inr⟩

/-- The same in the order of the calls: what is done last is named first. -/
theorem HostKeeps.after (second : HostKeeps host s' s'') (first : HostKeeps host s s') :
    HostKeeps host s s'' :=
  first.trans second

theorem HostKeeps.asks (keeps : HostKeeps host s s') : HostAsks host s s' :=
  ⟨keeps.tuples, Or.inl keeps.acts, keeps.grows, keeps.auth⟩

/-- Ciphering is asked for, and nothing is done to the tuples after that. -/
theorem HostKeeps.asked {act : A} (keeps : HostKeeps host s' s'') (vsub : host.vsub s' = host.vsub s)
    (log : host.log s' = host.log s ++ [act]) (sent : host.tupleAct act = some .ciphMode)
    (child : host.child s' = host.child s) (context : (host.vsub s).secCtx ≠ .none) :
    HostAsks host s s'' := by
  have grown : host.log s <+: host.log s' := log ▸ prefix_append _ _
  refine ⟨?_, Or.inr ⟨?_, context⟩, grown.trans keeps.grows, child ▸ keeps.auth⟩
  · rw [keeps.tuples, vsub]
  · rw [keeps.acts]
    simp [TupleHost.acts, log, sent]

theorem HostKeeps.stepped (keeps : HostKeeps host s s') (ok : ChildOk cfg (host.child s)) :
    HostStepped cfg attempted host s s' :=
  ⟨Stepped.quiet keeps.tuples keeps.acts, ok.of_child keeps.auth⟩

theorem HostKeeps.takes (keeps : HostKeeps host s s') (safe : may → R s → R s') :
    HostTakes cfg attempted host R may s s' :=
  ⟨fun called inv => inv.of_child (safe called inv.parent) keeps.auth, keeps.stepped⟩

theorem HostTakes.refl (s : P) : HostTakes cfg attempted host R may s s :=
  (HostKeeps.refl s).takes fun _ safe => safe

/-- A step after a part that leaves the tuples alone. -/
theorem HostTakes.after (second : HostTakes cfg attempted host R may s' s'')
    (first : HostKeeps host s s') (safe : may → R s → R s') :
    HostTakes cfg attempted host R may s s'' := by
  refine ⟨fun called inv => ?_, fun ok => ?_⟩
  · exact second.inv called (inv.of_child (safe called inv.parent) first.auth)
  · obtain ⟨stepped, child⟩ := second.stepped (ok.of_child first.auth)
    have stepped := stepped.of_tuples first.tuples
    rw [first.acts] at stepped
    exact ⟨stepped, child⟩

theorem HostTakes.mono {may' : Prop} (takes : HostTakes cfg attempted host R may s s')
    (called : may' → may) : HostTakes cfg attempted host R may' s s' :=
  ⟨fun met => takes.inv (called met), takes.stepped⟩

end Keeps

/-! ### Their authentication child -/

section Child

variable (reads : host.Reads) {ifc : AuthIface P}
include reads

/-- A procedure that leaves the tuples to its child. -/
theorem TupleHost.Reads.tupleParent
    (record : ∀ act s, host.log (ifc.record act s) = host.log s ++ [host.auth act])
    (vsub : ∀ result data vsub s,
      (ifc.notify result data vsub s).1 = host.vsub (ifc.notify result data vsub s).2)
    (asks : ∀ result data vsub s, HostAsks host (host.put vsub (host.child s) s)
      (ifc.notify result data vsub s).2)
    (fails : ∀ data vsub s, HostKeeps host (host.put vsub (host.child s) s)
      (ifc.notify .failure data vsub s).2) : TupleParent ifc host.acts host.said where
  record act s := by
    cases noted : act.tupleAct <;> simp [TupleHost.acts, record, reads.noted, noted]
  event result data s := by simp [TupleHost.said, record, reads.reported]
  tuples result data v s := by rw [vsub, (asks result data v s).tuples, reads.vsub_put]
  failure data v s := by
    rw [(fails data v s).acts, TupleHost.acts, reads.log_put, TupleHost.acts]
  success result data v s said := by
    have asked := asks result data v s
    obtain ⟨act, member, reports⟩ := any_eq_true.mp said
    rw [← reads.log_put v (host.child s)] at member
    have acts : host.acts (host.put v (host.child s) s) = host.acts s := by
      rw [TupleHost.acts, reads.log_put, TupleHost.acts]
    rcases asked.acts with silent | ⟨sent, context⟩
    · exact Or.inl (silent.trans acts)
    · rw [acts] at sent
      rw [reads.vsub_put] at context
      exact Or.inr ⟨sent, context,
        any_eq_true.mpr ⟨act, asked.grows.subset member, reports⟩⟩

/-- Whatever the authentication child does, the procedure takes one step. -/
theorem TupleHost.Reads.run (act : AuthCtx P → AuthCtx P)
    (steps : ∀ c, InstOk cfg c.inst → AuthStep cfg host.acts host.said c (act c))
    (ok : ChildOk cfg (host.child s)) : HostStepped cfg attempted host s (host.run act s) := by
  unfold AuthHost.run
  split
  · exact ⟨Stepped.quiet rfl rfl, ok⟩
  · rename_i inst there
    obtain ⟨instOk, new, grounds, taken, grown, held⟩ :=
      steps { inst := inst, vsub := host.vsub s, parent := s } (ok inst there)
    refine ⟨⟨new, grounds, ?_, ?_, ?_⟩, ?_⟩
    · rw [reads.vsub_put]
      exact taken
    · rw [TupleHost.acts, reads.log_put]
      exact grown
    · intro ground member
      have said := (held ground member).hold cfg attempted
      unfold TupleHost.said at said ⊢
      rw [reads.log_put]
      exact said
    · rw [reads.child_put]
      intro inst' there'
      split at there'
      · cases there'
      · rw [← Option.some.inj there']
        exact instOk

/-- `auth_fsm_start()` with memory for the instance. -/
theorem TupleHost.Reads.start (parent : TupleParent ifc host.acts host.said) (isR99 isUtran : Bool)
    (stored : ∀ child, R s → R (host.put (host.vsub s) child s))
    (kept : may → ∀ p, Hosted host.toAuthHost R p →
      Hosted host.toAuthHost R (host.run (authFsmDispatch ifc cfg .start) p)) :
    HostTakes cfg attempted host R may s (host.run (authFsmDispatch ifc cfg .start)
      (host.put (host.vsub s) (some (authFsmAlloc (host.vsub s) isR99 isUtran)) s)) := by
  refine ⟨fun called inv => kept called _ ⟨stored _ inv.parent, fun inst there => ?_⟩, fun _ => ?_⟩
  · rw [reads.child_put] at there
    cases there
    exact ⟨rfl, rfl⟩
  · have allocated : ChildOk cfg (host.child (host.put (host.vsub s)
        (some (authFsmAlloc (host.vsub s) isR99 isUtran)) s)) := by
      rw [reads.child_put]
      rintro _ ⟨rfl⟩
      exact authFsmAlloc_ok cfg _ _ _
    obtain ⟨stepped, child⟩ : HostStepped cfg attempted host _ _ :=
      reads.run _ (fun _ ok => authFsmDispatch_tuples parent .start ok) allocated
    rw [reads.vsub_put, TupleHost.acts, reads.log_put] at stepped
    exact ⟨stepped, child⟩

end Child

/-! ### Whether to authenticate -/

/-- How `try_auth()` and `is_auth_to_be_attempted()` can answer, with what they leave of the record:
authentication is attempted, or nothing is to be attempted, or the last tuple is re-used. -/
inductive Attempt (cfg : VlrCfg) (required attempted : Bool) (vsub : VlrSubscr) :
    Bool × VlrSubscr → Prop where
  | authenticate : Attempt cfg required attempted vsub (true, vsub)
  | nothing (optional : required = false) (idle : attempted = false) :
      Attempt cfg required attempted vsub (false, vsub)
  | reuse (slot : Fin 5) (optional : required = false) (attempts : attempted = true)
      (last : vsub.lastTuple = some slot) (reusable : Reusable cfg vsub slot) :
      Attempt cfg required attempted vsub (false, vsub.useTuple slot)

theorem attempt_cases (cfg : VlrCfg) (required attempted : Bool) (vsub : VlrSubscr) (keySeq : Nat) :
    Attempt cfg required attempted vsub
      (if required then (true, vsub)
      else if attempted then
        (!(authTryReuseTuple cfg vsub keySeq).1, (authTryReuseTuple cfg vsub keySeq).2)
      else (false, vsub)) := by
  cases required with
  | true => exact .authenticate
  | false =>
      cases attempted with
      | false => exact .nothing rfl rfl
      | true =>
          rcases authTryReuseTuple_cases cfg vsub keySeq with
            refused | ⟨slot, last, reusable, granted⟩
          · simpa [refused] using Attempt.authenticate
          · simpa [granted] using Attempt.reuse slot rfl rfl last reusable

/-- The procedure starts the authentication or goes on without it. -/
theorem Attempt.takes {required : Bool} {attempt : Bool × VlrSubscr} (start goOn : VlrSubscr → P)
    (attempts : Attempt cfg required attempted (host.vsub s) attempt) (reads : host.Reads)
    (starts : HostTakes cfg attempted host R may s (start (host.vsub s)))
    (asks : ∀ vsub, HostAsks host (host.put vsub (host.child s) s) (goOn vsub))
    (safe : ∀ vsub, required = false → may → R s → R (goOn vsub)) :
    HostTakes cfg attempted host R may s
      (if attempt.1 then start attempt.2 else goOn attempt.2) := by
  have asked : ∀ vsub, host.acts (goOn vsub) = host.acts s ∨
      host.acts (goOn vsub) = host.acts s ++ [.ciphMode] ∧ vsub.secCtx ≠ .none := by
    intro vsub
    have acts := (asks vsub).acts
    rw [reads.vsub_put, TupleHost.acts, TupleHost.acts, reads.log_put] at acts
    exact acts
  have tuples : ∀ vsub, (host.vsub (goOn vsub)).tupleState = vsub.tupleState := fun vsub => by
    rw [(asks vsub).tuples, reads.vsub_put]
  have auth : ∀ vsub, host.child (goOn vsub) = host.child s ∨ host.child (goOn vsub) = none :=
    fun vsub => by simpa only [reads.child_put] using (asks vsub).auth
  cases attempts with
  | authenticate => exact starts
  | nothing optional idle =>
      refine ⟨fun called inv => inv.of_child (safe _ optional called inv.parent) (auth _),
        fun ok => ⟨?_, ok.of_child (auth _)⟩⟩
      exact Stepped.notAttempted idle (tuples _) (asked _)
  | reuse slot optional attempts last reusable =>
      refine ⟨fun called inv => inv.of_child (safe _ optional called inv.parent) (auth _),
        fun ok => ⟨?_, ok.of_child (auth _)⟩⟩
      exact Stepped.reuse last reusable attempts (tuples _) (asked _)

end Hosts

end OsmoMsc.Vlr
