/-
Module: OsmoMsc.Cc.CallRef
Purpose: What MNCC hears of a call has the call reference of the call, and nothing more is heard of a call
  that is over.  A transaction whose call reference T303 or T306 has taken away goes on talking to MNCC with
  call reference zero, and a message of MNCC that crosses the end of its call is answered as if the call
  had been another one.
Trusted boundary: none
Main exports: Spoken, WellSpoken, ccRun_wellSpoken
-/
import OsmoMsc.Cc.OneTerminal

namespace OsmoMsc.Cc

open Library (mem_concat Guarded guarded_nil guarded_snoc NestedRunMeeting nestedRunMeeting_foldl
  nestedRun_foldl StepsMeet)
open Relation CcNet List

variable {w : CcNet} {callId : Nat} {t : CcTrans} {f g : CcTrans → CcTrans} {acts : List CcAct}

/-! ### What MNCC hears -/

/-- The transaction was created with this call reference. -/
def CcAct.creates (callId ref : Nat) : CcAct → Bool
  | .allocated id created _ => id = callId && created = ref
  | _ => false

/-- What may be said after `before`: a message for a transaction has the call reference, other than zero,
that the transaction was created with, and no message has the call reference of a call that MNCC has been
told is over. -/
def Spoken (before : List CcAct) : CcAct → Prop
  | .toMncc id msg =>
    (∀ callId ∈ id, msg.callref ≠ 0 ∧ before.any (CcAct.creates callId msg.callref) = true) ∧
      msg.callref ∉ endedRefs before
  | _ => True

instance (before : List CcAct) : (act : CcAct) → Decidable (Spoken before act)
  | .toMncc _ _ => inferInstanceAs (Decidable (_ ∧ _))
  | .toMs _ _ | .fromMncc _ _ | .allocated _ _ _ | .freed _ _ | .mnccLost _ => .isTrue trivial

/-- Everything in a log may be said where it is said. -/
def WellSpoken (acts : List CcAct) : Prop := Guarded Spoken acts

theorem WellSpoken.concat {act : CcAct} (spoken : WellSpoken acts) (now : Spoken acts act) :
    WellSpoken (acts ++ [act]) :=
  guarded_snoc.mpr ⟨spoken, now⟩

theorem endedRefs_concat (acts : List CcAct) (act : CcAct) :
    endedRefs (acts ++ [act]) = endedAfter (endedRefs acts) act := by
  simp [endedRefs]

/-- Calls end with a message that says so. -/
theorem mem_endedAfter {ref : Nat} {ended : List Nat} {act : CcAct} (mem : ref ∈ endedAfter ended act) :
    ref ∈ ended ∨ ∃ id msg, act = .toMncc id msg ∧ msg.type.isTerminal = true ∧ msg.callref = ref := by
  cases act with
  | toMncc id msg =>
      change ref ∈ if msg.type.isTerminal then msg.callref :: ended else ended at mem
      split at mem
      · rename_i ends
        rcases mem_cons.mp mem with now | before
        · exact .inr ⟨id, msg, rfl, ends, now.symm⟩
        · exact .inl before
      · exact .inl mem
  | fromMncc msg late =>
      change ref ∈ if msg.type = .setupReq then ended.filter (· ≠ msg.callref) else ended at mem
      split at mem
      · exact .inl (mem_of_mem_filter mem)
      · exact .inl mem
  | allocated id created unused => exact .inl (mem_of_mem_filter mem)
  | toMs | freed | mnccLost => exact .inl mem

/-! ### The call references in use -/

/-- A transaction that has a call reference has the one that it was created with, of a call that is not
over. -/
structure RefCurrent (acts : List CcAct) (t : CcTrans) : Prop where
  created : acts.any (CcAct.creates t.callId t.ref) = true
  current : t.callref ≠ 0 → t.callref = t.ref ∧ t.callref ∉ endedRefs acts

/-- The `MNCC_SETUP_IND` that it has prepared has it, too. -/
structure RefOk (acts : List CcAct) (t : CcTrans) : Prop extends RefCurrent acts t where
  stored : t.callref ≠ 0 → ∀ msg, t.msg = some msg → msg.type = .setupInd → msg.callref = t.callref

/-- An act that does not end the call of the transaction. -/
theorem RefCurrent.concat (current : RefCurrent acts t) (act : CcAct)
    (other : ∀ id msg, act = .toMncc id msg → msg.type.isTerminal = true → t.callref ≠ 0 →
      msg.callref ≠ t.callref) : RefCurrent (acts ++ [act]) t where
  created := by
    rw [any_append, current.created]
    rfl
  current under := by
    refine ⟨(current.current under).1, fun mem => ?_⟩
    rw [endedRefs_concat] at mem
    rcases mem_endedAfter mem with before | ⟨id, msg, is, ends, same⟩
    · exact (current.current under).2 before
    · exact other id msg is ends under same

theorem RefOk.concat (ok : RefOk acts t) (act : CcAct)
    (other : ∀ id msg, act = .toMncc id msg → msg.type.isTerminal = true → t.callref ≠ 0 →
      msg.callref ≠ t.callref) : RefOk (acts ++ [act]) t :=
  ⟨ok.toRefCurrent.concat act other, ok.stored⟩

variable {msg : MnccMsg} {w' : CcNet}

theorem RefOk.relayed (ok : RefOk acts t) (id : Option Nat) (goesOn : msg.type.isTerminal = false) :
    RefOk (acts ++ [.toMncc id msg]) t :=
  ok.concat _ fun _ _ is ends => by
    cases is
    rw [goesOn] at ends
    cases ends

theorem RefCurrent.of_same {s : CcTrans} (current : RefCurrent acts t) (same : s.SameRef t) :
    RefCurrent acts s := by
  obtain ⟨id, ref, callref⟩ := same
  refine ⟨id ▸ ref ▸ current.created, ?_⟩
  rw [callref, ref]
  exact current.current

/-- Without a call reference it is enough to have been created. -/
theorem RefCurrent.of_zero (created : acts.any (CcAct.creates t.callId t.ref) = true) (zero : t.callref = 0) :
    RefCurrent acts t :=
  ⟨created, fun under => absurd zero under⟩

/-- Only the call reference and the prepared message matter. -/
theorem RefOk.of_same {s : CcTrans} (ok : RefOk acts t) (same : s.SameRef t)
    (stored : t.callref ≠ 0 → ∀ msg, s.msg = some msg → msg.type = .setupInd → msg.callref = t.callref) :
    RefOk acts s := by
  refine ⟨ok.toRefCurrent.of_same same, ?_⟩
  rw [same.2.2]
  exact stored

theorem RefOk.told (ok : RefOk acts t) (up : Bool) (msg : MnccMsg) : RefOk acts (t.told up msg) := by
  refine ok.of_same told_sameRef fun under msg' is => ok.stored under msg' ?_
  rw [← is]
  unfold CcTrans.told
  split <;> rfl

/-- A message that has the call reference of a transaction may be said for it. -/
theorem RefCurrent.spoken (current : RefCurrent acts t) (callref : msg.callref = t.callref)
    (under : t.callref ≠ 0) : Spoken acts (.toMncc (some t.callId) msg) := by
  obtain ⟨ref, running⟩ := current.current under
  refine ⟨fun id is => ?_, callref ▸ running⟩
  obtain rfl : t.callId = id := Option.some.inj is
  exact ⟨callref ▸ under, callref ▸ ref ▸ current.created⟩

theorem created_told (created : acts.any (CcAct.creates t.callId t.ref) = true) (act : CcAct) (up : Bool)
    (msg : MnccMsg) :
    (acts ++ [act]).any (CcAct.creates (t.told up msg).callId (t.told up msg).ref) = true := by
  obtain ⟨id, ref, -⟩ := told_sameRef
  rw [id, ref, any_append, created]
  rfl

/-- No two transactions have one call reference. -/
def Apart (trans : List CcTrans) : Prop :=
  ∀ s ∈ trans, ∀ t ∈ trans, s.callref = t.callref → s.callref ≠ 0 → s.callId = t.callId

theorem Apart.of_map {trans : List CcTrans} (apart : Apart trans) {h : CcTrans → CcTrans}
    (callId_eq : ∀ s, (h s).callId = s.callId)
    (callref : ∀ s, (h s).callref = s.callref ∨ (h s).callref = 0) : Apart (trans.map h) := by
  intro s' changed t' changed' same under
  obtain ⟨s, mem, rfl⟩ := mem_map.mp changed
  obtain ⟨t, mem', rfl⟩ := mem_map.mp changed'
  have ofS : (h s).callref = s.callref := (callref s).resolve_right under
  have ofT : (h t).callref = t.callref := (callref t).resolve_right (same ▸ under)
  rw [callId_eq, callId_eq]
  exact apart s mem t mem' (ofS.symm.trans (same.trans ofT)) (ofS ▸ under)

/-! ### A transaction that is being worked on -/

theorem numbered_of_refs {w' : CcNet} (same : SameRefs (fun _ => False) False w w') (numbered : w.Numbered) :
    w'.Numbered :=
  numbered.of_ids same.ids same.next

/-- Everything is in order, except perhaps for one transaction. -/
structure Speaking (callId : Nat) (w : CcNet) (t : CcTrans) : Prop extends w.Has callId t where
  numbered : w.Numbered
  apart : Apart w.trans
  others : ∀ s ∈ w.trans, s.callId ≠ callId → RefOk w.acts s
  spoken : WellSpoken w.acts

namespace Speaking

section

variable (speaking : Speaking callId w t)
include speaking

theorem onTrans (callId_eq : ∀ s, (f s).callId = s.callId)
    (callref : ∀ s, (f s).callref = s.callref ∨ (f s).callref = 0) :
    Speaking callId (w.onTrans callId f) (f t) where
  toHas := speaking.toHas.onTrans callId_eq
  numbered := (numbered_of_refs (onTrans_refs callId_eq nofun) speaking.numbered)
  apart := by
    rw [onTrans_found speaking.toHas]
    refine speaking.apart.of_map (fun s => ?_) fun s => ?_
    · split <;> simp [callId_eq]
    · split
      · exact callref s
      · exact .inl rfl
  others s mem other := by
    rw [onTrans_found speaking.toHas] at mem ⊢
    obtain ⟨s, mem', rfl⟩ := mem_map.mp mem
    by_cases here : s.callId = callId
    · rw [if_pos here, callId_eq] at other
      exact absurd here other
    · rw [if_neg here]
      exact speaking.others s mem' here
  spoken := by
    rw [onTrans_found speaking.toHas]
    exact speaking.spoken

/-- An act that is not a message to MNCC. -/
theorem emit (act : CcAct) (quiet : ∀ id msg, act ≠ .toMncc id msg) :
    Speaking callId (w.emit act) t where
  toHas := speaking.toHas.emit act
  numbered := numbered_of_refs emit_refs speaking.numbered
  apart := by
    rw [emit_live speaking.live]
    exact speaking.apart
  others s mem other := by
    rw [emit_live speaking.live] at mem ⊢
    exact (speaking.others s mem other).concat act fun id msg is => absurd is (quiet id msg)
  spoken := by
    rw [emit_live speaking.live]
    refine speaking.spoken.concat ?_
    cases act with
    | toMncc id msg => exact absurd rfl (quiet id msg)
    | toMs | fromMncc | allocated | freed | mnccLost => trivial

/-- A message with the transaction's call reference. -/
theorem toMncc (current : RefCurrent w.acts t) (callref : msg.callref = t.callref)
    (under : t.callref ≠ 0) :
    Speaking callId (w.toMncc (some callId) msg) (t.told w.mnccUp msg) where
  toHas := speaking.toHas.toMncc _ _
  numbered := numbered_of_refs (toMncc_refs w _ _) speaking.numbered
  apart := by
    rw [toMncc_live speaking.live]
    exact speaking.apart.of_map (fun s => told_callId s _ _) fun s => .inl told_sameRef.2.2
  others s mem other := by
    rw [toMncc_live speaking.live] at mem ⊢
    obtain ⟨s, mem', rfl⟩ := mem_map.mp mem
    have other' : s.callId ≠ callId := fun here => other ((told_callId s _ _).trans here)
    have ⟨mem'', id⟩ := find_mem speaking.found
    have apart : msg.callref ≠ s.callref := fun same =>
      other' ((speaking.apart t mem'' s mem' (callref.symm.trans same) under).symm.trans id)
    refine ((speaking.others s mem' other').concat _ fun _ _ is _ _ => ?_).told _ _
    cases is
    exact apart
  spoken := by
    rw [toMncc_live speaking.live]
    have ⟨_, id⟩ := find_mem speaking.found
    exact speaking.spoken.concat (id ▸ current.spoken callref under)

omit speaking in
theorem keeping : Keeping callId (Speaking callId) where
  here speaking := speaking.toHas
  change speaking keeps := speaking.onTrans (callId_of_call keeps)
    fun s => .inl (congrArg CallHistory.callref (keeps s))
  toMs speaking := speaking.emit _ (by simp)

theorem transFree (current : RefCurrent w.acts t) :
    ∃ t', Speaking callId (gsm48CcTransFree w callId) t' := by
  have stopped := keeping.change (f := fun t => { t with timer := none }) speaking fun _ => rfl
  have current' : RefCurrent (w.onTrans callId fun t => { t with timer := none }).acts
      { t with timer := none } := by
    rw [onTrans_found speaking.toHas]
    exact current.of_same ⟨rfl, rfl, rfl⟩
  obtain ⟨t', freed⟩ := keeping.transFree speaking.toHas (fun _ => stopped)
    fun msg under _ callref _ => onTrans_mnccUp w callId _ ▸ stopped.toMncc current' callref under
  exact ⟨t', freed⟩

end

end Speaking

/-! ### The invariant -/

/-- MNCC has heard nothing wrong, and transactions have their own call references. -/
structure SpokenInv (w : CcNet) : Prop where
  spoken : WellSpoken w.acts
  refs : w.crashed = false → Apart w.trans ∧ ∀ t ∈ w.trans, RefOk w.acts t

theorem SpokenInv.ok (inv : SpokenInv w) (here : w.Has callId t) : RefOk w.acts t :=
  (inv.refs here.live).2 t (find_mem here.found).1

theorem SpokenInv.start (inv : SpokenInv w) (numbered : w.Numbered) (here : w.Has callId t) :
    Speaking callId w t :=
  have ⟨apart, ok⟩ := inv.refs here.live
  ⟨here, numbered, apart, fun s mem _ => ok s mem, inv.spoken⟩

theorem Speaking.finish (speaking : Speaking callId w t) (ok : RefOk w.acts t) : SpokenInv w where
  spoken := speaking.spoken
  refs _ := by
    refine ⟨speaking.apart, fun s mem => ?_⟩
    by_cases here : s.callId = callId
    · rw [speaking.numbered.unique mem speaking.found here]
      exact ok
    · exact speaking.others s mem here

theorem Speaking.freed (speaking : Speaking callId w t) (current : RefCurrent w.acts t) :
    SpokenInv (Cc.transFree w callId) := by
  rw [Cc.transFree, withTrans_found speaking.toHas]
  have noted := speaking.emit (.freed callId (t.due && t.callref ≠ 0 && !t.mnccInitiated)) (by simp)
  have current' : RefCurrent (w.emit (.freed callId (t.due && t.callref ≠ 0 && !t.mnccInitiated))).acts t := by
    rw [emit_live speaking.live]
    exact current.concat _ fun _ _ is => by cases is
  obtain ⟨t', freed⟩ := noted.transFree current'
  rw [unlink, withTrans_found freed.toHas]
  refine ⟨freed.spoken, fun _ => ⟨fun s mem t mem' => ?_, fun s mem => ?_⟩⟩
  · exact freed.apart s (mem_of_mem_filter mem) t (mem_of_mem_filter mem')
  · obtain ⟨mem', other⟩ := mem_filter.mp mem
    exact freed.others s mem' (by simpa using other)

/-! ### Every move -/

section Moves

variable (inv : SpokenInv w)
include inv

section

variable (numbered : w.Numbered) (here : w.Has callId t)
include numbered here

theorem spoken_announce {setup msg : MnccMsg} (prepared : t.msg = some setup)
    (isSetup : setup.type = .setupInd) (type : msg.type = setup.type)
    (callref : msg.callref = setup.callref) (under : t.callref ≠ 0) :
    SpokenInv ((w.onTrans callId fun t => { t with msg := none }).toMncc (some callId) msg) := by
  have ok := inv.ok here
  have own : msg.callref = t.callref := callref.trans (ok.stored under setup prepared isSetup)
  have taken := Speaking.keeping.change (f := fun t => { t with msg := none })
    (inv.start numbered here) fun _ => rfl
  have ok' : RefOk (w.onTrans callId fun t => { t with msg := none }).acts { t with msg := none } := by
    rw [onTrans_found here]
    exact ok.of_same ⟨rfl, rfl, rfl⟩ fun _ _ is => by cases is
  refine (taken.toMncc ok'.toRefCurrent own under).finish ?_
  rw [toMncc_live taken.live]
  have goesOn : msg.type.isTerminal = false := by
    rw [type, isSetup]
    rfl
  exact (ok'.relayed (some callId) goesOn).told _ _

theorem spoken_expire (callref : msg.callref = t.callref) (under : t.callref ≠ 0) :
    SpokenInv (((w.onTrans callId CcTrans.stopTimer).toMncc (some callId) msg).onTrans callId
      fun t => { t with mnccInitiated := true, callref := 0 }) := by
  have ok := inv.ok here
  have stopped := Speaking.keeping.change (f := CcTrans.stopTimer) (inv.start numbered here) fun _ => rfl
  have ok' : RefOk (w.onTrans callId CcTrans.stopTimer).acts t.stopTimer := by
    rw [onTrans_found here]
    exact ok.of_same ⟨rfl, rfl, rfl⟩ ok.stored
  have told := stopped.toMncc ok'.toRefCurrent callref under
  refine (told.onTrans (f := fun t => { t with mnccInitiated := true, callref := 0 }) (fun _ => rfl)
    fun _ => .inr rfl).finish ⟨.of_zero ?_ rfl, fun under => absurd rfl under⟩
  rw [onTrans_found told.toHas, toMncc_live stopped.live]
  exact created_told ok'.created _ _ _

theorem spoken_free (keeps : ∀ s, (f s).call = s.call) :
    SpokenInv (transFree (w.onTrans callId f) callId) := by
  refine (Speaking.keeping.change (inv.start numbered here) keeps).freed ?_
  rw [onTrans_found here]
  exact (inv.ok here).toRefCurrent.of_same (.of_call (keeps t))

theorem spoken_conclude (keeps : ∀ s, (f s).call = s.call)
    (zeroes : ∀ s, (g s).call = { s.call with callref := 0 })
    (owner : ∃ s ∈ w.trans, s.callId = callId ∧ s.callref = msg.callref) (under : msg.callref ≠ 0) :
    SpokenInv (transFree (((w.onTrans callId f).toMncc (some callId) msg).onTrans callId g) callId) := by
  obtain ⟨s, mem, id, callref⟩ := owner
  obtain rfl := numbered.unique mem here.found id
  have same : (f s).SameRef s := .of_call (keeps s)
  have changed := Speaking.keeping.change (inv.start numbered here) keeps
  have current : RefCurrent (w.onTrans callId f).acts (f s) := by
    rw [onTrans_found here]
    exact (inv.ok here).toRefCurrent.of_same same
  have own : (f s).callref = msg.callref := same.2.2.trans callref
  have told := changed.toMncc current own.symm (own ▸ under)
  have closing := told.onTrans (callId_of_zeroes zeroes) fun s => .inr (congrArg CallHistory.callref (zeroes s))
  refine closing.freed (.of_zero ?_ (congrArg CallHistory.callref (zeroes _)))
  rw [onTrans_found told.toHas, toMncc_live changed.live, callId_of_zeroes zeroes,
    ref_of_zeroes zeroes]
  exact created_told current.created _ _ _

theorem spoken_drop (zeroes : ∀ s, (g s).call = { s.call with callref := 0 }) :
    SpokenInv (transFree (w.onTrans callId g) callId) := by
  have closing := (inv.start numbered here).onTrans (callId_of_zeroes zeroes)
    fun s => .inr (congrArg CallHistory.callref (zeroes s))
  refine closing.freed (.of_zero ?_ (congrArg CallHistory.callref (zeroes t)))
  rw [onTrans_found here]
  rw [callId_of_zeroes zeroes, ref_of_zeroes zeroes]
  exact (inv.ok here).created

end

variable (live : w.crashed = false)
include live

/-- A message that does not end a call. -/
theorem spoken_relay {id : Option Nat} (goesOn : msg.type.isTerminal = false)
    (owned : Owned w id msg) : SpokenInv (w.toMncc id msg) := by
  obtain ⟨apart, ok⟩ := inv.refs live
  rw [toMncc_live live]
  refine ⟨inv.spoken.concat ?_, fun _ => ⟨?_, fun s mem => ?_⟩⟩
  · cases id with
    | none => exact ⟨nofun, owned.2⟩
    | some callId =>
        obtain ⟨t, mem, id, callref, under⟩ := owned
        exact id ▸ (ok t mem).toRefCurrent.spoken callref.symm (callref ▸ under)
  · exact apart.of_map (fun s => told_callId s _ _) fun s => .inl told_sameRef.2.2
  · obtain ⟨s, mem', rfl⟩ := mem_map.mp mem
    exact ((ok s mem').relayed id goesOn).told _ _

theorem spoken_hear (msg : MnccMsg) : SpokenInv (w.noted msg) := by
  obtain ⟨apart, ok⟩ := inv.refs live
  rw [noted_live live]
  refine ⟨inv.spoken.concat trivial, fun _ => ⟨?_, fun s mem => ?_⟩⟩
  · exact apart.of_map (fun _ => rfl) fun _ => .inl rfl
  · obtain ⟨s, mem', rfl⟩ := mem_map.mp mem
    have stays := (ok s mem').concat (.fromMncc msg
      (w.trans.any fun t => t.ref = msg.callref && t.terminals ≠ 0)) fun _ _ is => by cases is
    exact stays.of_same ⟨rfl, rfl, rfl⟩ stays.stored

/-- A message for a call reference that nobody has. -/
theorem spoken_reply {msg answer : MnccMsg} (unknown : (w.noted msg).findByCallref msg.callref = none)
    (callref : answer.callref = msg.callref)
    (running : msg.type ≠ .setupReq → msg.callref ∉ endedRefs w.acts) :
    SpokenInv ((w.noted msg).toMncc none answer) := by
  have heard := spoken_hear inv live msg
  have live' : (w.noted msg).crashed = false := (w.noted_crashed msg).trans live
  obtain ⟨apart, ok⟩ := heard.refs live'
  have notEnded : msg.callref ∉ endedRefs (w.noted msg).acts := by
    rw [noted_live live, endedRefs_concat]
    by_cases setup : msg.type = .setupReq
    · simp [endedAfter, setup]
    · simpa [endedAfter, setup] using running setup
  rw [toMncc_live live']
  refine ⟨heard.spoken.concat ⟨nofun, callref ▸ notEnded⟩, fun _ => ⟨?_, fun s mem => ?_⟩⟩
  · exact apart.of_map (fun s => told_callId s _ _) fun s => .inl told_sameRef.2.2
  · obtain ⟨s, mem', rfl⟩ := mem_map.mp mem
    have other : s.callref ≠ msg.callref := by simpa using find?_eq_none.mp unknown s mem'
    refine ((ok s mem').concat _ fun _ _ is _ _ same => ?_).told _ _
    cases is
    exact other (same.symm.trans callref)

theorem spoken_alloc (new : t.New) (other : ∀ s ∈ w.trans, s.callref ≠ t.ref) :
    SpokenInv (w.alloc t) := by
  obtain ⟨apart, ok⟩ := inv.refs live
  rw [alloc_live live]
  refine ⟨inv.spoken.concat trivial, fun _ => ⟨fun s mem s' mem' same under' => ?_, fun s mem => ?_⟩⟩
  · rcases mem_append.mp mem with before | now <;> rcases mem_append.mp mem' with before' | now'
    · exact apart s before s' before' same under'
    · rw [mem_singleton.mp now'] at same
      exact absurd (same.trans new.callref) (other s before)
    · rw [mem_singleton.mp now] at same
      exact absurd (same.symm.trans new.callref) (other s' before')
    · rw [mem_singleton.mp now, mem_singleton.mp now']
  · rcases mem_concat.mp mem with before | rfl
    · exact (ok s before).concat _ fun _ _ is => by cases is
    · refine ⟨⟨?_, fun _ => ⟨new.callref, fun ended => ?_⟩⟩, fun _ msg is => ?_⟩
      · simp [CcAct.creates]
      · rw [endedRefs_concat] at ended
        simp [endedAfter, new.callref] at ended
      · exact absurd (new.msg.symm.trans is) nofun


end Moves

theorem SpokenInv.emit_quiet (inv : SpokenInv w) (act : CcAct) (quiet : ∀ id msg, act ≠ .toMncc id msg) :
    SpokenInv (w.emit act) := by
  cases live : w.crashed with
  | true =>
      rw [emit_frozen live]
      exact inv
  | false =>
      rw [emit_live live]
      refine ⟨inv.spoken.concat ?_, fun _ => ⟨(inv.refs live).1, fun s mem => ?_⟩⟩
      · cases act with
        | toMncc id msg => exact absurd rfl (quiet id msg)
        | toMs | fromMncc | allocated | freed | mnccLost => trivial
      · exact ((inv.refs live).2 s mem).concat act fun id msg is => absurd is (quiet id msg)

variable {rules : CcRules}

theorem CcMove.spoken (own : rules.own) (move : CcMove rules w w') (numbered : w.Numbered)
    (inv : SpokenInv w) : SpokenInv w' := by
  cases live : w.crashed with
  | true =>
      rw [move.frozen live]
      exact inv
  | false =>
      cases move with
      | crash => exact ⟨inv.spoken, nofun⟩
      | toMs callId type => exact inv.emit_quiet _ (by simp)
      | change callId t f found keeps tame =>
          have here : w.Has callId t := ⟨live, found⟩
          have ok := inv.ok here
          refine (Speaking.keeping.change (inv.start numbered here) keeps).finish ?_
          rw [onTrans_found here]
          refine ok.of_same (.of_call (keeps t)) fun under msg is isSetup => ?_
          rcases tame.stored msg is isSetup with before | ⟨-, callref⟩
          · exact ok.stored under msg before isSetup
          · exact callref
      | relay callId msg goesOn notSetup owned => exact spoken_relay inv live goesOn (owned own)
      | announce callId t setup msg found initiated prepared isSetup type callref owned =>
          exact spoken_announce inv numbered ⟨live, found⟩ prepared isSetup type callref (owned own)
      | hear msg => exact spoken_hear inv live msg
      | reply msg answer unknown callref ends owned =>
          exact spoken_reply inv live unknown callref (owned own).2
      | expire callId t msg found pending callref under =>
          exact spoken_expire inv numbered ⟨live, found⟩ callref under
      | free callId t f found keeps => exact spoken_free inv numbered ⟨live, found⟩ keeps
      | conclude callId t f g msg found keeps zeroes owner ends owned =>
          exact spoken_conclude inv numbered ⟨live, found⟩ keeps zeroes owner (owned own)
      | drop callId t g found zeroes => exact spoken_drop inv numbered ⟨live, found⟩ zeroes
      | alloc t new connected owned => exact spoken_alloc inv live new (owned own)
      | count callref =>
          rw [update_live live]
          exact ⟨inv.spoken, fun _ => inv.refs live⟩
      | lost =>
          have logged := inv.emit_quiet (.mnccLost (w.trans.any (·.due))) (by simp)
          rw [update_live (by simpa using live)]
          exact ⟨logged.spoken, fun _ => logged.refs (by simpa using live)⟩
      | connected =>
          rw [update_live live]
          exact ⟨inv.spoken, fun _ => inv.refs live⟩

theorem spoken_of_moves (own : rules.own) (moves : ReflTransGen (CcMove rules) w w')
    (numbered : w.Numbered) (inv : SpokenInv w) : SpokenInv w' := by
  induction moves with
  | refl => exact inv
  | tail before move ih => exact move.spoken own (numbered_of_moves before numbered) ih

/-! ### Runs -/

/-- What MNCC hears has the call reference of the call, and nothing is heard of a call that is over, in every
run in which nothing speaks for a transaction that has no call reference any more, MNCC does not send for a
call that it has been told is over, and a new call reference is not in use. -/
theorem ccRun_wellSpoken (fresh : w.Fresh)
    (run : NestedRunMeeting ccEvent (fun out w input => input.Owns out w) w w') : WellSpoken w'.acts := by
  have meeting : NestedRunMeeting ccEvent
      (fun out w input => input.Meets ⟨True, fun _ => False⟩ out w) w w' :=
    run.weaken fun _ _ _ owns => ⟨fun _ => owns, fun _ => False.elim⟩
  have start : SpokenInv w :=
    ⟨fresh.acts ▸ guarded_nil, fun _ => by simp [Apart, fresh.trans]⟩
  have moves := ccRunMeeting_reach meeting fresh.numbered
  exact (spoken_of_moves trivial moves fresh.numbered start).spoken

theorem keepsCalls_id : KeepsCalls fun w => w := fun _ t mem => ⟨t, mem, rfl, rfl⟩

/-- Nothing is wrong with a call that is taken and released. -/
theorem ccRun_wellSpoken_takenCall : WellSpoken (takenCall.foldl (ccEvent fun w => w) {}).acts := by
  refine ccRun_wellSpoken ⟨rfl, rfl, rfl⟩ (nestedRunMeeting_foldl ?_)
  refine ⟨⟨by decide, by decide, nofun⟩, show ∀ t ∈ find _ _, _ from by decide, ?_, ?_, ⟨by decide, by decide, nofun⟩, ?_,
    ⟨by decide, by decide, nofun⟩, ?_, trivial⟩
  · rintro v ⟨⟩
    exact ⟨fun _ => keepsCalls_id, by decide⟩
  · rintro v ⟨⟩
    exact ⟨nofun, by decide⟩
  · rintro v ⟨⟩
    exact ⟨nofun, by decide⟩
  · rintro v ⟨⟩
    exact ⟨nofun, by decide⟩

/-- The MS does not confirm the call, T303 ends it, and then the MS releases it. -/
def lateRelease : List CcInput :=
  [.mncc setupReq calleeIdle, .paged 1 (some 3) {}, .timeout 1, .ms 3 (some 7) 0 { type := .release } {}]

/-- MNCC is told that the call with call reference zero is over. -/
theorem not_wellSpoken :
    CcRun {} (lateRelease.foldl (ccEvent fun w => w) {}) ∧
      .toMncc (some 1) { type := .relCnf, callref := 0 } ∈ (lateRelease.foldl (ccEvent fun w => w) {}).acts ∧
      ¬ WellSpoken (lateRelease.foldl (ccEvent fun w => w) {}).acts := by
  refine ⟨nestedRun_foldl ccEvent _ _, by decide, fun spoken => ?_⟩
  have said := spoken ((lateRelease.foldl (ccEvent fun w => w) {}).acts.take 5)
    (.toMncc (some 1) { type := .relCnf, callref := 0 })
    ((lateRelease.foldl (ccEvent fun w => w) {}).acts.drop 6) (by decide)
  exact absurd said (by decide)

end OsmoMsc.Cc
