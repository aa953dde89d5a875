/-
Module: OsmoMsc.Cc.OneTerminal
Purpose: MNCC and the call control layer agree on when a call is over: of every call that MNCC asked
  for or was told of, exactly one message says so before the transaction is freed.  Call control does
  not keep to it when it frees a transaction early, and says so twice when MNCC sends a message after a
  timer has ended the call.
Trusted boundary: none
Main exports: CcAct.careful, CcTrans.Ok, ccRun_oneTerminal
-/
import OsmoMsc.Cc.ControlStep

namespace OsmoMsc.Cc

open Library (mem_concat NestedRun nestedRun_foldl nodup_map_concat)
open Relation CcNet List

variable {msg : MnccMsg} {mnccUp : Bool} {w' : CcNet}

/-- What the account of calls rests on.  MNCC uses a call reference other than zero for one call at a time,
does not send for a call that it has been told is over, does not go away during a call, and no call that
it knows of is freed before either side has sent a second message. -/
def CcAct.careful : CcAct → Bool
  | .toMs _ _ | .toMncc _ _ => true
  | .fromMncc _ late => !late
  | .allocated _ ref unused => ref ≠ 0 && unused
  | .freed _ silent => !silent
  | .mnccLost calls => !calls

variable {w : CcNet} {callId : Nat} {t : CcTrans} {f g : CcTrans → CcTrans}

/-! ### The account of a call -/

def CallHistory.terminals (call : CallHistory) : Nat := call.sent.countP MnccType.isTerminal

def CallHistory.due (call : CallHistory) : Bool := call.byMncc || call.sent.contains .setupInd

/-- Nothing more is owed to MNCC. -/
def CallHistory.Settled (call : CallHistory) : Prop :=
  call.due = true → call.rejected = true ∨ call.terminals = 1

/-- The account of a call is in order: as long as the transaction has its call reference MNCC has not been
told that the call is over, and afterwards nothing is owed. -/
structure CallHistory.Ok (mnccUp : Bool) (call : CallHistory) : Prop where
  ref : call.ref ≠ 0
  callref : call.callref = 0 ∨ call.callref = call.ref
  running : call.callref ≠ 0 → call.terminals = 0
  settled : call.callref = 0 → call.Settled
  connected : call.due = true → mnccUp = true

/-- A transaction with its account in order, which starts no timer before the call is under way and keeps
its call reference until then. -/
structure CcTrans.Ok (mnccUp : Bool) (t : CcTrans) : Prop where
  call : t.call.Ok mnccUp
  idle : t.early → t.timer = none ∧ t.callref ≠ 0
  stored : ∀ msg, t.msg = some msg → msg.type = .setupInd → msg.callref = t.ref

theorem CallHistory.told_terminals (call : CallHistory) (type : MnccType) :
    { call with sent := call.sent ++ [type] : CallHistory }.terminals =
      call.terminals + if type.isTerminal then 1 else 0 := by
  simp [terminals, countP_append, countP_cons]

variable {type : MnccType} {rules : CcRules}

theorem CallHistory.told_due (call : CallHistory) (notSetup : type ≠ .setupInd) :
    { call with sent := call.sent ++ [type] : CallHistory }.due = call.due := by
  simp [due, contains_eq_mem, Ne.symm notSetup]

/-- What a message with the transaction's call reference does to the account. -/
theorem CcTrans.told_call (t : CcTrans) (mnccUp : Bool) (msg : MnccMsg) :
    (t.told mnccUp msg).call =
      if mnccUp ∧ t.ref = msg.callref then { t.call with sent := t.sent ++ [msg.type] } else t.call := by
  unfold told
  split <;> rfl

theorem terminal_notSetup (ends : type.isTerminal = true) : type ≠ .setupInd := by
  rintro rfl
  cases ends

/-! ### The books -/

/-- Transactions have different names and were created with different call references, and their accounts
are in order, except for the one that is being worked on. -/
structure Books (exempt : Option Nat) (w : CcNet) : Prop where
  numbered : w.Numbered
  refs : (w.trans.map (·.ref)).Nodup
  ok : ∀ t ∈ w.trans, some t.callId ≠ exempt → t.Ok w.mnccUp

def GoneSettled (w : CcNet) : Prop := ∀ t ∈ w.gone, t.call.Settled

/-- The same call. -/
def CcTrans.SameCall (t s : CcTrans) : Prop := t.callId = s.callId ∧ t.ref = s.ref

theorem CcTrans.sameCall_of_call (keeps : ∀ s, (f s).call = s.call) (s : CcTrans) : (f s).SameCall s :=
  ⟨callId_of_call keeps s, congrArg CallHistory.ref (keeps s)⟩

theorem CcTrans.sameCall_of_zeroes (zeroes : ∀ s, (g s).call = { s.call with callref := 0 }) (s : CcTrans) :
    (g s).SameCall s :=
  ⟨callId_of_zeroes zeroes s, ref_of_zeroes zeroes s⟩

theorem CcTrans.told_sameCall (t : CcTrans) (mnccUp : Bool) (msg : MnccMsg) :
    (t.told mnccUp msg).SameCall t :=
  ⟨told_callId t mnccUp msg, told_sameRef.2.1⟩

/-- A change of every transaction that keeps names and call references. -/
theorem Books.map {exempt exempt' : Option Nat} (books : Books exempt w) (h : CcTrans → CcTrans)
    (trans : w'.trans = w.trans.map h) (next : w'.newCallId = w.newCallId) (same : ∀ s, (h s).SameCall s)
    (ok : ∀ s ∈ w.trans, some s.callId ≠ exempt' → (h s).Ok w'.mnccUp) : Books exempt' w' where
  numbered := by
    refine books.numbered.of_ids ?_ next
    rw [trans, List.map_map]
    simp only [Function.comp_def, (same _).1, List.Sublist.refl]
  refs := by
    rw [trans, List.map_map]
    simpa only [Function.comp_def, (same _).2] using books.refs
  ok t mem not := by
    rw [trans] at mem
    obtain ⟨s, mem', rfl⟩ := mem_map.mp mem
    rw [(same s).1] at not
    exact ok s mem' not

/-- A transaction is being worked on, and everything else is in order. -/
structure Closing (callId : Nat) (mnccUp : Bool) (w : CcNet) (t : CcTrans) : Prop
    extends w.Has callId t where
  up : w.mnccUp = mnccUp
  books : Books (some callId) w
  gone : GoneSettled w

namespace Closing

theorem start (books : Books none w) (gone : GoneSettled w) (here : w.Has callId t) :
    Closing callId w.mnccUp w t where
  toHas := here
  up := rfl
  books := { books with ok := fun t mem _ => books.ok t mem nofun }
  gone := gone

section

variable (closing : Closing callId mnccUp w t)
include closing

theorem finish (ok : t.Ok mnccUp) : Books none w where
  numbered := closing.books.numbered
  refs := closing.books.refs
  ok s mem _ := by
    by_cases id : s.callId = callId
    · rw [closing.books.numbered.unique mem closing.found id, closing.up]
      exact ok
    · exact closing.books.ok s mem (by simpa using id)

theorem onTrans (same : ∀ s, (f s).SameCall s) :
    Closing callId mnccUp (w.onTrans callId f) (f t) where
  toHas := closing.toHas.onTrans fun s => (same s).1
  up := (onTrans_mnccUp w callId f).trans closing.up
  gone := by
    rw [onTrans_found closing.toHas]
    exact closing.gone
  books := by
    rw [onTrans_found closing.toHas]
    refine closing.books.map (fun s => if s.callId = callId then f s else s) rfl rfl ?_ ?_
    · intro s
      split
      · exact same s
      · exact ⟨rfl, rfl⟩
    · intro s mem other
      rw [if_neg (by simpa using other)]
      exact closing.books.ok s mem other

theorem emit (act : CcAct) : Closing callId mnccUp (w.emit act) t where
  toHas := closing.toHas.emit act
  up := by rw [emit_live closing.live]; exact closing.up
  gone := by rw [emit_live closing.live]; exact closing.gone
  books := by
    rw [emit_live closing.live]
    exact { closing.books with numbered := { closing.books.numbered with } }

/-- Nobody else has the transaction's call reference. -/
theorem owner {callref : Nat} (own : callref = 0 ∨ callref = t.ref) {s : CcTrans}
    (mem : s ∈ w.trans) (ref : s.ref = callref) : s.callId = callId := by
  have ⟨mem', id⟩ := find_mem closing.found
  by_contra other
  rcases own with zero | own
  · exact (closing.books.ok s mem (by simpa using other)).call.ref (ref.trans zero)
  · have same := inj_on_of_nodup_map closing.books.refs mem mem' (ref.trans own)
    exact other (same ▸ id)

theorem toMncc (id : Option Nat) (own : msg.callref = 0 ∨ msg.callref = t.ref) :
    Closing callId mnccUp (w.toMncc id msg) (t.told mnccUp msg) where
  toHas := closing.up ▸ closing.toHas.toMncc id msg
  up := by rw [toMncc_live closing.live]; exact closing.up
  gone := by rw [toMncc_live closing.live]; exact closing.gone
  books := by
    rw [toMncc_live closing.live]
    refine closing.books.map _ rfl rfl (fun s => s.told_sameCall w.mnccUp msg) fun s mem other => ?_
    have notOwn : ¬ (w.mnccUp = true ∧ s.ref = msg.callref) := fun both =>
      other (congrArg some (closing.owner own mem both.2))
    rw [CcTrans.told, if_neg notOwn]
    exact closing.books.ok s mem other

end

/-- What `trans_free()` tells MNCC. -/
def lastWord (mnccUp : Bool) (t : CcTrans) : List MnccType :=
  if t.callref ≠ 0 ∧ t.mnccInitiated = true ∧ mnccUp = true then
    [if t.state = .releaseReq then .relCnf else .relInd]
  else []

theorem transFree (closing : Closing callId mnccUp w t) (own : t.callref = 0 ∨ t.callref = t.ref) :
    ∃ t', Closing callId mnccUp (gsm48CcTransFree w callId) t' ∧
      t'.call = { t.call with sent := t.sent ++ lastWord mnccUp t } := by
  have keeping : Keeping callId fun w t' =>
      Closing callId mnccUp w t' ∧ t'.call = { t.call with sent := t.sent ++ lastWord mnccUp t } := {
    here := fun ⟨closing, _⟩ => closing.toHas
    change := fun ⟨closing, call⟩ keeps =>
      ⟨closing.onTrans (CcTrans.sameCall_of_call keeps), (keeps _).trans call⟩
    toMs := fun ⟨closing, call⟩ => ⟨closing.emit _, call⟩ }
  have stopped := closing.onTrans (f := fun t => { t with timer := none }) fun _ => ⟨rfl, rfl⟩
  refine keeping.transFree closing.toHas (fun silent => ⟨stopped, ?_⟩)
    fun msg under initiated callref type => ?_
  · rw [lastWord, if_neg fun all => by simp [silent all.1] at all, append_nil]
    rfl
  · have own' : msg.callref = t.ref := callref.trans (own.resolve_left under)
    rw [closing.up]
    refine ⟨stopped.toMncc (some callId) (.inr own'), ?_⟩
    rw [CcTrans.told_call, lastWord]
    by_cases up : mnccUp = true
    · rw [if_pos ⟨up, own'.symm⟩, if_pos ⟨under, initiated, up⟩, type]
      rfl
    · rw [if_neg fun both => up both.1, if_neg fun all => up all.2.2, append_nil]
      rfl

end Closing

/-! ### The invariant -/

/-- Unless somebody was careless, the calls that are over are settled and the books are in order. -/
def CcInv (w : CcNet) : Prop :=
  (∃ act ∈ w.acts, act.careful = false) ∨ GoneSettled w ∧ (w.crashed = true ∨ Books none w)

theorem CcInv.of_careless (act : CcAct) (mem : act ∈ w.acts) (careless : act.careful = false) : CcInv w :=
  .inl ⟨act, mem, careless⟩

theorem Closing.done (closing : Closing callId mnccUp w t) (ok : t.Ok mnccUp) : CcInv w :=
  .inr ⟨closing.gone, .inr (closing.finish ok)⟩

theorem lastWord_notSetup (mnccUp : Bool) (t : CcTrans) : .setupInd ∉ Closing.lastWord mnccUp t := by
  unfold Closing.lastWord
  split
  · split <;> simp
  · simp

/-- The last of a transaction. -/
theorem Closing.unlink (closing : Closing callId mnccUp w t) (settled : t.call.Settled) : CcInv (w.unlink callId) := by
  rw [CcNet.unlink, withTrans_found closing.toHas]
  refine .inr ⟨?_, .inr ⟨?_, ?_, ?_⟩⟩
  · intro s mem
    rcases mem_concat.mp mem with before | rfl
    · exact closing.gone s before
    · exact settled
  · exact closing.books.numbered.of_ids (filter_sublist.map _) rfl
  · exact closing.books.refs.sublist (filter_sublist.map _)
  · intro s mem _
    have ⟨mem', other⟩ := mem_filter.mp mem
    exact closing.books.ok s mem' (by simpa using other)

/-- A transaction is freed: it has no call reference any more and nothing is owed, or `trans_free()` tells
MNCC. -/
theorem Closing.freed (closing : Closing callId mnccUp w t) (ok : t.call.Ok mnccUp) :
    CcInv (Cc.transFree w callId) := by
  have eq : Cc.transFree w callId =
      (gsm48CcTransFree (w.emit (.freed callId (t.due && t.callref ≠ 0 && !t.mnccInitiated))) callId).unlink
        callId := by
    rw [Cc.transFree, withTrans_found closing.toHas]
  cases silent : t.due && t.callref ≠ 0 && !t.mnccInitiated with
  | true =>
      refine CcInv.of_careless (.freed callId true) ?_ rfl
      rw [eq, silent]
      refine (freeAndUnlink_refs : SameRefs (fun _ => False) False _ _).acts.subset ?_
      rw [emit_live closing.live]
      simp
  | false =>
      obtain ⟨t', closing', call⟩ := (closing.emit (.freed callId false)).transFree ok.callref
      rw [eq, silent]
      refine closing'.unlink fun due => ?_
      have due' : t.call.due = true := by
        rw [call] at due
        simpa [CallHistory.due, CcTrans.call, lastWord_notSetup] using due
      rw [call]
      by_cases zero : t.callref = 0
      · rw [Closing.lastWord, if_neg fun all => all.1 zero, append_nil]
        exact ok.settled zero due'
      · right
        have initiated : t.mnccInitiated = true := by
          have : t.due = true := due'
          simpa [this, zero] using silent
        have none := ok.running zero
        rw [Closing.lastWord, if_pos ⟨zero, initiated, ok.connected due'⟩]
        change ({ t.call with sent := t.call.sent ++ [_] } : CallHistory).terminals = 1
        rw [CallHistory.told_terminals, none]
        split <;> simp [MnccType.isTerminal]

/-! ### Every move -/

/-- A message that neither announces a call nor ends one. -/
theorem CcTrans.Ok.relayed (ok : t.Ok mnccUp) (goesOn : msg.type.isTerminal = false)
    (notSetup : msg.type ≠ .setupInd) : (t.told mnccUp msg).Ok mnccUp := by
  unfold CcTrans.told
  split
  · have terminals := t.call.told_terminals msg.type
    have due := t.call.told_due notSetup
    simp only [goesOn, Bool.false_eq_true, ↓reduceIte, Nat.add_zero] at terminals
    refine ⟨⟨ok.call.ref, ok.call.callref, fun nonzero => terminals.trans (ok.call.running nonzero), ?_, ?_⟩,
      ok.idle, ok.stored⟩
    · exact fun zero isDue => terminals.symm ▸ ok.call.settled zero (due.symm.trans isDue)
    · exact fun isDue => ok.call.connected (due.symm.trans isDue)
  · exact ok

/-- A change that leaves the account alone. -/
theorem CcTrans.Ok.changed {t' : CcTrans} (ok : t.Ok mnccUp) (call : t'.call = t.call)
    (tame : Tame t t') : t'.Ok mnccUp where
  call := call ▸ ok.call
  idle early := by
    have ⟨before, timer⟩ := tame.idle early
    have ⟨stopped, callref⟩ := ok.idle before
    refine ⟨timer.elim (fun same => same.trans stopped) id, ?_⟩
    rw [show t'.callref = t.callref from congrArg CallHistory.callref call]
    exact callref
  stored msg is isSetup := by
    rw [show t'.ref = t.ref from congrArg CallHistory.ref call]
    rcases tame.stored msg is isSetup with before | ⟨early, callref⟩
    · exact ok.stored msg before isSetup
    · rw [callref]
      exact ok.call.callref.resolve_left (ok.idle early).2

/-- A rejection settles a call. -/
theorem CcTrans.Ok.noted (ok : t.Ok mnccUp) (rejects : Bool) :
    CcTrans.Ok mnccUp { t with rejected := t.rejected || rejects } where
  call := by
    refine ⟨ok.call.ref, ok.call.callref, ok.call.running, fun zero due => ?_, ok.call.connected⟩
    rcases ok.call.settled zero due with rejected | once
    · exact .inl (by simp [CcTrans.call, show t.rejected = true from rejected])
    · exact .inr once
  idle := ok.idle
  stored := ok.stored

/-- MNCC is told that the call is over, and the call reference is given up. -/
theorem CallHistory.Ok.concluded (ok : t.call.Ok mnccUp) (callref : msg.callref = t.callref)
    (ends : msg.type.isTerminal = true) :
    CallHistory.Ok mnccUp { (t.told mnccUp msg).call with callref := 0 } := by
  have ref_eq : (t.told mnccUp msg).ref = t.ref := (t.told_sameCall mnccUp msg).2
  have due_eq : (t.told mnccUp msg).call.due = t.call.due := by
    rw [CcTrans.told_call]
    split
    · exact t.call.told_due (terminal_notSetup ends)
    · rfl
  refine ⟨fun zero => ok.ref (ref_eq.symm.trans zero), .inl rfl, absurd rfl, fun _ due => ?_,
    fun due => ok.connected (due_eq.symm.trans due)⟩
  have due' : t.call.due = true := due_eq.symm.trans due
  by_cases zero : t.callref = 0
  · -- MNCC has been told before
    have notOwn : ¬ (mnccUp = true ∧ t.ref = msg.callref) := fun both =>
      ok.ref (both.2.trans (callref.trans zero))
    rw [CcTrans.told, if_neg notOwn]
    exact ok.settled zero due'
  · right
    have own : t.ref = msg.callref := (ok.callref.resolve_left zero).symm.trans callref.symm
    change (t.told mnccUp msg).call.terminals = 1
    rw [CcTrans.told_call, if_pos ⟨ok.connected due', own⟩]
    refine (t.call.told_terminals msg.type).trans ?_
    rw [ok.running zero, ends]
    rfl

section Moves

variable (books : Books none w) (gone : GoneSettled w)
include books gone

section

variable (here : w.Has callId t)
include here

theorem inv_announce {setup : MnccMsg} (initiated : t.state = .initiated)
    (prepared : t.msg = some setup) (isSetup : setup.type = .setupInd)
    (type : msg.type = setup.type) (callref : msg.callref = setup.callref) :
    CcInv ((w.onTrans callId fun t => { t with msg := none }).toMncc (some callId) msg) := by
  have ok : t.Ok w.mnccUp := books.ok t (find_mem here.found).1 (by simp)
  have nonzero : t.callref ≠ 0 := (ok.idle (.inr initiated)).2
  have own : msg.callref = t.ref := callref.trans (ok.stored setup prepared isSetup)
  have closing := ((Closing.start books gone here).onTrans (f := fun t => { t with msg := none }) fun _ => ⟨rfl, rfl⟩).toMncc
    (some callId) (.inr own)
  refine closing.done ?_
  unfold CcTrans.told
  split
  · rename_i told
    have terminals : ({ t.call with sent := t.call.sent ++ [msg.type] } : CallHistory).terminals = 0 := by
      rw [CallHistory.told_terminals, type, isSetup, ok.call.running nonzero]
      rfl
    exact ⟨⟨ok.call.ref, ok.call.callref, fun _ => terminals, fun zero => absurd zero nonzero, fun _ => told.1⟩,
      ok.idle, by simp⟩
  · exact ⟨ok.call, ok.idle, by simp⟩

theorem inv_expire (pending : t.timer ≠ none) (callref : msg.callref = t.callref)
    (ends : msg.type.isTerminal = true) :
    CcInv (((w.onTrans callId CcTrans.stopTimer).toMncc (some callId) msg).onTrans callId
      fun t => { t with mnccInitiated := true, callref := 0 }) := by
  have ok : t.Ok w.mnccUp := books.ok t (find_mem here.found).1 nofun
  have own : msg.callref = 0 ∨ msg.callref = t.ref := callref ▸ ok.call.callref
  have closing := (((Closing.start books gone here).onTrans (f := CcTrans.stopTimer) fun _ => ⟨rfl, rfl⟩).toMncc
    (some callId) own).onTrans (f := fun t => { t with mnccInitiated := true, callref := 0 }) fun _ => ⟨rfl, rfl⟩
  refine closing.done ?_
  have concluded : CallHistory.Ok w.mnccUp { (t.stopTimer.told w.mnccUp msg).call with callref := 0 } :=
    CallHistory.Ok.concluded (t := t.stopTimer) ok.call callref ends
  have state_eq : (t.stopTimer.told w.mnccUp msg).state = t.state := by
    unfold CcTrans.told
    split <;> rfl
  refine ⟨concluded, fun early => ?_, fun msg' is isSetup => ?_⟩
  · -- a timer runs only while a call is under way
    have early' : t.early := by
      unfold CcTrans.early at early ⊢
      rwa [← state_eq]
    exact absurd (ok.idle early').1 pending
  · have stored : t.msg = some msg' := by
      rw [← is]
      unfold CcTrans.told
      split <;> rfl
    rw [ok.stored msg' stored isSetup]
    unfold CcTrans.told
    split <;> rfl

theorem inv_free (keeps : ∀ s, (f s).call = s.call) :
    CcInv (transFree (w.onTrans callId f) callId) := by
  have ok : t.Ok w.mnccUp := books.ok t (find_mem here.found).1 nofun
  have closing := (Closing.start books gone here).onTrans (CcTrans.sameCall_of_call keeps)
  refine closing.freed ?_
  rw [keeps]
  exact ok.call

theorem inv_conclude {msg : MnccMsg} (keeps : ∀ s, (f s).call = s.call)
    (zeroes : ∀ s, (g s).call = { s.call with callref := 0 })
    (owner : ∃ s ∈ w.trans, s.callId = callId ∧ s.callref = msg.callref)
    (ends : msg.type.isTerminal = true) :
    CcInv (transFree (((w.onTrans callId f).toMncc (some callId) msg).onTrans callId g) callId) := by
  have ok : t.Ok w.mnccUp := books.ok t (find_mem here.found).1 nofun
  obtain ⟨s, mem, id, callref⟩ := owner
  obtain rfl := books.numbered.unique mem here.found id
  have callref_eq : (f s).callref = s.callref := congrArg CallHistory.callref (keeps s)
  have ref_eq : (f s).ref = s.ref := congrArg CallHistory.ref (keeps s)
  have changed := (Closing.start books gone here).onTrans (CcTrans.sameCall_of_call keeps)
  have own : msg.callref = 0 ∨ msg.callref = (f s).ref := by
    rw [← callref, ref_eq]
    exact ok.call.callref
  have closing := (changed.toMncc (some callId) own).onTrans (CcTrans.sameCall_of_zeroes zeroes)
  refine closing.freed ?_
  rw [zeroes]
  refine CallHistory.Ok.concluded ?_ (callref.symm.trans callref_eq.symm) ends
  rw [keeps]
  exact ok.call

theorem inv_drop (zeroes : ∀ s, (g s).call = { s.call with callref := 0 })
    (reason : w.mnccUp = false ∨
      ∃ s ∈ w.trans, s.callId = callId ∧ (s.callref ≠ 0 → s.callref = s.ref → s.rejected = true)) :
    CcInv (transFree (w.onTrans callId g) callId) := by
  have ok : t.Ok w.mnccUp := books.ok t (find_mem here.found).1 nofun
  have closing := (Closing.start books gone here).onTrans (CcTrans.sameCall_of_zeroes zeroes)
  refine closing.freed ?_
  rw [zeroes]
  refine ⟨ok.call.ref, .inl rfl, absurd rfl, fun _ due => ?_, ok.call.connected⟩
  rcases reason with down | ⟨s, mem, id, rejected⟩
  · have up := ok.call.connected due
    rw [down] at up
    cases up
  · obtain rfl := books.numbered.unique mem here.found id
    by_cases zero : s.callref = 0
    · exact ok.call.settled zero due
    · exact .inl (rejected zero (ok.call.callref.resolve_left zero))

end

variable (live : w.crashed = false)
include live

theorem inv_hear (msg : MnccMsg) : CcInv (w.noted msg) := by
  rw [noted_live live]
  refine .inr ⟨gone, .inr (books.map _ rfl rfl (fun _ => ⟨rfl, rfl⟩) fun s mem _ => ?_)⟩
  exact (books.ok s mem nofun).noted _

theorem inv_reply {answer : MnccMsg} (unknown : (w.noted msg).findByCallref msg.callref = none)
    (callref : answer.callref = msg.callref) (ends : answer.type.isTerminal = true) :
    CcInv ((w.noted msg).toMncc none answer) := by
  have live' : (w.noted msg).crashed = false := (w.noted_crashed msg).trans live
  cases late : w.trans.any fun t => t.ref = msg.callref && t.terminals ≠ 0 with
  | true =>
      have same : SameRefs (fun _ => False) False _ _ := toMncc_refs (w.noted msg) none answer
      refine CcInv.of_careless (.fromMncc msg true) (same.acts.subset ?_) rfl
      rw [noted_live live, late]
      simp
  | false =>
      rw [toMncc_live live']
      rw [noted_live live] at unknown ⊢
      rw [any_eq_false] at late
      refine .inr ⟨gone, .inr (books.map (fun s => CcTrans.told { s with rejected := _ } w.mnccUp answer)
        (map_map) rfl ?_ fun s mem _ => ?_)⟩
      · exact fun s => CcTrans.told_sameCall _ _ _
      · have ok := (books.ok s mem nofun).noted (s.ref = msg.callref && msg.type = .rejReq)
        have notFound : s.callref ≠ msg.callref := by
          have := find?_eq_none.mp unknown _ (mem_map.mpr ⟨s, mem, rfl⟩)
          simpa using this
        unfold CcTrans.told
        split
        · -- a transaction whose call reference was given up without a message
          rename_i told
          have own : s.ref = msg.callref := told.2.trans callref
          have none : s.terminals = 0 := by simpa [own] using late s mem
          have given : s.callref = 0 := ok.call.callref.resolve_right fun same => notFound (same.trans own)
          have due := ({ s with rejected := s.rejected || (s.ref = msg.callref && msg.type = .rejReq) } :
            CcTrans).call.told_due (terminal_notSetup ends)
          refine ⟨⟨ok.call.ref, ok.call.callref, absurd given, fun _ _ => .inr ?_, ?_⟩, ok.idle, ok.stored⟩
          · refine (s.call.told_terminals answer.type).trans ?_
            rw [show s.call.terminals = 0 from none, ends]
            rfl
          · exact fun isDue => ok.call.connected (due.symm.trans isDue)
        · exact ok

theorem inv_alloc (new : t.New) (connected : t.byMncc = true → w.mnccUp = true) : CcInv (w.alloc t) := by
  have numbered := books.numbered.alloc t
  rw [alloc_live live] at numbered ⊢
  cases careful : (CcAct.allocated w.newCallId t.ref (w.trans.all fun other => other.ref ≠ t.ref)).careful with
  | false => exact CcInv.of_careless _ mem_concat_self careful
  | true =>
      simp only [CcAct.careful, Bool.and_eq_true, decide_eq_true_eq, all_eq_true] at careful
      obtain ⟨nonzero, unused⟩ := careful
      refine .inr ⟨gone, .inr ⟨numbered, nodup_map_concat books.refs unused, fun s mem _ => ?_⟩⟩
      rcases mem_concat.mp mem with before | rfl
      · exact books.ok s before nofun
      · have running : t.callref ≠ 0 := new.callref ▸ nonzero
        refine ⟨⟨nonzero, .inr new.callref, fun _ => ?_, fun zero => absurd zero running, fun due => ?_⟩,
          fun _ => ⟨new.timer, running⟩, fun msg is => ?_⟩
        · simp [CallHistory.terminals, CcTrans.call, new.sent]
        · exact connected (by simpa [CallHistory.due, CcTrans.call, new.sent] using due)
        · exact absurd (new.msg.symm.trans is) nofun

theorem inv_lost :
    CcInv ((w.emit (.mnccLost (w.trans.any (·.due)))).update fun w => { w with mnccUp := false }) := by
  rw [update_live (by simpa using live), emit_live live]
  cases calls : w.trans.any (·.due) with
  | true => exact CcInv.of_careless _ mem_concat_self rfl
  | false =>
      rw [any_eq_false] at calls
      refine .inr ⟨gone, .inr ⟨{ books.numbered with }, books.refs, fun s mem _ => ?_⟩⟩
      have ok := books.ok s mem nofun
      exact ⟨⟨ok.call.ref, ok.call.callref, ok.call.running, ok.call.settled,
        fun due => absurd due (calls s mem)⟩, ok.idle, ok.stored⟩


end Moves

theorem CcMove.inv {w : CcNet} (move : CcMove rules w w') (inv : CcInv w) : CcInv w' := by
  rcases inv with ⟨act, mem, careless⟩ | ⟨gone, inOrder⟩
  · exact .inl ⟨act, move.grows.subset mem, careless⟩
  cases live : w.crashed with
  | true =>
      rw [move.frozen live]
      exact .inr ⟨gone, .inl live⟩
  | false =>
      have books : Books none w := inOrder.resolve_left (by simp [live])
      cases move with
      | crash => exact .inr ⟨gone, .inl rfl⟩
      | toMs callId type =>
          rw [emit_live live]
          exact .inr ⟨gone, .inr ⟨{ books.numbered with }, books.refs, books.ok⟩⟩
      | change callId t f found keeps tame =>
          have closing := (Closing.start books gone ⟨live, found⟩).onTrans (CcTrans.sameCall_of_call keeps)
          refine closing.done ?_
          exact (books.ok t (find_mem found).1 nofun).changed (keeps t) tame
      | relay callId msg goesOn notSetup =>
          rw [toMncc_live live]
          refine .inr ⟨gone, .inr (books.map _ rfl rfl (fun s => s.told_sameCall _ _) fun s mem _ => ?_)⟩
          exact (books.ok s mem nofun).relayed goesOn notSetup
      | announce callId t setup msg found initiated prepared isSetup type callref =>
          exact inv_announce books gone ⟨live, found⟩ initiated prepared isSetup type callref
      | hear msg => exact inv_hear books gone live msg
      | reply msg answer unknown callref ends => exact inv_reply books gone live unknown callref ends
      | expire callId t msg found pending callref _ ends =>
          exact inv_expire books gone ⟨live, found⟩ pending callref ends
      | free callId t f found keeps => exact inv_free books gone ⟨live, found⟩ keeps
      | conclude callId t f g msg found keeps zeroes owner ends =>
          exact inv_conclude books gone ⟨live, found⟩ keeps zeroes owner ends
      | drop callId t g found zeroes reason => exact inv_drop books gone ⟨live, found⟩ zeroes reason
      | alloc t new connected => exact inv_alloc books gone live new connected
      | count callref =>
          rw [update_live live]
          exact .inr ⟨gone, .inr ⟨{ books.numbered with }, books.refs, books.ok⟩⟩
      | lost => exact inv_lost books gone live
      | connected =>
          rw [update_live live]
          refine .inr ⟨gone, .inr ⟨{ books.numbered with }, books.refs, fun s mem _ => ?_⟩⟩
          have ok := books.ok s mem nofun
          exact ⟨⟨ok.call.ref, ok.call.callref, ok.call.running, ok.call.settled, fun _ => rfl⟩, ok.idle,
            ok.stored⟩

theorem CcReach.inv {w : CcNet} (reach : CcReach rules w w') (numbered : w.Numbered)
    (inv : CcInv w) : CcInv w' := by
  have moves := reach numbered
  clear reach
  induction moves with
  | refl => exact inv
  | tail _ move ih => exact move.inv ih

theorem CcNet.Fresh.inv (fresh : w.Fresh) : CcInv w := by
  refine .inr ⟨?_, .inr ⟨fresh.numbered, ?_, ?_⟩⟩
  · simp [GoneSettled, fresh.gone]
  all_goals simp [fresh.trans]

/-! ### One message says that a call is over -/

/-- Of every freed transaction that MNCC asked for or was told of, and that it has not rejected, exactly one
message said that the call is over. -/
def OneTerminal (w : CcNet) : Prop :=
  ∀ t ∈ w.gone, t.due = true → t.rejected = false → t.terminals = 1

instance (w : CcNet) : Decidable (OneTerminal w) := List.decidableBAll _ _

/-- Over every run in which everybody is careful, with anything happening during the call-outs. -/
theorem ccRun_oneTerminal {w w' : CcNet} (fresh : w.Fresh) (run : CcRun w w')
    (careful : ∀ act ∈ w'.acts, act.careful = true) : OneTerminal w' := by
  intro t mem due notRejected
  rcases (ccRun_reach run).inv fresh.numbered fresh.inv with ⟨act, logged, careless⟩ | ⟨gone, -⟩
  · rw [careful act logged] at careless
    cases careless
  · refine (gone t mem due).resolve_left fun rejected => ?_
    rw [show t.rejected = true from rejected] at notRejected
    cases notRejected

/-- The subscriber with the number 1 is attached and has no connection. -/
def calleeIdle : CcEnv := { byMsisdn := fun number => if number = ['1'] then some { vsub := 7 } else none }

/-- MNCC calls the number 1. -/
def setupReq : MnccMsg := { type := .setupReq, callref := 5, called := ['1'] }

/-- A call to the MS: paging, the call is taken, the MS hangs up, and MNCC releases the call. -/
def takenCall : List CcInput :=
  [.mncc setupReq calleeIdle, .paged 1 (some 3) {}, .ms 3 (some 7) 0 { type := .callConf } {},
    .ms 3 (some 7) 0 { type := .connect } {}, .mncc { type := .setupComplReq, callref := 5 } {},
    .ms 3 (some 7) 0 { type := .disconnect } {}, .mncc { type := .relReq, callref := 5 } {},
    .ms 3 (some 7) 0 { type := .releaseCompl } {}]

theorem ccRun_oneTerminal_takenCall :
    (takenCall.foldl (ccEvent fun w => w) {}).gone.map (·.due) = [true] ∧
      OneTerminal (takenCall.foldl (ccEvent fun w => w) {}) :=
  ⟨by decide, ccRun_oneTerminal ⟨rfl, rfl, rfl⟩ (nestedRun_foldl ccEvent takenCall {}) (by decide)⟩

/-- The MS answers paging, and the connection is lost before it has confirmed the call. -/
def lostWhilePresent : List CcInput := [.mncc setupReq calleeIdle, .paged 1 (some 3) {}, .free 1]

/-- The MS does not confirm the call, T303 ends it, and MNCC releases it at the same time. -/
def releasedAtT303 : List CcInput :=
  [.mncc setupReq calleeIdle, .paged 1 (some 3) {}, .timeout 1, .mncc { type := .relReq, callref := 5 } {},
    .ms 3 (some 7) 0 { type := .releaseCompl } {}]

/-- MNCC never hears of the end of the first call, and hears of the end of the second one twice. -/
theorem not_oneTerminal :
    (CcRun {} (lostWhilePresent.foldl (ccEvent fun w => w) {}) ∧
      ¬ OneTerminal (lostWhilePresent.foldl (ccEvent fun w => w) {}) ∧
      (lostWhilePresent.foldl (ccEvent fun w => w) {}).gone.map (·.terminals) = [0]) ∧
    CcRun {} (releasedAtT303.foldl (ccEvent fun w => w) {}) ∧
      ¬ OneTerminal (releasedAtT303.foldl (ccEvent fun w => w) {}) ∧
      (releasedAtT303.foldl (ccEvent fun w => w) {}).gone.map (·.terminals) = [2] :=
  ⟨⟨nestedRun_foldl ccEvent _ _, by decide, by decide⟩, nestedRun_foldl ccEvent _ _, by decide, by decide⟩

end OsmoMsc.Cc
