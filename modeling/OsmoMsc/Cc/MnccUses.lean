/-
Module: OsmoMsc.Cc.MnccUses
Purpose: The use tokens that `mncc_tx_to_gsm_cc()` takes on the subscriber that a new call is for, on
  every path through it, and when it has given them back on return.
Trusted boundary: none
Main exports: OwnUses, mnccTxNewCallUses, mnccTxToGsmCcUses, refusedBusy
-/
import Mathlib.Logic.Function.Basic
import OsmoMsc.Cc.ControlStep

namespace OsmoMsc.Cc

/-- The use tokens of the subscribers that have the name `mncc_tx_to_gsm_cc`. -/
abbrev OwnUses := Nat → Nat

/-- `vlr_subscr_get()`. -/
def OwnUses.get (uses : OwnUses) (vsub : Nat) : OwnUses := Function.update uses vsub (uses vsub + 1)

/-- `vlr_subscr_put()`. -/
def OwnUses.put (uses : OwnUses) (vsub : Nat) : OwnUses := Function.update uses vsub (uses vsub - 1)

section

variable (w : CcNet) (msg : MnccMsg) (env : CcEnv)

/-- What the branches of `mnccTxNewCall` do to the tokens. -/
def mnccTxNewCallUses (uses : OwnUses) : OwnUses :=
  if msg.type ≠ .setupReq then uses
  else if msg.called = [] ∧ msg.imsi = [] then uses
  else
    match calleeOf msg env with
    | none => uses
    | some callee =>
      -- the subscriber that was found is used from here on
      let uses := uses.get callee.vsub
      let existing := w.trans.find? fun t => t.vsub = callee.vsub
      if !callee.luComplete then uses.put callee.vsub
      else if !w.callWaiting && callee.conn.isSome && existing.any (·.state ≠ .null) then uses
      else if !env.allocates then uses.put callee.vsub
      else
        match callee.conn with
        | none => uses.put callee.vsub
        | some _ => uses.put callee.vsub

/-- What `mnccTxToGsmCc` does to the tokens. -/
def mnccTxToGsmCcUses (uses : OwnUses) : OwnUses :=
  match msg.type with
  | .bridge | .rtpCreate | .rtpConnect | .rtpFree | .frame => uses
  | _ =>
    match w.findByCallref msg.callref with
    | none => mnccTxNewCallUses w msg env uses
    | some _ => uses

/-- A new call is for a subscriber that is attached and has a connection and a call, and there is no call
waiting. -/
def refusedBusy : Bool :=
  msg.type = .setupReq && (w.findByCallref msg.callref).isNone && !(msg.called = [] ∧ msg.imsi = []) &&
    (calleeOf msg env).any fun callee =>
      callee.luComplete && (!w.callWaiting && callee.conn.isSome &&
        (w.trans.find? fun t => t.vsub = callee.vsub).any (·.state ≠ .null))

/-- That call is the one that `mnccTxNewCall` refuses with USER BUSY. -/
theorem mnccTxNewCall_of_refusedBusy (out : CcNet → CcNet) (refused : refusedBusy w msg env = true) :
    mnccTxNewCall out w msg env = mnccReleaseUnknown w msg.callref .userBusy := by
  unfold refusedBusy at refused
  cases found : calleeOf msg env with
  | none => simp [found] at refused
  | some callee =>
      rw [found, Option.any_some, Bool.and_eq_true, Bool.and_eq_true, Bool.and_eq_true,
        Bool.and_eq_true] at refused
      obtain ⟨⟨⟨setup, -⟩, number⟩, attached, busy⟩ := refused
      rw [mnccTxNewCall, ← calleeOf, found, if_neg (by simpa using setup),
        if_neg (by simpa only [Bool.not_eq_true', decide_eq_false_iff_not] using number)]
      simp only [attached, busy, Bool.not_true, Bool.false_eq_true, if_false, if_true]

theorem mnccTxNewCallUses_iff (uses : OwnUses) (unknown : w.findByCallref msg.callref = none) :
    mnccTxNewCallUses w msg env uses = uses ↔ refusedBusy w msg env = false := by
  have kept (vsub : Nat) : (uses.get vsub).put vsub = uses := by simp [OwnUses.get, OwnUses.put]
  have lost (vsub : Nat) : uses.get vsub ≠ uses := fun same => by
    simpa [OwnUses.get] using congrFun same vsub
  unfold mnccTxNewCallUses refusedBusy
  rw [unknown]
  by_cases setup : msg.type = .setupReq
  · by_cases noNumber : msg.called = [] ∧ msg.imsi = []
    · simp [noNumber]
    · rw [if_neg (by simp [setup]), if_neg noNumber]
      cases calleeOf msg env with
      | none => simp
      | some callee =>
          dsimp only
          rw [Option.any_some]
          generalize (!w.callWaiting && callee.conn.isSome &&
            (w.trans.find? fun t => t.vsub = callee.vsub).any (·.state ≠ .null)) = busy
          cases callee.luComplete with
          | false => simp [kept]
          | true =>
              cases busy with
              | false => cases env.allocates <;> cases callee.conn <;> simp [kept]
              | true => simpa [setup, lost] using noNumber
  · simp [setup]

/-- `mncc_tx_to_gsm_cc()` returns with as many tokens as it was called with, unless it refuses a call to a
subscriber that is busy. -/
theorem mnccTxToGsmCc_uses_iff (uses : OwnUses) :
    mnccTxToGsmCcUses w msg env uses = uses ↔ refusedBusy w msg env = false := by
  unfold mnccTxToGsmCcUses
  cases known : w.findByCallref msg.callref with
  | none =>
      split
      all_goals
        first
        | exact mnccTxNewCallUses_iff w msg env uses known
        | rename_i type
          simp [refusedBusy, type]
  | some t => split <;> simp [refusedBusy, known]

end

/-- A call for a subscriber that has a call. -/
theorem busy_keeps_token :
    mnccTxToGsmCcUses
      { trans := [{ callId := 1, vsub := 5, callref := 7, ref := 7, state := .initiated }] }
      { type := .setupReq, callref := 9, called := ['1'] } { byMsisdn := fun _ => some ⟨5, true, some 3⟩ }
      (fun _ => 0) 5 = 1 := by
  decide

end OsmoMsc.Cc
