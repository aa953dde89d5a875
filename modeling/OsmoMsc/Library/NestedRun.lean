/-
Module: OsmoMsc.Library.NestedRun
Purpose: Runs of a program whose handlers call out while they are at work.  During a call-out anything
  may happen that may happen between two events, so the run of the whole contains the runs of its
  call-outs.
Trusted boundary: none
Main exports: NestedRun, NestedRunMeeting, NestedRun.relates, nestedRun_foldl
-/
import Mathlib.Logic.Relation
import OsmoMsc.Library.Run

namespace OsmoMsc.Library

variable {σ ε : Type*}

/-- `handle out s e` handles the event `e`, where `out` says what happens during its call-outs.  A run
is a sequence of events, and every call-out in it is a run again. -/
inductive NestedRun (handle : (σ → σ) → σ → ε → σ) : σ → σ → Prop
  | refl (s : σ) : NestedRun handle s s
  | step {s s' : σ} (run : NestedRun handle s s') (e : ε) (out : σ → σ)
      (outside : ∀ s, NestedRun handle s (out s)) : NestedRun handle s (handle out s' e)

variable {R : σ → σ → Prop}

/-- A relation that a handler respects if its call-outs do holds between the ends of a run. -/
theorem NestedRun.relates {handle : (σ → σ) → σ → ε → σ} (refl : ∀ s, R s s)
    (trans : ∀ {s s' s''}, R s s' → R s' s'' → R s s'')
    (handles : ∀ out, (∀ s, R s (out s)) → ∀ s e, R s (handle out s e)) {s s' : σ}
    (run : NestedRun handle s s') : R s s' := by
  induction run with
  | refl s => exact refl s
  | step _ e out _ before within => exact trans before (handles out within _ e)

/-- A run whose events, those of its call-outs included, are as `ok out s e` asks. -/
inductive NestedRunMeeting (handle : (σ → σ) → σ → ε → σ) (ok : (σ → σ) → σ → ε → Prop) : σ → σ → Prop
  | refl (s : σ) : NestedRunMeeting handle ok s s
  | step {s s' : σ} (run : NestedRunMeeting handle ok s s') (e : ε) (out : σ → σ)
      (outside : ∀ s, NestedRunMeeting handle ok s (out s)) (meets : ok out s' e) :
      NestedRunMeeting handle ok s (handle out s' e)

section

variable {handle : (σ → σ) → σ → ε → σ} {ok : (σ → σ) → σ → ε → Prop} {s : σ}

theorem NestedRunMeeting.relates (refl : ∀ s, R s s)
    (trans : ∀ {s s' s''}, R s s' → R s' s'' → R s s'')
    (handles : ∀ out, (∀ s, R s (out s)) → ∀ s e, ok out s e → R s (handle out s e)) {s' : σ}
    (run : NestedRunMeeting handle ok s s') : R s s' := by
  induction run with
  | refl s => exact refl s
  | step _ e out _ meets before within => exact trans before (handles out within _ e meets)

theorem NestedRunMeeting.weaken {ok' : (σ → σ) → σ → ε → Prop}
    (weaker : ∀ out s e, ok out s e → ok' out s e) {s' : σ} (run : NestedRunMeeting handle ok s s') :
    NestedRunMeeting handle ok' s s' := by
  induction run with
  | refl s => exact .refl s
  | step _ e out _ meets before within => exact before.step e out within (weaker out _ e meets)

/-- Events without anything in between that meet the condition. -/
theorem nestedRunMeeting_foldl {es : List ε}
    (meets : StepsMeet (handle fun s => s) (ok fun s => s) s es) :
    NestedRunMeeting handle ok s (es.foldl (handle fun s => s) s) := by
  have extend (es : List ε) {s s' : σ} (run : NestedRunMeeting handle ok s s')
      (meets : StepsMeet (handle fun s => s) (ok fun s => s) s' es) :
      NestedRunMeeting handle ok s (es.foldl (handle fun s => s) s') := by
    induction es generalizing s' with
    | nil => exact run
    | cons e es ih => exact ih (run.step e _ .refl meets.1) meets.2
  exact extend es (.refl s) meets

end

/-- Events without anything in between are a run. -/
theorem nestedRun_foldl (handle : (σ → σ) → σ → ε → σ) (es : List ε) (s : σ) :
    NestedRun handle s (es.foldl (handle fun s => s) s) := by
  have extend (es : List ε) {s s' : σ} (run : NestedRun handle s s') :
      NestedRun handle s (es.foldl (handle fun s => s) s') := by
    induction es generalizing s' with
    | nil => exact run
    | cons e es ih => exact ih (run.step e _ .refl)
  exact extend es (.refl s)

end OsmoMsc.Library
