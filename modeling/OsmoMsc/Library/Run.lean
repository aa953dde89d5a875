/-
Module: OsmoMsc.Library.Run
Purpose: Runs of an event-driven program and the log a run leaves behind.  A program is a step
  function `σ → ε → σ`; a run is the fold of the step over a list of events.  The module gives the
  induction over runs whose steps all meet a side condition, and a discipline for append-only logs:
  `Guarded P log` says that every entry was written when `P` held of the history before it.
Trusted boundary: none
Main exports: mem_concat, StepsMeet, foldl_invariant, foldl_invariant_always, Guarded, guarded_snoc,
  Guarded.extend, added
-/
import Mathlib.Data.List.Induction
import Mathlib.Tactic.Common

namespace OsmoMsc.Library

open List

/-- An entry of a list that has got one more. -/
theorem mem_concat {α : Type*} {xs : List α} {x y : α} : y ∈ xs ++ [x] ↔ y ∈ xs ∨ y = x := by simp

/-! ### Runs -/

section Runs

variable {σ ε : Type*}

/-- Every step of the run from `s` over the given events meets `ok`, judged on the state before the
step and the event it handles. -/
def StepsMeet (step : σ → ε → σ) (ok : σ → ε → Prop) : σ → List ε → Prop
  | _, [] => True
  | s, e :: es => ok s e ∧ StepsMeet step ok (step s e) es

@[simp] theorem stepsMeet_nil (step : σ → ε → σ) (ok : σ → ε → Prop) (s : σ) :
    StepsMeet step ok s [] := trivial

@[simp] theorem stepsMeet_cons (step : σ → ε → σ) (ok : σ → ε → Prop) (s : σ) (e : ε)
    (es : List ε) :
    StepsMeet step ok s (e :: es) ↔ ok s e ∧ StepsMeet step ok (step s e) es := Iff.rfl

instance StepsMeet.decidable (step : σ → ε → σ) (ok : σ → ε → Prop)
    [∀ s e, Decidable (ok s e)] : ∀ s es, Decidable (StepsMeet step ok s es)
  | _, [] => .isTrue trivial
  | s, e :: es =>
      have := StepsMeet.decidable step ok (step s e) es
      inferInstanceAs (Decidable (ok s e ∧ StepsMeet step ok (step s e) es))

section

variable {step : σ → ε → σ} {ok : σ → ε → Prop} {es' : List ε} {Inv : σ → Prop} {new : ε}

/-- A condition that every state grants to every event of the list. -/
theorem stepsMeet_of_forall {es : List ε} (granted : ∀ s, ∀ e ∈ es, ok s e) (s : σ) :
    StepsMeet step ok s es := by
  induction es generalizing s with
  | nil => exact trivial
  | cons e es ih =>
      refine ⟨granted s e mem_cons_self, ih ?_ (step s e)⟩
      intro s' e' member
      exact granted s' e' (mem_cons_of_mem e member)

/-- A run splits at any point. -/
theorem stepsMeet_append {es : List ε} {s : σ} :
    StepsMeet step ok s (es ++ es') ↔
      StepsMeet step ok s es ∧ StepsMeet step ok (es.foldl step s) es' := by
  induction es generalizing s with
  | nil => simp
  | cons e es ih => simp [ih, and_assoc]

/-- An invariant that every admitted step keeps holds after every run of admitted steps. -/
theorem foldl_invariant (preserved : ∀ s e, Inv s → ok s e → Inv (step s e)) :
    ∀ (es : List ε) (s : σ), Inv s → StepsMeet step ok s es → Inv (es.foldl step s)
  | [], _, holds, _ => holds
  | e :: es, s, holds, admitted =>
      foldl_invariant preserved es (step s e) (preserved s e holds admitted.1) admitted.2

/-- The unconditional case: every step keeps the invariant. -/
theorem foldl_invariant_always (preserved : ∀ s e, Inv s → Inv (step s e)) (es : List ε) (s : σ)
    (holds : Inv s) : Inv (es.foldl step s) := by
  induction es generalizing s with
  | nil => exact holds
  | cons e es ih => exact ih (step s e) (preserved s e holds)

/-- An event that commutes with every event of a batch may be moved to the front of it. -/
theorem foldl_commute {es : List ε}
    (commutes : ∀ e ∈ es, ∀ s, step (step s e) new = step (step s new) e) (s : σ) :
    step (es.foldl step s) new = es.foldl step (step s new) := by
  induction es generalizing s with
  | nil => rfl
  | cons e es ih =>
      have rest := ih (fun e' member => commutes e' (mem_cons_of_mem e member)) (step s e)
      simp only [foldl_cons]
      rw [rest, commutes e mem_cons_self]

/-- Overwriting an event in the middle of a batch amounts to appending the new event, if the new
one makes the old one void and commutes with all that come after it. -/
theorem foldl_overwrite {old : ε} {es : List ε} (absorbs : ∀ s, step (step s old) new = step s new)
    (commutes : ∀ e ∈ es', ∀ s, step (step s e) new = step (step s new) e) (s : σ) :
    (es ++ new :: es').foldl step s = step ((es ++ old :: es').foldl step s) new := by
  simp only [foldl_append, foldl_cons]
  rw [foldl_commute commutes, absorbs]

end

end Runs

/-! ### Append-only logs -/

section Logs

variable {α : Type*}

/-- Every entry of the log was written when `P` held of the entries before it. -/
def Guarded (P : List α → α → Prop) (log : List α) : Prop :=
  ∀ before entry after, log = before ++ entry :: after → P before entry

theorem guarded_nil {P : List α → α → Prop} : Guarded P [] := by
  intro before entry after split
  simp at split

/-- Appending an entry adds exactly the obligation for that entry. -/
theorem guarded_snoc {P : List α → α → Prop} {log : List α} {entry : α} :
    Guarded P (log ++ [entry]) ↔ Guarded P log ∧ P log entry := by
  constructor
  · intro guarded
    refine ⟨?_, guarded log entry [] rfl⟩
    intro before inner after split
    exact guarded before inner (after ++ [entry]) (by simp [split])
  · rintro ⟨guarded, last⟩ before inner after split
    -- The split point is either inside the old log or at the new entry.
    rcases eq_nil_or_concat after with rfl | ⟨init, tail, rfl⟩
    · obtain ⟨rfl, rfl⟩ := append_inj' split rfl |>.imp id (by simpa using ·)
      exact last
    · have split' : log ++ [entry] = (before ++ inner :: init) ++ [tail] := by
        simpa [concat_eq_append] using split
      obtain ⟨rfl, -⟩ := append_inj' split' rfl
      exact guarded before inner init rfl

/-- A guarded log may be extended by anything that the history up to now already allows. -/
theorem Guarded.extend {P : List α → α → Prop} {log log' : List α} (guarded : Guarded P log)
    (grown : log <+: log') (allowed : ∀ before entry, log <+: before → P before entry) :
    Guarded P log' := by
  obtain ⟨added, rfl⟩ := grown
  induction added using List.reverseRecOn with
  | nil => simpa using guarded
  | append_singleton added entry ih =>
      rw [← append_assoc]
      exact guarded_snoc.mpr ⟨ih, allowed _ entry (prefix_append log added)⟩

/-- Entries that are allowed after any history may be appended at once. -/
theorem Guarded.append {P : List α → α → Prop} {log entries : List α} (guarded : Guarded P log)
    (allowed : ∀ entry ∈ entries, ∀ before, P before entry) : Guarded P (log ++ entries) := by
  induction entries generalizing log with
  | nil => simpa using guarded
  | cons entry entries ih =>
      rw [append_cons]
      refine ih (guarded_snoc.mpr ⟨guarded, allowed entry mem_cons_self log⟩) ?_
      exact fun later member => allowed later (mem_cons_of_mem entry member)

/-- The entries written between two moments of a log. -/
def added (log log' : List α) : List α := log'.drop log.length

@[simp] theorem added_append (log entries : List α) : added log (log ++ entries) = entries := by
  simp [added]

@[simp] theorem added_self (log : List α) : added log log = [] := by
  simp [added]

end Logs

end OsmoMsc.Library
