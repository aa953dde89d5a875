/-
Module: OsmoMsc.Msc.HandoverNumber
Purpose: The Handover Numbers that MSC-T roles get from the configured range.
Trusted boundary: none
Main exports:
  mscTAssignHandoverNumber, numberRun, mscTAssignHandoverNumber_assigns
-/
import OsmoMsc.Library.CText
import OsmoMsc.Library.Run

namespace OsmoMsc.Msc

open Library CText List

/-- The `handover_number` of `struct gsm_network`. -/
structure NumberRange where
  rangeStart : Nat := 0
  rangeEnd : Nat := 0
  next : Nat := 0

/-- `net_handover_number_next()`; the cursor is a `uint64_t`. -/
def netHandoverNumberNext (net : NumberRange) : Nat × NumberRange :=
  let nr := if net.next < net.rangeStart ∨ net.next > net.rangeEnd then net.rangeStart
    else net.next
  (nr, { net with next := (nr + 1) % 2 ^ 64 })

/-- `msub_list`: for each entry, the `inter_msc.handover_number` of its MSC-T role, if it has the
role. -/
abbrev MsubList := List (Option Text)

/-- `msc_t_find_by_handover_number()`: the entry whose MSC-T holds the number. -/
def mscTFindByHandoverNumber (msubs : MsubList) (number : Text) : Option Nat :=
  msubs.findIdx? fun mscT => mscT.any fun held => held ≠ [] ∧ held = number

/-- The errors of `msc_t_assign_handover_number()`. -/
inductive NumberError where
  | enoent
  | einval

/-- The `do` loop of `msc_t_assign_handover_number()`, for at most `fuel` rounds. -/
def assignLoop (msubs : MsubList) (startedAt : Nat) :
    Nat → Nat → NumberRange → Option (Except NumberError Text × NumberRange)
  | 0, _, _ => none
  | fuel + 1, hoNr, net =>
      let hoNrStr := decText hoNr
      -- `snprintf()` into `char[GSM23003_MSISDN_MAX_DIGITS + 1]`.
      if hoNrStr.length ≥ 16 then some (.error .einval, net)
      else if mscTFindByHandoverNumber msubs hoNrStr = none then some (.ok hoNrStr, net)
      else
        let (hoNr, net) := netHandoverNumberNext net
        if hoNr = startedAt then some (.error .einval, net)
        else assignLoop msubs startedAt fuel hoNr net

structure NumberState where
  net : NumberRange := {}
  msubs : MsubList := []

/-- `msc_t_assign_handover_number()` for the MSC-T of entry `i`. -/
def mscTAssignHandoverNumber (s : NumberState) (i : Nat) :
    Option (Except NumberError Text × NumberState) :=
  let (hoNr, net) := netHandoverNumberNext s.net
  if hoNr = 0 then some (.error .enoent, { s with net })
  else match assignLoop s.msubs hoNr (net.rangeEnd - net.rangeStart + 1) hoNr net with
    | none => none
    | some (.error e, net) => some (.error e, { s with net })
    | some (.ok number, net) => some (.ok number, { net, msubs := s.msubs.set i (some number) })

/-! ## One assignment -/

variable {msubs : MsubList} {number : Text}

theorem find_eq_none_iff (nonempty : number ≠ []) :
    mscTFindByHandoverNumber msubs number = none ↔ some number ∉ msubs := by
  simp only [mscTFindByHandoverNumber, findIdx?_eq_none_iff, Option.any_eq_false,
    decide_eq_false_iff_not, not_and]
  constructor
  · intro skipped member
    exact skipped _ member number rfl nonempty rfl
  · rintro absent _ member held rfl _ rfl
    exact absent member

theorem decText_nat_ne_nil {n : Nat} : decText n ≠ [] := Nat.toDigits_ne_nil

theorem assignLoop_free {startedAt fuel hoNr : Nat} {net net' : NumberRange}
    (assigned : assignLoop msubs startedAt fuel hoNr net = some (.ok number, net')) :
    some number ∉ msubs := by
  fun_induction assignLoop with
  | case3 fuel hoNr net hoNrStr fits free =>
      obtain rfl : hoNrStr = number := by simpa using congrArg (·.map Prod.fst) assigned
      exact (find_eq_none_iff decText_nat_ne_nil).mp free
  | case5 fuel hoNr net hoNrStr fits held next net' moved further ih => exact ih assigned
  | _ => cases assigned

/-- The number is in the configured range. -/
def NumberRange.Has (net : NumberRange) (n : Nat) : Prop := net.rangeStart ≤ n ∧ n ≤ net.rangeEnd

/-- The outcome of a search: a number of the range that was free, or none was. -/
def Outcome (net : NumberRange) (msubs : MsubList) : Except NumberError Text → Prop
  | .ok number => some number ∉ msubs ∧ ∃ n, net.Has n ∧ number = decText n
  | .error _ => ∀ n, net.Has n → some (decText n) ∈ msubs

section Search

variable {net : NumberRange} {msubs : MsubList} {startedAt hoNr : Nat}

theorem next_has (order : net.rangeStart ≤ net.rangeEnd) {net' : NumberRange}
    (next : netHandoverNumberNext net = (hoNr, net')) : net.Has hoNr := by
  obtain ⟨rfl, -⟩ := Prod.mk.inj next
  unfold NumberRange.Has
  split <;> omega

/-- After a number of the range comes the one above it, and after the last one the first. -/
theorem next_after (has : net.Has hoNr) (small : net.rangeEnd < 10 ^ 15) :
    netHandoverNumberNext { net with next := (hoNr + 1) % 2 ^ 64 } =
      let nr := if hoNr = net.rangeEnd then net.rangeStart else hoNr + 1
      (nr, { net with next := (nr + 1) % 2 ^ 64 }) := by
  obtain ⟨above, below⟩ := has
  have nowrap : (hoNr + 1) % 2 ^ 64 = hoNr + 1 := Nat.mod_eq_of_lt (by omega)
  have wraps : hoNr + 1 < net.rangeStart ∨ hoNr + 1 > net.rangeEnd ↔ hoNr = net.rangeEnd := by omega
  simp only [netHandoverNumberNext, nowrap, wraps]

/-- The rounds until the search that is at `hoNr` comes back to where it started. -/
def roundsLeft (net : NumberRange) (startedAt hoNr : Nat) : Nat :=
  if startedAt ≤ hoNr then net.rangeEnd - hoNr + (startedAt - net.rangeStart) + 1
  else startedAt - hoNr

/-- The numbers that the search has been at before `hoNr`. -/
def Tried (startedAt hoNr n : Nat) : Prop :=
  if startedAt ≤ hoNr then startedAt ≤ n ∧ n < hoNr else startedAt ≤ n ∨ n < hoNr

theorem assignLoop_outcome (small : net.rangeEnd < 10 ^ 15) (started : net.Has startedAt)
    {fuel : Nat} (has : net.Has hoNr)
    (taken : ∀ n, net.Has n → Tried startedAt hoNr n → some (decText n) ∈ msubs)
    (enough : roundsLeft net startedAt hoNr ≤ fuel) :
    ∃ rc net', assignLoop msubs startedAt fuel hoNr { net with next := (hoNr + 1) % 2 ^ 64 } =
      some (rc, net') ∧ Outcome net msubs rc := by
  -- The induction is on the rounds; what has been tried so far is taken.
  induction fuel generalizing hoNr with
  | zero =>
      simp only [roundsLeft, NumberRange.Has] at *
      split at enough <;> omega
  | succ fuel ih =>
      have fits : ¬ (decText hoNr).length ≥ 16 := by
        have digits : (Nat.toDigits 10 hoNr).length ≤ 15 :=
          (Nat.length_toDigits_le_iff (by decide) (by decide)).mpr (has.2.trans_lt small)
        exact Nat.not_le.mpr (Nat.lt_succ_of_le digits)
      rw [assignLoop, if_neg fits]
      by_cases free : mscTFindByHandoverNumber msubs (decText hoNr) = none
      · rw [if_pos free]
        exact ⟨_, _, rfl, (find_eq_none_iff decText_nat_ne_nil).mp free, hoNr, has, rfl⟩
      · rw [if_neg free, next_after has small]
        have held : some (decText hoNr) ∈ msubs := by
          by_contra absent
          exact free ((find_eq_none_iff decText_nat_ne_nil).mpr absent)
        generalize following : (if hoNr = net.rangeEnd then net.rangeStart else hoNr + 1) = nr
        have reach : ∀ n, net.Has n → (nr = startedAt ∨ Tried startedAt nr n) →
            n = hoNr ∨ Tried startedAt hoNr n := by
          simp only [Tried, NumberRange.Has] at *
          grind
        have takenNext : ∀ n, net.Has n → (nr = startedAt ∨ Tried startedAt nr n) →
            some (decText n) ∈ msubs := by
          intro n inRange tried
          rcases reach n inRange tried with rfl | before
          · exact held
          · exact taken n inRange before
        by_cases back : nr = startedAt
        · simp only [back, if_true]
          exact ⟨_, _, rfl, fun n inRange => takenNext n inRange (.inl back)⟩
        · simp only [back, if_false]
          refine ih ?_ (fun n inRange tried => takenNext n inRange (.inr tried)) ?_
          · simp only [NumberRange.Has] at *
            grind
          · simp only [roundsLeft, NumberRange.Has] at *
            grind

end Search

/-! ## Runs -/

/-- What changes the entries of `msub_list`, their MSC-T roles or the range. -/
inductive NumberInput where
  | msubAlloc
  | msubFree (i : Nat)
  /-- A new MSC-T role in place of the one the entry may have. -/
  | mscTAlloc (i : Nat)
  | mscTDiscard (i : Nat)
  /-- A HANDOVER REQUEST ACKNOWLEDGE reaches the MSC-T of the entry. -/
  | assign (i : Nat)
  /-- `handover-number range MSISDN_FIRST MSISDN_LAST` on the VTY. -/
  | configure (rangeStart rangeEnd : Nat)

def numberStep (s : NumberState) : NumberInput → NumberState
  | .msubAlloc => { s with msubs := s.msubs ++ [none] }
  | .msubFree i => { s with msubs := s.msubs.eraseIdx i }
  | .mscTAlloc i => { s with msubs := s.msubs.set i (some []) }
  | .mscTDiscard i => { s with msubs := s.msubs.set i none }
  | .assign i => ((mscTAssignHandoverNumber s i).map Prod.snd).getD s
  | .configure rangeStart rangeEnd =>
      if rangeStart > rangeEnd then s else { s with net := { s.net with rangeStart, rangeEnd } }

/-- The states of a run begin with no range and no connection. -/
def numberRun (inputs : List NumberInput) : NumberState := inputs.foldl numberStep {}

/-- No two MSC-T roles hold the same Handover Number. -/
def Unshared (msubs : MsubList) : Prop :=
  msubs.Pairwise fun a b => ∀ number, number ≠ [] → a = some number → b ≠ some number

theorem Unshared.set (unshared : Unshared msubs) {mscT : Option Text}
    (fresh : ∀ number, number ≠ [] → mscT = some number → mscT ∉ msubs) (i : Nat) :
    Unshared (msubs.set i mscT) := by
  induction msubs generalizing i with
  | nil => exact unshared
  | cons first rest ih =>
      obtain ⟨apart, others⟩ := pairwise_cons.mp unshared
      have freshRest : ∀ number, number ≠ [] → mscT = some number → mscT ∉ rest :=
        fun number some is member => fresh number some is (mem_cons_of_mem _ member)
      cases i with
      | zero =>
          refine pairwise_cons.mpr ⟨?_, others⟩
          rintro other member number nonempty rfl rfl
          exact freshRest number nonempty rfl member
      | succ i =>
          refine pairwise_cons.mpr ⟨?_, ih others freshRest i⟩
          intro other member number nonempty is
          rcases mem_or_eq_of_mem_set member with old | rfl
          · exact apart other old number nonempty is
          · rintro rfl
            exact fresh number nonempty rfl (is ▸ mem_cons_self)

theorem unshared_step (s : NumberState) (input : NumberInput) (unshared : Unshared s.msubs) :
    Unshared (numberStep s input).msubs := by
  cases input with
  | msubAlloc =>
      refine pairwise_append.mpr ⟨unshared, pairwise_singleton _ _, ?_⟩
      simp
  | msubFree i => exact unshared.sublist (eraseIdx_sublist _ _)
  | mscTAlloc i => exact unshared.set (by rintro _ nonempty ⟨⟩; exact absurd rfl nonempty) i
  | mscTDiscard i => exact unshared.set (by rintro _ _ ⟨⟩) i
  | assign i =>
      simp only [numberStep, mscTAssignHandoverNumber]
      split
      · exact unshared
      · split
        · exact unshared
        · exact unshared
        · rename_i assigned
          exact unshared.set (fun _ _ _ => assignLoop_free assigned) i
  | configure rangeStart rangeEnd =>
      simp only [numberStep]
      split <;> exact unshared

/-- For every range of numbers of at most 15 digits, wherever the cursor is and whoever holds which
number, `msc_t_assign_handover_number()` ends; it gives the MSC-T a number of the range that nobody
holds, and it fails only when there is none.  Hence no two MSC-T roles ever share a number. -/
theorem mscTAssignHandoverNumber_assigns (s : NumberState) (i : Nat)
    (nonzero : 0 < s.net.rangeStart) (order : s.net.rangeStart ≤ s.net.rangeEnd)
    (digits : s.net.rangeEnd < 10 ^ 15) (inputs : List NumberInput) :
    (∃ rc s', mscTAssignHandoverNumber s i = some (rc, s') ∧
      (∀ number, rc = .ok number → s'.msubs = s.msubs.set i (some number) ∧
        some number ∉ s.msubs ∧ ∃ n, s.net.Has n ∧ number = decText n) ∧
      ((∃ e, rc = .error e) ↔ ∀ n, s.net.Has n → some (decText n) ∈ s.msubs)) ∧
    Unshared (numberRun inputs).msubs := by
  refine ⟨?_, foldl_invariant_always unshared_step inputs {} List.Pairwise.nil⟩
  obtain ⟨hoNr, first⟩ : ∃ hoNr, netHandoverNumberNext s.net =
      (hoNr, { s.net with next := (hoNr + 1) % 2 ^ 64 }) := ⟨_, rfl⟩
  have has : s.net.Has hoNr := next_has order first
  have rounds : roundsLeft s.net hoNr hoNr ≤ s.net.rangeEnd - s.net.rangeStart + 1 := by
    have ⟨above, below⟩ := has
    simp only [roundsLeft, Nat.le_refl, if_true]
    omega
  have taken : ∀ n, s.net.Has n → Tried hoNr hoNr n → some (decText n) ∈ s.msubs := by
    intro n _ tried
    simp only [Tried, Nat.le_refl, if_true] at tried
    omega
  obtain ⟨rc, net, searched, outcome⟩ := assignLoop_outcome digits has has taken rounds
  have given : hoNr ≠ 0 := Nat.ne_of_gt (nonzero.trans_le has.1)
  simp only [mscTAssignHandoverNumber, first, if_neg given, searched]
  cases rc with
  | ok number =>
      obtain ⟨free, n, inRange, rfl⟩ := outcome
      refine ⟨_, _, rfl, ?_, nofun, fun all => absurd (all n inRange) free⟩
      rintro _ ⟨⟩
      exact ⟨rfl, free, n, inRange, rfl⟩
  | error e => exact ⟨_, _, rfl, nofun, fun _ => outcome, fun _ => ⟨e, rfl⟩⟩

/-- Two numbers, of which one is held. -/
theorem mscTAssignHandoverNumber_assigns_second :
    let s : NumberState := ⟨⟨77, 78, 77⟩, [some (decText 77), some []]⟩
    ∃ rc s', mscTAssignHandoverNumber s 1 = some (rc, s') ∧
      ((∃ e, rc = .error e) ↔ ∀ n, s.net.Has n → some (decText n) ∈ s.msubs) := by
  intro s
  obtain ⟨⟨rc, s', returns, _, fails⟩, _⟩ := mscTAssignHandoverNumber_assigns s 1 (by decide)
    (by decide) (by decide) []
  exact ⟨rc, s', returns, fails⟩

end OsmoMsc.Msc
