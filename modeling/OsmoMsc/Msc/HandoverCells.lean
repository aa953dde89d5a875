/-
Module: OsmoMsc.Msc.HandoverCells
Purpose: In which order a handover goes through the list of cells in HANDOVER REQUIRED.  A HANDOVER
  REQUEST goes only to a cell that has just been found to have a target.  After a failed attempt the
  rest of the list is looked up as well, but no request follows: the MSC-T of the failed attempt is
  still in place, and the handover is given up.
Trusted boundary: none
Main exports: visitedCells, TriesInOrder, hoRun_triesInOrder
-/
import OsmoMsc.Msc.HandoverRun

namespace OsmoMsc.Msc

open Library Mncc Rtp Relation List

variable {w w' : HoConn} {env : HoEnv}

/-! ### The property -/

/-- The cell that is looked up for this handover. -/
def HoAct.cell (n : Nat) : HoAct → Option Nat
  | .visited m cid _ => if m = n then some cid else none
  | _ => none

/-- The cells that were looked up for this handover, in order. -/
def visitedCells (n : Nat) (acts : List HoAct) : List Nat := acts.filterMap (HoAct.cell n)

/-- HANDOVER REQUEST or HANDOVER REQUIRED REJECT. -/
def HoAct.isAnswer (n : Nat) : HoAct → Bool
  | .handoverRequest m _ | .requiredReject m _ => m = n
  | _ => false

/-- The cells are looked up in the order of the list, a request goes to the cell that was just found to
have a target, and after `msc_ho_try_next_cell()` the next thing is a request to the first cell left
that has one; without such a cell there is no request any more. -/
structure TriesInOrder (acts : List HoAct) : Prop where
  inOrder : ∀ n cil rtp, .started n cil rtp ∈ acts → visitedCells n acts <+: cil
  onTarget : ∀ before n cid after, acts = before ++ .handoverRequest n cid :: after →
    ∃ init target, before = init ++ [.visited n cid (some target)]
  goesOn : ∀ before n cid after, acts = before ++ .tryNextCell n (some cid) :: after →
    after.find? (HoAct.isAnswer n) = some (.handoverRequest n cid)
  givesUp : ∀ before n after, acts = before ++ .tryNextCell n none :: after →
    ∀ cid, .handoverRequest n cid ∉ after

/-- An attempt has failed, and a cell that has a target is left. -/
def HoAct.leavesTarget : HoAct → Bool
  | .tryNextCell _ next => next.isSome
  | _ => false

/-- What a search through these cells looks up: the cells without a target, and the first that has
one. -/
def lookedUp (env : HoEnv) (cells : List Nat) : List Nat :=
  cells.takeWhile (fun cid => (env.resolve cid).isNone) ++
    (cells.find? fun cid => (env.resolve cid).isSome).toList

/-! ### Moves that look up no cell -/

/-- The number of the handover, for an act that says something about cells. -/
def HoAct.cellNumber : HoAct → Option Nat
  | .started n _ _ | .visited n _ _ | .handoverRequest n _ | .tryNextCell n _ => some n
  | _ => none

/-- No cell is looked up or asked, and the handover stands where it stood, or is gone. -/
structure Aside (w w' : HoConn) : Prop where
  started : w'.started = w.started
  crashed : w.crashed = true → w'.crashed = true
  ho : w'.ho = none ∨ w'.ho.map MscHo.cells = w.ho.map MscHo.cells
  acts : ∃ extra, w'.acts = w.acts ++ extra ∧ ∀ act ∈ extra, act.cellNumber = none

variable {timer twice : Bool} {act : HoAct}

namespace Aside

theorem of_steady (steady : Steady w w') : Aside w w' := by
  obtain ⟨minor, acts, allMinor⟩ := steady.acts
  refine ⟨steady.started, steady.crashed, .inr steady.cells, minor, acts, fun act member => ?_⟩
  have := allMinor act member
  cases act <;> simp_all [HoAct.isMinor, HoAct.cellNumber]

theorem refl (w : HoConn) : Aside w w := of_steady (.refl w)

theorem trans {w'' : HoConn} (first : Aside w w') (second : Aside w' w'') : Aside w w'' := by
  obtain ⟨extra, acts, none⟩ := first.acts
  obtain ⟨extra', acts', none'⟩ := second.acts
  refine ⟨second.started.trans first.started, fun dead => second.crashed (first.crashed dead), ?_,
    extra ++ extra', by rw [acts', acts, append_assoc], ?_⟩
  · rcases second.ho with gone | same
    · exact .inl gone
    · rcases first.ho with gone | same'
      · exact .inl (by simpa [gone] using same)
      · exact .inr (same.trans same')
  · intro act member
    rcases mem_append.mp member with earlier | later
    · exact none act earlier
    · exact none' act later

section

variable (aside : Aside w w')
include aside

theorem grows : w.acts <+: w'.acts := by
  obtain ⟨extra, acts, -⟩ := aside.acts
  exact acts ▸ prefix_append _ _

theorem emit (none : act.cellNumber = none) : Aside w (w'.emit act) :=
  aside.trans ⟨rfl, id, .inr rfl, [act], rfl, by simpa using none⟩

theorem hoTerm (env : HoEnv) : Aside w (hoTerm w' env) := by
  refine aside.trans ?_
  cases ongoing : w'.ho with
  | none => exact hoTerm_idle env ongoing ▸ of_steady (Steady.refl w').crash
  | some ho =>
      obtain ⟨gone, started, crashed, minor, rtp, allMinor, log⟩ :=
        hoTerm_ended (w := w') env (by simp [ongoing])
      refine ⟨started, crashed, .inl gone, minor ++ [.ended w'.started rtp], by simp [log], ?_⟩
      intro act member
      rcases mem_append.mp member with inMinor | last
      · have := allMinor act inMinor
        cases act <;> simp_all [HoAct.isMinor, HoAct.cellNumber]
      · simp [mem_singleton.mp last, HoAct.cellNumber]

theorem fail (cause : HoCause) (env : HoEnv) : Aside w (mscHoFailed w' cause env) := by
  obtain ⟨mid, -, steady, crash | ⟨told, reject, eq⟩⟩ := mscHoFailed_cases
  · rw [crash]
    exact aside.trans (of_steady steady.crash)
  · have told : Aside w told := by
      rcases reject with ⟨rfl, -⟩ | rfl
      · exact aside.trans (of_steady steady)
      · exact (aside.trans (of_steady steady)).emit rfl
    rw [eq]
    split
    · exact told
    · exact told.hoTerm env

end

theorem success (w : HoConn) (env : HoEnv) : Aside w (mscHoSuccess w env) := by
  obtain ⟨mid, steady, -, ⟨eq, -⟩ | ⟨remote, -, eq⟩⟩ := mscHoSuccess_cases
  · rw [eq]
    exact of_steady steady
  · rw [eq]
    exact ((of_steady steady).emit rfl).hoTerm env

theorem forwardingAct (env : HoEnv) (w : HoConn) (act : CallAct) :
    Aside w (forwardingAct env w act) := by
  unfold Msc.forwardingAct
  split
  · simp only
    split
    · exact ((refl w).emit rfl).fail _ _
    · exact (refl w).emit rfl
  · exact of_steady ((Steady.refl w).callAct _ _)

theorem forwardingActs (env : HoEnv) (w : HoConn) (acts : List CallAct) :
    Aside w (acts.foldl (Msc.forwardingAct env) w) :=
  List.foldlRecOn _ _ (refl w) fun w' aside act _ => aside.trans (forwardingAct env w' act)

theorem mncc (w : HoConn) (rx : RxInput) (env : HoEnv) : Aside w (hoMnccRx w rx env) := by
  unfold hoMnccRx
  split
  · refine .trans (of_steady (.onHo (.refl w) ?_)) (forwardingActs env _ _)
    exact fun _ => rfl
  · exact refl w

end Aside

/-- A move as far as cells go. -/
inductive CellMove (env : HoEnv) (w : HoConn) : HoConn → Prop
  | aside {w' : HoConn} (aside : Aside w w') : CellMove env w w'
  | scan {w' : HoConn} (moves : HoScan env w w') : CellMove env w w'
  | start (cil : List Nat) : CellMove env w (w.begin cil)
  | request (cid : Nat) (running : w.crashed = false) (ongoing : w.ho.isSome)
      (found : JustFound w cid) : CellMove env w (w.emit (.handoverRequest w.started cid))
  | retry (w' : HoConn) (cells : List Nat) (cause : HoCause)
      (scanned : ReflTransGen (HoScan env) (w.tryingNext cells env) w') :
      CellMove env w (mscHoFailed w' cause env)

theorem HoMove.cellMove (move : HoMove env timer twice w w') : CellMove env w w' := by
  have steady {w' : HoConn} (steady : Steady w w') : CellMove env w w' := .aside (.of_steady steady)
  cases move with
  | scan moves => exact .scan moves
  | expire => exact steady (.expire w)
  | refuse cause => exact steady (.refuse w cause env)
  | start cil idle => exact .start cil
  | request cid running ongoing found => exact .request cid running ongoing found
  | command | succeeded => exact steady (.emit (.refl w) rfl)
  | setMscT | mscIGone => exact steady (.of_same rfl)
  | retry w' ho cause ongoing searching scanned => exact .retry w' _ cause scanned
  | fail cause => exact .aside ((Aside.refl w).fail cause env)
  | success => exact .aside (.success w env)
  | backup rtps waiting stream => exact steady (.onHo (.refl w) fun _ => rfl)
  | forward ack bearerCap running waiting remote started =>
      exact steady (.onHo (.forward started) fun _ => rfl)
  | switch waiting toLocal => exact steady (.switch w)
  | timeout expired running ongoing =>
      exact .aside ((Aside.of_steady ((Steady.refl w).giveUp true)).hoTerm env)
  | callLegTerm => exact steady (Steady.refl w).callLegTerm
  | mncc rx running => exact .aside (.mncc w rx env)

/-- Giving up ends the FSM, unless it crashes. -/
theorem mscHoFailed_over {w : HoConn} {cause : HoCause} {env : HoEnv} :
    (mscHoFailed w cause env).ho = none ∨ (mscHoFailed w cause env).crashed = true := by
  obtain ⟨mid, -, -, crash | ⟨told, -, eq⟩⟩ := mscHoFailed_cases
  · exact .inr (by rw [crash]; rfl)
  · rw [eq]
    split
    · exact .inr ‹_›
    · cases ongoing : told.ho with
      | none => exact .inr (by rw [hoTerm_idle env ongoing]; rfl)
      | some ho => exact .inl (hoTerm_ended env (by simp [ongoing])).ho

/-! ### The order of the cells -/

/-- A request may be written after the lookup of its cell, and not after a failed attempt. -/
def Requestable (before : List HoAct) (act : HoAct) : Prop :=
  ∀ n cid, act = .handoverRequest n cid →
    (∃ init target, before = init ++ [.visited n cid (some target)]) ∧
      ∀ next, .tryNextCell n next ∉ before

theorem requestable_of_ne {before : List HoAct} (other : ∀ n cid, act ≠ .handoverRequest n cid) :
    Requestable before act :=
  fun n cid isRequest => (other n cid isRequest).elim

theorem visitedCells_append (n : Nat) (acts acts' : List HoAct) :
    visitedCells n (acts ++ acts') = visitedCells n acts ++ visitedCells n acts' :=
  filterMap_append

variable {n : Nat} {cells : List Nat}

theorem visitedCells_eq_nil {acts : List HoAct} (none : ∀ act ∈ acts, act.cellNumber ≠ some n) :
    visitedCells n acts = [] := by
  refine filterMap_eq_nil_iff.mpr fun act member => ?_
  have := none act member
  cases act <;> simp_all [HoAct.cell, HoAct.cellNumber]

structure Ordered (w : HoConn) : Prop where
  bound : ∀ act ∈ w.acts, ∀ n, act.cellNumber = some n → n ≤ w.started
  inOrder : ∀ n cil rtp, .started n cil rtp ∈ w.acts → visitedCells n w.acts <+: cil
  list : ∀ ho, w.ho = some ho → ∀ cil rtp, .started w.started cil rtp ∈ w.acts → cil = ho.cil
  position : ∀ ho, w.ho = some ho → visitedCells w.started w.acts = ho.cil.take ho.nextCilIdx
  requests : Guarded Requestable w.acts

namespace Ordered

theorem aside (ordered : Ordered w) (aside : Aside w w') : Ordered w' := by
  obtain ⟨extra, acts, none⟩ := aside.acts
  have started := aside.started
  have visited (n : Nat) : visitedCells n w'.acts = visitedCells n w.acts := by
    have noneAdded : visitedCells n extra = [] :=
      visitedCells_eq_nil fun act member => by simp [none act member]
    rw [acts, visitedCells_append, noneAdded, append_nil]
  have old {n : Nat} {cil : List Nat} {rtp : Option RtpPeer}
      (member : .started n cil rtp ∈ w'.acts) : .started n cil rtp ∈ w.acts := by
    rw [acts] at member
    rcases mem_append.mp member with earlier | later
    · exact earlier
    · simpa [HoAct.cellNumber] using none _ later
  have same {ho : MscHo} (ongoing : w'.ho = some ho) :
      ∃ ho', w.ho = some ho' ∧ ho'.cil = ho.cil ∧ ho'.nextCilIdx = ho.nextCilIdx := by
    rcases aside.ho with gone | cells
    · simp [gone] at ongoing
    · rw [ongoing] at cells
      obtain ⟨ho', ongoing', eq⟩ := Option.map_eq_some_iff.mp cells.symm
      simp only [MscHo.cells, Prod.mk.injEq] at eq
      exact ⟨ho', ongoing', eq⟩
  constructor
  · intro act member n number
    rw [acts] at member
    rcases mem_append.mp member with earlier | later
    · exact started ▸ ordered.bound act earlier n number
    · simp [none act later] at number
  · intro n cil rtp member
    rw [visited]
    exact ordered.inOrder n cil rtp (old member)
  · intro ho ongoing cil rtp member
    obtain ⟨ho', ongoing', cil', -⟩ := same ongoing
    rw [started] at member
    exact (ordered.list ho' ongoing' cil rtp (old member)).trans cil'
  · intro ho ongoing
    obtain ⟨ho', ongoing', cil', idx'⟩ := same ongoing
    rw [visited, started, ordered.position ho' ongoing', cil', idx']
  · rw [acts]
    refine ordered.requests.append fun act member before => requestable_of_ne fun n cid eq => ?_
    simpa [eq, HoAct.cellNumber] using none act member

/-- An act about the current handover that is not a lookup. -/
theorem emit (ordered : Ordered w) (number : ∀ n, act.cellNumber = some n → n = w.started)
    (notStart : ∀ n cil rtp, act ≠ .started n cil rtp) (noCell : ∀ n, act.cell n = none)
    (requestable : Requestable w.acts act) : Ordered (w.emit act) := by
  have visited (n : Nat) : visitedCells n (w.emit act).acts = visitedCells n w.acts := by
    simp [HoConn.emit, visitedCells, noCell]
  have old {n : Nat} {cil : List Nat} {rtp : Option RtpPeer}
      (member : .started n cil rtp ∈ (w.emit act).acts) : .started n cil rtp ∈ w.acts := by
    rcases mem_append.mp member with earlier | later
    · exact earlier
    · exact (notStart n cil rtp (mem_singleton.mp later).symm).elim
  constructor
  · intro other member n isNumber
    rcases mem_concat.mp member with earlier | rfl
    · exact ordered.bound other earlier n isNumber
    · exact Nat.le_of_eq (number n isNumber)
  · intro n cil rtp member
    rw [visited]
    exact ordered.inOrder n cil rtp (old member)
  · exact fun ho ongoing cil rtp member => ordered.list ho ongoing cil rtp (old member)
  · intro ho ongoing
    rw [visited]
    exact ordered.position ho ongoing
  · exact guarded_snoc.mpr ⟨ordered.requests, requestable⟩

theorem begin (ordered : Ordered w) (cil : List Nat) : Ordered (w.begin cil) := by
  have log : (w.begin cil).acts = w.acts ++ [.started (w.started + 1) cil w.peer] := rfl
  have visited (n : Nat) : visitedCells n (w.begin cil).acts = visitedCells n w.acts := by
    simp [log, visitedCells, HoAct.cell]
  have unseen {act : HoAct} (member : act ∈ w.acts) : act.cellNumber ≠ some (w.started + 1) := by
    intro number
    have := ordered.bound act member _ number
    omega
  constructor
  · intro act member n number
    rw [log] at member
    rcases mem_concat.mp member with earlier | rfl
    · exact Nat.le_succ_of_le (ordered.bound act earlier n number)
    · exact Nat.le_of_eq (Option.some.inj number).symm
  · intro n cil' rtp member
    rw [visited]
    rw [log] at member
    rcases mem_append.mp member with earlier | new
    · exact ordered.inOrder n cil' rtp earlier
    · obtain ⟨rfl, -, -⟩ := HoAct.started.inj (mem_singleton.mp new)
      rw [visitedCells_eq_nil fun act member => unseen member]
      exact nil_prefix
  · intro ho ongoing cil' rtp member
    rw [log] at member
    rcases mem_append.mp member with earlier | new
    · exact (unseen earlier rfl).elim
    · obtain ⟨-, rfl, -⟩ := HoAct.started.inj (mem_singleton.mp new)
      rw [← Option.some.inj ongoing]
  · intro ho ongoing
    rw [visited]
    refine (visitedCells_eq_nil fun act member => unseen member).trans ?_
    rw [← Option.some.inj ongoing]
    rfl
  · rw [log]
    exact guarded_snoc.mpr ⟨ordered.requests, requestable_of_ne (by simp)⟩

theorem visit {ho : MscHo} {cid : Nat} (ordered : Ordered w) (target : Option Neighbor)
    (ongoing : w.ho = some ho) (left : ho.cil.drop ho.nextCilIdx = cid :: cells) :
    Ordered (w.visit cid target) := by
  have log : (w.visit cid target).acts = w.acts ++ [.visited w.started cid target] := rfl
  have visitedNow : visitedCells w.started (w.visit cid target).acts =
      ho.cil.take (ho.nextCilIdx + 1) := by
    have next : ho.cil[ho.nextCilIdx]? = some cid := by
      rw [← head?_drop, left, head?_cons]
    rw [log, visitedCells_append, ordered.position ho ongoing, take_add_one, next]
    simp [visitedCells, HoAct.cell]
  have visitedOther {n : Nat} (other : n ≠ w.started) :
      visitedCells n (w.visit cid target).acts = visitedCells n w.acts := by
    simp [log, visitedCells, HoAct.cell, Ne.symm other]
  have old {n : Nat} {cil : List Nat} {rtp : Option RtpPeer}
      (member : .started n cil rtp ∈ (w.visit cid target).acts) :
      .started n cil rtp ∈ w.acts := by
    rw [log] at member
    simpa using member
  have now {ho' : MscHo} (ongoing' : (w.visit cid target).ho = some ho') :
      ho' = { ho with nextCilIdx := ho.nextCilIdx + 1, newType := target } := by
    simpa [HoConn.visit, HoConn.onHo, HoConn.emit, ongoing, eq_comm] using ongoing'
  constructor
  · intro act member n number
    rw [log] at member
    rcases mem_concat.mp member with earlier | rfl
    · exact ordered.bound act earlier n number
    · exact Nat.le_of_eq (Option.some.inj number).symm
  · intro n cil rtp member
    by_cases current : n = w.started
    · subst current
      rw [visitedNow, ordered.list ho ongoing cil rtp (old member)]
      exact take_prefix _ _
    · rw [visitedOther current]
      exact ordered.inOrder n cil rtp (old member)
  · intro ho' ongoing' cil rtp member
    rw [now ongoing']
    exact ordered.list ho ongoing cil rtp (old member)
  · intro ho' ongoing'
    rw [now ongoing']
    exact visitedNow
  · rw [log]
    exact guarded_snoc.mpr ⟨ordered.requests, requestable_of_ne (by simp)⟩

theorem scan (ordered : Ordered w) (scan : HoScan env w w') : Ordered w' := by
  cases scan with
  | visit ho cid cells ongoing searching left => exact ordered.visit _ ongoing left
  | change f harmless =>
      exact ordered.aside (.of_steady (.onHo (.refl w) harmless.cells))

end Ordered

/-- While a handover is on, none of its attempts has failed. -/
structure InOrder (w : HoConn) : Prop where
  ordered : Ordered w
  firstAttempt : w.crashed = false → w.ho.isSome → ∀ next, .tryNextCell w.started next ∉ w.acts

namespace InOrder

theorem aside (inOrder : InOrder w) (aside : Aside w w') : InOrder w' := by
  refine ⟨inOrder.ordered.aside aside, ?_⟩
  intro running ongoing next member
  have running' : w.crashed = false := by
    by_contra crashed
    simp [aside.crashed (by simpa using crashed)] at running
  have ongoing' : w.ho.isSome := by
    rcases aside.ho with gone | same
    · simp [gone] at ongoing
    · simpa [ongoing] using congrArg Option.isSome same
  obtain ⟨extra, acts, none⟩ := aside.acts
  rw [acts, aside.started] at member
  rcases mem_append.mp member with earlier | later
  · exact inOrder.firstAttempt running' ongoing' next earlier
  · simpa [HoAct.cellNumber] using none _ later

/-- A move that ends the handover, or crashes. -/
theorem ended (ordered : Ordered w) (ended : w.ho = none ∨ w.crashed = true) : InOrder w := by
  refine ⟨ordered, fun running ongoing => ?_⟩
  rcases ended with gone | crashed
  · simp [gone] at ongoing
  · simp [crashed] at running

theorem move (inOrder : InOrder w) (move : HoMove env timer twice w w') : InOrder w' := by
  cases move.cellMove with
  | aside aside => exact inOrder.aside aside
  | scan moves =>
      refine ⟨inOrder.ordered.scan moves, ?_⟩
      cases moves with
      | visit ho cid cells ongoing searching left =>
          intro running _ next member
          have earlier : .tryNextCell w.started next ∈ w.acts := by
            simpa [HoConn.visit, HoConn.emit, HoConn.onHo] using member
          exact inOrder.firstAttempt running (by simp [ongoing]) next earlier
      | change f harmless =>
          intro running ongoing next member
          exact inOrder.firstAttempt running (by simpa [HoConn.onHo] using ongoing) next member
  | start cil =>
      refine ⟨inOrder.ordered.begin cil, fun _ _ next member => ?_⟩
      have earlier : .tryNextCell (w.started + 1) next ∈ w.acts := by
        simpa [HoConn.begin, HoConn.stateChg, HoConn.emit, HoConn.onHo] using member
      have := inOrder.ordered.bound _ earlier _ rfl
      omega
  | request cid running ongoing found =>
      have fresh := inOrder.firstAttempt running ongoing
      refine ⟨inOrder.ordered.emit (by simp [HoAct.cellNumber]) (by simp) (fun _ => rfl) ?_, ?_⟩
      · rintro n cid' eq
        obtain ⟨rfl, rfl⟩ := HoAct.handoverRequest.inj eq
        exact ⟨found, fresh⟩
      · intro _ _ next member
        exact fresh next (by simpa [HoConn.emit] using member)
  | retry w' cells cause scanned =>
      clear move
      have trying : Ordered (w.tryingNext cells env) := by
        refine Ordered.aside (w := w.emit _) ?_ (.of_steady (.onHo (.refl _) fun _ => rfl))
        exact inOrder.ordered.emit (by simp [HoAct.cellNumber]) (by simp) (fun _ => rfl)
          (requestable_of_ne (by simp))
      have scanned : Ordered w' := by
        induction scanned with
        | refl => exact trying
        | tail _ scan ih => exact ih.scan scan
      exact ended (scanned.aside ((Aside.refl w').fail cause env)) mscHoFailed_over

end InOrder

/-! ### Going through the list -/

/-- The log only grows. -/
theorem HoMove.grows (move : HoMove env timer twice w w') : w.acts <+: w'.acts := by
  have scanGrows {w w' : HoConn} (scan : HoScan env w w') : w.acts <+: w'.acts := by
    cases scan with
    | visit ho cid cells ongoing searching left => exact prefix_append _ _
    | change f harmless => exact prefix_rfl
  cases move.cellMove with
  | aside aside => exact aside.grows
  | scan moves => exact scanGrows moves
  | retry w' cells cause scanned =>
      clear move
      have trying : w.acts <+: (w.tryingNext cells env).acts := prefix_append _ _
      have scanned : w.acts <+: w'.acts := by
        induction scanned with
        | refl => exact trying
        | tail _ scan ih => exact ih.trans (scanGrows scan)
      exact scanned.trans ((Aside.refl w').fail cause env).grows
  | start | request => exact prefix_append _ _

theorem HoReach.grows (reach : HoReach env timer twice w w') : w.acts <+: w'.acts := by
  induction reach with
  | refl => exact prefix_rfl
  | tail _ move ih => exact ih.trans move.grows

theorem visitedCells_prefix {acts acts' : List HoAct} (grown : acts <+: acts') :
    visitedCells n acts <+: visitedCells n acts' := by
  obtain ⟨extra, rfl⟩ := grown
  rw [visitedCells_append]
  exact prefix_append _ _

/-- A search looks up cells until it has found one with a target. -/
theorem mscHoFsmRequiredOnenter_lookedUp (env : HoEnv) (searching : Searching w cells) :
    visitedCells w.started w.acts ++ lookedUp env cells <+:
      visitedCells w.started (mscHoFsmRequiredOnenter env cells w).acts := by
  induction cells generalizing w with
  | nil =>
      have reach : HoReach env false true w (mscHoFsmRequiredOnenter env [] w) :=
        mscHoFsmRequiredOnenter_reach searching (by simp)
      simpa [lookedUp] using visitedCells_prefix reach.grows
  | cons cid cells ih =>
      obtain ⟨-, searching'⟩ := searching.visit env
      have now : visitedCells w.started (w.visit cid (env.resolve cid)).acts =
          visitedCells w.started w.acts ++ [cid] := by
        simp [HoConn.visit, HoConn.emit, HoConn.onHo, visitedCells, HoAct.cell]
      simp only [mscHoFsmRequiredOnenter]
      cases resolves : env.resolve cid with
      | none =>
          rw [resolves] at searching' now
          have rest := ih searching'
          have look : lookedUp env (cid :: cells) = cid :: lookedUp env cells := by
            simp [lookedUp, resolves]
          rw [look, ← singleton_append, ← append_assoc, ← now]
          exact rest
      | some target =>
          have found := justFound_visit w resolves
          rw [resolves] at searching' now found
          have look : lookedUp env (cid :: cells) = [cid] := by simp [lookedUp, resolves]
          rw [look, ← now]
          have reach : HoReach env false true _ _ := mscHoFsmWaitRequestAckOnenter_reach target
            (searching'.stateChg (by simp : HoSt.waitRequestAck ≠ .waitComplete)) found (by simp)
          exact visitedCells_prefix reach.grows

theorem HoConn.Fresh.inOrder (fresh : w.Fresh) : InOrder w := by
  refine ⟨⟨?_, ?_, ?_, ?_, ?_⟩, ?_⟩
  · simp [fresh.acts]
  · simp [fresh.acts]
  · simp [fresh.ho]
  · simp [fresh.ho]
  · exact fresh.acts ▸ guarded_nil
  · simp [fresh.ho]

theorem hoRun_inOrder (inputs : List HoInput) (fresh : w.Fresh) :
    InOrder (inputs.foldl hoStep w) := by
  refine foldl_invariant_always (fun w input inOrder => ?_) inputs w fresh.inOrder
  exact (hoStep_reach w input).invariant inOrder fun _ _ inOrder move => inOrder.move move

/-- After a failed attempt nothing is requested any more. -/
theorem Ordered.no_request (ordered : Ordered w) {before after : List HoAct} {next : Option Nat}
    (split : w.acts = before ++ .tryNextCell n next :: after) (cid : Nat) :
    .handoverRequest n cid ∉ after := by
  intro member
  obtain ⟨mid, rest, rfl⟩ := append_of_mem member
  have split' : w.acts =
      (before ++ .tryNextCell n next :: mid) ++ .handoverRequest n cid :: rest := by
    simp [split]
  exact (ordered.requests _ _ _ split' n cid rfl).2 next (by simp)

/-- The cells are tried in order, if no failed attempt leaves a cell with a target; and every HANDOVER
REQUIRED that starts a handover goes through the list up to the first cell that has one. -/
theorem hoRun_triesInOrder (w : HoConn) (inputs : List HoInput) (fresh : w.Fresh)
    (exhausted : ∀ act ∈ (inputs.foldl hoStep w).acts, act.leavesTarget = false) :
    TriesInOrder (inputs.foldl hoStep w).acts ∧
      ∀ cil env, cil ≠ [] → (inputs.foldl hoStep w).crashed = false →
        (inputs.foldl hoStep w).ho = none → (inputs.foldl hoStep w).mscT = none →
          lookedUp env cil <+: visitedCells ((inputs.foldl hoStep w).started + 1)
            (hoStep (inputs.foldl hoStep w) (.handoverRequired cil env)).acts := by
  have inOrder := hoRun_inOrder inputs fresh
  generalize inputs.foldl hoStep w = w' at exhausted inOrder
  refine ⟨⟨inOrder.ordered.inOrder, ?_, ?_, ?_⟩, ?_⟩
  · intro before n cid after split
    exact (inOrder.ordered.requests before _ after split n cid rfl).1
  · intro before n cid after split
    have := exhausted (.tryNextCell n (some cid)) (by simp [split])
    simp [HoAct.leavesTarget] at this
  · exact fun before n after split => inOrder.ordered.no_request split
  · intro cil env some' running idle free
    have searching : Searching (w'.begin cil) cil :=
      ⟨running, hoStateChg .required { cil := cil }, rfl,
        hoStateChg_searching (by simp) (by simp), rfl⟩
    have nothing : visitedCells (w'.begin cil).started (w'.begin cil).acts = [] :=
      (inOrder.ordered.begin cil).position _ rfl
    have looked := mscHoFsmRequiredOnenter_lookedUp env searching
    rw [nothing, nil_append] at looked
    have start : hoStep w' (.handoverRequired cil env) =
        mscHoFsmRequiredOnenter env cil (w'.begin cil) := by
      simp [hoStep, hoEvent, running, expire_of_idle idle, mscHoStart, idle, free, some']
    rw [start]
    exact looked

theorem hoRun_triesInOrder_skipping :
    let env : HoEnv := { resolve := fun cid => if cid = 7 then none else some .localRanPeer }
    let inputs : List HoInput :=
      [.handoverRequired [7, 8, 9] env, .target .handoverRequestAck ackLocal none env]
    let w := inputs.foldl hoStep talking
    TriesInOrder w.acts ∧ visitedCells 1 w.acts = [7, 8] ∧
      lookedUp env [7, 8, 9] <+: visitedCells 1 (hoStep talking (.handoverRequired [7, 8, 9] env)).acts :=
  ⟨(hoRun_triesInOrder talking _ (by decide) (by decide)).1, by decide,
    (hoRun_triesInOrder talking [] (by decide) (by decide)).2 [7, 8, 9] _ (by decide) rfl rfl rfl⟩

/-- Both cells have a target.  The acknowledge for the first lacks the RR Handover Command, and
HANDOVER REQUIRED REJECT follows without a request to the second. -/
theorem second_cell_not_asked :
    let acts := ([.handoverRequired [7, 8] (allCells .localRanPeer),
      .target .handoverRequestAck { rrHoCommand := false } none (allCells .localRanPeer)].foldl
      hoStep talking).acts
    acts.drop 3 = [.tryNextCell 1 (some 8), .visited 1 8 (some .localRanPeer),
      .failing 1 false false false, .requiredReject 1 .equipmentFailure, .ended 1 talking.peer] := by
  decide

end OsmoMsc.Msc
