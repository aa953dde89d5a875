/-
Module: OsmoMsc.Vgcs.Establish
Purpose: The loop of `gcc_establish_bss()` in msc_vgcs.c over the BSSs that the group call register
  lists for a group, and for which of them a call gets an instance and a VGCS/VBS SETUP is sent.
Trusted boundary: the MGW client, the state machines, the RAN connections and the structures can be
  allocated
Main exports: GcrBss, createBssList, Establishes
-/
import OsmoMsc.Vgcs.Call

namespace OsmoMsc.Vgcs

/-- `struct gcr_bss`. -/
structure GcrBss where
  pc : Nat
  cellList : List Nat
deriving DecidableEq, Repr

section

variable (ranPeerForPc : Nat → Option Nat)

/-- The loop of `gcc_establish_bss()` over `gcr->bss_list`. -/
def createBssList : List GcrBss → BssPlan
  | [] => []
  | b :: bssList =>
      match ranPeerForPc b.pc with
      -- Failed to resolve the point code, skipping the BSS.
      | none => createBssList bssList
      -- No cell in this BSS: the loop ends here.
      | some peer => if b.cellList = [] then [] else (peer, b.cellList) :: createBssList bssList

/-- What an entry asks for: an instance if its BSC is reachable and it has a cell. -/
def GcrBss.wanted (b : GcrBss) : Option (Nat × List Nat) :=
  if b.cellList = [] then none else (ranPeerForPc b.pc).map (·, b.cellList)

/-- The loop ends at the entry. -/
def GcrBss.endsLoop (b : GcrBss) : Bool := (ranPeerForPc b.pc).isSome && b.cellList.isEmpty

/-- The loop does for the entries before the first reachable one without cells what they ask for. -/
theorem createBssList_eq (entries : List GcrBss) :
    createBssList ranPeerForPc entries =
      (entries.takeWhile fun b => !b.endsLoop ranPeerForPc).filterMap (GcrBss.wanted ranPeerForPc) := by
  induction entries with
  | nil => rfl
  | cons b entries ih =>
      cases peer : ranPeerForPc b.pc with
      | none => simp [createBssList, GcrBss.endsLoop, GcrBss.wanted, peer, ih]
      | some peer' =>
          by_cases empty : b.cellList = []
          · simp [createBssList, GcrBss.endsLoop, peer, empty]
          · simp [createBssList, GcrBss.endsLoop, GcrBss.wanted, peer, empty, ih]

end

/-- The message is a VGCS/VBS SETUP. -/
def VgcsAct.isSetup : VgcsAct → Bool
  | .setup _ => true
  | _ => false

/-- The call has one instance, with all its cells in order, for every entry that asks for one and for
no other; each was sent one SETUP; and the set-up failed only if no entry asks for one. -/
structure Establishes (ranPeerForPc : Nat → Option Nat) (entries : List GcrBss) (s : VgcsCall) : Prop where
  created : s.bssList.map (fun b => (b.peer, b.cells)) =
    entries.filterMap (GcrBss.wanted ranPeerForPc)
  setUp : s.log.filter VgcsAct.isSetup = s.bssList.map fun b => .setup b.id
  distinct : (s.bssList.map VgcsBss.id).Nodup
  fails : s.freed = true → entries.filterMap (GcrBss.wanted ranPeerForPc) = []

variable {plan : BssPlan}

theorem bssInstances_created :
    (bssInstances plan).map (fun b => (b.peer, b.cells)) = plan ∧
      ((bssInstances plan).map VgcsBss.id).Nodup := by
  simp [bssInstances, Function.comp_def, List.nodup_range']

theorem gccEstablishBss_spec {s : VgcsCall} (quiet : s.log = []) (live : s.freed = false) :
    (gccEstablishBss s plan).bssList = bssInstances plan ∧
      (gccEstablishBss s plan).log.filter VgcsAct.isSetup =
        (bssInstances plan).map (fun b => .setup b.id) ∧
      (gccEstablishBss s plan).freed = plan.isEmpty := by
  have all (instances : List VgcsBss) :
      (instances.map fun b => VgcsAct.setup b.id).filter VgcsAct.isSetup =
        instances.map fun b => VgcsAct.setup b.id := by
    simp [List.filter_eq_self, VgcsAct.isSetup]
  cases plan with
  | nil =>
      by_cases talker : (s.mscA.isSome || s.uplinkBss.isSome) = true <;>
        simp [gccEstablishBss, bssInstances, gccTerminateAndDestroy, gccTransFree,
          VgcsCall.emitToTalker, talker, VgcsCall.emit, VgcsCall.stopInactivityTimer, quiet,
          VgcsAct.isSetup]
  | cons entry plan =>
      have some : (bssInstances (entry :: plan)).isEmpty = false := by simp [bssInstances]
      simp [gccEstablishBss, some, quiet, live, all]

/-- A group call gets what its entries ask for if and only if no entry that asks for an instance comes
after a reachable one without cells. -/
theorem vgcsInit_establishes_iff (ranPeerForPc : Nat → Option Nat) (entries : List GcrBss)
    (type : VgcsType) (inactivityTo : Bool) (setup : VgcsSetup) :
    Establishes ranPeerForPc entries
        (vgcsInit type inactivityTo (createBssList ranPeerForPc entries) setup) ↔
      (entries.dropWhile fun b => !b.endsLoop ranPeerForPc).filterMap (GcrBss.wanted ranPeerForPc) = [] := by
  obtain ⟨created, distinct⟩ := bssInstances_created
  have split : entries.filterMap (GcrBss.wanted ranPeerForPc) =
      createBssList ranPeerForPc entries ++
        (entries.dropWhile fun b => !b.endsLoop ranPeerForPc).filterMap
          (GcrBss.wanted ranPeerForPc) := by
    rw [createBssList_eq, ← List.filterMap_append, List.takeWhile_append_dropWhile]
  obtain ⟨bssList, log, freed⟩ :
      (vgcsInit type inactivityTo (createBssList ranPeerForPc entries) setup).bssList =
          bssInstances (createBssList ranPeerForPc entries) ∧
        (vgcsInit type inactivityTo (createBssList ranPeerForPc entries) setup).log.filter
            VgcsAct.isSetup =
          (bssInstances (createBssList ranPeerForPc entries)).map (fun b => .setup b.id) ∧
        (vgcsInit type inactivityTo (createBssList ranPeerForPc entries) setup).freed =
          (createBssList ranPeerForPc entries).isEmpty := by
    cases setup <;> exact gccEstablishBss_spec rfl rfl
  constructor
  · intro establishes
    have same := establishes.created
    rw [bssList, created, split] at same
    simpa using same
  · intro complete
    rw [complete, List.append_nil] at split
    refine ⟨?_, ?_, ?_, ?_⟩
    · rw [bssList, created, split]
    · rw [bssList, log]
    · rw [bssList]
      exact distinct
    · rw [freed, split]
      simp

/-- The first entry of the group is reachable and has no cell: the call fails, although the second one
is reachable and has one. -/
theorem establish_stops_at_empty_bss :
    ¬ Establishes some [⟨1, []⟩, ⟨2, [5]⟩]
      (vgcsInit .gcc false (createBssList some [⟨1, []⟩, ⟨2, [5]⟩]) .vty) := by
  intro establishes
  exact absurd (establishes.fails (by decide)) (by decide)

end OsmoMsc.Vgcs
