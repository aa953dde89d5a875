/-
Module: OsmoMsc.Ran.Reset
Purpose: Which connections of a RAN peer are left after its RESET procedure.  The subscribers that
  have ended are those whose connections the loop has all passed; the result says of each
  connection, by its state before the procedure, whether it goes.
Trusted boundary: none
Main exports: Ended, RanConn.Goes, RanPeer.Resets, RanPeer.Cleared, ranPeerDispatch_cleared_iff
-/
import OsmoMsc.Library.Run
import OsmoMsc.Ran.Peer

namespace OsmoMsc.Ran

open Library List

variable {conn : RanConn} {msub : Nat} {d : Discarding}

/-! ### Clearing -/

/-- The connection belongs to an instance of a group call that ends with the subscriber. -/
def RanConn.endsWith (conn : RanConn) (msub : Nat) : Bool :=
  match conn.owner with
  | .vgcsBss bss => bss.trans.any (·.endsWith msub)
  | .vgcsCell cell => cell.bss.any fun trans => trans.any (·.endsWith msub)
  | _ => false

/-- The connection after the instance it belongs to was cleared. -/
def RanConn.cleared (gone : Bool) (conn : RanConn) : RanConn :=
  match conn.owner with
  | .vgcsBss bss => { conn with owner := .vgcsBss (bssClear bss) }
  | .vgcsCell cell => { conn with owner := .vgcsCell (cellClear gone cell) }
  | _ => conn

theorem transConnClosed_eq (gone : Bool) (msub : Nat) (conn : RanConn) :
    transConnClosed gone msub conn = if conn.endsWith msub then conn.cleared gone else conn := by
  unfold transConnClosed RanConn.endsWith RanConn.cleared
  cases conn.owner <;> simp

theorem bss_cellClear (gone : Bool) (cell : VgcsCell) : (cellClear gone cell).bss = none := by
  simp only [cellClear, cellDestroyed]
  split_ifs <;> rfl

variable {gone : Bool}

/-- An instance is cleared once. -/
theorem cleared_endsWith (ends : conn.endsWith msub = true) (other : Nat) :
    (conn.cleared gone).endsWith other = false := by
  unfold RanConn.endsWith at ends
  unfold RanConn.cleared
  split at ends
  · simp [RanConn.endsWith, bssClear]
  · simp [RanConn.endsWith, bss_cellClear]
  · exact absurd ends Bool.false_ne_true

variable {ended : List Nat}

theorem after_eq (gone : Bool) (conn : RanConn) (ended : List Nat) : conn.after gone ended =
    if ∃ msub ∈ ended, conn.endsWith msub = true then conn.cleared gone else conn := by
  induction ended generalizing conn with
  | nil => rfl
  | cons msub ended ih =>
      have step : conn.after gone (msub :: ended) =
          (transConnClosed gone msub conn).after gone ended := rfl
      rw [step, transConnClosed_eq, ih]
      by_cases first : conn.endsWith msub = true
      · simp [first, cleared_endsWith first]
      · simp [first]

theorem after_of_not_endsWith (stays : ¬ ∃ msub ∈ ended, conn.endsWith msub = true) :
    conn.after gone ended = conn := by
  rw [after_eq, if_neg stays]

@[simp] theorem peer_after (gone : Bool) (conn : RanConn) (ended : List Nat) :
    (conn.after gone ended).peer = conn.peer := by
  rw [after_eq]
  unfold RanConn.cleared
  split_ifs
  · split <;> rfl
  · rfl

/-! ### Which connection goes -/

/-- The subscriber ends when the connections `passed` of the peer have been discarded, with the
connections `left` still to come: it has no other role, and each of its connections is one of the
discarded ones and had a role that terminates. -/
structure Ended (rp : Nat) (otherRoles : List Nat) (passed left : List RanConn) (msub : Nat) :
    Prop where
  noOther : msub ∉ otherRoles
  served : ∃ conn ∈ passed, conn.msub = some msub
  discarded : ∀ conn ∈ passed, ∀ role, conn.owner = .mscRole msub role →
    conn.peer = rp ∧ role.ends = true
  last : ∀ conn ∈ left, conn.msub ≠ some msub

/-- The connection goes when the loop comes to it after the subscribers `ended` have ended. -/
def RanConn.Goes (ended : Nat → Prop) (conn : RanConn) : Prop :=
  match conn.owner with
  | .none | .mscRole _ _ => True
  | .vgcsBss bss => bss.fi.terminating = false ∧ (bss.fi.state = .release ∨
      bss.fi.state ≠ .null ∧ ∃ msub, ended msub ∧ conn.endsWith msub = true)
  | .vgcsCell cell => cell.fi.terminating = false ∧ cell.conn = true ∧
      (cell.fi.state = .release ∨
        cell.fi.state ≠ .null ∧ ∃ msub, ended msub ∧ conn.endsWith msub = true)
  | .freed => False

theorem bss_accepts_released (fi : Inst BssState) :
    fi.accepts vgcsBssTable .released = true ↔ fi.terminating = false ∧ fi.state = .release := by
  obtain ⟨state, timer, terminating⟩ := fi
  cases state <;> simp [Inst.accepts, vgcsBssTable]

theorem cell_accepts_released (fi : Inst CellState) :
    fi.accepts vgcsCellTable .released = true ↔ fi.terminating = false ∧ fi.state = .release := by
  obtain ⟨state, timer, terminating⟩ := fi
  cases state <;> simp [Inst.accepts, vgcsCellTable]

variable {bss : VgcsBss}

theorem bssClear_accepts_released (attached : bss.trans.isSome = true) :
    (bssClear bss).fi.accepts vgcsBssTable .released = true ↔
      bss.fi.terminating = false ∧ bss.fi.state ≠ .null := by
  have notReleased := bss.attached attached
  obtain ⟨⟨state, timer, terminating⟩, trans, field⟩ := bss
  cases state <;> cases terminating <;>
    simp_all [bssClear, Inst.stateChg, Inst.accepts, vgcsBssTable]

theorem conn_cellClear (gone : Bool) (cell : VgcsCell) : (cellClear gone cell).conn = cell.conn := by
  simp only [cellClear, cellDestroyed]
  split_ifs <;> rfl

variable {cell : VgcsCell}

theorem cellClear_accepts_released (linked : cell.conn = true) (attached : cell.bss.isSome = true) :
    (cellClear gone cell).fi.accepts vgcsCellTable .released = true ↔
      cell.fi.terminating = false ∧ cell.fi.state ≠ .null := by
  have notReleased := cell.attached attached
  obtain ⟨⟨state, timer, terminating⟩, bss, conn, rtps, field⟩ := cell
  cases state <;> cases terminating <;> cases rtps <;> cases gone <;>
    simp_all [cellClear, Inst.stateChg, Inst.accepts, vgcsCellTable]

/-- The state of a BSS when the loop comes to its connection. -/
theorem bss_after (owner : conn.owner = .vgcsBss bss) (ended : List Nat) :
    ∃ bss', (conn.after gone ended).owner = .vgcsBss bss' ∧
      (bss'.fi.accepts vgcsBssTable .released = true ↔ conn.Goes (· ∈ ended)) := by
  by_cases ends : ∃ msub ∈ ended, conn.endsWith msub = true
  · refine ⟨bssClear bss, by simp [after_eq, ends, RanConn.cleared, owner], ?_⟩
    have attached : bss.trans.isSome = true := by
      obtain ⟨msub, -, hit⟩ := ends
      rw [RanConn.endsWith, owner] at hit
      exact Option.isSome_of_any hit
    have notReleased := bss.attached attached
    rw [bssClear_accepts_released attached]
    simp [RanConn.Goes, owner, ends, notReleased]
  · refine ⟨bss, by rw [after_of_not_endsWith ends, owner], ?_⟩
    rw [bss_accepts_released]
    simp [RanConn.Goes, owner, ends]

/-- The state of a cell when the loop comes to its connection. -/
theorem cell_after (owner : conn.owner = .vgcsCell cell) (ended : List Nat) :
    ∃ cell', (conn.after gone ended).owner = .vgcsCell cell' ∧
      (cell'.fi.accepts vgcsCellTable .released = true ∧ cell'.conn = true ↔
        conn.Goes (· ∈ ended)) := by
  by_cases ends : ∃ msub ∈ ended, conn.endsWith msub = true
  · refine ⟨cellClear gone cell, by simp [after_eq, ends, RanConn.cleared, owner], ?_⟩
    have attached : cell.bss.isSome = true := by
      obtain ⟨msub, -, hit⟩ := ends
      rw [RanConn.endsWith, owner] at hit
      exact Option.isSome_of_any hit
    have notReleased := cell.attached attached
    rw [conn_cellClear]
    by_cases linked : cell.conn = true
    · rw [cellClear_accepts_released linked attached]
      simp [RanConn.Goes, owner, ends, notReleased, linked]
    · simp [RanConn.Goes, owner, linked]
  · refine ⟨cell, by rw [after_of_not_endsWith ends, owner], ?_⟩
    rw [cell_accepts_released]
    simp only [RanConn.Goes, owner, ends, and_false, or_false]
    exact ⟨fun ⟨⟨running, released⟩, linked⟩ => ⟨running, linked, released⟩,
      fun ⟨running, linked, released⟩ => ⟨⟨running, released⟩, linked⟩⟩

theorem after_of_msub {role : MscRole} (owner : conn.owner = .mscRole msub role)
    (ended : List Nat) : conn.after gone ended = conn :=
  after_of_not_endsWith (by simp [RanConn.endsWith, owner])

variable {rest : List RanConn}

/-- A connection without a role goes and takes nothing with it, or it stays in the list, unless freed
memory is used. -/
theorem discardConn_noRole (noRole : conn.msub = none) :
    (conn.Goes (· ∈ d.ended) → ranPeerDiscardConn d (conn.after gone d.ended) rest = some d) ∧
      (¬ conn.Goes (· ∈ d.ended) → ∀ d' ∈ ranPeerDiscardConn d (conn.after gone d.ended) rest,
        ∃ left ∈ d'.kept, left.peer = conn.peer) := by
  cases owner : conn.owner with
  | none | freed =>
      have same : conn.after gone d.ended = conn :=
        after_of_not_endsWith (by simp [RanConn.endsWith, owner])
      rw [same, ranPeerDiscardConn, owner]
      simp [RanConn.Goes, owner]
  | mscRole msub role => simp [RanConn.msub, owner] at noRole
  | vgcsBss bss =>
      obtain ⟨bss', owner', accepts⟩ := bss_after owner d.ended
      rw [ranPeerDiscardConn, owner', ← accepts]
      refine ⟨fun taken => congrArg some (if_pos taken), fun refused d' done => ?_⟩
      simp only [if_neg refused, Option.mem_some_iff] at done
      subst done
      exact ⟨_, mem_concat_self, peer_after gone conn _⟩
  | vgcsCell cell =>
      obtain ⟨cell', owner', accepts⟩ := cell_after owner d.ended
      rw [ranPeerDiscardConn, owner', ← accepts]
      simp only [vgcsVbsClearCplChannel]
      split_ifs with taken linked
      · exact ⟨fun _ => rfl, fun stays => absurd ⟨taken, linked⟩ stays⟩
      all_goals
        refine ⟨fun goes => by simp_all, fun _ d' done => ?_⟩
        obtain rfl := Option.some.inj done
        exact ⟨_, mem_concat_self, peer_after gone conn _⟩

/-! ### The loop -/

variable {d' : Discarding}

theorem discardConn_kept (done : ranPeerDiscardConn d conn rest = some d') :
    ∀ c ∈ d.kept, c ∈ d'.kept := by
  intro c member
  unfold ranPeerDiscardConn at done
  split at done
  · obtain rfl := Option.some.inj done
    exact member
  · obtain rfl := Option.some.inj done
    split_ifs <;> exact member
  · obtain rfl := Option.some.inj done
    split_ifs
    · exact member
    · exact mem_append_left _ member
  · obtain rfl := Option.some.inj done
    split
    · exact member
    · exact mem_append_left _ member
  · exact absurd done nofun

variable {conns : List RanConn} {rp : Nat}

/-- What the loop has gone past stays. -/
theorem discardFrom_kept (done : ranPeerDiscardFrom gone rp d conns = some d') :
    ∀ c ∈ d.kept, c ∈ d'.kept := by
  induction conns generalizing d with
  | nil =>
      obtain rfl := Option.some.inj done
      exact fun _ member => member
  | cons conn rest ih =>
      intro c member
      unfold ranPeerDiscardFrom at done
      split at done
      · split at done
        · exact absurd done nofun
        · rename_i next step
          exact ih done c (discardConn_kept step c member)
      · exact ih done c (mem_append_left _ member)

/-- The loop after the connections `passed`, with `left` to come, and none of the peer's kept. -/
structure Passed (rp : Nat) (otherRoles : List Nat) (passed left : List RanConn)
    (d : Discarding) : Prop where
  ended : ∀ msub, msub ∈ d.ended ↔ Ended rp otherRoles passed left msub
  others : ∀ msub, msub ∈ d.otherRoles ↔ msub ∈ otherRoles ∨
    ∃ conn ∈ passed, conn.peer = rp ∧ ∃ role, conn.owner = .mscRole msub role ∧ role.ends = false
  kept : ∀ msub, (∃ conn ∈ d.kept, conn.msub = some msub) ↔
    ∃ conn ∈ passed, conn.peer ≠ rp ∧ conn.msub = some msub
  clean : ∀ conn ∈ d.kept, conn.peer ≠ rp

theorem msub_eq_some : conn.msub = some msub ↔ ∃ role, conn.owner = .mscRole msub role := by
  unfold RanConn.msub
  cases owner : conn.owner <;> simp

theorem exists_mem_concat {P : RanConn → Prop} :
    (∃ c ∈ conns ++ [conn], P c) ↔ (∃ c ∈ conns, P c) ∨ P conn := by
  simp only [mem_append, mem_singleton, or_and_right, exists_or, exists_eq_left]

variable {passed left : List RanConn} {otherRoles : List Nat}

/-- The end of a subscriber does not depend on a connection that is not its own. -/
theorem ended_concat (other : conn.msub ≠ some msub) :
    Ended rp otherRoles (passed ++ [conn]) left msub ↔
      Ended rp otherRoles passed (conn :: left) msub := by
  have noRole : ∀ role, conn.owner ≠ .mscRole msub role := fun role owner =>
    other (msub_eq_some.mpr ⟨role, owner⟩)
  constructor
  · rintro ⟨noOther, ⟨c, member, served⟩, discarded, last⟩
    refine ⟨noOther, ⟨c, ?_, served⟩, fun c member => discarded c (mem_append_left _ member),
      ?_⟩
    · rcases mem_concat.mp member with before | rfl
      · exact before
      · exact absurd served other
    · intro c member
      rcases mem_cons.mp member with rfl | later
      · exact other
      · exact last c later
  · rintro ⟨noOther, ⟨c, member, served⟩, discarded, last⟩
    refine ⟨noOther, ⟨c, mem_append_left _ member, served⟩, ?_,
      fun c member => last c (mem_cons_of_mem _ member)⟩
    intro c member role owner
    rcases mem_concat.mp member with before | rfl
    · exact discarded c before role owner
    · exact absurd owner (noRole role)

namespace Passed

section

variable (state : Passed rp otherRoles passed (conn :: left) d)
include state

/-- A connection of the peer without a role was discarded. -/
theorem noRole (own : conn.peer = rp) (noRole : conn.msub = none) :
    Passed rp otherRoles (passed ++ [conn]) left d where
  ended msub := (state.ended msub).trans (ended_concat (by simp [noRole])).symm
  others msub := by
    have noOwner : ∀ role, conn.owner ≠ .mscRole msub role := fun role owner =>
      Option.some_ne_none _ ((msub_eq_some.mpr ⟨role, owner⟩).symm.trans noRole)
    rw [state.others, exists_mem_concat]
    simp [noOwner]
  kept msub := by
    rw [state.kept, exists_mem_concat]
    simp [own]
  clean := state.clean

/-- A connection of another peer. -/
theorem otherPeer (other : conn.peer ≠ rp) :
    Passed rp otherRoles (passed ++ [conn]) left { d with kept := d.kept ++ [conn] } where
  ended msub := by
    rw [state.ended]
    by_cases served : conn.msub = some msub
    · obtain ⟨role, owner⟩ := msub_eq_some.mp served
      constructor
      · intro ended
        exact absurd served (ended.last conn mem_cons_self)
      · intro ended
        exact absurd (ended.discarded conn (by simp) role owner).1 other
    · exact (ended_concat served).symm
  others msub := by
    rw [state.others, exists_mem_concat]
    simp [other]
  kept msub := by
    rw [exists_mem_concat, exists_mem_concat, state.kept]
    simp [other]
  clean c member := by
    rcases mem_concat.mp member with kept | rfl
    · exact state.clean c kept
    · exact other

/-- A subscriber ends with the connection that is discarded. -/
theorem ended_role (own : conn.peer = rp) {role : MscRole} (owner : conn.owner = .mscRole msub role) :
    Ended rp otherRoles (passed ++ [conn]) left msub ↔
      role.ends = true ∧
        ¬ (msub ∈ d.otherRoles ∨ ∃ other ∈ d.kept ++ left, other.msub = some msub) := by
  have served := msub_eq_some.mpr ⟨role, owner⟩
  have others := state.others msub
  have kept := state.kept msub
  constructor
  · rintro ⟨noOther, -, discarded, last⟩
    refine ⟨(discarded conn (by simp) role owner).2, ?_⟩
    rw [others]
    rintro ((already | ⟨c, member, -, r, owner, stays⟩) | ⟨c, member, own⟩)
    · exact noOther already
    · have ends := (discarded c (mem_append_left _ member) r owner).2
      exact absurd ends (by simp [stays])
    · rcases mem_append.mp member with before | later
      · obtain ⟨c, member, peer, served⟩ := kept.mp ⟨c, before, own⟩
        obtain ⟨r, owner⟩ := msub_eq_some.mp served
        exact peer (discarded c (mem_append_left _ member) r owner).1
      · exact last c later own
  · rintro ⟨ends, gone⟩
    rw [others, not_or, not_or] at gone
    obtain ⟨noOther, none⟩ := gone
    refine ⟨noOther.1, ⟨conn, by simp, served⟩, ?_,
      fun c member here => none ⟨c, mem_append_right _ member, here⟩⟩
    intro c member r owner'
    rcases mem_concat.mp member with before | rfl
    · by_cases peer : c.peer = rp
      · refine ⟨peer, ?_⟩
        by_contra stays
        exact noOther.2 ⟨c, before, peer, r, owner', Bool.eq_false_iff.mpr stays⟩
      · obtain ⟨c, kept, served⟩ := kept.mpr ⟨c, before, peer, msub_eq_some.mpr ⟨r, owner'⟩⟩
        exact absurd ⟨c, mem_append_left _ kept, served⟩ none
    · rw [owner, ConnOwner.mscRole.injEq] at owner'
      exact ⟨own, owner'.2 ▸ ends⟩

/-- The subscribers that have ended, with the one whose connection is discarded. -/
theorem ended_more (own : conn.peer = rp) {role : MscRole} (owner : conn.owner = .mscRole msub role)
    (more : ∀ m, m ∈ ended ↔ m ∈ d.ended ∨ m = msub ∧ role.ends = true ∧
      ¬ (msub ∈ d.otherRoles ∨ ∃ other ∈ d.kept ++ left, other.msub = some msub)) (m : Nat) :
    m ∈ ended ↔ Ended rp otherRoles (passed ++ [conn]) left m := by
  have served := msub_eq_some.mpr ⟨role, owner⟩
  rw [more]
  by_cases same : m = msub
  · have notYet : msub ∉ d.ended := fun member =>
      ((state.ended msub).mp member).last conn mem_cons_self served
    rw [same, state.ended_role own owner]
    simp [notYet]
  · simp only [same, false_and, or_false]
    refine (state.ended m).trans (ended_concat ?_).symm
    rw [served]
    exact fun here => same (Option.some.inj here).symm

/-- A connection of the peer with a role was discarded. -/
theorem role (own : conn.peer = rp) {role : MscRole} (owner : conn.owner = .mscRole msub role) :
    ∃ d', ranPeerDiscardConn d conn left = some d' ∧
      Passed rp otherRoles (passed ++ [conn]) left d' := by
  have keptSame : ∀ m, (∃ c ∈ d.kept, c.msub = some m) ↔
      ∃ c ∈ passed ++ [conn], c.peer ≠ rp ∧ c.msub = some m := by
    intro m
    rw [state.kept, exists_mem_concat]
    simp [own]
  have othersMore : ∀ m, (m ∈ d.otherRoles ∨ m = msub ∧ role.ends = false) ↔ m ∈ otherRoles ∨
      ∃ c ∈ passed ++ [conn], c.peer = rp ∧ ∃ r, c.owner = .mscRole m r ∧ r.ends = false := by
    intro m
    rw [state.others, exists_mem_concat, or_assoc]
    refine or_congr_right (or_congr_right ⟨?_, ?_⟩)
    · rintro ⟨rfl, stays⟩
      exact ⟨own, role, owner, stays⟩
    · rintro ⟨-, r, owner', stays⟩
      rw [owner, ConnOwner.mscRole.injEq] at owner'
      exact ⟨owner'.1.symm, owner'.2 ▸ stays⟩
  rw [ranPeerDiscardConn, owner]
  by_cases ends : role.ends = true
  · have others : ∀ m, m ∈ d.otherRoles ↔ m ∈ otherRoles ∨
        ∃ c ∈ passed ++ [conn], c.peer = rp ∧ ∃ r, c.owner = .mscRole m r ∧ r.ends = false :=
      fun m => by rw [← othersMore]; simp [ends]
    simp only [ends, Bool.not_true, Bool.false_eq_true, if_false]
    split_ifs with still
    · exact ⟨d, rfl, state.ended_more own owner (by simp only [still, not_true, and_false, or_false,
        implies_true]), others, keptSame, state.clean⟩
    · exact ⟨_, rfl, state.ended_more own owner (by simp only [still, ends, mem_concat,
        not_false_eq_true, and_true, implies_true]), others, keptSame, state.clean⟩
  · rw [Bool.not_eq_true] at ends
    simp only [ends, Bool.not_false, if_true]
    refine ⟨_, rfl, state.ended_more own owner (by simp [ends]), fun m => ?_, keptSame,
      state.clean⟩
    rw [← othersMore, mem_cons, or_comm]
    simp [ends]

end

end Passed

/-- None of the connections left is one of the peer's. -/
def Clean (rp : Nat) (conns : List RanConn) : Prop := ∀ conn ∈ conns, conn.peer ≠ rp

/-- The loop leaves no connection of the peer if and only if each goes when its turn comes. -/
theorem discardFrom_clean_iff (gone : Bool) (state : Passed rp otherRoles passed left d) :
    (∃ d', ranPeerDiscardFrom gone rp d left = some d' ∧ Clean rp d'.kept) ↔
      ∀ before conn after, left = before ++ conn :: after → conn.peer = rp →
        conn.Goes (Ended rp otherRoles (passed ++ before) after) := by
  induction left generalizing passed d with
  | nil =>
      refine iff_of_true ⟨d, rfl, state.clean⟩ fun before conn after split => ?_
      exact absurd (congrArg List.length split) (by simp)
  | cons conn rest ih =>
      -- the turns of the connections after the first
      have turns : ∀ goes : conn.peer = rp →
          conn.Goes (Ended rp otherRoles passed rest),
          (∀ before c after, rest = before ++ c :: after → c.peer = rp →
            c.Goes (Ended rp otherRoles ((passed ++ [conn]) ++ before) after)) ↔
          ∀ before c after, conn :: rest = before ++ c :: after → c.peer = rp →
            c.Goes (Ended rp otherRoles (passed ++ before) after) := by
        intro goes
        constructor
        · intro later before c after split own
          cases before with
          | nil =>
              obtain ⟨rfl, rfl⟩ := cons.inj split
              rw [append_nil]
              exact goes own
          | cons first before =>
              obtain ⟨rfl, rest_eq⟩ := cons.inj split
              simpa using later before c after rest_eq own
        · intro all before c after split own
          simpa using all (conn :: before) c after (by rw [split]; rfl) own
      unfold ranPeerDiscardFrom
      by_cases own : conn.peer = rp
      · rw [if_pos own]
        cases role : conn.msub with
        | some msub =>
            obtain ⟨role, owner⟩ := msub_eq_some.mp role
            obtain ⟨d', step, state'⟩ := state.role own owner
            rw [after_of_msub owner, step]
            exact (ih state').trans (turns fun _ => by rw [RanConn.Goes, owner]; trivial)
        | none =>
            have turn : conn.Goes (· ∈ d.ended) ↔ conn.Goes (Ended rp otherRoles passed rest) := by
              have same : (· ∈ d.ended) = Ended rp otherRoles passed rest := by
                funext msub
                refine propext ((state.ended msub).trans ⟨fun ended => ?_, fun ended => ?_⟩)
                · exact { ended with
                    last := fun c member => ended.last c (mem_cons_of_mem _ member) }
                · refine { ended with last := fun c member => ?_ }
                  rcases mem_cons.mp member with rfl | later
                  · rw [role]
                    exact nofun
                  · exact ended.last c later
              rw [same]
            by_cases goes : conn.Goes (· ∈ d.ended)
            · rw [(discardConn_noRole role).1 goes]
              exact (ih (state.noRole own role)).trans (turns fun _ => turn.mp goes)
            · refine iff_of_false ?_ fun all => goes (turn.mpr ?_)
              · rintro ⟨last, done, clean⟩
                split at done
                · exact absurd done nofun
                · rename_i next step
                  obtain ⟨stuck, member, peer⟩ := (discardConn_noRole role).2 goes next step
                  exact clean stuck (discardFrom_kept done stuck member) (peer.trans own)
              · simpa using all [] conn rest rfl own
      · rw [if_neg own]
        exact (ih (state.otherPeer own)).trans (turns fun peer => absurd peer own)

/-- Each connection of the peer goes when the loop comes to it. -/
def SccpRanInst.AllGo (sri : SccpRanInst) (rp : Nat) : Prop :=
  ∀ before conn after, sri.ranConns = before ++ conn :: after → conn.peer = rp →
    conn.Goes (Ended rp sri.otherRoles before after)

theorem discardAllConns_clean_iff (gone : Bool) (rp : Nat) (sri : SccpRanInst) :
    (∃ sri', ranPeerDiscardAllConns gone rp sri = some sri' ∧ Clean rp sri'.ranConns) ↔
      sri.AllGo rp := by
  have start : Passed rp sri.otherRoles [] sri.ranConns { otherRoles := sri.otherRoles } :=
    { ended := fun msub => iff_of_false not_mem_nil fun ended => by
        obtain ⟨c, member, -⟩ := ended.served
        exact absurd member not_mem_nil
      others := by simp
      kept := by simp
      clean := by simp }
  have loop := discardFrom_clean_iff gone start
  simp only [nil_append] at loop
  rw [SccpRanInst.AllGo, ← loop]
  constructor
  · rintro ⟨sri', done, clean⟩
    obtain ⟨d, loop_eq, rfl⟩ := Option.map_eq_some_iff.mp done
    refine ⟨d, loop_eq, fun conn member => ?_⟩
    have final := clean (conn.after gone d.ended) (mem_map_of_mem member)
    rwa [peer_after] at final
  · rintro ⟨d, done, clean⟩
    refine ⟨_, Option.map_eq_some_iff.mpr ⟨d, done, rfl⟩, fun conn member => ?_⟩
    obtain ⟨before, kept, rfl⟩ := mem_map.mp member
    rw [peer_after]
    exact clean before kept

/-! ### The peer -/

/-- No connection of the peer is left, and the process is still there. -/
def RanPeer.Cleared (rp : Option RanPeer) : Prop := ∃ p ∈ rp, Clean p.addr p.sri.ranConns

/-- The peer starts a RESET of its own for the event. -/
def RanPeer.startsReset (rp : RanPeer) (e : PeerEvent) : Bool :=
  match rp.fi.state, e with
  | .waitRxReset, .available | .waitRxResetAck, .available => true
  | .waitRxReset, .msgUpCo | .waitRxReset, .msgUpCoInitial => !rp.ignoreMissingReset
  | .waitRxResetAck, .msgUpCo | .waitRxResetAck, .msgUpCoInitial => true
  | _, _ => false

/-- The peer handles a RESET that was received, a RESET of its own, or an indication that it is
unavailable. -/
def RanPeer.Resets (rp : RanPeer) (e : PeerEvent) : Prop :=
  rp.fi.accepts ranPeerTable e = true ∧
    (e = .rxReset ∨ e = .unavailable ∨ rp.startsReset e = true)

theorem cleared_discard_iff (rp : RanPeer) (gone : Bool) (f : RanPeer → RanPeer)
    (same : ∀ p, (f p).addr = p.addr ∧ (f p).sri = p.sri) :
    RanPeer.Cleared ((rp.discard gone).map f) ↔ rp.sri.AllGo rp.addr := by
  rw [← discardAllConns_clean_iff gone]
  constructor
  · rintro ⟨p, done, clean⟩
    obtain ⟨q, discarded, rfl⟩ := Option.map_eq_some_iff.mp done
    obtain ⟨sri, sri_eq, rfl⟩ := Option.map_eq_some_iff.mp discarded
    rw [(same _).1, (same _).2] at clean
    exact ⟨sri, sri_eq, clean⟩
  · rintro ⟨sri, sri_eq, clean⟩
    refine ⟨_, Option.map_eq_some_iff.mpr ⟨_, Option.map_eq_some_iff.mpr ⟨sri, sri_eq, rfl⟩, rfl⟩,
      ?_⟩
    rw [(same _).1, (same _).2]
    exact clean

theorem cleared_rxReset_iff (rp : RanPeer) (env : ResetEnv) :
    RanPeer.Cleared (ranPeerRxReset rp env) ↔ rp.sri.AllGo rp.addr :=
  cleared_discard_iff rp env.gone _ fun _ => ⟨rfl, rfl⟩

theorem cleared_reset_iff (rp : RanPeer) (env : ResetEnv) :
    RanPeer.Cleared (ranPeerReset rp env) ↔ rp.sri.AllGo rp.addr :=
  cleared_discard_iff (ranPeerStateChg rp .waitRxResetAck) env.gone _ fun p => by
    split <;> exact ⟨rfl, rfl⟩

/-- When no connection of the peer is left after the event. -/
def RanPeer.ClearedBy (rp : RanPeer) (e : PeerEvent) : Prop :=
  if e = .unavailable ∧ rp.fi.state ≠ .ready then Clean rp.addr rp.sri.ranConns
  else rp.sri.AllGo rp.addr

/-- A ready peer with a subscriber's connection, and the connections of a BSS and a cell whose group
call is in the states given. -/
def groupCallPeer (bss : BssState) (cell : CellState) : RanPeer where
  addr := 1
  fi := { state := .ready }
  sri :=
    { ranConns :=
        [{ peer := 1, owner := .vgcsCell
            { fi := { state := cell }, bss := none, conn := true, rtps := false, attached := nofun } },
         { peer := 1, owner := .vgcsBss { fi := { state := bss }, trans := none, attached := nofun } },
         { peer := 1, owner := .mscRole 7 .mscI }] }

end OsmoMsc.Ran
