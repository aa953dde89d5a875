/-
Module: OsmoMsc.Ran.Peer
Purpose: The connections of a RAN peer and what its RESET procedure does to them: `ran_peer_fsm`
  (ran_peer.c), `ran_conn_discard()` (ran_conn.c) and the clearing of the VGCS/VBS call and channel
  instances that own a connection (msc_vgcs.c).  A connection holds what its pointers point at.  When
  the last connection of a subscriber is gone, the subscriber's group call goes with it, and its
  instances are cleared.
Trusted boundary: messages are sent or not by an environment that answers for them; an event for
  freed memory ends the process
Main exports: PeerEvent, BssState, vgcsBssTable, vgcsCellTable, VgcsBss, VgcsCell, RanConn,
  ranPeerDiscardAllConns, RanPeer, ranPeerDispatch
-/
import OsmoMsc.Msc.MscT

namespace OsmoMsc.Ran

open Library

/-! ### VGCS/VBS instances -/

/-- `enum vgcs_bss_fsm_states`. -/
inductive BssState where
  | null
  | setup
  | assignment
  | active
  | release
deriving DecidableEq, Repr

/-- `enum vgcs_bss_fsm_event`. -/
inductive BssEvent where
  | setup
  | setupAck
  | setupRefuse
  | activeOrFail
  | ulRequest
  | ulRequestCnf
  | ulAppData
  | bssDtap
  | ulRelease
  | clear
  | close
  | released
deriving DecidableEq, Repr

/-- `vgcs_bss_fsm_states[]`. -/
def vgcsBssTable : Table BssState BssEvent where
  inEvent
    | .null, e => e ∈ [.setup, .clear]
    | .setup, e => e ∈ [.setupAck, .setupRefuse, .clear, .close]
    | .assignment, e => e ∈ [.activeOrFail, .clear, .close]
    | .active, e =>
        e ∈ [.ulRequest, .ulRequestCnf, .ulAppData, .bssDtap, .ulRelease, .clear, .close]
    | .release, e => e ∈ [.clear, .released]
  outState
    | .null, new => new = .setup
    | .setup, new => new ∈ [.assignment, .release]
    | .assignment, new => new ∈ [.active, .release]
    | .active, new => new = .release
    | .release, new => new = .null

/-- `enum vgcs_cell_fsm_states`. -/
inductive CellState where
  | null
  | assignment
  | active
  | release
deriving DecidableEq, Repr

/-- `enum vgcs_cell_fsm_event`. -/
inductive CellEvent where
  | rtpStreamGone
  | rtpStreamAddrAvailable
  | rtpStreamEstablished
  | assign
  | assignRes
  | assignFail
  | clear
  | close
  | released
deriving DecidableEq, Repr

/-- `vgcs_cell_fsm_states[]`. -/
def vgcsCellTable : Table CellState CellEvent where
  inEvent
    | .null, e => e ∈ [.assign, .clear]
    | .assignment, e =>
        e ∈ [.rtpStreamGone, .rtpStreamAddrAvailable, .rtpStreamEstablished, .assignRes,
          .assignFail, .clear, .close]
    | .active, e => e ∈ [.rtpStreamGone, .rtpStreamEstablished, .clear, .close]
    | .release, e => e ∈ [.rtpStreamGone, .clear, .released]
  outState
    | .null, new => new = .assignment
    | .assignment, new => new ∈ [.active, .release]
    | .active, new => new = .release
    | .release, new => new = .null

/-- What matters of the transaction of a group call: the subscriber on whose connection it was
begun, until that subscriber is moved to the group call channel. -/
structure GccTrans where
  mscA : Option Nat
deriving DecidableEq, Repr

/-- `struct vgcs_bss`.  `bss_clear()` takes it from its transaction when it enters `RELEASE`. -/
structure VgcsBss where
  fi : Inst BssState
  trans : Option GccTrans
  attached : trans.isSome → fi.state ≠ .release

/-- `struct vgcs_bss_cell`.  `bss` is the transaction of the BSS it belongs to, if it still does:
`cell_clear()` takes it from there. -/
structure VgcsCell where
  fi : Inst CellState
  bss : Option (Option GccTrans)
  /-- `cell->conn` points at the connection, which points at the cell. -/
  conn : Bool
  rtps : Bool
  attached : bss.isSome → fi.state ≠ .release

/-- `bss_clear()`, which `VGCS_BSS_EV_CLEAR` leads to in every state but `RELEASE`.  Where the state
change is refused, the rest is done all the same. -/
def bssClear (bss : VgcsBss) : VgcsBss where
  fi := (bss.fi.stateChg vgcsBssTable .release none).getD bss.fi
  trans := none
  attached := nofun

/-- The end of `cell_destroy()` for a cell without a connection. -/
def cellDestroyed (cell : VgcsCell) : VgcsCell :=
  { cell with bss := none, fi := cell.fi.term.getD cell.fi, attached := nofun }

variable (gone : Bool)

/-- `cell_clear()`, which `VGCS_CELL_EV_CLEAR` leads to in every state but `RELEASE`.  `gone` says
whether `rtp_stream_release()` reports the end of the stream before it returns. -/
def cellClear (cell : VgcsCell) : VgcsCell :=
  let cell : VgcsCell := { cell with
    bss := none
    fi := (cell.fi.stateChg vgcsCellTable .release none).getD cell.fi
    attached := nofun }
  if !cell.conn && !cell.rtps then cellDestroyed cell
  else if cell.rtps && gone && cell.fi.accepts vgcsCellTable .rtpStreamGone then
    let cell := { cell with rtps := false }
    if cell.conn then cell else cellDestroyed cell
  else cell

/-! ### Connections -/

/-- The role of a subscriber that a connection belongs to. -/
inductive MscRole where
  | mscI
  | mscT (state : Msc.MscTState)
deriving DecidableEq, Repr

/-- The role takes `MSC_EV_FROM_RAN_CONN_RELEASED`, and terminates. -/
def MscRole.ends : MscRole → Bool
  | .mscI => true
  | .mscT state => Msc.mscTFsm.inEvent state .fromRanConnReleased

/-- The one of `msc_role`, `vgcs.bss` and `vgcs.cell` that is set. -/
inductive ConnOwner where
  | none
  | mscRole (msub : Nat) (role : MscRole)
  | vgcsBss (bss : VgcsBss)
  | vgcsCell (cell : VgcsCell)
  /-- A VGCS/VBS instance that has been freed. -/
  | freed

/-- `struct ran_conn`. -/
structure RanConn where
  peer : Nat
  owner : ConnOwner

/-- The subscriber the connection belongs to. -/
def RanConn.msub (conn : RanConn) : Option Nat :=
  match conn.owner with
  | .mscRole msub _ => some msub
  | _ => none

/-- `struct sccp_ran_inst`, with the subscribers that have a role without a connection here. -/
structure SccpRanInst where
  ranConns : List RanConn
  otherRoles : List Nat := []

/-- The transaction is freed when the connections of this subscriber are closed. -/
def GccTrans.endsWith (trans : GccTrans) (msub : Nat) : Bool := trans.mscA = some msub

/-- `trans_conn_closed()`: each BSS of a group call of the subscriber gets `VGCS_BSS_EV_CLEAR`, and
passes `VGCS_CELL_EV_CLEAR` to its cells. -/
def transConnClosed (msub : Nat) (conn : RanConn) : RanConn :=
  match conn.owner with
  | .vgcsBss bss =>
      if bss.trans.any (·.endsWith msub) then { conn with owner := .vgcsBss (bssClear bss) } else conn
  | .vgcsCell cell =>
      if cell.bss.any fun trans => trans.any (·.endsWith msub) then
        { conn with owner := .vgcsCell (cellClear gone cell) }
      else conn
  | _ => conn

/-- What `ran_peer_discard_all_conns()` has done so far: the connections it went past that are still
there, the subscribers with another role, and the subscribers that ended.  What their end does to a
connection is taken into account where the connection is looked at. -/
structure Discarding where
  kept : List RanConn := []
  otherRoles : List Nat
  ended : List Nat := []

/-- A connection after some subscribers have ended. -/
def RanConn.after (conn : RanConn) (ended : List Nat) : RanConn :=
  ended.foldl (fun conn msub => transConnClosed gone msub conn) conn

/-- `vgcs_vbs_clear_cpl_channel()`: the cell afterwards if the connection is still there. -/
def vgcsVbsClearCplChannel (cell : VgcsCell) : Option VgcsCell :=
  if cell.fi.accepts vgcsCellTable .released then
    if cell.conn then none else some (if cell.rtps then cell else cellDestroyed cell)
  else some cell

/-- The body of the loop for a connection of the peer, before the connections `rest`. -/
def ranPeerDiscardConn (d : Discarding) (conn : RanConn) (rest : List RanConn) :
    Option Discarding :=
  match conn.owner with
  | .none => some d
  | .mscRole msub role =>
      some <|
        if !role.ends then { d with otherRoles := msub :: d.otherRoles }
        else if msub ∈ d.otherRoles ∨ ∃ other ∈ d.kept ++ rest, other.msub = some msub then d
        else { d with ended := d.ended ++ [msub] }
  | .vgcsBss bss =>
      some <|
        -- `vgcs_vbs_clear_cpl()`: `bss_destroy()` closes the connection; no cell belongs to it any more
        if bss.fi.accepts vgcsBssTable .released then d else { d with kept := d.kept ++ [conn] }
  | .vgcsCell cell =>
      some <|
        match vgcsVbsClearCplChannel cell with
        | none => d
        | some cell => { d with kept := d.kept ++ [{ conn with owner := .vgcsCell cell }] }
  | .freed => none

/-- The loop of `ran_peer_discard_all_conns()`.  No connection but the one it is at is removed, so
the list is the one it began with; `none` if freed memory is used. -/
def ranPeerDiscardFrom (gone : Bool) (rp : Nat) : Discarding → List RanConn → Option Discarding
  | d, [] => some d
  | d, conn :: rest =>
      if conn.peer = rp then
        match ranPeerDiscardConn d (conn.after gone d.ended) rest with
        | none => none
        | some d => ranPeerDiscardFrom gone rp d rest
      else ranPeerDiscardFrom gone rp { d with kept := d.kept ++ [conn] } rest

/-- `ran_peer_discard_all_conns()`. -/
def ranPeerDiscardAllConns (rp : Nat) (sri : SccpRanInst) : Option SccpRanInst :=
  (ranPeerDiscardFrom gone rp { otherRoles := sri.otherRoles } sri.ranConns).map fun d =>
    { ranConns := d.kept.map (·.after gone d.ended), otherRoles := d.otherRoles }

/-! ### The peer -/

/-- `enum ran_peer_state`. -/
inductive PeerState where
  | waitRxReset
  | waitRxResetAck
  | ready
  | discarding
deriving DecidableEq, Repr

/-- `enum ran_peer_event`, without `RAN_PEER_EV_MSG_UP_CL`, which `ran_peer_allstate_action()` turns
into one of the two events for a RESET and its acknowledgement. -/
inductive PeerEvent where
  | msgUpCoInitial
  | msgUpCo
  | msgDownCl
  | msgDownCoInitial
  | msgDownCo
  | rxReset
  | rxResetAck
  | available
  | unavailable
deriving DecidableEq, Repr

/-- `ran_peer_fsm_states[]`. -/
def ranPeerTable : Table PeerState PeerEvent where
  inEvent
    | .waitRxReset, e => e ∈ [.rxReset, .msgUpCoInitial, .msgUpCo, .available, .unavailable]
    | .waitRxResetAck, e =>
        e ∈ [.rxReset, .rxResetAck, .msgUpCoInitial, .msgUpCo, .available, .unavailable]
    | .ready, e =>
        e ∈ [.rxReset, .msgUpCoInitial, .msgUpCo, .msgDownCoInitial, .msgDownCo, .msgDownCl,
          .available, .unavailable]
    | .discarding, _ => false
  outState
    | .discarding, _ => false
    | _, _ => true

/-- `struct ran_peer` -/
structure RanPeer where
  addr : Nat
  fi : Inst PeerState
  sri : SccpRanInst
  ignoreMissingReset : Bool := false

/-- What is not up to the peer: `make_reset_msg()` and `sccp_ran_down_l2_cl()` succeed, and RTP
streams end at once. -/
structure ResetEnv where
  made : Bool := true
  sent : Bool := true
  gone : Bool := true
deriving DecidableEq, Repr

variable (rp : RanPeer)

/-- `ran_peer_state_chg()`, with the timers of `ran_peer_fsm_timeouts[]`. -/
def ranPeerStateChg (new : PeerState) : RanPeer :=
  let timer : Option Nat :=
    match new with
    | .waitRxResetAck => some 1
    | .discarding => some 2
    | _ => none
  { rp with fi := (rp.fi.stateChg ranPeerTable new timer).getD rp.fi }

/-- The connections of the peer are discarded. -/
def RanPeer.discard (gone : Bool) : Option RanPeer :=
  (ranPeerDiscardAllConns gone rp.addr rp.sri).map fun sri => { rp with sri := sri }

/-- `ran_peer_rx_reset()`. -/
def ranPeerRxReset (env : ResetEnv) : Option RanPeer :=
  (rp.discard env.gone).map fun rp =>
    ranPeerStateChg rp (if env.made && env.sent then .ready else .waitRxReset)

/-- `ran_peer_reset()`. -/
def ranPeerReset (env : ResetEnv) : Option RanPeer :=
  ((ranPeerStateChg rp .waitRxResetAck).discard env.gone).map fun rp =>
    if env.made && env.sent then rp else ranPeerStateChg rp .waitRxReset

/-- `ran_peer_st_wait_rx_reset()`. -/
def ranPeerStWaitRxReset (env : ResetEnv) : PeerEvent → Option RanPeer
  | .msgUpCo | .msgUpCoInitial =>
      -- the message is then handled as in `READY`
      if rp.ignoreMissingReset then some (ranPeerStateChg rp .ready) else ranPeerReset rp env
  | .rxReset => ranPeerRxReset rp env
  | .available => ranPeerReset rp env
  | _ => some rp

/-- `ran_peer_st_wait_rx_reset_ack()`. -/
def ranPeerStWaitRxResetAck (env : ResetEnv) : PeerEvent → Option RanPeer
  | .rxResetAck => some (ranPeerStateChg rp .ready)
  | .msgUpCo | .msgUpCoInitial | .available => ranPeerReset rp env
  | .rxReset => ranPeerRxReset rp env
  | .unavailable => some (ranPeerStateChg rp .waitRxReset)
  | _ => some rp

/-- `ran_peer_st_ready()`; messages are passed on, and what becomes of them is not the peer's. -/
def ranPeerStReady (env : ResetEnv) : PeerEvent → Option RanPeer
  | .rxReset => ranPeerRxReset rp env
  | .unavailable => (rp.discard env.gone).map fun rp => ranPeerStateChg rp .waitRxReset
  | _ => some rp

/-- `osmo_fsm_inst_dispatch()` to the peer; `none` if freed memory is used. -/
def ranPeerDispatch (env : ResetEnv) (e : PeerEvent) : Option RanPeer :=
  if rp.fi.accepts ranPeerTable e then
    match rp.fi.state with
    | .waitRxReset => ranPeerStWaitRxReset rp env e
    | .waitRxResetAck => ranPeerStWaitRxResetAck rp env e
    | .ready => ranPeerStReady rp env e
    | .discarding => some rp
  else some rp

end OsmoMsc.Ran
