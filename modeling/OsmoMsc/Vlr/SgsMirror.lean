/-
Module: OsmoMsc.Vlr.SgsMirror
Purpose: The table `SgsAssoc` against the SGs associations of the VLR, with a batch time of zero: which
  operations keep the row of each associated subscriber equal to what `db_sgs_assoc_from_vsub()` would
  write now, and for whom else the table has rows.  With any batch time: when a RESET INDICATION, which
  selects its subscribers by `strcasecmp()` in memory and by `=` in SQL, leaves none of their rows.
Trusted boundary: the SQL statements succeed; `SELECT` hands out every row of the table once
Main exports: Vsub.MayPage, Mirrors, AssocInput, assocStep, KeepsRows, assocRun_mirrors, Resets,
  sgsRxResetInd_rowsGone_iff
-/
import OsmoMsc.Vlr.AttachRun

namespace OsmoMsc.Vlr

open Library Sgs List

variable {imsi : Digits} {scope : Nat → Prop} {mmeName : String}

/-! ### Runs -/

/-- `strcasecmp() == 0` on the names of MMEs. -/
def mmeNameEq (a b : String) : Bool := a.toList.map Char.toLower = b.toList.map Char.toLower

/-- The operation is one of its own, and not a part of one of the inputs below. -/
def StoreInput.Whole : StoreInput → Prop
  | .restart | .restore _ _ | .persistForgetMme _ | .sgsLocUpdateAccSent _ _
  | .sgsLocUpdateRejSent _ _ => False
  | .sgsEvent _ _ event => event ≠ .rxLuFromMme ∧ event ≠ .txLuAccept ∧ event ≠ .txLuReject
  | _ => True

/-- What returns to the main loop: an operation of the VLR, the answer of the HLR to an SGs location
update, a radio contact on A or Iu that has been ciphered, a RESET INDICATION of an MME (`none` if the
connection has none yet), a reset of the VLR towards an MME, or the start of a new process. -/
inductive AssocInput where
  | op (input : StoreInput) (whole : input.Whole)
  | sgsLuResponse (env : SgsEnv) (p : Nat) (accepted : Bool)
  | radioContact (p : Nat)
  | rxResetInd (env : SgsEnv) (mme : Option String)
  | vlrReset (env : SgsEnv) (mmeName : String)
  | start (clocks : DbSgsAssoc → Clocks) (rows : SgsRows)

section Step

variable (cfg : StoreCfg)

/-- What `vlr_sgs_reset_mme()` does to one record; an empty name stands for all MMEs. -/
def resetSubscr (env : SgsEnv) (mmeName : String) (s : Store) (p : Nat) : Store :=
  if mmeName ≠ "" ∧ !mmeNameEq (s.subscr p).mmeName mmeName then s
  else sgsUeFsm cfg env s p .rxResetFromMme

/-- `vlr_sgs_reset_mme()`. -/
def vlrSgsResetMme (env : SgsEnv) (mmeName : String) (s : Store) : Store :=
  s.subscribers.foldl (resetSubscr cfg env mmeName) s

/-- `sgs_rx_reset_ind()`. -/
def sgsRxResetInd (env : SgsEnv) (s : Store) : Option String → Store
  | some fqdn => vlrSgsResetMme cfg env fqdn { s with db := sgsVlrPersistForgetMme s.db fqdn }
  | none => vlrSgsResetMme cfg env "" s

/-- `sgs_tx_loc_upd_resp_cb()`, which is called in state LA-UPDATE-PRESENT only. -/
def sgsTxLocUpdRespCb (env : SgsEnv) (accepted : Bool) (s : Store) (p : Nat) : Store :=
  if (s.subscr p).sgsState ≠ .laUpdPres then s
  else if accepted then vlrSgsLocUpdateAccSent cfg env s p
  else vlrSgsLocUpdateRejSent cfg env s p

/-- `vlr_loc_upd_post_ciph()` and `_proc_arq_vlr_node2_post_ciph()`. -/
def confirmByRadioContact (s : Store) (p : Nat) : Store :=
  s.write p fun vsub => { vsub with confByRadioContactInd := true }

def assocStep (s : Store) : AssocInput → Store
  | .op input _ => storeStep cfg s input
  | .sgsLuResponse env p accepted => onSubscr s p (sgsTxLocUpdRespCb cfg env accepted)
  | .radioContact p => onSubscr s p confirmByRadioContact
  | .rxResetInd env mme => sgsRxResetInd cfg env s mme
  | .vlrReset env mmeName => vlrSgsResetMme cfg env mmeName s
  | .start clocks rows => sgsIfaceRestoreAssocs cfg clocks rows (storeStep cfg s .restart)

/-- The VLR once it has restored what an earlier process left in the table. -/
def assocStart (persist : PersistCfg) (table : SgsAssoc) (clocks : DbSgsAssoc → Clocks)
    (rows : SgsRows) : Store :=
  sgsIfaceRestoreAssocs cfg clocks rows (storeInit persist table)

end Step

/-- The rows are all those of the table. -/
def SgsRows.Lists (rows : SgsRows) (table : SgsAssoc) : Prop :=
  ∀ imsi row, table imsi = some row ↔ row ∈ rows.rows ∧ row.imsi = imsi

/-! ### The mirror -/

/-- The row is the one of the subscriber: IMSI, TMSI, MME and location. -/
def RowOf (row : DbSgsAssoc) (vsub : Vsub) : Prop :=
  row.imsi = vsub.imsi ∧ row.tmsi = vsub.tmsi ∧ row.mmeName = vsub.mmeName ∧ row.lai = vsub.lai

instance (row : DbSgsAssoc) (vsub : Vsub) : Decidable (RowOf row vsub) :=
  inferInstanceAs (Decidable (_ ∧ _ ∧ _ ∧ _))

/-- The condition of `sgs_iface_paging_cb()`: in SGs-NULL a subscriber is paged over SGs as long as it
has not been confirmed by radio contact. -/
def Vsub.MayPage (vsub : Vsub) : Prop := vsub.sgsState ≠ .null ∨ vsub.confByRadioContactInd = false

/-- Each associated subscriber has its row, and each row belongs to a subscriber that may be paged
over SGs. -/
structure Mirrors (s : Store) : Prop where
  associated : ∀ p ∈ s.subscribers, (s.subscr p).sgsState = .associated →
    ∃ row, s.db.table (s.subscr p).imsi = some row ∧ RowOf row (s.subscr p)
  rows : ∀ imsi row, s.db.table imsi = some row →
    ∃ p ∈ s.subscribers, (s.subscr p).imsi = imsi ∧ (s.subscr p).MayPage

/-- The subscriber has its row in the table. -/
def HasRow (s : Store) (p : Nat) : Prop :=
  ∃ row ∈ s.db.table (s.subscr p).imsi, RowOf row (s.subscr p)

instance (s : Store) (p : Nat) : Decidable (HasRow s p) :=
  inferInstanceAs (Decidable (∃ row ∈ s.db.table (s.subscr p).imsi, RowOf row (s.subscr p)))

/-- An IMSI may be given to a record: it is the one it has, or neither has a row. -/
def MayTakeImsi (s : Store) (p : Nat) (imsi : Digits) : Prop :=
  imsi.length ≤ imsiMaxDigits ∧
    ((s.subscr p).imsi = imsi ∨ s.db.table (s.subscr p).imsi = none ∧ s.db.table imsi = none)

/-- No TMSI of an associated subscriber is confirmed. -/
def NoTmsiConfirmed (s : Store) (p : Nat) : Prop :=
  (s.subscr p).sgsState = .associated → (s.subscr p).tmsiNew = gsmReservedTmsi

/-- The operations after which the table is up to date.  A record with `lu_complete` holds the use
`VSUB_USE_ATTACHED`, so that it is not freed. -/
def KeepsRows (cfg : StoreCfg) (s : Store) : AssocInput → Prop
  | .op (.findOrCreateByImsi _ imsi) _ => imsi.length ≤ imsiMaxDigits
  | .op (.setImsi _ p imsi) _ | .op (.rxIdResp _ _ p imsi) _ => MayTakeImsi s p imsi
  | .op (.luNoTmsi p) _ =>
      (s.subscr p).sgsState = .associated → (s.subscr p).tmsi = gsmReservedTmsi
  | .op (.luTmsiAck p) _ => NoTmsiConfirmed s p
  | .op (.sgsTimer p) _ =>
      (s.subscr p).sgsState = .associated → (s.subscr p).ts62 = true →
        (s.subscr p).tmsi = gsmReservedTmsi
  | .op (.sgsEvent _ p .rxTmsiRealloc) _ => NoTmsiConfirmed s p
  | .op (.sgsTmsiReallCompl _ imsi) _ =>
      ∀ p ∈ vlrSubscrFindByImsi cfg s imsi, NoTmsiConfirmed s p
  | .op (.sgsEvent _ p .rxServiceReq) _ => (s.subscr p).sgsState = .null → HasRow s p
  | .op (.sgsLocUpdate _ imsi _ _ _) _ =>
      imsi.length ≤ imsiMaxDigits ∧
        ∀ p ∈ vlrSubscrFindByImsi cfg s imsi, (s.subscr p).unused → (s.subscr p).luComplete = false
  | .op (.expire p) _ => (s.subscr p).sgsState ≠ .associated
  | .op (.free p) _ => (s.subscr p).luComplete = false
  | .sgsLuResponse _ p true => (s.subscr p).imsi ≠ [] ∧ (s.subscr p).mmeName ≠ ""
  | .radioContact p => (s.subscr p).sgsState = .null → s.db.table (s.subscr p).imsi = none
  | .start _ rows => rows.Lists s.db.table
  | _ => True

/-! ### The invariant -/

/-- Every operation goes to the database at once, and no row is without an IMSI. -/
structure Immediate (db : PersistState) : Prop where
  persist : db.cfg.vlrPersist = true
  immediate : db.cfg.vlrPersistBatchSec = 0
  nothingWaits : db.pending = []
  named : db.table [] = none

/-- The record has the IMSI, is attached and may be paged over SGs. -/
def Owns (s : Store) (imsi : Digits) (p : Nat) : Prop :=
  p ∈ s.subscribers ∧ (s.subscr p).imsi = imsi ∧ (s.subscr p).MayPage ∧
    (s.subscr p).luComplete = true

/-- The mirror, over tables of the VLR that are in step with its records.  While the rows `rest` are
still to be restored, nobody is associated. -/
structure MirrorInv (cfg : StoreCfg) (rest : List DbSgsAssoc) (s : Store) : Prop where
  coherent : Coherent cfg True False s
  db : Immediate s.db
  associated : ∀ p ∈ s.subscribers, (s.subscr p).sgsState = .associated → rest = [] ∧ HasRow s p
  rows : ∀ imsi, s.db.table imsi ≠ none → (∃ row ∈ rest, row.imsi = imsi) ∨ ∃ p, Owns s imsi p

variable {cfg : StoreCfg} {env : SgsEnv} {s : Store} {s'' : Store}

theorem MirrorInv.owner (inv : MirrorInv cfg [] s) (inTable : s.db.table imsi ≠ none) :
    ∃ p, Owns s imsi p :=
  (inv.rows imsi inTable).resolve_left (by simp)

theorem MirrorInv.hasRow {rest : List DbSgsAssoc} (inv : MirrorInv cfg rest s) {p : Nat}
    (listed : p ∈ s.subscribers) (associated : (s.subscr p).sgsState = .associated) : HasRow s p :=
  (inv.associated p listed associated).2

theorem MirrorInv.mirrors (inv : MirrorInv cfg [] s) : Mirrors s where
  associated p listed associated := by
    obtain ⟨row, inTable, same⟩ := inv.hasRow listed associated
    exact ⟨row, inTable, same⟩
  rows imsi row inTable := by
    obtain ⟨p, listed, has, pages, -⟩ := inv.owner (by simp [inTable] : s.db.table imsi ≠ none)
    exact ⟨p, listed, has, pages⟩

section Touches

variable {s' : Store} {p : Nat}

theorem Touches.writeCount (s : Store) (p : Nat) (f : Vsub → Vsub) (count : Nat) :
    Touches p s { s.write p f with subscrLuComplete := count } where
  subscribers := rfl
  others q other := by simp [Store.write, other]
  db := rfl

theorem Touches.rehashImsi (cfg : StoreCfg) (s : Store) (p : Nat) :
    Touches p s (vlrSubscrRehashImsi cfg s p) := ⟨rfl, fun _ _ => rfl, rfl⟩

theorem Touches.setLuComplete (s : Store) (p : Nat) (complete : Bool) :
    Touches p s (vlrSubscrSetLuComplete s p complete) := by
  obtain ⟨count, eq⟩ := setLuComplete_eq s p complete
  rw [eq]
  exact .writeCount s p _ count

theorem Touches.markAttached (s : Store) (p : Nat) : Touches p s (s.markAttached p) := by
  obtain ⟨attached, count, eq⟩ := markAttached_eq s p
  rw [eq]
  exact .writeCount s p _ count

theorem Touches.markDetached (s : Store) (p : Nat) : Touches p s (s.markDetached p) := by
  obtain ⟨attached, count, eq⟩ := markDetached_eq s p
  rw [eq]
  exact .writeCount s p _ count

theorem Touches.toNull (cfg : StoreCfg) (s : Store) (p : Nat) : Touches p s (toNull cfg s p) := by
  unfold Vlr.toNull
  refine Touches.trans ?_ (.write _ p _)
  refine Touches.trans ?_ (.rehashTmsi cfg _ p)
  exact (Touches.write s p _).trans (.write _ p _)

theorem Touches.confirmTmsi (cfg : StoreCfg) (s : Store) (p : Nat) :
    Touches p s (confirmTmsi cfg s p) := (Touches.write s p _).trans (.rehashTmsi cfg _ p)

theorem Touches.keepIncompleteExpiry (clocks : Clocks) (s : Store) (p : Nat) :
    Touches p s (vlrSubscrKeepIncompleteExpiry clocks s p) := .write s p _

/-- The allocation of a TMSI writes nothing but `tmsi_new`. -/
theorem allocTmsi_touches {rand : Nat → Option Nat}
    (allocated : vlrSubscrAllocTmsi cfg rand s p = some s') :
    Touches p s s' ∧ ∃ tmsi, s'.subscr p = { s.subscr p with tmsiNew := tmsi } := by
  obtain ⟨tmsi, -, rfl, -⟩ := allocTmsi_eq allocated
  exact ⟨(Touches.write s p _).trans (.rehashTmsi cfg _ p), tmsi, by simp⟩

theorem toNull_subscr (cfg : StoreCfg) (s : Store) (p : Nat) :
    (toNull cfg s p).subscr p =
      { s.subscr p with
        sgsState := .null, ts62 := false, tmsiNew := gsmReservedTmsi
        confByRadioContactInd := false, lastEutranPlmnPresent := false } := by
  simp [toNull, sgsStateChg]

end Touches

/-! ### What one record may do -/

/-- A record that is mirrored still is with these changes; the row is read only if it is associated. -/
structure StaysMirrored (vsub vsub' : Vsub) : Prop where
  imsi : vsub'.imsi = vsub.imsi
  sgsState : vsub'.sgsState = vsub.sgsState
  conf : vsub'.confByRadioContactInd = vsub.confByRadioContactInd
  luComplete : vsub.luComplete = true → vsub'.luComplete = true
  row : vsub.sgsState = .associated → ∀ row, RowOf row vsub → RowOf row vsub'

variable {ps : List Nat}

section Record

variable {rest : List DbSgsAssoc} {s' : Store} {p : Nat}

/-- The record is not associated, and may be paged. -/
def Vsub.Left (vsub : Vsub) : Prop :=
  vsub.sgsState = .laUpdPres ∨ vsub.sgsState = .null ∧ vsub.confByRadioContactInd = false

theorem Vsub.Left.unassociated {vsub : Vsub} (left : vsub.Left) : vsub.sgsState ≠ .associated := by
  rcases left with pres | ⟨null, -⟩ <;> simp [*]

/-- The record leaves the associated state, or does not enter it, and may be paged. -/
structure Leaves (cfg : StoreCfg) (p : Nat) (s s' : Store) : Prop where
  touches : Touches p s s'
  coherent : Coherent cfg True False s'
  imsi : (s'.subscr p).imsi = (s.subscr p).imsi
  complete : (s'.subscr p).luComplete = (s.subscr p).luComplete
  state : (s'.subscr p).Left

/-- Something is written to the record before. -/
theorem Leaves.after (leaves : Leaves cfg p s' s'') (touches : Touches p s s')
    (imsi : (s'.subscr p).imsi = (s.subscr p).imsi)
    (complete : (s'.subscr p).luComplete = (s.subscr p).luComplete) : Leaves cfg p s s'' :=
  ⟨touches.trans leaves.touches, leaves.coherent, leaves.imsi.trans imsi,
    leaves.complete.trans complete, leaves.state⟩

theorem Leaves.setExpiry (leaves : Leaves cfg p s s') (expiry : Option Int) :
    Leaves cfg p s (s'.write p fun vsub => { vsub with expireLu := expiry }) := by
  refine ⟨leaves.touches.trans (.write s' p _), leaves.coherent.write ⟨rfl, rfl, rfl⟩, ?_, ?_, ?_⟩
  · simpa using leaves.imsi
  · simpa using leaves.complete
  · simpa [Vsub.Left] using leaves.state

section

variable (coherent : Coherent cfg True False s) (listed : p ∈ s.subscribers)
include coherent listed

theorem Leaves.toNull : Leaves cfg p s (toNull cfg s p) := by
  refine ⟨.toNull cfg s p, coherent.moves (.toNull listed), ?_, ?_, ?_⟩
  · rw [toNull_subscr]
  · rw [toNull_subscr]
  · rw [toNull_subscr]
    exact .inr ⟨rfl, rfl⟩

/-- A detach indication, from the UE or from the MME. -/
theorem Leaves.detachInd (env : SgsEnv) (fromUe : Bool) :
    Leaves cfg p s (sgsUeFsm cfg env s p
      (if fromUe then .rxDetachIndFromUe else .rxDetachIndFromMme)) := by
  obtain ⟨expiry, eq⟩ := sgsUeFsm_detachInd
  rw [eq]
  exact (Leaves.toNull (coherent.write ⟨rfl, rfl, rfl⟩) listed).after (.write s p _) (by simp) (by simp)

/-- `perform_lu()` leaves the record in LA-UPDATE-PRESENT or in NULL; then it may free it. -/
theorem performLu_cases (env : SgsEnv) :
    ∃ s', Leaves cfg p s s' ∧
      (performLu cfg env s p = s' ∨
        (s.subscr p).unused ∧ performLu cfg env s p = vlrSubscrFree s' p) := by
  have failed : ∀ {s : Store}, Coherent cfg True False s → p ∈ s.subscribers →
      ∃ s', Leaves cfg p s s' ∧
        (performLuError cfg s p = s' ∨
          (s.subscr p).unused ∧ performLuError cfg s p = vlrSubscrFree s' p) := by
    intro s coherent listed
    refine ⟨toNull cfg s p, .toNull coherent listed, ?_⟩
    simp only [performLuError]
    split
    · rename_i frees
      rw [toNull_subscr] at frees
      exact .inr ⟨frees, rfl⟩
    · exact .inl rfl
  unfold performLu
  simp only
  split
  · exact failed coherent listed
  · rename_i s₁ allocated
    obtain ⟨touches, coherent₁, imsi, complete, unused⟩ : Touches p s s₁ ∧
        Coherent cfg True False s₁ ∧ (s₁.subscr p).imsi = (s.subscr p).imsi ∧
        (s₁.subscr p).luComplete = (s.subscr p).luComplete ∧
        (s₁.subscr p).unused = (s.subscr p).unused := by
      split at allocated
      · obtain ⟨touches, tmsi, record⟩ := allocTmsi_touches allocated
        refine ⟨touches, coherent.moves (coherent.allocTmsi listed allocated).1, ?_⟩
        rw [record]
        exact ⟨rfl, rfl, rfl⟩
      · obtain rfl := Option.some.inj allocated
        exact ⟨.refl p s, coherent, rfl, rfl, rfl⟩
    split
    · have starts : Leaves cfg p s₁ (sgsStateChg s₁ p .laUpdPres false) :=
        ⟨.write s₁ p _, coherent₁.write ⟨rfl, rfl, rfl⟩, by simp [sgsStateChg], by simp [sgsStateChg],
          .inl (by simp [sgsStateChg])⟩
      exact ⟨_, starts.after touches imsi complete, .inl rfl⟩
    · obtain ⟨s₂, leaves, result⟩ := failed coherent₁ (touches.subscribers ▸ listed)
      exact ⟨s₂, leaves.after touches imsi complete, unused ▸ result⟩

end

/-- What the acceptance of a location update makes of the record. -/
theorem sgsUeFsm_txLuAccept (state : (s.subscr p).sgsState = .laUpdPres) {s' : Store}
    (step : Vlr.sgsUeFsm cfg env s p .txLuAccept = s') :
    Touches p s s' ∧ (s'.subscr p).imsi = (s.subscr p).imsi ∧
      (s'.subscr p).mmeName = (s.subscr p).mmeName ∧ (s'.subscr p).luComplete = true ∧
      (s'.subscr p).sgsState = .associated := by
  have accepts : Vlr.sgsUeFsm cfg env s p .txLuAccept = sgsUeFsmLauPresent cfg s p .txLuAccept := by
    simp [Vlr.sgsUeFsm, state, sgsUeAccepts]
  obtain ⟨attached, count, eq⟩ := markAttached_eq
    (s.write p fun vsub => { vsub with confByRadioContactInd := true }) p
  have touches := ((Touches.write s p fun vsub =>
    { vsub with confByRadioContactInd := true }).trans (.markAttached _ p))
  rw [eq] at touches
  rw [accepts] at step
  simp only [sgsUeFsmLauPresent, eq] at step
  subst step
  refine ⟨touches.trans (.write _ p _), ?_⟩
  simp [sgsStateChg, Store.write]

theorem sgsUeFsm_rxLuFromMme {env : SgsEnv} (idle : (s.subscr p).sgsState ≠ .laUpdPres) :
    Vlr.sgsUeFsm cfg env s p .rxLuFromMme = Vlr.performLu cfg env s p := by
  cases state : (s.subscr p).sgsState with
  | null => simp [Vlr.sgsUeFsm, sgsUeAccepts, state, sgsUeFsmNull]
  | laUpdPres => exact absurd state idle
  | associated => simp [Vlr.sgsUeFsm, sgsUeAccepts, state, sgsUeFsmAssociated]

theorem subscribers_expire (s : Store) (p : Nat) :
    (vlrSubscrExpire s p).subscribers = s.subscribers := by
  unfold vlrSubscrExpire
  split
  · rw [subscribers_markDetached]
    split <;> rfl
  · rfl

/-! ### Records that come and go -/

/-- The step writes to records of `scope` alone; it adds no record, and it takes none but of `scope`
from the list. -/
structure Within (scope : Nat → Prop) (s s' : Store) : Prop where
  others : ∀ q, ¬ scope q → s'.subscr q = s.subscr q
  state : ∀ q, (s'.subscr q).sgsState = (s.subscr q).sgsState
  kept : ∀ q, ¬ scope q → q ∈ s.subscribers → q ∈ s'.subscribers
  before : ∀ q ∈ s'.subscribers, q ∈ s.subscribers
  db : s'.db = s.db

theorem Within.refl (scope : Nat → Prop) (s : Store) : Within scope s s :=
  ⟨fun _ _ => rfl, fun _ => rfl, fun _ _ listed => listed, fun _ listed => listed, rfl⟩

theorem Within.trans (first : Within scope s s') (second : Within scope s' s'') :
    Within scope s s'' where
  others q outside := (second.others q outside).trans (first.others q outside)
  state q := (second.state q).trans (first.state q)
  kept q outside listed := second.kept q outside (first.kept q outside listed)
  before q listed := first.before q (second.before q listed)
  db := second.db.trans first.db

theorem Touches.within (touches : Touches p s s') (inside : scope p)
    (state : (s'.subscr p).sgsState = (s.subscr p).sgsState) : Within scope s s' where
  others q outside := touches.others q fun same => outside (same ▸ inside)
  state q := by
    by_cases here : q = p
    · rw [here]
      exact state
    · rw [touches.others q here]
  kept _ _ listed := touches.subscribers ▸ listed
  before _ listed := touches.subscribers ▸ listed
  db := touches.db

theorem Within.markDetached (inside : scope p) : Within scope s (s.markDetached p) := by
  obtain ⟨attached, count, eq⟩ := markDetached_eq s p
  refine (Touches.markDetached s p).within inside ?_
  rw [eq]
  simp [Store.write]

theorem Within.free (inside : scope p) : Within scope s (vlrSubscrFree s p) := by
  have freed : Touches p (delist s p) (vlrSubscrFree s p) := .setLuComplete _ p false
  have list : ∀ q, q ∈ (vlrSubscrFree s p).subscribers ↔ q ∈ s.subscribers ∧ q ≠ p := by
    intro q
    rw [subscribers_free]
    simp
  exact
    { others := fun q outside => freed.others q fun same => outside (same ▸ inside)
      state := by
        intro q
        by_cases here : q = p
        · simp [subscr_free, here]
        · simp [subscr_free, here]
      kept := fun q outside listed => (list q).mpr ⟨listed, fun same => outside (same ▸ inside)⟩
      before := fun q listed => ((list q).mp listed).1
      db := freed.db }

theorem Within.dedup (env : DedupEnv) {old : Nat} (insideOld : scope old) (inside : scope p) :
    Within scope s (dedupVsub cfg env s old p) := by
  have ids : Within scope s (dedupIds cfg s old p) := by
    unfold dedupIds
    refine Within.trans ?_ ((Touches.rehashTmsi cfg _ old).within insideOld rfl)
    refine Within.trans ?_ ((Touches.rehashImsi cfg _ old).within insideOld rfl)
    refine Within.trans ?_ ((Touches.write _ old _).within insideOld (by simp))
    exact (Touches.write s p _).within inside (by simp)
  rw [dedupVsub_eq]
  split
  · exact (ids.trans (.markDetached insideOld)).trans (.free insideOld)
  · exact ids.trans (.markDetached insideOld)

/-- `vlr_subscr_set_imsi()` writes to the record and to those that had the IMSI. -/
theorem setImsi_within {imsis tmsis : Prop} (coherent : Coherent cfg imsis tmsis s) (env : DedupEnv)
    (p : Nat) (imsi : Digits) :
    Within (fun q => q = p ∨ (s.subscr q).imsi = imsi) s (vlrSubscrSetImsi cfg env s p imsi) := by
  have cleared : Within (fun q => q = p ∨ (s.subscr q).imsi = imsi) s
      (clearImsi cfg env s p imsi) := by
    unfold clearImsi
    extract_lets s'
    have silent : Within (fun q => q = p ∨ (s.subscr q).imsi = imsi) s s' ∧
        Coherent cfg imsis tmsis s' ∧ ∀ q, (s'.subscr q).imsi = (s.subscr q).imsi := by
      simp only [s']
      cases found : vlrSubscrFindByImsi cfg s imsi with
      | none => exact ⟨.refl _ s, coherent, fun _ => rfl⟩
      | some old =>
          cases env.silentCallFrees with
          | false => exact ⟨.refl _ s, coherent, fun _ => rfl⟩
          | true =>
              refine ⟨.free (.inr (coherent.of_findByImsi found).2.1), coherent.free old, ?_⟩
              exact fun q => imsi_free s old q
    obtain ⟨within, coherent', imsis⟩ := silent
    cases found : vlrSubscrFindByImsi cfg s' imsi with
    | none => exact within
    | some old =>
        have has : (s.subscr old).imsi = imsi :=
          (imsis old).symm.trans (coherent'.of_findByImsi found).2.1
        exact within.trans (.dedup env (.inr has) (.inl rfl))
  rw [setImsi_eq]
  split
  · exact .refl _ s
  · refine Within.trans ?_ ((Touches.rehashImsi cfg _ p).within (.inl rfl) rfl)
    refine cleared.trans ((Touches.write _ p _).within (.inl rfl) ?_)
    rw [write_subscr_self]

/-! ### Resets -/

theorem sgsUeFsm_rxResetFromMme (env : SgsEnv) (s : Store) (p : Nat) :
    Vlr.sgsUeFsm cfg env s p .rxResetFromMme = Vlr.toNull cfg s p := by
  simp [Vlr.sgsUeFsm, sgsUeAccepts]

/-- What a reset does to the records `ps`. -/
structure Resets (mmeName : String) (ps : List Nat) (s s' : Store) : Prop where
  attach : KeepsAttach s s'
  db : s'.db = s.db
  byImsi : s'.subscrByImsi = s.subscrByImsi
  names : ∀ q, (s'.subscr q).imsi = (s.subscr q).imsi ∧ (s'.subscr q).mmeName = (s.subscr q).mmeName
  hit : ∀ q ∈ ps, mmeName = "" ∨ mmeNameEq (s.subscr q).mmeName mmeName = true →
    (s'.subscr q).sgsState = .null
  missed : ∀ q, s'.subscr q = s.subscr q ∨
    (s'.subscr q).sgsState = .null ∧
      (mmeName = "" ∨ mmeNameEq (s.subscr q).mmeName mmeName = true)

theorem Resets.resetSubscr (p : Nat) : Resets mmeName [p] s (resetSubscr cfg env mmeName s p) := by
  unfold Vlr.resetSubscr
  split
  · rename_i other
    refine ⟨.refl s, rfl, rfl, fun _ => ⟨rfl, rfl⟩, fun q member named => ?_, fun _ => .inl rfl⟩
    obtain rfl := mem_singleton.mp member
    rcases named with all | same
    · exact absurd all other.1
    · simp [same] at other
  · rename_i named
    have named : mmeName = "" ∨ mmeNameEq (s.subscr p).mmeName mmeName = true := by
      by_cases all : mmeName = ""
      · exact .inl all
      · exact .inr (by simpa [all] using named)
    rw [sgsUeFsm_rxResetFromMme]
    have touches := Touches.toNull cfg s p
    have record := toNull_subscr cfg s p
    refine ⟨.toNull s p, touches.db, rfl, fun q => ?_, fun q member _ => ?_, fun q => ?_⟩
    · by_cases same : q = p
      · rw [same, record]
        exact ⟨rfl, rfl⟩
      · rw [touches.others q same]
        exact ⟨rfl, rfl⟩
    · rw [mem_singleton.mp member, record]
    · by_cases same : q = p
      · exact .inr ⟨by rw [same, record], same ▸ named⟩
      · exact .inl (touches.others q same)

theorem Resets.cons (first : Resets mmeName [p] s s') (rest : Resets mmeName ps s' s'') :
    Resets mmeName (p :: ps) s s'' where
  attach := first.attach.trans rest.attach
  db := rest.db.trans first.db
  byImsi := rest.byImsi.trans first.byImsi
  names q := ⟨(rest.names q).1.trans (first.names q).1, (rest.names q).2.trans (first.names q).2⟩
  hit q member named := by
    rcases mem_cons.mp member with rfl | later
    · have null := first.hit q (mem_singleton_self q) named
      rcases rest.missed q with same | ⟨again, -⟩
      · rw [same, null]
      · exact again
    · exact rest.hit q later (by rwa [(first.names q).2])
  missed q := by
    rcases rest.missed q with same | ⟨null, named⟩
    · rw [same]
      exact first.missed q
    · exact .inr ⟨null, by rwa [(first.names q).2] at named⟩

theorem resets_vlrSgsResetMme :
    ∀ s : Store, Resets mmeName ps s (ps.foldl (resetSubscr cfg env mmeName) s) := by
  induction ps with
  | nil =>
      exact fun s => ⟨.refl s, rfl, rfl, fun _ => ⟨rfl, rfl⟩, nofun, fun _ => .inl rfl⟩
  | cons p ps ih => exact fun s => (Resets.resetSubscr p).cons (ih _)

/-- The resets do not read the database. -/
theorem resetSubscrs_withDb (env : SgsEnv) (mmeName : String) (db : PersistState) (ps : List Nat)
    (s : Store) :
    ps.foldl (Vlr.resetSubscr cfg env mmeName) { s with db := db } =
      { ps.foldl (Vlr.resetSubscr cfg env mmeName) s with db := db } := by
  induction ps generalizing s with
  | nil => rfl
  | cons p ps ih =>
      have step : Vlr.resetSubscr cfg env mmeName { s with db := db } p =
          { Vlr.resetSubscr cfg env mmeName s p with db := db } := by
        unfold Vlr.resetSubscr
        rw [sgsUeFsm_rxResetFromMme, sgsUeFsm_rxResetFromMme]
        split
        · rfl
        · rfl
      rw [foldl_cons, step, ih]
      rfl

/-! ### Start-up -/

/-- The step may write to the records of `scope`, and other associated subscribers keep their rows: what
is left to show is that those of `scope` that are associated have their rows, and that rows that are
new, or that records of `scope` had, have owners. -/
theorem MirrorInv.frame (scope : Nat → Prop) {rest' : List DbSgsAssoc} (inv : MirrorInv cfg rest s)
    (fewer : rest = [] → rest' = []) (coherent : Coherent cfg True False s') (db : Immediate s'.db)
    (others : ∀ q, ¬ scope q → s'.subscr q = s.subscr q)
    (list : ∀ q, ¬ scope q → (q ∈ s'.subscribers ↔ q ∈ s.subscribers))
    (still : ∀ q ∈ s.subscribers, ¬ scope q → (s.subscr q).sgsState = .associated →
      ∀ row ∈ s.db.table (s.subscr q).imsi, RowOf row (s.subscr q) →
        row ∈ s'.db.table (s.subscr q).imsi)
    (associated : ∀ q ∈ s'.subscribers, scope q → (s'.subscr q).sgsState = .associated →
      rest' = [] ∧ HasRow s' q)
    (rows : ∀ imsi, s'.db.table imsi ≠ none → (∀ row ∈ rest', row.imsi ≠ imsi) →
      (∃ q, Owns s' imsi q) ∨ s.db.table imsi ≠ none ∧ (∀ row ∈ rest, row.imsi ≠ imsi) ∧
        ∀ q ∈ s.subscribers, scope q → (s.subscr q).imsi ≠ imsi) : MirrorInv cfg rest' s' where
  coherent := coherent
  db := db
  associated q listed isAssociated := by
    by_cases inside : scope q
    · exact associated q listed inside isAssociated
    · have before := (list q inside).mp listed
      rw [others q inside] at isAssociated
      obtain ⟨none, row, inTable, is⟩ := inv.associated q before isAssociated
      rw [HasRow, others q inside]
      exact ⟨fewer none, row, still q before inside isAssociated row inTable is, is⟩
  rows imsi inTable := by
    by_cases later : ∃ row ∈ rest', row.imsi = imsi
    · exact .inl later
    · rcases rows imsi inTable fun row member has => later ⟨row, member, has⟩ with
        owned | ⟨before, notLater, apart⟩
      · exact .inr owned
      · rcases inv.rows imsi before with ⟨row, member, has⟩ | ⟨q, listed, has, owns⟩
        · exact absurd has (notLater row member)
        · have outside : ¬ scope q := fun inside => apart q listed inside has
          exact .inr ⟨q, (list q outside).mpr listed, by rwa [others q outside],
            by rwa [others q outside]⟩

/-- A new record is not associated. -/
theorem MirrorInv.grow (inv : MirrorInv cfg rest s) (coherent : Coherent cfg True False s')
    (list : s'.subscribers = s.subscribers ++ [s.next])
    (new : (s'.subscr s.next).sgsState ≠ .associated)
    (others : ∀ q, q ≠ s.next → s'.subscr q = s.subscr q) (db : s'.db = s.db) :
    MirrorInv cfg rest s' := by
  refine inv.frame (· = s.next) id coherent (db ▸ inv.db) others ?_
    (fun q _ _ _ row inTable _ => db ▸ inTable) ?_ ?_
  · intro q other
    simp [list, other]
  · rintro q - rfl associated
    exact absurd associated new
  · intro imsi inTable later
    refine .inr ⟨db ▸ inTable, later, ?_⟩
    rintro q listed rfl -
    exact Nat.lt_irrefl _ (inv.coherent.live _ listed)

theorem MirrorInv.findOrCreateByImsi (inv : MirrorInv cfg rest s) (clocks : Clocks)
    (fits : imsi.length ≤ imsiMaxDigits)
    (result : vlrSubscrFindOrCreateByImsi cfg clocks s imsi = (s', p)) :
    MirrorInv cfg rest s' ∧ p ∈ s'.subscribers ∧ (s'.subscr p).imsi = imsi ∧
      ((s'.subscr p).luComplete = true → vlrSubscrFindByImsi cfg s imsi = some p ∧ s' = s) := by
  obtain ⟨moves, listed, -⟩ := inv.coherent.findOrCreateByImsi clocks (fun _ => fits) result
  cases found : vlrSubscrFindByImsi cfg s imsi with
  | some q =>
      simp only [vlrSubscrFindOrCreateByImsi, found] at result
      obtain ⟨rfl, rfl⟩ := Prod.mk.inj result
      exact ⟨inv, listed, (inv.coherent.of_findByImsi found).2.1, fun _ => ⟨rfl, rfl⟩⟩
  | none =>
      obtain ⟨s'', created, list, new, others, db⟩ :=
        findOrCreateByImsi_new inv.coherent clocks found
      obtain ⟨rfl, rfl⟩ := Prod.mk.inj (result.symm.trans created)
      refine ⟨inv.grow (inv.coherent.moves moves) list ?_ others db, listed, ?_, ?_⟩
      · simp [new]
      · rw [new, take_of_length_le fits]
      · simp [new]

/-- One row is restored into a record, or deleted. -/
theorem MirrorInv.restoreOne {row : DbSgsAssoc} (inv : MirrorInv cfg (row :: rest) s) (clocks : Clocks)
    (fits : row.imsi.length ≤ imsiMaxDigits) (named : row.imsi ≠ []) :
    MirrorInv cfg rest (sgsRestoreOne cfg clocks s row) := by
  have coherent : Coherent cfg True False (sgsRestoreOne cfg clocks s row) :=
    inv.coherent.restoreOne clocks fits False.elim
  by_cases expired : 0 < row.expireUnix ∧ row.expireUnix ≤ clocks.realtime
  · have deleted : sgsRestoreOne cfg clocks s row =
        { s with db := { s.db with table := Function.update s.db.table row.imsi none } } := by
      rw [sgsRestoreOne, if_pos expired, dbSgsAssocDelete, if_neg named]
    rw [deleted] at coherent ⊢
    refine inv.frame (fun _ => False) (by simp) coherent
      { inv.db with named := by simpa [named.symm] using inv.db.named } (fun _ _ => rfl)
      (fun _ _ => .rfl) ?_ (by simp) ?_
    · intro q listed _ associated
      cases (inv.associated q listed associated).1
    · intro imsi inTable later
      have other : row.imsi ≠ imsi := by
        rintro rfl
        exact inTable (by simp)
      exact .inr ⟨by simpa [other.symm] using inTable, forall_mem_cons.mpr ⟨other, later⟩, by simp⟩
  · obtain ⟨s₁, p, result⟩ : ∃ s₁ p, vlrSubscrFindOrCreateByImsi cfg clocks s row.imsi = (s₁, p) :=
      ⟨_, _, rfl⟩
    obtain ⟨inv₁, listed, has, -⟩ := inv.findOrCreateByImsi clocks fits result
    have step := sgsRestoreOne_eq expired result
    obtain ⟨touches, ⟨imsi, null, unconfirmed, complete⟩, -⟩ := restored_subscr step.symm
    refine inv₁.frame (· = p) (by simp) coherent (touches.db ▸ inv₁.db) touches.others
      (fun q _ => by rw [touches.subscribers]) (fun q _ _ _ row inTable _ => touches.db ▸ inTable) ?_ ?_
    · rintro q - rfl associated
      cases null.symm.trans associated
    · intro imsi' inTable later
      by_cases own : row.imsi = imsi'
      · exact .inl ⟨p, touches.subscribers ▸ listed, imsi.trans (has.trans own), .inr unconfirmed,
          complete⟩
      · refine .inr ⟨touches.db ▸ inTable, forall_mem_cons.mpr ⟨own, later⟩, ?_⟩
        rintro q - rfl same
        exact own (has.symm.trans same)

/-- Once all rows are restored, every row has its record. -/
theorem mirrorInv_restored {clocks : DbSgsAssoc → Clocks} {rows : SgsRows} {db : PersistState}
    (persist : db.cfg.vlrPersist = true) (immediate : db.cfg.vlrPersistBatchSec = 0)
    (nothingWaits : db.pending = []) (lists : rows.Lists db.table) :
    MirrorInv cfg [] (sgsIfaceRestoreAssocs cfg clocks rows { db := db }) := by
  have reload : ∀ (rest : List DbSgsAssoc) (s : Store), MirrorInv cfg rest s →
      (∀ row ∈ rest, row.imsi ≠ [] ∧ row.imsi.length ≤ imsiMaxDigits) →
      MirrorInv cfg [] (rest.foldl (fun s row => sgsRestoreOne cfg (clocks row) s row) s) := by
    intro rest
    induction rest with
    | nil => exact fun s inv _ => inv
    | cons row rest ih =>
        intro s inv valid
        obtain ⟨named, fits⟩ := valid row mem_cons_self
        refine ih _ (inv.restoreOne (clocks row) fits named) ?_
        exact fun next member => valid next (mem_cons_of_mem _ member)
  have empty : MirrorInv cfg rows.rows { db := db } :=
    { coherent := coherent_init db.cfg db.table |>.withDb db
      db := by
        refine ⟨persist, immediate, nothingWaits, ?_⟩
        by_contra inTable
        obtain ⟨row, inTable⟩ := Option.ne_none_iff_exists'.mp inTable
        obtain ⟨member, unnamed⟩ := (lists [] row).mp inTable
        exact rows.named row member unnamed
      associated := nofun
      rows := by
        intro imsi inTable
        obtain ⟨row, inTable⟩ := Option.ne_none_iff_exists'.mp inTable
        obtain ⟨member, has⟩ := (lists imsi row).mp inTable
        exact .inl ⟨row, member, has⟩ }
  unfold sgsIfaceRestoreAssocs
  rw [if_pos persist]
  exact reload rows.rows _ empty fun row member => ⟨rows.named row member, rows.fits row member⟩

/-! ### Operations -/

section

variable (inv : MirrorInv cfg [] s)
include inv

theorem MirrorInv.touch (touches : Touches p s s') (coherent : Coherent cfg True False s')
    (imsi : (s'.subscr p).imsi = (s.subscr p).imsi)
    (associated : p ∈ s.subscribers → (s'.subscr p).sgsState = .associated → HasRow s' p)
    (row : p ∈ s.subscribers → s.db.table (s.subscr p).imsi ≠ none →
      (s'.subscr p).MayPage ∧ (s'.subscr p).luComplete = true) : MirrorInv cfg [] s' := by
  refine inv.frame (· = p) id coherent (touches.db ▸ inv.db) touches.others
    (fun q _ => by rw [touches.subscribers]) (fun q _ _ _ row inTable _ => touches.db ▸ inTable) ?_ ?_
  · rintro q listed rfl isAssociated
    exact ⟨rfl, associated (touches.subscribers ▸ listed) isAssociated⟩
  · intro imsi' inTable later
    rw [touches.db] at inTable
    by_cases own : p ∈ s.subscribers ∧ (s.subscr p).imsi = imsi'
    · obtain ⟨listed, has⟩ := own
      exact .inl ⟨p, touches.subscribers ▸ listed, imsi.trans has, row listed (has ▸ inTable)⟩
    · refine .inr ⟨inTable, later, ?_⟩
      rintro q listed rfl has
      exact own ⟨listed, has⟩

/-- A record without a row may be freed. -/
theorem MirrorInv.free (noRow : p ∈ s.subscribers → s.db.table (s.subscr p).imsi = none) :
    MirrorInv cfg [] (vlrSubscrFree s p) := by
  have freed : Touches p (delist s p) (vlrSubscrFree s p) := .setLuComplete _ p false
  have db : (vlrSubscrFree s p).db = s.db := freed.db
  refine inv.frame (· = p) id (inv.coherent.free p) (db ▸ inv.db) freed.others ?_
    (fun q _ _ _ row inTable _ => db ▸ inTable) ?_ ?_
  · intro q other
    simp [subscribers_free, other]
  · rintro q listed rfl
    simp [subscribers_free] at listed
  · intro imsi inTable later
    rw [db] at inTable
    refine .inr ⟨inTable, later, ?_⟩
    rintro q listed rfl has
    exact inTable (has ▸ noRow listed)

/-- The row of a subscriber that is not associated is deleted. -/
theorem MirrorInv.forget (imsi : Digits)
    (unassociated : ∀ q ∈ s.subscribers, (s.subscr q).imsi = imsi →
      (s.subscr q).sgsState ≠ .associated) :
    MirrorInv cfg [] { s with db := sgsVlrPersistForget s.db imsi } := by
  by_cases unnamed : imsi = []
  · have same : sgsVlrPersistForget s.db imsi = s.db := by simp [sgsVlrPersistForget, unnamed]
    rwa [same]
  · have db : sgsVlrPersistForget s.db imsi =
        { s.db with table := Function.update s.db.table imsi none } := by
      simp [sgsVlrPersistForget, inv.db.persist, inv.db.immediate, unnamed, dbSgsAssocDelete]
    rw [db]
    refine inv.frame (fun q => (s.subscr q).imsi = imsi) id (inv.coherent.withDb _)
      { inv.db with named := by simpa [Ne.symm unnamed] using inv.db.named } (fun _ _ => rfl)
      (fun _ _ => .rfl) ?_ ?_ ?_
    · intro q _ other _ row inTable _
      simpa [other] using inTable
    · exact fun q listed has associated => absurd associated (unassociated q listed has)
    · intro imsi' inTable later
      have other : imsi' ≠ imsi := by
        rintro rfl
        exact inTable (by simp)
      exact .inr ⟨by simpa [other] using inTable, later,
        fun q _ own has => other (has.symm.trans own)⟩

theorem MirrorInv.forgetMme (mmeName : String)
    (unassociated : mmeName ≠ "" → ∀ q ∈ s.subscribers, (s.subscr q).mmeName = mmeName →
      (s.subscr q).sgsState ≠ .associated) :
    MirrorInv cfg [] { s with db := sgsVlrPersistForgetMme s.db mmeName } := by
  by_cases unnamed : mmeName = ""
  · have same : sgsVlrPersistForgetMme s.db mmeName = s.db := by
      simp [sgsVlrPersistForgetMme, unnamed]
    rwa [same]
  · have db : sgsVlrPersistForgetMme s.db mmeName =
        { s.db with table := fun imsi =>
            (s.db.table imsi).filter fun row => row.mmeName ≠ mmeName } := by
      simp [sgsVlrPersistForgetMme, inv.db.persist, inv.db.immediate, unnamed, dbSgsAssocDeleteMme]
    rw [db]
    refine inv.frame (fun _ => False) id (inv.coherent.withDb _)
      { inv.db with named := by simp [inv.db.named] } (fun _ _ => rfl) (fun _ _ => .rfl) ?_ (by simp) ?_
    · intro q listed _ associated row inTable is
      have other : row.mmeName ≠ mmeName := by
        rw [is.2.2.1]
        exact fun same => unassociated unnamed q listed same associated
      simp [Option.mem_def.mp inTable, Option.filter, other]
    · intro imsi inTable later
      refine .inr ⟨fun missing => inTable ?_, later, by simp⟩
      simp [missing]

/-- The record is not attached any more; it has no row. -/
theorem MirrorInv.markDetached (unassociated : (s.subscr p).sgsState ≠ .associated)
    (noRow : s.db.table (s.subscr p).imsi = none) : MirrorInv cfg [] (s.markDetached p) := by
  obtain ⟨attached, count, eq⟩ := markDetached_eq s p
  refine inv.touch (.markDetached s p) (inv.coherent.markDetached p) (imsi_markDetached s p p) ?_ ?_
  · intro _ associated
    rw [eq] at associated
    exact absurd (by simpa [Store.write] using associated) unassociated
  · exact fun _ row => absurd noRow row

theorem MirrorInv.findOrCreateByTmsi (clocks : Clocks) (tmsi : Nat) :
    MirrorInv cfg [] (vlrSubscrFindOrCreateByTmsi cfg clocks s tmsi).1 := by
  have coherent := inv.coherent.moves (inv.coherent.findOrCreateByTmsi clocks tmsi)
  unfold vlrSubscrFindOrCreateByTmsi at coherent ⊢
  cases found : vlrSubscrFindByTmsi cfg s tmsi with
  | some q => exact inv
  | none =>
      simp only [found] at coherent
      refine inv.grow coherent rfl ?_ ?_ rfl
      · simp [vlrSubscrAlloc]
      · intro q other
        simp [vlrSubscrAlloc, Store.write, other]

theorem MirrorInv.onSubscr {f : Store → Nat → Store}
    (keeps : p ∈ s.subscribers → MirrorInv cfg [] (f s p)) : MirrorInv cfg [] (onSubscr s p f) := by
  unfold Vlr.onSubscr
  split
  · rename_i listed
    exact keeps listed
  · exact inv

section

variable (listed : p ∈ s.subscribers)
include listed

theorem MirrorInv.of_row (row : s.db.table (s.subscr p).imsi ≠ none) :
    (s.subscr p).MayPage ∧ (s.subscr p).luComplete = true := by
  obtain ⟨q, listedq, has, pages, complete⟩ := inv.owner row
  have named : (s.subscr q).imsi ≠ [] := by
    intro unnamed
    rw [← has, unnamed] at row
    exact row inv.db.named
  obtain rfl := inv.coherent.imsiUnique trivial q listedq p listed named has
  exact ⟨pages, complete⟩

theorem MirrorInv.same (touches : Touches p s s') (coherent : Coherent cfg True False s')
    (same : StaysMirrored (s.subscr p) (s'.subscr p)) : MirrorInv cfg [] s' := by
  refine inv.touch touches coherent same.imsi ?_ ?_
  · intro _ associated
    rw [same.sgsState] at associated
    obtain ⟨row, inTable, is⟩ := inv.hasRow listed associated
    refine ⟨row, ?_, same.row associated row is⟩
    rwa [touches.db, same.imsi]
  · intro _ row
    obtain ⟨pages, complete⟩ := inv.of_row listed row
    rw [Vsub.MayPage, same.sgsState, same.conf]
    exact ⟨pages, same.luComplete complete⟩

theorem MirrorInv.write {f : Vsub → Vsub} (ids : (f (s.subscr p)).SameIds (s.subscr p))
    (same : StaysMirrored (s.subscr p) (f (s.subscr p))) : MirrorInv cfg [] (s.write p f) := by
  refine inv.same listed (.write s p f) (inv.coherent.write ids) ?_
  rwa [write_subscr_self]

theorem MirrorInv.leaves (leaves : Leaves cfg p s s') : MirrorInv cfg [] s' := by
  refine inv.touch leaves.touches leaves.coherent leaves.imsi ?_ fun _ row => ⟨?_, ?_⟩
  · exact fun _ associated => absurd associated leaves.state.unassociated
  · rcases leaves.state with pres | ⟨-, unconfirmed⟩
    · exact .inl (by simp [pres])
    · exact .inr unconfirmed
  · rw [leaves.complete]
    exact (inv.of_row listed row).2

theorem MirrorInv.toNull : MirrorInv cfg [] (toNull cfg s p) :=
  inv.leaves listed (.toNull inv.coherent listed)

/-- A record that has not completed a location update has no row. -/
theorem MirrorInv.noRow (incomplete : (s.subscr p).luComplete = false) :
    s.db.table (s.subscr p).imsi = none := by
  by_contra row
  have complete := (inv.of_row listed row).2
  rw [incomplete] at complete
  exact Bool.false_ne_true complete

/-- A location update starts, be it that the MME and the PLMN were written to the record before. -/
theorem MirrorInv.performLu (env : SgsEnv)
    (uses : (s'.subscr p).unused → (s.subscr p).luComplete = false) (before : Touches p s s')
    (coherent : Coherent cfg True False s') (imsi : (s'.subscr p).imsi = (s.subscr p).imsi)
    (complete : (s'.subscr p).luComplete = (s.subscr p).luComplete) :
    MirrorInv cfg [] (performLu cfg env s' p) ∧
      (p ∈ (Vlr.performLu cfg env s' p).subscribers →
        ((Vlr.performLu cfg env s' p).subscr p).Left) := by
  obtain ⟨s₁, leaves, result⟩ := performLu_cases coherent (before.subscribers ▸ listed) env
  have leaves := leaves.after before imsi complete
  have inv₁ : MirrorInv cfg [] s₁ := inv.leaves listed leaves
  rcases result with result | ⟨frees, result⟩
  · rw [result]
    exact ⟨inv₁, fun _ => leaves.state⟩
  · rw [result]
    refine ⟨inv₁.free fun listed₁ => inv₁.noRow listed₁ ?_, fun stays => ?_⟩
    · rw [leaves.complete]
      exact uses frees
    · rw [subscribers_free] at stays
      simp at stays

theorem MirrorInv.keepIncompleteExpiry (clocks : Clocks) :
    MirrorInv cfg [] (vlrSubscrKeepIncompleteExpiry clocks s p) := by
  refine inv.same listed (.keepIncompleteExpiry clocks s p)
    (inv.coherent.move (.keepIncompleteExpiry clocks)) ?_
  simp only [vlrSubscrKeepIncompleteExpiry, write_subscr_self]
  split
  · exact ⟨rfl, rfl, rfl, id, fun _ _ => id⟩
  · exact ⟨rfl, rfl, rfl, id, fun _ _ => id⟩

/-- A step of the SGs machine, apart from the acceptance of a location update. -/
theorem MirrorInv.sgsUeFsm (env : SgsEnv) {event : SgsUeEvent} (noAccept : event ≠ .txLuAccept)
    (noTmsi : event = .rxTmsiRealloc → NoTmsiConfirmed s p)
    (answered : event = .rxServiceReq → (s.subscr p).sgsState = .null → HasRow s p)
    (uses : event = .rxLuFromMme → (s.subscr p).unused → (s.subscr p).luComplete = false) :
    MirrorInv cfg [] (sgsUeFsm cfg env s p event) := by
  have toNull := inv.toNull listed
  unfold Vlr.sgsUeFsm
  split
  · exact inv
  · rename_i accepted
    split
    · simpa [Vlr.sgsUeFsm, accepted] using inv.leaves listed (.detachInd inv.coherent listed env false)
    · simpa [Vlr.sgsUeFsm, accepted] using inv.leaves listed (.detachInd inv.coherent listed env true)
    · exact toNull
    · exact toNull
    · exact toNull
    · split
      · rename_i null
        unfold sgsUeFsmNull
        split
        · exact (inv.performLu listed env (uses rfl) (.refl p s) inv.coherent rfl rfl).1
        · obtain ⟨row, inTable, is⟩ := answered rfl null
          refine inv.touch ((Touches.write s p _).trans (.write _ p _)) ?_ ?_ ?_ ?_
          · exact Coherent.write (inv.coherent.write ⟨rfl, rfl, rfl⟩) ⟨rfl, rfl, rfl⟩
          · simp [sgsStateChg]
          · intro _ _
            refine ⟨row, ?_, ?_⟩
            · simpa [sgsStateChg, Store.write] using inTable
            · simpa [sgsStateChg, RowOf] using is
          · intro _ row
            have complete := (inv.of_row listed row).2
            exact ⟨.inl (by simp [sgsStateChg]), by simpa [sgsStateChg] using complete⟩
        · exact inv
      · unfold sgsUeFsmLauPresent
        split
        · exact absurd rfl noAccept
        · split
          · exact inv
          · exact toNull
        · exact toNull
        · exact toNull
        · exact inv
      · rename_i associated
        unfold sgsUeFsmAssociated
        split
        · rw [if_pos (noTmsi rfl associated)]
          exact inv.write listed ⟨rfl, rfl, rfl⟩ ⟨rfl, associated.symm, rfl, id, fun _ _ => id⟩
        · split
          · exact inv
          · exact toNull
        · exact toNull
        · exact (inv.performLu listed env (uses rfl) (.refl p s) inv.coherent rfl rfl).1
        · exact inv

theorem MirrorInv.sgsUeFsmTimerCb
    (noTmsi : (s.subscr p).sgsState = .associated → (s.subscr p).ts62 = true →
      (s.subscr p).tmsi = gsmReservedTmsi) : MirrorInv cfg [] (sgsUeFsmTimerCb cfg s p) := by
  unfold Vlr.sgsUeFsmTimerCb
  split
  · rename_i runs
    refine inv.same listed ((Touches.write s p _).trans (.rehashTmsi cfg _ p))
      (inv.coherent.move (.dropTmsi listed rfl ⟨rfl, rfl⟩ rfl (.inr rfl))) ?_
    rw [rehashTmsi_subscr, write_subscr_self]
    refine ⟨rfl, rfl, rfl, id, fun associated row is => ?_⟩
    exact ⟨is.1, is.2.1.trans (noTmsi associated runs), is.2.2⟩
  · exact inv

/-- The record becomes associated and its row is written. -/
theorem MirrorInv.upsert (clocks : Clocks) (touches : Touches p s s')
    (coherent : Coherent cfg True False s') (imsi : (s'.subscr p).imsi = (s.subscr p).imsi)
    (complete : (s'.subscr p).luComplete = true)
    (associated : (s'.subscr p).sgsState = .associated) (named : (s'.subscr p).imsi ≠ [])
    (mme : (s'.subscr p).mmeName ≠ "") :
    MirrorInv cfg [] { s' with db := sgsVlrPersistVsub s'.db clocks (s'.subscr p).toSgsVsub } := by
  have db : sgsVlrPersistVsub s'.db clocks (s'.subscr p).toSgsVsub =
      { s.db with
        table := Function.update s.db.table (s'.subscr p).imsi
          (some (dbSgsAssocFromVsub clocks (s'.subscr p).toSgsVsub)) } := by
    simp [sgsVlrPersistVsub, touches.db, inv.db.persist, inv.db.immediate, named, mme,
      dbSgsAssocUpsertRow, dbSgsAssocFromVsub]
  rw [db]
  refine inv.frame (· = p) id (coherent.withDb _)
    { inv.db with named := by simpa [named.symm] using inv.db.named } touches.others
    (fun q _ => by simp [touches.subscribers]) ?_ ?_ ?_
  · intro q listedq here _ row inTable _
    have other : (s.subscr q).imsi ≠ (s'.subscr p).imsi := by
      intro same
      have namedq : (s.subscr q).imsi ≠ [] := same ▸ named
      exact here (inv.coherent.imsiUnique trivial q listedq p listed namedq (same.trans imsi))
    simpa [other] using inTable
  · rintro q - rfl -
    exact ⟨rfl, _, Function.update_self _ _ _, rfl, rfl, rfl, rfl⟩
  · intro imsi' inTable later
    by_cases own : imsi' = (s'.subscr p).imsi
    · exact .inl ⟨p, touches.subscribers ▸ listed, own.symm, .inl (by simp [associated]), complete⟩
    · refine .inr ⟨by simpa [own] using inTable, later, ?_⟩
      rintro q - rfl has
      exact own (has.symm.trans imsi.symm)

theorem MirrorInv.accSent (env : SgsEnv) (state : (s.subscr p).sgsState = .laUpdPres)
    (named : (s.subscr p).imsi ≠ []) (mme : (s.subscr p).mmeName ≠ "") :
    MirrorInv cfg [] (vlrSgsLocUpdateAccSent cfg env s p) := by
  have coherent := inv.coherent.moves (inv.coherent.sgsUeFsm listed env .txLuAccept)
  unfold vlrSgsLocUpdateAccSent
  generalize step : Vlr.sgsUeFsm cfg env s p .txLuAccept = s' at coherent ⊢
  obtain ⟨touches, imsi, mmeName, complete, associated⟩ := sgsUeFsm_txLuAccept state step
  -- Whatever the expiry is set to, the mirror does not read it.
  have written : ∀ expiry : Vsub → Option Int,
      MirrorInv cfg []
        { s'.write p (fun vsub => { vsub with expireLu := expiry vsub }) with
          db := sgsVlrPersistVsub s'.db env.clocks
            ((s'.write p fun vsub => { vsub with expireLu := expiry vsub }).subscr p).toSgsVsub } := by
    intro expiry
    refine inv.upsert listed env.clocks (touches.trans (.write s' p _))
      (coherent.write ⟨rfl, rfl, rfl⟩) ?_ ?_ ?_ ?_ ?_
    · rw [write_subscr_self]
      exact imsi
    · rw [write_subscr_self]
      exact complete
    · rw [write_subscr_self]
      exact associated
    · rw [write_subscr_self]
      exact imsi ▸ named
    · rw [write_subscr_self]
      exact mmeName ▸ mme
  split
  · exact written _
  · split
    · exact written _
    · exact written _

theorem MirrorInv.setImsi (env : DedupEnv) (may : MayTakeImsi s p imsi) :
    MirrorInv cfg [] (vlrSubscrSetImsi cfg env s p imsi) := by
  obtain ⟨fits, same | ⟨noRow, noRow'⟩⟩ := may
  · rwa [setImsi_eq, if_pos same]
  · have coherent := inv.coherent.moves (inv.coherent.setImsi listed env fun _ => fits).1
    have within := setImsi_within inv.coherent env p imsi
    -- Nobody whom the step may touch has a row.
    have outside : ∀ q, s.db.table (s.subscr q).imsi ≠ none →
        ¬ (q = p ∨ (s.subscr q).imsi = imsi) := by
      rintro q row (rfl | has)
      · exact row noRow
      · exact row (has ▸ noRow')
    refine inv.frame (fun q => q = p ∨ (s.subscr q).imsi = imsi) id coherent
      (within.db ▸ inv.db) within.others ?_ (fun q _ _ _ row inTable _ => within.db ▸ inTable) ?_ ?_
    · exact fun q apart => ⟨within.before q, within.kept q apart⟩
    · intro q listedq inside associated
      rw [within.state q] at associated
      obtain ⟨row, inTable, -⟩ := inv.hasRow (within.before q listedq) associated
      exact absurd inside (outside q (Option.ne_none_iff_exists'.mpr ⟨row, inTable⟩))
    · intro imsi' inTable later
      rw [within.db] at inTable
      exact .inr ⟨inTable, later, fun q _ inside has => outside q (has ▸ inTable) inside⟩

theorem MirrorInv.rxIdResp (env : DedupEnv) (waiter : IdWaiter) (may : MayTakeImsi s p imsi) :
    MirrorInv cfg [] (vlrSubscrRxIdResp cfg env waiter s p imsi) := by
  have set := inv.setImsi listed env may
  obtain ⟨-, kept, has⟩ := inv.coherent.setImsi listed env fun _ => may.1
  rw [take_of_length_le may.1] at has
  by_cases differs : (s.subscr p).imsi ≠ [] ∧ !vlrSubscrMatchesImsi (s.subscr p) imsi
  · unfold vlrSubscrRxIdResp
    simp only [if_pos differs]
    cases waiter with
    | auth =>
        unfold Store.authFsmWaitImsi
        rw [if_pos differs]
        exact inv
    | lu => exact set
    | nobody => exact inv
  · unfold vlrSubscrRxIdResp
    simp only [if_neg differs]
    generalize vlrSubscrSetImsi cfg env s p imsi = s' at set kept has
    cases waiter with
    | auth =>
        simp only [Store.authFsmWaitImsi]
        split
        · exact set
        · refine set.same kept (.write _ p _) (set.coherent.write ⟨?_, rfl, rfl⟩) ?_
          · exact (take_of_length_le may.1).trans has.symm
          · rw [write_subscr_self]
            have imsi := (take_of_length_le may.1).trans has.symm
            exact ⟨imsi, rfl, rfl, id, fun _ _ is => ⟨is.1.trans imsi.symm, is.2⟩⟩
    | lu =>
        simp only [setImsi_eq, if_pos has]
        exact set
    | nobody => exact set

theorem MirrorInv.expire (unassociated : (s.subscr p).sgsState ≠ .associated) :
    MirrorInv cfg [] (vlrSubscrExpire s p) := by
  unfold vlrSubscrExpire
  split
  · by_cases unnamed : (s.subscr p).imsi = []
    · rw [if_pos unnamed]
      exact inv.markDetached unassociated (unnamed ▸ inv.db.named)
    · rw [if_neg unnamed]
      have owner : ∀ q ∈ s.subscribers, (s.subscr q).imsi = (s.subscr p).imsi →
          (s.subscr q).sgsState ≠ .associated := by
        intro q listedq same
        obtain rfl := inv.coherent.imsiUnique trivial q listedq p listed (same ▸ unnamed) same
        exact unassociated
      refine (inv.forget (s.subscr p).imsi owner).markDetached unassociated ?_
      simp [sgsVlrPersistForget, inv.db.persist, inv.db.immediate, unnamed, dbSgsAssocDelete]
  · exact inv

/-- A location update on A or Iu is complete. -/
theorem MirrorInv.markAttached : MirrorInv cfg [] (s.markAttached p) := by
  obtain ⟨attached, count, eq⟩ := markAttached_eq s p
  have record : (s.markAttached p).subscr p =
      { s.subscr p with luComplete := true, attached := attached } := by
    rw [eq]
    simp [Store.write]
  refine inv.same listed (.markAttached s p) (inv.coherent.markAttached p) ?_
  rw [record]
  exact ⟨rfl, rfl, rfl, fun _ => rfl, fun _ _ => id⟩

theorem MirrorInv.luResponse (env : SgsEnv) (accepted : Bool)
    (ok : accepted = true → (s.subscr p).imsi ≠ [] ∧ (s.subscr p).mmeName ≠ "") :
    MirrorInv cfg [] (sgsTxLocUpdRespCb cfg env accepted s p) := by
  unfold sgsTxLocUpdRespCb
  split
  · exact inv
  · rename_i pres
    have pres : (s.subscr p).sgsState = .laUpdPres := by simpa using pres
    split
    · rename_i isAccepted
      exact inv.accSent listed env pres (ok isAccepted).1 (ok isAccepted).2
    · exact inv.sgsUeFsm listed env nofun nofun nofun nofun

theorem MirrorInv.radioContact
    (ok : (s.subscr p).sgsState = .null → s.db.table (s.subscr p).imsi = none) :
    MirrorInv cfg [] (confirmByRadioContact s p) := by
  unfold confirmByRadioContact
  refine inv.touch (.write s p _) (inv.coherent.write ⟨rfl, rfl, rfl⟩) ?_ ?_ ?_
  · rw [write_subscr_self]
  · intro _ associated
    rw [write_subscr_self] at associated
    obtain ⟨row, inTable, is⟩ := inv.hasRow listed associated
    refine ⟨row, ?_, ?_⟩
    · rwa [write_subscr_self]
    · rwa [write_subscr_self]
  · intro _ row
    have complete := (inv.of_row listed row).2
    rw [write_subscr_self]
    exact ⟨.inl fun null => row (ok null), complete⟩

end

/-- A record that is not associated may be moved. -/
theorem MirrorInv.relocate (left : p ∈ s.subscribers → (s.subscr p).Left) (lai : LocationAreaId)
    (expiry : Vsub → Option Int) :
    MirrorInv cfg [] (s.write p fun vsub => { vsub with lai := lai, expireLu := expiry vsub }) := by
  refine inv.touch (.write s p _) (inv.coherent.write ⟨rfl, rfl, rfl⟩) ?_ ?_ ?_
  · rw [write_subscr_self]
  · intro listed associated
    rw [write_subscr_self] at associated
    exact absurd associated (left listed).unassociated
  · intro listed row
    obtain ⟨pages, complete⟩ := inv.of_row listed row
    rw [write_subscr_self]
    exact ⟨pages, complete⟩

theorem MirrorInv.locUpdate (env : SgsEnv) (mmeName : String) (lai : LocationAreaId)
    (lastEutranPlmn : Option PlmnId) (fits : imsi.length ≤ imsiMaxDigits)
    (uses : ∀ p ∈ vlrSubscrFindByImsi cfg s imsi,
      (s.subscr p).unused → (s.subscr p).luComplete = false) :
    MirrorInv cfg [] (vlrSgsLocUpdate cfg env s imsi mmeName lai lastEutranPlmn) := by
  unfold vlrSgsLocUpdate
  split
  rename_i s₁ p result
  obtain ⟨inv₁, listed, has, known⟩ := inv.findOrCreateByImsi env.clocks fits result
  have uses₁ : (s₁.subscr p).unused → (s₁.subscr p).luComplete = false := by
    intro unused
    by_contra complete
    obtain ⟨found, rfl⟩ := known (by simpa using complete)
    exact complete (uses p found unused)
  split
  · exact inv₁
  · rename_i idle
    rw [setImsi_eq, if_pos has]
    extract_lets s₀ s₂ s₃
    have names : s₂ = s₁.write p fun vsub =>
      { vsub with
        lastEutranPlmnPresent := lastEutranPlmn.isSome
        lastEutranPlmn := lastEutranPlmn.getD vsub.lastEutranPlmn
        mmeName := mmeName } := rfl
    have idle₂ : (s₂.subscr p).sgsState ≠ .laUpdPres := by simpa [names] using idle
    have starts : s₃ = Vlr.performLu cfg env s₂ p := sgsUeFsm_rxLuFromMme idle₂
    have coherent₂ : Coherent cfg True False s₂ := inv₁.coherent.write ⟨rfl, rfl, rfl⟩
    obtain ⟨inv₃, left⟩ := inv₁.performLu listed env (by simpa [names, Vsub.unused] using uses₁)
      (.write s₁ p _) coherent₂ (by simp) (by simp)
    rw [starts]
    exact inv₃.relocate left lai _

theorem MirrorInv.imsiDetach (env : SgsEnv) (imsi : Digits) (implicit fromUe : Bool) :
    MirrorInv cfg [] (vlrSgsImsiDetach cfg env s imsi implicit fromUe) := by
  unfold vlrSgsImsiDetach
  split
  · exact inv
  · rename_i p found
    split
    · exact inv
    · have listed := (inv.coherent.of_findByImsi found).1
      have leaves := Leaves.detachInd inv.coherent listed env fromUe
      exact (inv.leaves listed leaves).expire (leaves.touches.subscribers ▸ listed)
        leaves.state.unassociated

theorem MirrorInv.epsDetach (env : SgsEnv) (imsi : Digits) (fromUe : Bool) :
    MirrorInv cfg [] (vlrSgsEpsDetach cfg env s imsi fromUe) := by
  unfold vlrSgsEpsDetach
  split
  · exact inv
  · rename_i p found
    obtain ⟨listed, has, named⟩ := inv.coherent.of_findByImsi found
    have leaves := Leaves.detachInd inv.coherent listed env fromUe
    extract_lets s' s''
    have expires : Leaves cfg p s s'' := by
      simp only [s'', vlrSubscrEnableExpireLu]
      split
      · exact leaves.setExpiry _
      · exact leaves
    have inv'' := inv.leaves listed expires
    refine inv''.forget imsi fun q listedq hasq => ?_
    have listed'' : p ∈ s''.subscribers := expires.touches.subscribers ▸ listed
    obtain rfl := inv''.coherent.imsiUnique trivial q listedq p listed'' (hasq ▸ named)
      (hasq.trans (expires.imsi.trans has).symm)
    exact expires.state.unassociated

theorem MirrorInv.resetSubscrs (env : SgsEnv) (mmeName : String)
    (listed : ∀ p ∈ ps, p ∈ s.subscribers) :
    MirrorInv cfg [] (ps.foldl (Vlr.resetSubscr cfg env mmeName) s) := by
  induction ps generalizing s with
  | nil => exact inv
  | cons p ps ih =>
      refine ih (s := Vlr.resetSubscr cfg env mmeName s p) ?_ fun q member => ?_
      · unfold Vlr.resetSubscr
        split
        · exact inv
        · rw [sgsUeFsm_rxResetFromMme]
          exact inv.toNull (listed p mem_cons_self)
      · rw [(Resets.resetSubscr p).attach.subscribers]
        exact listed q (mem_cons_of_mem _ member)

/-- The rows of an MME that has failed go, and so do its associations. -/
theorem MirrorInv.rxResetInd (env : SgsEnv) (mme : Option String) :
    MirrorInv cfg [] (sgsRxResetInd cfg env s mme) := by
  cases mme with
  | none => exact inv.resetSubscrs env "" fun _ listed => listed
  | some fqdn =>
      have inv' := inv.resetSubscrs env fqdn fun _ listed => listed
      have resets : Resets fqdn s.subscribers s (s.subscribers.foldl (Vlr.resetSubscr cfg env fqdn) s) :=
        resets_vlrSgsResetMme s
      simp only [sgsRxResetInd, vlrSgsResetMme, resetSubscrs_withDb]
      rw [← resets.db]
      refine inv'.forgetMme fqdn fun _ q listed same => ?_
      have null := resets.hit q (resets.attach.subscribers ▸ listed)
        (.inr (by simp [mmeNameEq, ← (resets.names q).2, same]))
      simp [null]

theorem MirrorInv.storeStep (input : StoreInput) (whole : input.Whole)
    (ok : KeepsRows cfg s (.op input whole)) : MirrorInv cfg [] (storeStep cfg s input) := by
  cases input with
  | findOrCreateByImsi clocks imsi => exact (inv.findOrCreateByImsi clocks ok rfl).1
  | findOrCreateByTmsi clocks tmsi => exact inv.findOrCreateByTmsi clocks tmsi
  | setImsi env p imsi =>
      simp only [Vlr.storeStep]
      exact inv.onSubscr fun listed => inv.setImsi listed env ok
  | rxIdResp env waiter p imsi =>
      simp only [Vlr.storeStep]
      exact inv.onSubscr fun listed => inv.rxIdResp listed env waiter ok
  | luNewTmsi rand p =>
      refine inv.onSubscr fun listed => ?_
      unfold Store.luComplVlrNewTmsi
      cases allocated : vlrSubscrAllocTmsi cfg rand s p with
      | none => exact inv
      | some s' =>
          obtain ⟨touches, tmsi, record⟩ := allocTmsi_touches allocated
          refine inv.same listed touches (inv.coherent.moves (inv.coherent.allocTmsi listed allocated).1) ?_
          rw [Option.getD_some, record]
          exact ⟨rfl, rfl, rfl, id, fun _ _ => id⟩
  | luNoTmsi p =>
      refine inv.onSubscr fun listed => ?_
      have coherent : Coherent cfg True False (vlrSubscrRehashTmsi cfg
          (s.write p fun vsub => { vsub with tmsi := gsmReservedTmsi }) p) :=
        inv.coherent.move (.dropTmsi listed rfl ⟨rfl, rfl⟩ rfl (.inl rfl))
      refine MirrorInv.markAttached (inv.same listed ((Touches.write s p _).trans (.rehashTmsi cfg _ p))
        coherent ?_) listed
      rw [rehashTmsi_subscr, write_subscr_self]
      exact ⟨rfl, rfl, rfl, id, fun associated _ is => ⟨is.1, is.2.1.trans (ok associated), is.2.2⟩⟩
  | luTmsiAck p =>
      refine inv.onSubscr fun listed => ?_
      unfold Store.luComplVlrWaitTmsi
      split
      · exact inv
      · rename_i pending
        refine MirrorInv.markAttached (inv.same listed (.confirmTmsi cfg s p)
          (inv.coherent.move (.confirmTmsi listed)) ?_) listed
        rw [confirmTmsi, rehashTmsi_subscr, write_subscr_self]
        exact ⟨rfl, rfl, rfl, id, fun associated => absurd (ok associated) pending⟩
  | sgsEvent env p event =>
      simp only [Vlr.storeStep]
      refine inv.onSubscr fun listed => ?_
      refine inv.sgsUeFsm listed env whole.2.1 ?_ ?_ ?_
      · rintro rfl
        exact ok
      · rintro rfl
        exact ok
      · exact fun lu => absurd lu whole.1
  | sgsTimer p => exact inv.onSubscr fun listed => inv.sgsUeFsmTimerCb listed ok
  | sgsLocUpdate env imsi mmeName lai lastEutranPlmn =>
      exact inv.locUpdate env mmeName lai lastEutranPlmn ok.1 ok.2
  | sgsLocUpdateAccSent _ _ | sgsLocUpdateRejSent _ _ => exact whole.elim
  | sgsTmsiReallCompl env imsi =>
      simp only [Vlr.storeStep, vlrSgsTmsiReallCompl]
      cases found : vlrSubscrFindByImsi cfg s imsi with
      | none => exact inv
      | some p =>
          have listed := (inv.coherent.of_findByImsi found).1
          exact inv.sgsUeFsm listed env (by simp) (fun _ => ok p found) (by simp) (by simp)
  | sgsImsiDetach env imsi implicit fromUe => exact inv.imsiDetach env imsi implicit fromUe
  | sgsEpsDetach env imsi fromUe => exact inv.epsDetach env imsi fromUe
  | expire p => exact inv.onSubscr fun listed => inv.expire listed ok
  | detach env p =>
      refine inv.onSubscr fun listed => ?_
      unfold vlrSubscrDetach
      have leaves := Leaves.detachInd inv.coherent listed env true
      have listed' := leaves.touches.subscribers ▸ listed
      refine ((inv.leaves listed leaves).expire listed'
        leaves.state.unassociated).keepIncompleteExpiry ?_ env.clocks
      rwa [subscribers_expire]
  | free p => exact inv.onSubscr fun listed => inv.free fun listed => inv.noRow listed ok
  | use p count =>
      simp only [Vlr.storeStep]
      refine inv.onSubscr fun listed => ?_
      refine inv.same listed (.write s p _) (inv.coherent.write ⟨rfl, rfl, rfl⟩) ?_
      rw [write_subscr_self]
      exact ⟨rfl, rfl, rfl, id, fun _ _ => id⟩
  | persistForgetMme mmeName => exact whole.elim
  | persistFlush =>
      have same : sgsPersistFlush s.db = { s.db with persistTimer := false } := by
        simp [sgsPersistFlush, inv.db.nothingWaits]
      simp only [Vlr.storeStep, same]
      exact ⟨inv.coherent.withDb _, { inv.db with }, inv.associated, inv.rows⟩
  | restart | restore _ _ => exact whole.elim

theorem MirrorInv.assocStep (input : AssocInput) (ok : KeepsRows cfg s input) :
    MirrorInv cfg [] (assocStep cfg s input) := by
  cases input with
  | op input whole => exact inv.storeStep input whole ok
  | sgsLuResponse env p accepted =>
      refine inv.onSubscr fun listed => inv.luResponse listed env accepted ?_
      rintro rfl
      exact ok
  | radioContact p => exact inv.onSubscr fun listed => inv.radioContact listed ok
  | rxResetInd env mme => exact inv.rxResetInd env mme
  | vlrReset env mmeName =>
      exact inv.resetSubscrs env mmeName fun _ listed => listed
  | start clocks rows =>
      exact mirrorInv_restored inv.db.persist
        inv.db.immediate rfl ok

end

end Record

/-- In every run with a batch time of zero whose steps all meet `KeepsRows`, each associated
subscriber has its row, and each row belongs to a subscriber that may be paged over SGs. -/
theorem assocRun_mirrors (cfg : StoreCfg) (persist : PersistCfg) (table : SgsAssoc)
    (clocks : DbSgsAssoc → Clocks) (rows : SgsRows) (inputs : List AssocInput)
    (enabled : persist.vlrPersist = true) (immediate : persist.vlrPersistBatchSec = 0)
    (lists : rows.Lists table)
    (kept : StepsMeet (assocStep cfg) (KeepsRows cfg) (assocStart cfg persist table clocks rows)
      inputs) :
    Mirrors (inputs.foldl (assocStep cfg) (assocStart cfg persist table clocks rows)) := by
  have start : MirrorInv cfg [] (assocStart cfg persist table clocks rows) :=
    mirrorInv_restored enabled immediate rfl lists
  exact (foldl_invariant (fun s input (inv : MirrorInv cfg [] s) => inv.assocStep input) inputs _ start
    kept).mirrors

section Example

/-- The row of a subscriber that attached before the VLR was restarted. -/
def restoredRow : DbSgsAssoc := { imsi := [0, 0, 1], tmsi := 5, mmeName := "mme1" }

def restoredTable : SgsAssoc := Function.update (fun _ => none) [0, 0, 1] (some restoredRow)

def restoredRows : SgsRows where
  rows := [restoredRow]
  distinct := by decide
  named := by decide
  fits := by decide

theorem restoredRows_lists : restoredRows.Lists restoredTable := by
  intro imsi row
  by_cases own : imsi = [0, 0, 1]
  · subst own
    constructor
    · intro inTable
      obtain rfl : restoredRow = row := by simpa [restoredTable] using inTable
      exact ⟨by decide, rfl⟩
    · rintro ⟨member, -⟩
      obtain rfl : row = restoredRow := mem_singleton.mp member
      simp [restoredTable]
  · constructor
    · intro inTable
      simp [restoredTable, own] at inTable
    · rintro ⟨member, has⟩
      obtain rfl : row = restoredRow := mem_singleton.mp member
      exact absurd has.symm own

/-- A subscriber attaches over SGs. -/
def sgsAttachInputs (p : Nat) (imsi : Digits) : List AssocInput :=
  [.op (.sgsLocUpdate (sgsEnvOf 6) imsi "mme1" {} none) trivial, .sgsLuResponse (sgsEnvOf 6) p true]

/-- The restored subscriber answers a paging, another one attaches, and their MME fails. -/
def mirroredRun : List AssocInput :=
  .op (.sgsEvent (sgsEnvOf 0) 0 .rxServiceReq) ⟨nofun, nofun, nofun⟩ ::
    (sgsAttachInputs 1 [0, 0, 2] ++ [.rxResetInd (sgsEnvOf 0) (some "mme1")])

theorem assocRun_mirrors_mirroredRun :
    Mirrors (mirroredRun.foldl (assocStep chainedCfg)
      (assocStart chainedCfg {} restoredTable (fun _ => (sgsEnvOf 0).clocks) restoredRows)) := by
  refine assocRun_mirrors chainedCfg {} restoredTable (fun _ => (sgsEnvOf 0).clocks) restoredRows
    mirroredRun rfl rfl restoredRows_lists ⟨?_, ⟨?_, ?_⟩, ?_, trivial, trivial⟩
  · exact fun _ => ⟨restoredRow, by decide, by decide⟩
  · decide
  · decide
  · exact ⟨by decide, by decide⟩

/-- The table after an attachment and the given inputs. -/
def afterAttach (inputs : List AssocInput) : Store :=
  (sgsAttachInputs 0 [0, 0, 1] ++ inputs).foldl (assocStep chainedCfg) (storeInit {} fun _ => none)

/-- A reset of the VLR keeps the rows of subscribers that are in SGs-NULL from then on.  A TMSI
REALLOCATION COMPLETE, an expiry by the operator and a SERVICE REQUEST after an EPS detach leave an
associated subscriber without its row; a location update on A leaves the row of a subscriber that is
not paged over SGs any more. -/
theorem rows_fall_behind :
    (let s := afterAttach [.vlrReset (sgsEnvOf 0) "mme1"]
     (s.subscr 0).sgsState = .null ∧ (s.db.table [0, 0, 1]).isSome = true) ∧
    (let s := afterAttach [.op (.sgsTmsiReallCompl (sgsEnvOf 0) [0, 0, 1]) trivial]
     (s.subscr 0).sgsState = .associated ∧ ¬ HasRow s 0) ∧
    (let s := afterAttach [.op (.expire 0) trivial]
     (s.subscr 0).sgsState = .associated ∧ ¬ HasRow s 0) ∧
    (let s := afterAttach [.op (.sgsEpsDetach (sgsEnvOf 0) [0, 0, 1] true) trivial,
      .op (.sgsEvent (sgsEnvOf 0) 0 .rxServiceReq) ⟨nofun, nofun, nofun⟩]
     (s.subscr 0).sgsState = .associated ∧ ¬ HasRow s 0) ∧
    (let s := afterAttach [.op (.sgsEvent (sgsEnvOf 0) 0 .rxLuFromAIuGs) ⟨nofun, nofun, nofun⟩,
      .radioContact 0]
     ¬ ((s.subscr 0).sgsState ≠ .null ∨ (s.subscr 0).confByRadioContactInd = false) ∧
      (s.db.table [0, 0, 1]).isSome = true) := by
  decide +kernel

end Example

/-! ### The rows of a reset -/

/-- The reset selects the subscriber; without the name of an MME it selects everybody. -/
def Selects (mme : Option String) (vsub : Vsub) : Prop :=
  mme.getD "" = "" ∨ mmeNameEq vsub.mmeName (mme.getD "") = true

/-- What a RESET INDICATION does to the records and to the database. -/
theorem resets_sgsRxResetInd {mme : Option String} :
    ∃ s', Resets (mme.getD "") s.subscribers s s' ∧
      sgsRxResetInd cfg env s mme =
        { s' with db := mme.elim s.db fun fqdn => sgsVlrPersistForgetMme s.db fqdn } := by
  cases mme with
  | none =>
      have resets : Resets "" s.subscribers s (vlrSgsResetMme cfg env "" s) :=
        resets_vlrSgsResetMme s
      exact ⟨_, resets, by simp [sgsRxResetInd, ← resets.db]⟩
  | some fqdn =>
      refine ⟨vlrSgsResetMme cfg env fqdn s, resets_vlrSgsResetMme s, ?_⟩
      exact resetSubscrs_withDb env fqdn (sgsVlrPersistForgetMme s.db fqdn) s.subscribers s

/-- After a RESET INDICATION and a flush no subscriber whose association the reset has dropped has a
row, exactly when each row of such a subscriber names the MME as the connection does, letter by
letter.  With a batch time of zero nothing waits (`Simulates.nothingWaits`). -/
theorem sgsRxResetInd_rowsGone_iff (cfg : StoreCfg) (env : SgsEnv) (s : Store) (mme : Option String)
    (idle : s.db.cfg.vlrPersistBatchSec = 0 → s.db.pending = []) :
    (∀ p ∈ s.subscribers, (s.subscr p).sgsState ≠ .null →
      ((sgsRxResetInd cfg env s mme).subscr p).sgsState = .null →
      (sgsPersistFlush (sgsRxResetInd cfg env s mme).db).table (s.subscr p).imsi = none) ↔
    ∀ p ∈ s.subscribers, (s.subscr p).sgsState ≠ .null → Selects mme (s.subscr p) →
      ∀ row, s.db.flushed (s.subscr p).imsi = some row →
        s.db.cfg.vlrPersist = true ∧ row.mmeName ≠ "" ∧ mme = some row.mmeName := by
  obtain ⟨s', resets, eq⟩ := resets_sgsRxResetInd
  refine forall₃_congr fun p listed associated => ?_
  have dropped : ((sgsRxResetInd cfg env s mme).subscr p).sgsState = .null ↔
      Selects mme (s.subscr p) := by
    rw [eq]
    constructor
    · intro null
      rcases resets.missed p with same | ⟨-, selected⟩
      · exact absurd (same ▸ null) associated
      · exact selected
    · exact resets.hit p listed
  rw [dropped]
  refine forall_congr' fun _ => ?_
  rw [eq]
  cases mme with
  | none => simp [sgsPersistFlush, PersistState.flushed, Option.eq_none_iff_forall_ne_some]
  | some fqdn =>
      simp only [Option.elim_some, flush_forgetMme idle, Option.some.injEq]
      cases s.db.cfg.vlrPersist with
      | false => simp [Option.eq_none_iff_forall_ne_some]
      | true =>
          by_cases unnamed : fqdn = ""
          · subst unnamed
            simp only [dbSgsAssocDeleteMme, if_true, Option.eq_none_iff_forall_ne_some]
            refine forall_congr' fun row => ⟨fun none inTable => absurd inTable none, ?_⟩
            exact fun named inTable => (named inTable).2.1 (named inTable).2.2.symm
          · simp only [dbSgsAssocDeleteMme, if_neg unnamed, if_true, Option.filter_eq_none_iff]
            refine forall_congr' fun row => imp_congr_right fun _ => ?_
            constructor
            · intro taken
              obtain rfl : row.mmeName = fqdn := by simpa using taken
              exact ⟨trivial, unnamed, rfl⟩
            · rintro ⟨-, -, rfl⟩
              simp

theorem sgsRxResetInd_rowsGone_oneMme :
    let s := sgsRxResetInd chainedCfg (sgsEnvOf 0) (afterAttach []) (some "mme1")
    ((afterAttach []).subscr 0).sgsState = .associated ∧ (s.subscr 0).sgsState = .null ∧
      (sgsPersistFlush s.db).table ((afterAttach []).subscr 0).imsi = none := by
  refine ⟨by decide, by decide, (sgsRxResetInd_rowsGone_iff chainedCfg (sgsEnvOf 0) (afterAttach [])
    (some "mme1") (by decide)).mpr ?_ 0 (by decide) (by decide) (by decide)⟩
  intro p listed _ _ row inTable
  obtain rfl : p = 0 := by simpa [show (afterAttach []).subscribers = [0] by decide] using listed
  have stored : ((afterAttach []).db.flushed ((afterAttach []).subscr 0).imsi).map (·.mmeName) =
      some "mme1" := by
    decide +kernel
  have named : row.mmeName = "mme1" := by simpa [inTable] using stored
  exact ⟨by decide, by simp [named], by rw [named]⟩

/-- The MME writes its name in capitals when it comes back: the association is dropped, and the row
stays. -/
theorem reset_spells_differently :
    let s := sgsRxResetInd chainedCfg (sgsEnvOf 0) (afterAttach []) (some "MME1")
    ((afterAttach []).subscr 0).sgsState = .associated ∧ (s.subscr 0).sgsState = .null ∧
      ((sgsPersistFlush s.db).table [0, 0, 1]).isSome = true := by
  decide +kernel

end OsmoMsc.Vlr
