/-
Module: OsmoMsc.Sgs.Persist
Purpose: How SGs associations reach the table `SgsAssoc` (sgs_iface.c and the SGs part of db.c).
  With a batch time of zero each operation is one statement.  Otherwise operations collect in a list
  that a timer flushes; an operation on a listed subscriber overwrites its entry, while the deletion
  of an MME goes to the end.  The module says when both ways lead to the same table, and which
  failures of the database during a flush lose an operation.
Trusted boundary: the SQL statements do what their text says, and succeed but where the last part lets
  them fail; the database is open and `ROLLBACK` succeeds; `imsi` is the primary key
Main exports: DbSgsAssoc, dbSgsAssocDelete, sgsVlrPersistVsub, sgsVlrPersistForget,
  sgsVlrPersistForgetMme, sgsPersistFlush, persistStep, flush_table_eq_direct, sgsPersistFlushWith,
  flushWith_onlyStored
-/
import Mathlib.Data.Fintype.EquivFin
import OsmoMsc.Library.Run
import OsmoMsc.Vlr.Subscr

namespace OsmoMsc.Sgs

open Library Vlr List

variable {imsi : Digits}

/-- `struct osmo_plmn_id`. -/
structure PlmnId where
  mcc : Nat := 0
  mnc : Nat := 0
  mnc3Digits : Bool := false
deriving DecidableEq, Repr

/-- `struct osmo_location_area_id`. -/
structure LocationAreaId where
  plmn : PlmnId := {}
  lac : Nat := 0
deriving DecidableEq, Repr

/-- `struct db_sgs_assoc`, a row of the table `SgsAssoc`. -/
structure DbSgsAssoc where
  imsi : Digits := []
  msisdn : List Char := []
  tmsi : Nat := 0
  mmeName : String := ""
  lai : LocationAreaId := {}
  lastEutranPlmnPresent : Bool := false
  lastEutranPlmn : PlmnId := {}
  expireUnix : Int := 0
deriving DecidableEq, Repr

/-- The fields of `struct vlr_subscr` that make up a row. -/
structure SgsVsub where
  imsi : Digits := []
  msisdn : List Char := []
  tmsi : Nat := gsmReservedTmsi
  mmeName : String := ""
  lai : LocationAreaId := {}
  lastEutranPlmnPresent : Bool := false
  lastEutranPlmn : PlmnId := {}
  /-- `VLR_SUBSCRIBER_NO_EXPIRATION` is `none`. -/
  expireLu : Option Int := none
deriving DecidableEq, Repr

/-- What the clocks say when a row is built; `CLOCK_MONOTONIC` may fail. -/
structure Clocks where
  monotonic : Option Int
  realtime : Int
deriving DecidableEq, Repr

/-- `sgs_assoc_expire_unix()`. -/
def sgsAssocExpireUnix (clocks : Clocks) (vsub : SgsVsub) : Int :=
  match vsub.expireLu, clocks.monotonic with
  | none, _ => 0
  | some _, none => 0
  | some expireLu, some mono =>
      let remaining := expireLu - mono
      if remaining ≤ 0 then clocks.realtime else clocks.realtime + remaining

/-- `db_sgs_assoc_from_vsub()`. -/
def dbSgsAssocFromVsub (clocks : Clocks) (vsub : SgsVsub) : DbSgsAssoc where
  imsi := vsub.imsi
  msisdn := vsub.msisdn
  tmsi := vsub.tmsi
  mmeName := vsub.mmeName
  lai := vsub.lai
  lastEutranPlmnPresent := vsub.lastEutranPlmnPresent
  lastEutranPlmn := vsub.lastEutranPlmn
  expireUnix := sgsAssocExpireUnix clocks vsub

/-! ### The table -/

/-- The table `SgsAssoc`: the row under each primary key. -/
abbrev SgsAssoc := Digits → Option DbSgsAssoc

/-- `db_sgs_assoc_upsert_row()`: `INSERT OR REPLACE`. -/
def dbSgsAssocUpsertRow (table : SgsAssoc) (row : DbSgsAssoc) : SgsAssoc :=
  if row.imsi = [] ∨ row.mmeName = "" then table
  else Function.update table row.imsi (some row)

/-- `db_sgs_assoc_delete()`. -/
def dbSgsAssocDelete (table : SgsAssoc) (imsi : Digits) : SgsAssoc :=
  if imsi = [] then table else Function.update table imsi none

/-- `db_sgs_assoc_delete_mme()`. -/
def dbSgsAssocDeleteMme (table : SgsAssoc) (mmeName : String) : SgsAssoc :=
  if mmeName = "" then table
  else fun imsi => (table imsi).filter fun row => row.mmeName ≠ mmeName

/-! ### The pending list -/

/-- `enum sgs_persist_op`. -/
inductive PersistOp where
  | upsert
  | delImsi
  | delMme
deriving DecidableEq, Repr

/-- `struct sgs_persist_pending`. -/
structure Pending where
  op : PersistOp
  row : DbSgsAssoc := {}
deriving DecidableEq, Repr

variable {p : Pending}

/-- The part of `g_sgs->cfg` that concerns persistence. -/
structure PersistCfg where
  vlrPersist : Bool := true
  vlrPersistBatchSec : Nat := 0
deriving DecidableEq, Repr

/-- The table, the pending list and whether `persist_timer` runs. -/
structure PersistState where
  cfg : PersistCfg
  table : SgsAssoc
  pending : List Pending := []
  persistTimer : Bool := false

/-- The statement that `sgs_persist_flush()` runs for one entry. -/
def Pending.apply (table : SgsAssoc) (p : Pending) : SgsAssoc :=
  match p.op with
  | .upsert => dbSgsAssocUpsertRow table p.row
  | .delImsi => dbSgsAssocDelete table p.row.imsi
  | .delMme => dbSgsAssocDeleteMme table p.row.mmeName

/-- `sgs_persist_flush()`. -/
def sgsPersistFlush (s : PersistState) : PersistState :=
  { s with table := s.pending.foldl Pending.apply s.table, pending := [], persistTimer := false }

/-- `sgs_persist_schedule()`. -/
def sgsPersistSchedule (s : PersistState) : PersistState :=
  if !s.cfg.vlrPersist then s
  else if s.cfg.vlrPersistBatchSec = 0 then sgsPersistFlush s
  else { s with persistTimer := true }

/-- The subscriber an entry is about.  The deletion of an MME is about none. -/
def Pending.subscr (p : Pending) : Option Digits :=
  if p.op = .delMme then none else some p.row.imsi

/-- `sgs_persist_find_imsi()`: where the first entry about the subscriber stands. -/
def sgsPersistFindImsi (pending : List Pending) (imsi : Digits) : Option Nat :=
  if imsi = [] then none else pending.findIdx? fun p => p.subscr = some imsi

/-- The entry about a subscriber is written over the one in the list, or else allocated at the end
of it (`sgs_persist_alloc()`); `entry` gets the one that was there. -/
def sgsPersistEnter (pending : List Pending) (imsi : Digits) (entry : Option Pending → Pending) :
    List Pending :=
  match sgsPersistFindImsi pending imsi with
  | some i => pending.modify i fun p => entry (some p)
  | none => pending ++ [entry none]

/-- `sgs_vlr_persist_vsub()`. -/
def sgsVlrPersistVsub (s : PersistState) (clocks : Clocks) (vsub : SgsVsub) : PersistState :=
  if !s.cfg.vlrPersist || vsub.imsi = [] || vsub.mmeName = "" then s
  else
    let row := dbSgsAssocFromVsub clocks vsub
    if s.cfg.vlrPersistBatchSec = 0 then { s with table := dbSgsAssocUpsertRow s.table row }
    else
      sgsPersistSchedule
        { s with pending := sgsPersistEnter s.pending vsub.imsi fun _ =>
            { op := .upsert, row := row } }

/-- `sgs_vlr_persist_forget()`.  The rest of an overwritten row stays. -/
def sgsVlrPersistForget (s : PersistState) (imsi : Digits) : PersistState :=
  if !s.cfg.vlrPersist || imsi = [] then s
  else if s.cfg.vlrPersistBatchSec = 0 then { s with table := dbSgsAssocDelete s.table imsi }
  else
    sgsPersistSchedule
      { s with pending := sgsPersistEnter s.pending imsi fun old =>
          { op := .delImsi, row := { (old.elim {} Pending.row) with imsi := imsi } } }

/-- `sgs_vlr_persist_forget_mme()`. -/
def sgsVlrPersistForgetMme (s : PersistState) (mmeName : String) : PersistState :=
  if !s.cfg.vlrPersist || mmeName = "" then s
  else if s.cfg.vlrPersistBatchSec = 0 then
    { s with table := dbSgsAssocDeleteMme s.table mmeName }
  else
    sgsPersistSchedule
      { s with pending := s.pending ++ [{ op := .delMme, row := { mmeName := mmeName } }] }

/-! ### Runs -/

/-- The persistence operations, and a flush at any moment. -/
inductive PersistInput where
  | persistVsub (clocks : Clocks) (vsub : SgsVsub)
  | persistForget (imsi : Digits)
  | persistForgetMme (mmeName : String)
  | flush
deriving DecidableEq, Repr

def persistStep (s : PersistState) : PersistInput → PersistState
  | .persistVsub clocks vsub => sgsVlrPersistVsub s clocks vsub
  | .persistForget imsi => sgsVlrPersistForget s imsi
  | .persistForgetMme mmeName => sgsVlrPersistForgetMme s mmeName
  | .flush => sgsPersistFlush s

/-- The state at start-up, over the table an earlier run left. -/
def persistInit (cfg : PersistCfg) (table : SgsAssoc) : PersistState :=
  { cfg := cfg, table := table }

/-- The configuration in which every operation goes to the database at once. -/
def PersistCfg.direct (cfg : PersistCfg) : PersistCfg := { cfg with vlrPersistBatchSec := 0 }

/-! ### One statement among others -/

/-- What the statement of an entry about a subscriber leaves under the subscriber's key, if it
touches the table at all. -/
def Pending.written (p : Pending) : Option (Option DbSgsAssoc) :=
  if p.row.imsi = [] ∨ (p.op = .upsert ∧ p.row.mmeName = "") then none
  else if p.op = .upsert then some (some p.row) else some none

theorem apply_eq_update (about : p.subscr = some imsi) (table : SgsAssoc) :
    p.apply table = match p.written with
      | none => table
      | some value => Function.update table imsi value := by
  obtain ⟨op, row⟩ := p
  cases op with
  | delMme => simp [Pending.subscr] at about
  | upsert =>
      obtain rfl : row.imsi = imsi := by simpa [Pending.subscr] using about
      by_cases void : row.imsi = [] ∨ row.mmeName = "" <;>
        simp [Pending.apply, Pending.written, dbSgsAssocUpsertRow, void]
  | delImsi =>
      obtain rfl : row.imsi = imsi := by simpa [Pending.subscr] using about
      by_cases void : row.imsi = [] <;>
        simp [Pending.apply, Pending.written, dbSgsAssocDelete, void]

/-- Of two statements about one subscriber the later alone counts. -/
theorem apply_absorbs {old new : Pending} (about : old.subscr = some imsi)
    (same : new.subscr = some imsi) (writes : new.written ≠ none) (table : SgsAssoc) :
    new.apply (old.apply table) = new.apply table := by
  rw [apply_eq_update same, apply_eq_update same, apply_eq_update about]
  cases written : new.written with
  | none => exact absurd written writes
  | some value => cases old.written <;> simp

variable {pending : List Pending} {q : Pending}

/-- Statements about two subscribers may trade places. -/
theorem apply_comm_of_subscr_ne {imsi' : Digits} (about : p.subscr = some imsi)
    (about' : q.subscr = some imsi') (other : imsi ≠ imsi') (table : SgsAssoc) :
    q.apply (p.apply table) = p.apply (q.apply table) := by
  rw [apply_eq_update about', apply_eq_update about, apply_eq_update about, apply_eq_update about']
  cases p.written with
  | none => cases q.written <;> rfl
  | some value =>
      cases q.written with
      | none => rfl
      | some value' => exact Function.update_comm other value value' table

/-- The deletion of an MME may trade places with a statement that leaves no row of that MME. -/
theorem apply_comm_of_delMme (mme : p.op = .delMme) (about : q.subscr = some imsi)
    (spared : ∀ row, q.written = some (some row) → row.mmeName ≠ p.row.mmeName) (table : SgsAssoc) :
    q.apply (p.apply table) = p.apply (q.apply table) := by
  rw [apply_eq_update about, apply_eq_update about]
  cases written : q.written with
  | none => rfl
  | some value =>
      by_cases void : p.row.mmeName = ""
      · simp [Pending.apply, mme, dbSgsAssocDeleteMme, void]
      · funext key
        by_cases here : key = imsi
        · subst here
          cases value with
          | none => simp [Pending.apply, mme, dbSgsAssocDeleteMme, void]
          | some row =>
              have kept : row.mmeName ≠ p.row.mmeName := spared row written
              simp [Pending.apply, mme, dbSgsAssocDeleteMme, void, Option.filter, kept]
        · simp [Pending.apply, mme, dbSgsAssocDeleteMme, void, here]

/-! ### The pending list stands for the operations since the last flush -/

/-- The table a flush would leave. -/
def PersistState.flushed (s : PersistState) : SgsAssoc := s.pending.foldl Pending.apply s.table

/-- The rows of an MME go with the flush after its deletion.  Without a batch time the deletion does
not wait, and neither does anything before it. -/
theorem flush_forgetMme {s : PersistState} (idle : s.cfg.vlrPersistBatchSec = 0 → s.pending = [])
    (mmeName : String) :
    (sgsPersistFlush (sgsVlrPersistForgetMme s mmeName)).table =
      if s.cfg.vlrPersist then dbSgsAssocDeleteMme s.flushed mmeName else s.flushed := by
  cases enabled : s.cfg.vlrPersist with
  | false => simp [sgsVlrPersistForgetMme, enabled, sgsPersistFlush, PersistState.flushed]
  | true =>
      by_cases unnamed : mmeName = ""
      · simp [sgsVlrPersistForgetMme, unnamed, sgsPersistFlush, PersistState.flushed,
          dbSgsAssocDeleteMme]
      · by_cases batch : s.cfg.vlrPersistBatchSec = 0
        · simp [sgsVlrPersistForgetMme, enabled, unnamed, batch, sgsPersistFlush,
            PersistState.flushed, idle batch]
        · simp [sgsVlrPersistForgetMme, enabled, unnamed, batch, sgsPersistSchedule, sgsPersistFlush,
            PersistState.flushed, Pending.apply]

/-- No subscriber is in the pending list twice. -/
def Coalesced (pending : List Pending) : Prop := (pending.filterMap Pending.subscr).Nodup

/-- `sgs_persist_find_imsi()` splits the list at the entry it returns. -/
theorem split_of_findImsi {i : Nat} (found : sgsPersistFindImsi pending imsi = some i) :
    ∃ before p after, pending = before ++ p :: after ∧ before.length = i ∧
      p.subscr = some imsi := by
  unfold sgsPersistFindImsi at found
  split at found
  · exact absurd found (by simp)
  · obtain ⟨inside, hit, -⟩ := findIdx?_eq_some_iff_getElem.mp found
    refine ⟨pending.take i, pending[i], pending.drop (i + 1), ?_, ?_, by simpa using hit⟩
    · rw [getElem_cons_drop, take_append_drop]
    · exact length_take_of_le (Nat.le_of_lt inside)

theorem modify_append_cons (before after : List Pending) (p : Pending) (f : Pending → Pending) :
    (before ++ p :: after).modify before.length f = before ++ f p :: after := by
  induction before with
  | nil => rfl
  | cons q before ih => simpa using ih

theorem subscr_ne_of_findImsi_eq_none (named : imsi ≠ [])
    (missing : sgsPersistFindImsi pending imsi = none) : ∀ p ∈ pending, p.subscr ≠ some imsi := by
  simpa [sgsPersistFindImsi, named, findIdx?_eq_none_iff] using missing

theorem Coalesced.subscr_ne {before after : List Pending}
    (coalesced : Coalesced (before ++ p :: after)) (about : p.subscr = some imsi)
    (later : q ∈ after) : q.subscr ≠ some imsi := by
  intro same
  simp only [Coalesced, filterMap_append, filterMap_cons, about] at coalesced
  have fresh := (nodup_cons.mp (nodup_append.mp coalesced).2.1).1
  exact fresh (mem_filterMap.mpr ⟨q, later, same⟩)

/-- No deletion of an MME after the subscriber's entry would take a row of the given value. -/
def Spared (pending : List Pending) (imsi : Digits) (value : Option DbSgsAssoc) : Prop :=
  ∀ i, sgsPersistFindImsi pending imsi = some i → ∀ p ∈ pending.drop (i + 1), p.op = .delMme →
    ∀ row, value = some row → row.mmeName ≠ p.row.mmeName

section Enter

variable {entry : Option Pending → Pending}

theorem coalesced_enter (coalesced : Coalesced pending) (named : imsi ≠ [])
    (about : ∀ old, (entry old).subscr = some imsi) :
    Coalesced (sgsPersistEnter pending imsi entry) := by
  unfold sgsPersistEnter
  split
  · rename_i i found
    obtain ⟨before, p, after, rfl, rfl, same⟩ := split_of_findImsi found
    simpa [Coalesced, modify_append_cons, filterMap_cons, about, same]
      using coalesced
  · rename_i missing
    have fresh := subscr_ne_of_findImsi_eq_none named missing
    simp only [Coalesced, filterMap_append, filterMap_cons, about, filterMap_nil]
    refine nodup_append.mpr ⟨coalesced, by simp, ?_⟩
    intro waiting member last isLast eq
    obtain rfl : last = imsi := by simpa using isLast
    obtain ⟨p, listed, same⟩ := mem_filterMap.mp member
    exact fresh p listed (eq ▸ same)

/-- Entering an operation about a subscriber has, at the next flush, the effect of running it
after all the operations that wait already. -/
theorem flush_enter (coalesced : Coalesced pending) {value : Option DbSgsAssoc}
    (about : ∀ old, (entry old).subscr = some imsi)
    (written : ∀ old, (entry old).written = some value) (spared : Spared pending imsi value)
    (table : SgsAssoc) :
    (sgsPersistEnter pending imsi entry).foldl Pending.apply table =
      Function.update (pending.foldl Pending.apply table) imsi value := by
  have effect (old : Option Pending) (t : SgsAssoc) :
      Pending.apply t (entry old) = Function.update t imsi value := by
    rw [apply_eq_update (about old), written old]
  unfold sgsPersistEnter
  split
  · rename_i i found
    obtain ⟨before, p, after, rfl, rfl, same⟩ := split_of_findImsi found
    have absorbs (t : SgsAssoc) :
        Pending.apply (Pending.apply t p) (entry (some p)) = Pending.apply t (entry (some p)) :=
      apply_absorbs same (about _) (by simp [written]) t
    rw [modify_append_cons, foldl_overwrite absorbs ?_, effect]
    · intro q later t
      cases kind : q.subscr with
      | some imsi' =>
          have other : imsi' ≠ imsi := fun eq => coalesced.subscr_ne same later (eq ▸ kind)
          exact apply_comm_of_subscr_ne kind (about _) other t
      | none =>
          have mme : q.op = .delMme := by simpa [Pending.subscr] using kind
          refine apply_comm_of_delMme mme (about _) ?_ t
          intro row writes
          refine spared _ found q (by simpa using later) mme row ?_
          simpa [written] using writes
  · rw [foldl_append, foldl_cons, foldl_nil, effect]

end Enter

/-! ### Batching against direct writes -/

/-- An upsert that would be lost: the entry it overwrites stands before the deletion of the MME the
new row names. -/
def shadowed (pending : List Pending) (vsub : SgsVsub) : Bool :=
  match sgsPersistFindImsi pending vsub.imsi with
  | none => false
  | some i => (pending.drop (i + 1)).any fun p => p.op = .delMme ∧ p.row.mmeName = vsub.mmeName

/-- The operation is not an upsert that would be lost. -/
def NotShadowed (s : PersistState) : PersistInput → Prop
  | .persistVsub _ vsub => shadowed s.pending vsub = false
  | _ => True

instance NotShadowed.decidable (s : PersistState) :
    ∀ input, Decidable (NotShadowed s input)
  | .persistVsub _ vsub => inferInstanceAs (Decidable (shadowed s.pending vsub = false))
  | .persistForget _ | .persistForgetMme _ | .flush => .isTrue trivial

/-- The batched state `s` and the direct state `t` have seen the same operations: what waits in `s`
is what is missing from its table. -/
structure Simulates (s t : PersistState) : Prop where
  flushed : s.flushed = t.table
  coalesced : Coalesced s.pending
  cfg : t.cfg = s.cfg.direct
  direct : t.pending = []
  nothingWaits : s.cfg.vlrPersistBatchSec = 0 → s.pending = []

variable {table : SgsAssoc}

theorem simulates_init {cfg : PersistCfg} :
    Simulates (persistInit cfg table) (persistInit cfg.direct table) where
  flushed := rfl
  coalesced := nodup_nil
  cfg := rfl
  direct := rfl
  nothingWaits _ := rfl

section Step

variable {s t : PersistState} (sim : Simulates s t)
include sim

theorem Simulates.flush : Simulates (sgsPersistFlush s) (sgsPersistFlush t) where
  flushed := by simpa [sgsPersistFlush, PersistState.flushed, sim.direct] using sim.flushed
  coalesced := nodup_nil
  cfg := sim.cfg
  direct := rfl
  nothingWaits _ := rfl

/-- Without a batch time both states run the statement. -/
theorem Simulates.statement (batch : s.cfg.vlrPersistBatchSec = 0) (f : SgsAssoc → SgsAssoc) :
    Simulates { s with table := f s.table } { t with table := f t.table } where
  flushed := by
    have waits := sim.nothingWaits batch
    have tables : s.table = t.table := by simpa [PersistState.flushed, waits] using sim.flushed
    simp [PersistState.flushed, waits, tables]
  coalesced := sim.coalesced
  cfg := sim.cfg
  direct := sim.direct
  nothingWaits := sim.nothingWaits

/-- With one, a longer pending list has to stand for the statement that the direct state runs. -/
theorem Simulates.schedule (batch : s.cfg.vlrPersistBatchSec ≠ 0) (coalesced : Coalesced pending)
    (flushed : pending.foldl Pending.apply s.table = table) :
    Simulates (sgsPersistSchedule { s with pending := pending }) { t with table := table } := by
  simp only [sgsPersistSchedule, batch, if_false]
  split
  · exact ⟨flushed, coalesced, sim.cfg, sim.direct, fun zero => absurd zero batch⟩
  · exact ⟨flushed, coalesced, sim.cfg, sim.direct, fun zero => absurd zero batch⟩

theorem Simulates.cfg_vlrPersist : t.cfg.vlrPersist = s.cfg.vlrPersist := by rw [sim.cfg]; rfl

theorem Simulates.cfg_batchSec : t.cfg.vlrPersistBatchSec = 0 := by rw [sim.cfg]; rfl

theorem Simulates.persistVsub (clocks : Clocks) (vsub : SgsVsub)
    (kept : shadowed s.pending vsub = false) :
    Simulates (sgsVlrPersistVsub s clocks vsub) (sgsVlrPersistVsub t clocks vsub) := by
  simp only [sgsVlrPersistVsub, sim.cfg_vlrPersist, sim.cfg_batchSec]
  split
  · exact sim
  · rename_i valid
    obtain ⟨⟨-, named⟩, mme⟩ : (s.cfg.vlrPersist = true ∧ vsub.imsi ≠ []) ∧ vsub.mmeName ≠ "" := by
      simpa using valid
    split
    · rename_i batch
      exact sim.statement batch fun table => dbSgsAssocUpsertRow table _
    · rename_i batch
      refine sim.schedule batch (coalesced_enter sim.coalesced named fun _ => rfl) ?_
      have written (old : Option Pending) :
          Pending.written { op := .upsert, row := dbSgsAssocFromVsub clocks vsub } =
            some (some (dbSgsAssocFromVsub clocks vsub)) := by
        simp [Pending.written, dbSgsAssocFromVsub, named, mme]
      have about (old : Option Pending) :
          Pending.subscr { op := .upsert, row := dbSgsAssocFromVsub clocks vsub } =
            some vsub.imsi := rfl
      rw [flush_enter sim.coalesced about written ?_]
      · have upsert : dbSgsAssocUpsertRow t.table (dbSgsAssocFromVsub clocks vsub) =
            Function.update t.table vsub.imsi (some (dbSgsAssocFromVsub clocks vsub)) := by
          simp [dbSgsAssocUpsertRow, dbSgsAssocFromVsub, named, mme]
        rw [upsert, ← sim.flushed, PersistState.flushed]
      · rintro i found p later isMme row ⟨⟩ same
        refine absurd kept ?_
        simp only [shadowed, found, Bool.not_eq_false, any_eq_true]
        exact ⟨p, later, by simp [isMme, ← same, dbSgsAssocFromVsub]⟩

theorem Simulates.persistForget (imsi : Digits) :
    Simulates (sgsVlrPersistForget s imsi) (sgsVlrPersistForget t imsi) := by
  simp only [sgsVlrPersistForget, sim.cfg_vlrPersist, sim.cfg_batchSec]
  split
  · exact sim
  · rename_i valid
    obtain ⟨-, named⟩ : s.cfg.vlrPersist = true ∧ imsi ≠ [] := by simpa using valid
    split
    · rename_i batch
      exact sim.statement batch fun table => dbSgsAssocDelete table imsi
    · rename_i batch
      refine sim.schedule batch (coalesced_enter sim.coalesced named fun _ => rfl) ?_
      have written (old : Option Pending) :
          Pending.written
            { op := .delImsi, row := { (old.elim {} Pending.row) with imsi := imsi } } =
              some none := by
        simp [Pending.written, named]
      rw [flush_enter sim.coalesced (fun _ => rfl) written ?_]
      · rw [dbSgsAssocDelete, if_neg named, ← sim.flushed, PersistState.flushed]
      · rintro i found p later isMme row ⟨⟩

theorem Simulates.persistForgetMme (mmeName : String) :
    Simulates (sgsVlrPersistForgetMme s mmeName) (sgsVlrPersistForgetMme t mmeName) := by
  simp only [sgsVlrPersistForgetMme, sim.cfg_vlrPersist, sim.cfg_batchSec]
  split
  · exact sim
  · split
    · rename_i batch
      exact sim.statement batch fun table => dbSgsAssocDeleteMme table mmeName
    · rename_i batch
      refine sim.schedule batch ?_ ?_
      · simpa [Coalesced, Pending.subscr] using sim.coalesced
      · rw [foldl_append, ← sim.flushed]
        rfl

/-- One operation keeps the two states together, unless it is an upsert that would be lost. -/
theorem Simulates.step (input : PersistInput) (kept : NotShadowed s input) :
    Simulates (persistStep s input) (persistStep t input) := by
  cases input with
  | persistVsub clocks vsub => exact sim.persistVsub clocks vsub kept
  | persistForget imsi => exact sim.persistForget imsi
  | persistForgetMme mmeName => exact sim.persistForgetMme mmeName
  | flush => exact sim.flush

end Step

theorem Simulates.run {s t : PersistState} (sim : Simulates s t) (inputs : List PersistInput)
    (kept : StepsMeet persistStep NotShadowed s inputs) :
    Simulates (inputs.foldl persistStep s) (inputs.foldl persistStep t) := by
  induction inputs generalizing s t with
  | nil => exact sim
  | cons input inputs ih => exact ih (sim.step input kept.1) kept.2

/-- After a flush the table is the one the same operations leave when each goes to the database at
once, as long as no upsert overwrites an entry that a deletion of the new row's MME follows. -/
theorem flush_table_eq_direct (cfg : PersistCfg) (table : SgsAssoc) (inputs : List PersistInput)
    (kept : StepsMeet persistStep NotShadowed (persistInit cfg table) inputs) :
    (sgsPersistFlush (inputs.foldl persistStep (persistInit cfg table))).table =
      (inputs.foldl persistStep (persistInit cfg.direct table)).table :=
  (simulates_init.run inputs kept).flushed

/-- A batch of four operations on two subscribers and two MMEs, a flush among them. -/
def mixedBatch : List PersistInput :=
  let clocks : Clocks := { monotonic := some 10, realtime := 1000 }
  [.persistVsub clocks { imsi := [0, 0, 1], mmeName := "mme1", expireLu := some 60 },
    .persistForgetMme "mme1", .persistVsub clocks { imsi := [0, 0, 1], mmeName := "mme2" },
    .flush, .persistForget [0, 0, 1], .persistVsub clocks { imsi := [0, 0, 2], mmeName := "mme1" }]

theorem flush_table_eq_direct_mixedBatch :
    (sgsPersistFlush (mixedBatch.foldl persistStep
        (persistInit { vlrPersistBatchSec := 5 } fun _ => none))).table =
      (mixedBatch.foldl persistStep (persistInit {} fun _ => none)).table :=
  flush_table_eq_direct { vlrPersistBatchSec := 5 } (fun _ => none) mixedBatch (by decide)

/-- A subscriber attaches, its MME resets, and the subscriber attaches again at that MME. -/
def reattachAfterReset : List PersistInput :=
  let vsub : SgsVsub := { imsi := [0, 0, 1], mmeName := "mme1" }
  let clocks : Clocks := { monotonic := some 10, realtime := 1000 }
  [.persistVsub clocks vsub, .persistForgetMme "mme1", .persistVsub clocks vsub]

/-- The batch writes the new row and then deletes it with the rest of the MME. -/
theorem reattachAfterReset_lost :
    (sgsPersistFlush (reattachAfterReset.foldl persistStep
        (persistInit { vlrPersistBatchSec := 5 } fun _ => none))).table [0, 0, 1] = none ∧
      ((reattachAfterReset.foldl persistStep
        (persistInit {} fun _ => none)).table [0, 0, 1]).isSome = true := by
  decide

/-! ### Flushes that meet failures -/

/-- What the database answers during a flush: to `db_trans_begin()`, to the statement of the entry at
each place of the list, and to `db_trans_commit()`. -/
structure FlushEnv where
  begins : Bool := true
  runs : Nat → Bool := fun _ => true
  commits : Bool := true

/-- The entry names nobody, so that no statement is run for it and none can fail. -/
def Pending.isVoid (p : Pending) : Bool :=
  match p.op with
  | .upsert => p.row.imsi = [] ∨ p.row.mmeName = ""
  | .delImsi => p.row.imsi = []
  | .delMme => p.row.mmeName = ""

/-- One round of the loop of `sgs_persist_flush()`. -/
def flushRound (runs : Nat → Bool) (table : SgsAssoc) (entry : Pending × Nat) : SgsAssoc :=
  if entry.1.isVoid || !runs entry.2 then table else entry.1.apply table

/-- `sgs_persist_flush()` with the failures of `env`.  Without a transaction each statement commits
itself. -/
def sgsPersistFlushWith (env : FlushEnv) (s : PersistState) : PersistState :=
  let rounds := s.pending.zipIdx.foldl (flushRound env.runs) s.table
  -- A commit that fails is rolled back with all the statements of the transaction.
  let table := if env.begins && !env.commits then s.table else rounds
  { s with table := table, pending := [], persistTimer := false }

/-- An entry that names nobody leaves the table as it is. -/
theorem apply_of_isVoid (isVoid : p.isVoid = true) (table : SgsAssoc) : p.apply table = table := by
  obtain ⟨op, row⟩ := p
  cases op with
  | upsert =>
      have named : row.imsi = [] ∨ row.mmeName = "" := by simpa [Pending.isVoid] using isVoid
      exact if_pos named
  | delImsi =>
      have named : row.imsi = [] := by simpa [Pending.isVoid] using isVoid
      exact if_pos named
  | delMme =>
      have named : row.mmeName = "" := by simpa [Pending.isVoid] using isVoid
      exact if_pos named

/-- The statement of the entry at a place is run and stays. -/
def FlushEnv.stores (env : FlushEnv) (i : Nat) : Bool := env.runs i && (!env.begins || env.commits)

/-- The flush leaves the table that the entries it stores make in order. -/
theorem table_flushWith (env : FlushEnv) (s : PersistState) :
    (sgsPersistFlushWith env s).table =
      ((s.pending.zipIdx.filter fun entry => !entry.1.isVoid && env.stores entry.2).map
        Prod.fst).foldl Pending.apply s.table := by
  have rounds : flushRound env.runs = fun table entry =>
      if !entry.1.isVoid && env.runs entry.2 then entry.1.apply table else table := by
    funext table entry
    cases isVoid : entry.1.isVoid <;> cases runs : env.runs entry.2 <;> simp [flushRound, isVoid, runs]
  cases rolledBack : env.begins && !env.commits with
  | true =>
      have stores : ∀ i, env.stores i = false := by simp_all [FlushEnv.stores]
      simp [sgsPersistFlushWith, rolledBack, stores]
  | false =>
      have stores : env.stores = env.runs := by
        funext i
        cases begins : env.begins <;> simp_all [FlushEnv.stores]
      simp only [sgsPersistFlushWith, rolledBack, Bool.false_eq_true, if_false, rounds, stores,
        foldl_map, foldl_filter]

/-- Where every statement is run and stays, this is the flush of the rest of the module. -/
theorem sgsPersistFlushWith_of_sound {env : FlushEnv} {s : PersistState}
    (sound : ∀ entry ∈ s.pending.zipIdx, entry.1.isVoid = false → env.stores entry.2 = true) :
    sgsPersistFlushWith env s = sgsPersistFlush s := by
  have named : (s.pending.zipIdx.filter fun entry => !entry.1.isVoid && env.stores entry.2) =
      s.pending.zipIdx.filter fun entry => !entry.1.isVoid :=
    filter_congr fun entry listed => by
      cases isVoid : entry.1.isVoid <;> simp [isVoid, sound entry listed]
  have void : (fun (table : SgsAssoc) (entry : Pending × Nat) =>
      if !entry.1.isVoid then entry.1.apply table else table) = fun table entry =>
        entry.1.apply table := by
    funext table entry
    cases isVoid : entry.1.isVoid <;> simp [isVoid, apply_of_isVoid]
  have table : (sgsPersistFlushWith env s).table = (sgsPersistFlush s).table := by
    rw [table_flushWith, named, foldl_map, foldl_filter, void, ← foldl_map, zipIdx_map_fst]
    rfl
  exact congrArg (fun t => { s with table := t, pending := [], persistTimer := false }) table

/-- The subscriber or the MME that an entry is about. -/
def Pending.about (p : Pending) : Digits ⊕ String :=
  if p.op = .delMme then .inr p.row.mmeName else .inl p.row.imsi

/-- The entry is about the subscriber or the MME of a row. -/
def Pending.Touches (p : Pending) (row : DbSgsAssoc) : Prop :=
  p.about = .inl row.imsi ∨ p.about = .inr row.mmeName

variable {row : DbSgsAssoc} {table : SgsAssoc}

/-- A row stays unless a statement is about its subscriber or its MME. -/
theorem apply_spares (far : ¬p.Touches row) (there : table row.imsi = some row) :
    p.apply table row.imsi = some row := by
  obtain ⟨op, row'⟩ := p
  cases op with
  | upsert =>
      have other : row.imsi ≠ row'.imsi := fun same => far (.inl (by simp [Pending.about, same]))
      by_cases void : row'.imsi = [] ∨ row'.mmeName = "" <;>
        simp [Pending.apply, dbSgsAssocUpsertRow, void, other, there]
  | delImsi =>
      have other : row.imsi ≠ row'.imsi := fun same => far (.inl (by simp [Pending.about, same]))
      by_cases void : row'.imsi = [] <;> simp [Pending.apply, dbSgsAssocDelete, void, other, there]
  | delMme =>
      have other : row.mmeName ≠ row'.mmeName :=
        fun same => far (.inr (by simp [Pending.about, same]))
      by_cases void : row'.mmeName = "" <;>
        simp [Pending.apply, dbSgsAssocDeleteMme, void, other, there]

/-- A row that no statement writes does not come back, and does not survive a statement about its
subscriber or its MME. -/
theorem apply_ne (other : p.op = .upsert → p.row ≠ row)
    (off : table row.imsi ≠ some row ∨ p.isVoid = false ∧ p.Touches row) :
    p.apply table row.imsi ≠ some row := by
  obtain ⟨op, row'⟩ := p
  cases op with
  | upsert =>
      by_cases void : row'.imsi = [] ∨ row'.mmeName = ""
      · simp_all [Pending.apply, dbSgsAssocUpsertRow, Pending.isVoid]
      · rw [Pending.apply, dbSgsAssocUpsertRow, if_neg void]
        by_cases here : row.imsi = row'.imsi
        · simpa [here] using other rfl
        · simp_all [Pending.Touches, Pending.about, Ne.symm here]
  | delImsi =>
      by_cases void : row'.imsi = []
      · simp_all [Pending.apply, dbSgsAssocDelete, Pending.isVoid]
      · rw [Pending.apply, dbSgsAssocDelete, if_neg void]
        by_cases here : row.imsi = row'.imsi
        · simp [here]
        · simp_all [Pending.Touches, Pending.about, Ne.symm here]
  | delMme =>
      by_cases void : row'.mmeName = ""
      · simp_all [Pending.apply, dbSgsAssocDeleteMme, Pending.isVoid]
      · rw [Pending.apply, dbSgsAssocDeleteMme, if_neg void, Ne, Option.filter_eq_some_iff]
        rintro ⟨there, other⟩
        simp_all [Pending.Touches, Pending.about]

theorem foldl_apply_spares (far : ∀ q ∈ pending, ¬q.Touches row) (there : table row.imsi = some row) :
    (pending.foldl Pending.apply table) row.imsi = some row := by
  induction pending generalizing table with
  | nil => exact there
  | cons q pending ih =>
      exact ih (fun r listed => far r (mem_cons_of_mem _ listed))
        (apply_spares (far q mem_cons_self) there)

theorem foldl_apply_ne (others : ∀ q ∈ pending, q.op = .upsert → q.row ≠ row)
    (off : table row.imsi ≠ some row ∨ ∃ q ∈ pending, q.isVoid = false ∧ q.Touches row) :
    (pending.foldl Pending.apply table) row.imsi ≠ some row := by
  induction pending generalizing table with
  | nil => simpa using off
  | cons q pending ih =>
      refine ih (fun r listed => others r (mem_cons_of_mem _ listed)) ?_
      have here := @apply_ne q row table (others q mem_cons_self)
      rcases off with off | ⟨r, listed, named, touches⟩
      · exact .inl (here (.inl off))
      · rcases mem_cons.mp listed with rfl | listed
        · exact .inl (here (.inr ⟨named, touches⟩))
        · exact .inr ⟨r, listed, named, touches⟩

/-- For each entry there is a row that it and no entry about anybody else touches, and that no entry
writes: another row of its subscriber, or another subscriber at its MME. -/
theorem exists_row_about (p : Pending) (pending : List Pending) :
    ∃ row, p.Touches row ∧
      ∀ q ∈ pending, (q.op = .upsert → q.row ≠ row) ∧ (q.Touches row → q.about = p.about) := by
  obtain ⟨mmeName, newMme⟩ := Infinite.exists_notMem_finset
    (pending.map fun q => q.row.mmeName).toFinset
  obtain ⟨imsi, newImsi⟩ := Infinite.exists_notMem_finset
    (pending.map fun q => q.row.imsi).toFinset
  simp only [mem_toFinset, mem_map, not_exists, not_and] at newMme newImsi
  by_cases mme : p.op = .delMme
  · refine ⟨{ imsi := imsi, mmeName := p.row.mmeName }, .inr (by simp [Pending.about, mme]), ?_⟩
    intro q listed
    have new := newImsi q listed
    refine ⟨fun _ same => new (by simp [same]), ?_⟩
    simp only [Pending.Touches, Pending.about, mme, if_true]
    split <;> simp [new]
  · refine ⟨{ imsi := p.row.imsi, mmeName := mmeName }, .inl (by simp [Pending.about, mme]), ?_⟩
    intro q listed
    have new := newMme q listed
    refine ⟨fun _ same => new (by simp [same]), ?_⟩
    simp only [Pending.Touches, Pending.about, mme, if_false]
    split <;> simp [new]

/-- Whatever the table holds, the flush leaves the one that the operations it takes off the list
make: their effect is in it, and the others still wait. -/
def OnlyStored (env : FlushEnv) (pending : List Pending) : Prop :=
  ∀ s : PersistState, s.pending = pending →
    (sgsPersistFlushWith env s).table =
      (pending.filter fun p => p ∉ (sgsPersistFlushWith env s).pending).foldl Pending.apply s.table

theorem onlyStored_iff (env : FlushEnv) (pending : List Pending) :
    OnlyStored env pending ↔ ∀ s : PersistState, s.pending = pending →
      (sgsPersistFlushWith env s).table = pending.foldl Pending.apply s.table := by
  simp [OnlyStored, sgsPersistFlushWith]

/-- A flush loses no operation if every statement is run and the transaction around them, if there
is one, is committed; and only then, unless the list names somebody twice. -/
theorem flushWith_onlyStored (env : FlushEnv) (pending : List Pending) :
    ((∀ entry ∈ pending.zipIdx, entry.1.isVoid = false → env.stores entry.2 = true) →
        OnlyStored env pending) ∧
      ((pending.map Pending.about).Nodup → OnlyStored env pending →
        ∀ entry ∈ pending.zipIdx, entry.1.isVoid = false → env.stores entry.2 = true) := by
  rw [onlyStored_iff]
  constructor
  · rintro sound s rfl
    rw [sgsPersistFlushWith_of_sound sound]
    rfl
  · rintro distinct stored ⟨p, i⟩ listed named
    by_contra lost
    obtain ⟨row, touches, alone⟩ := exists_row_about p pending
    have inside : pending[i]? = some p := mk_mem_zipIdx_iff_getElem?.mp listed
    -- The row is there before.  The list takes it away, what is stored of the list does not.
    have all := stored { cfg := {}, table := fun _ => some row, pending := pending } rfl
    have gone : (pending.foldl Pending.apply fun _ => some row) row.imsi ≠ some row :=
      foldl_apply_ne (fun q listed => (alone q listed).1)
        (.inr ⟨p, mem_of_getElem? inside, named, touches⟩)
    refine gone ?_
    rw [← all, table_flushWith]
    refine foldl_apply_spares ?_ rfl
    rintro q kept near
    obtain ⟨⟨q', j⟩, stored', rfl⟩ := mem_map.mp kept
    obtain ⟨listed', stores⟩ := mem_filter.mp stored'
    have inside' : pending[j]? = some q' := mk_mem_zipIdx_iff_getElem?.mp listed'
    have same := (alone q' (mem_of_getElem? inside')).2 near
    have place : (pending.map Pending.about)[j]? = (pending.map Pending.about)[i]? := by
      rw [getElem?_map, getElem?_map, inside', inside, Option.map_some, Option.map_some, same]
    have inList : j < (pending.map Pending.about).length := by
      simpa using (List.getElem?_eq_some_iff.mp inside').1
    obtain rfl := (getElem?_inj inList distinct).mp place
    simp_all

/-- The statement of the only operation succeeds and the commit fails: nothing is stored, and nothing
waits any more. -/
theorem failed_commit_loses :
    let s : PersistState :=
      { cfg := {}, table := fun _ => none
        pending := [{ op := .upsert, row := { imsi := [0, 0, 1], mmeName := "mme1" } }] }
    let flushed := sgsPersistFlushWith { commits := false } s
    flushed.table [0, 0, 1] = none ∧ flushed.pending = [] := by
  decide

end OsmoMsc.Sgs
