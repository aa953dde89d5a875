/-
Module: OsmoMsc.Vlr.AttachRun
Purpose: The flag `lu_complete` of a subscriber record, the use `VSUB_USE_ATTACHED` that goes with it
  and the counter `vlr->subscr_lu_complete`, over whole runs of the VLR: location updates on both
  interfaces, expiry, detach, the resolution of duplicates, the freeing of records, and the
  restoration of SGs associations at start-up.
Trusted boundary: the rows that are restored have different IMSIs, for `imsi` is the primary key
Main exports: AttachInv, KeepsAttach, SgsRows, VlrInput, vlrStep, vlrRun_attached
-/
import Mathlib.Data.List.Count
import Mathlib.Data.List.Nodup
import OsmoMsc.Vlr.SubscrStoreRun

namespace OsmoMsc.Vlr

open Library Sgs List

variable {s s' : Store} {p : Nat}

/-- The counter, the flags and the uses agree. -/
structure AttachInv (s : Store) : Prop where
  nodup : s.subscribers.Nodup
  live : ∀ p ∈ s.subscribers, p < s.next
  count : s.subscrLuComplete = s.subscribers.countP fun p => (s.subscr p).luComplete
  attached : ∀ p ∈ s.subscribers, (s.subscr p).attached = if (s.subscr p).luComplete then 1 else 0
  freed : ∀ p, p ∉ s.subscribers → (s.subscr p).luComplete = false

/-! ### What does not touch the attachment -/

/-- The step writes neither the list of records, nor a flag, a use or the counter. -/
structure KeepsAttach (s s' : Store) : Prop where
  subscribers : s'.subscribers = s.subscribers
  next : s'.next = s.next
  count : s'.subscrLuComplete = s.subscrLuComplete
  flags : ∀ p, (s'.subscr p).luComplete = (s.subscr p).luComplete ∧
    (s'.subscr p).attached = (s.subscr p).attached

theorem KeepsAttach.refl (s : Store) : KeepsAttach s s := ⟨rfl, rfl, rfl, fun _ => ⟨rfl, rfl⟩⟩

variable {s'' : Store}

theorem KeepsAttach.trans (first : KeepsAttach s s') (second : KeepsAttach s' s'') :
    KeepsAttach s s'' where
  subscribers := second.subscribers.trans first.subscribers
  next := second.next.trans first.next
  count := second.count.trans first.count
  flags p :=
    ⟨(second.flags p).1.trans (first.flags p).1, (second.flags p).2.trans (first.flags p).2⟩

variable {row : DbSgsAssoc} {f : Vsub → Vsub} {clocks : Clocks}

/-- A write of other fields. -/
theorem KeepsAttach.write (s : Store) (p : Nat)
    (same : (f (s.subscr p)).luComplete = (s.subscr p).luComplete ∧
      (f (s.subscr p)).attached = (s.subscr p).attached) : KeepsAttach s (s.write p f) where
  subscribers := rfl
  next := rfl
  count := rfl
  flags q := by
    by_cases here : q = p
    · simpa [Store.write, here] using same
    · simp [Store.write, here]

theorem KeepsAttach.withDb (s : Store) (db : PersistState) : KeepsAttach s { s with db := db } :=
  ⟨rfl, rfl, rfl, fun _ => ⟨rfl, rfl⟩⟩

theorem KeepsAttach.rehashImsi (cfg : StoreCfg) (s : Store) (p : Nat) :
    KeepsAttach s (vlrSubscrRehashImsi cfg s p) :=
  ⟨rfl, rfl, rfl, fun _ => ⟨rfl, rfl⟩⟩

theorem KeepsAttach.rehashTmsi (cfg : StoreCfg) (s : Store) (p : Nat) :
    KeepsAttach s (vlrSubscrRehashTmsi cfg s p) :=
  ⟨rfl, rfl, rfl, fun _ => ⟨rfl, rfl⟩⟩

theorem AttachInv.keeps (inv : AttachInv s) (keeps : KeepsAttach s s') : AttachInv s' where
  nodup := keeps.subscribers ▸ inv.nodup
  live p listed := by
    rw [keeps.subscribers] at listed
    rw [keeps.next]
    exact inv.live p listed
  count := by simp only [keeps.count, keeps.subscribers, (keeps.flags _).1, inv.count]
  attached p listed := by
    rw [keeps.subscribers] at listed
    rw [(keeps.flags p).1, (keeps.flags p).2]
    exact inv.attached p listed
  freed p unlisted := by
    rw [keeps.subscribers] at unlisted
    rw [(keeps.flags p).1]
    exact inv.freed p unlisted

/-- The step writes to the record `p` alone. -/
structure Touches (p : Nat) (s s' : Store) : Prop where
  subscribers : s'.subscribers = s.subscribers
  others : ∀ q, q ≠ p → s'.subscr q = s.subscr q
  db : s'.db = s.db

theorem Touches.refl (p : Nat) (s : Store) : Touches p s s := ⟨rfl, fun _ _ => rfl, rfl⟩

theorem Touches.trans (first : Touches p s s') (second : Touches p s' s'') : Touches p s s'' where
  subscribers := second.subscribers.trans first.subscribers
  others q other := (second.others q other).trans (first.others q other)
  db := second.db.trans first.db

theorem Touches.write (s : Store) (p : Nat) (f : Vsub → Vsub) : Touches p s (s.write p f) where
  subscribers := rfl
  others q other := by simp [Store.write, other]
  db := rfl

theorem Touches.rehashTmsi (cfg : StoreCfg) (s : Store) (p : Nat) :
    Touches p s (vlrSubscrRehashTmsi cfg s p) := ⟨rfl, fun _ _ => rfl, rfl⟩

/-! ### What does -/

/-- The records with the flag, after the flag of one record in the list is changed. -/
theorem countP_update {subscribers : List Nat} (nodup : subscribers.Nodup)
    (listed : p ∈ subscribers) {subscr subscr' : Nat → Vsub}
    (others : ∀ q, q ≠ p → subscr' q = subscr q) :
    (subscribers.countP fun q => (subscr' q).luComplete) +
        (if (subscr p).luComplete then 1 else 0) =
      (subscribers.countP fun q => (subscr q).luComplete) +
        if (subscr' p).luComplete then 1 else 0 := by
  induction subscribers with
  | nil => exact absurd listed not_mem_nil
  | cons first rest ih =>
      obtain ⟨fresh, nodup⟩ := nodup_cons.mp nodup
      by_cases here : first = p
      · subst here
        have same : (rest.countP fun q => (subscr' q).luComplete) =
            rest.countP fun q => (subscr q).luComplete := by
          refine countP_congr fun q member => ?_
          rw [others q fun same => fresh (same ▸ member)]
        simp only [countP_cons, same]
        omega
      · have later := ih nodup ((mem_cons.mp listed).resolve_left (Ne.symm here))
        simp only [countP_cons, others first here]
        omega

section

variable (inv : AttachInv s)
include inv

/-- The record `p` is written, and the counter follows its flag. -/
theorem AttachInv.put (listed : p ∈ s.subscribers) (touches : Touches p s s')
    (next : s'.next = s.next)
    (held : (s'.subscr p).attached = if (s'.subscr p).luComplete then 1 else 0)
    (follows : s'.subscrLuComplete + (if (s.subscr p).luComplete then 1 else 0) =
      s.subscrLuComplete + if (s'.subscr p).luComplete then 1 else 0) : AttachInv s' where
  nodup := touches.subscribers ▸ inv.nodup
  live q listedq := by
    rw [next]
    exact inv.live q (touches.subscribers ▸ listedq)
  count := by
    have counted := countP_update inv.nodup listed touches.others
    have before := inv.count
    rw [touches.subscribers]
    omega
  attached q listedq := by
    by_cases here : q = p
    · rwa [here]
    · rw [touches.others q here]
      exact inv.attached q (touches.subscribers ▸ listedq)
  freed q unlisted := by
    rw [touches.subscribers] at unlisted
    rw [touches.others q fun same => unlisted (same ▸ listed)]
    exact inv.freed q unlisted

theorem AttachInv.markAttached (listed : p ∈ s.subscribers) : AttachInv (s.markAttached p) := by
  unfold Store.markAttached
  split
  · exact inv
  · rename_i incomplete
    have none := inv.attached p listed
    rw [Bool.not_eq_true] at incomplete
    have step : (vlrSubscrSetLuComplete s p true).getAttached p =
        { s with
          subscr := Function.update s.subscr p
            { s.subscr p with luComplete := true, attached := (s.subscr p).attached + 1 }
          subscrLuComplete := s.subscrLuComplete + 1 } := by
      simp [vlrSubscrSetLuComplete, incomplete, Store.getAttached, Store.write]
    rw [step]
    refine inv.put listed ⟨rfl, fun q other => by simp [other], rfl⟩ rfl ?_ ?_
    · simp [none, incomplete]
    · simp [incomplete]

/-- A record that was freed has no flag. -/
theorem AttachInv.listed (complete : (s.subscr p).luComplete = true) : p ∈ s.subscribers := by
  by_contra unlisted
  rw [inv.freed p unlisted] at complete
  exact absurd complete Bool.false_ne_true

/-- An attachment ends; a record that was freed has none. -/
theorem AttachInv.markDetached (p : Nat) : AttachInv (s.markDetached p) := by
  unfold Store.markDetached
  split
  · rename_i complete
    have listed := inv.listed complete
    have one := inv.attached p listed
    have counted : 0 < s.subscrLuComplete := by
      rw [inv.count, countP_pos_iff]
      exact ⟨p, listed, complete⟩
    have step : ((vlrSubscrSetLuComplete s p false).write p fun vsub =>
        { vsub with attached := vsub.attached - 1 }) =
        { s with
          subscr := Function.update s.subscr p
            { s.subscr p with luComplete := false, attached := (s.subscr p).attached - 1 }
          subscrLuComplete := s.subscrLuComplete - 1 } := by
      simp [vlrSubscrSetLuComplete, complete, Store.write]
    rw [step]
    refine inv.put listed ⟨rfl, fun q other => by simp [other], rfl⟩ rfl ?_ ?_
    · simp [one, complete]
    · simp only [Function.update_self, complete, if_true, Bool.false_eq_true, if_false]
      omega
  · exact inv

theorem AttachInv.free (p : Nat) : AttachInv (vlrSubscrFree s p) := by
  have kept : ∀ q, q ∈ (vlrSubscrFree s p).subscribers ↔ q ∈ s.subscribers ∧ q ≠ p := by
    intro q
    rw [subscribers_free]
    simp
  have others : ∀ q, q ≠ p → (vlrSubscrFree s p).subscr q = s.subscr q :=
    fun q other => by simp [subscr_free, other]
  have next : (vlrSubscrFree s p).next = s.next := by
    obtain ⟨count, eq⟩ := setLuComplete_eq (delist s p) p false
    exact (congrArg (fun s => Store.next s) eq).trans rfl
  exact
    { nodup := by
        rw [subscribers_free]
        exact inv.nodup.filter _
      live := by
        intro q listed
        rw [next]
        exact inv.live q ((kept q).mp listed).1
      count := by
        have counter : (vlrSubscrFree s p).subscrLuComplete =
            s.subscrLuComplete - if (s.subscr p).luComplete then 1 else 0 := by
          by_cases complete : (s.subscr p).luComplete = true
          · simp [vlrSubscrFree, vlrSubscrSetLuComplete, complete]
          · simp [vlrSubscrFree, vlrSubscrSetLuComplete, complete]
        have same : ((vlrSubscrFree s p).subscribers.countP fun q =>
              ((vlrSubscrFree s p).subscr q).luComplete) =
            (s.subscribers.erase p).countP fun q => (s.subscr q).luComplete := by
          have list : (vlrSubscrFree s p).subscribers = s.subscribers.erase p := by
            rw [subscribers_free, inv.nodup.erase_eq_filter]
            exact filter_congr fun q _ => by by_cases here : q = p <;> simp [here]
          rw [← list]
          refine countP_congr fun q member => ?_
          rw [others q ((kept q).mp member).2]
        rw [counter, same, countP_erase, inv.count]
        by_cases complete : (s.subscr p).luComplete = true
        · simp [complete, inv.listed complete]
        · simp [complete]
      attached := by
        intro q listed
        obtain ⟨before, other⟩ := (kept q).mp listed
        rw [others q other]
        exact inv.attached q before
      freed := by
        intro q unlisted
        by_cases here : q = p
        · simp [subscr_free, here]
        · rw [others q here]
          exact inv.freed q fun listed => unlisted ((kept q).mpr ⟨listed, here⟩) }

theorem AttachInv.alloc (clocks : Clocks) : AttachInv (vlrSubscrAlloc clocks s).1 := by
  have fresh : s.next ∉ s.subscribers := fun listed => Nat.lt_irrefl _ (inv.live _ listed)
  have others : ∀ p ∈ s.subscribers, p ≠ s.next := fun p listed same => fresh (same ▸ listed)
  exact
    { nodup := by
        refine inv.nodup.append (by simp) fun p listed last => ?_
        exact others p listed (mem_singleton.mp last)
      live := by
        intro p listed
        rcases mem_concat.mp listed with before | rfl
        · exact Nat.lt_succ_of_lt (inv.live p before)
        · exact Nat.lt_succ_self _
      count := by
        have same : (s.subscribers.countP fun p =>
              (Function.update s.subscr s.next
                { expireLu := clocks.monotonic.map (· + vlrIncompleteLuSecs) } p).luComplete) =
            s.subscribers.countP fun p => (s.subscr p).luComplete :=
          countP_congr fun p listed => by simp [others p listed]
        simp [vlrSubscrAlloc, countP_append, same, inv.count]
      attached := by
        intro p listed
        rcases mem_concat.mp listed with before | rfl
        · simpa [vlrSubscrAlloc, others p before] using inv.attached p before
        · simp [vlrSubscrAlloc]
      freed := by
        intro p unlisted
        have other : p ≠ s.next := fun same =>
          unlisted (mem_append_right _ (mem_singleton.mpr same))
        simpa [vlrSubscrAlloc, other] using
          inv.freed p fun listed => unlisted (mem_append_left _ listed) }

end

/-! ### Moves -/

section Moves

variable {cfg : StoreCfg} {imsis tmsis : Prop}

theorem AttachInv.move (inv : AttachInv s) (move : Move cfg imsis tmsis s s') : AttachInv s' := by
  cases move with
  | write _ attach => exact inv.keeps (.write s _ attach)
  | writeTmsi _ _ attach _ => exact inv.keeps ((KeepsAttach.write s _ attach).trans (.rehashTmsi cfg _ _))
  | writeImsi _ _ _ => exact inv.keeps ((KeepsAttach.write s _ ⟨rfl, rfl⟩).trans (.rehashImsi cfg _ _))
  | clearIds _ =>
      exact inv.keeps (((KeepsAttach.write s _ ⟨rfl, rfl⟩).trans (.rehashImsi cfg _ _)).trans
        (.rehashTmsi cfg _ _))
  | markAttached listed => exact inv.markAttached listed
  | markDetached p => exact inv.markDetached p
  | free p => exact inv.free p
  | alloc clocks => exact inv.alloc clocks
  | withDb db => exact inv.keeps (.withDb s db)

theorem AttachInv.moves (inv : AttachInv s) (moves : Moves cfg imsis tmsis s s') : AttachInv s' := by
  induction moves with
  | refl => exact inv
  | tail _ move ih => exact ih.move move

theorem KeepsAttach.toNull (s : Store) (p : Nat) : KeepsAttach s (toNull cfg s p) := by
  unfold Vlr.toNull
  refine KeepsAttach.trans ?_ (.write _ p ⟨rfl, rfl⟩)
  refine KeepsAttach.trans ?_ (.rehashTmsi cfg _ p)
  exact (KeepsAttach.write s p ⟨rfl, rfl⟩).trans (.write _ p ⟨rfl, rfl⟩)

/-- A detach indication, from the UE or from the MME, changes the expiry before `to_null()`. -/
theorem sgsUeFsm_detachInd {cfg : StoreCfg} {env : SgsEnv} {s : Store} {p : Nat} {fromUe : Bool} :
    ∃ expiry, sgsUeFsm cfg env s p (if fromUe then .rxDetachIndFromUe else .rxDetachIndFromMme) =
      toNull cfg (s.write p fun vsub => { vsub with expireLu := expiry }) p := by
  cases complete : (s.subscr p).luComplete with
  | true => exact ⟨none, by cases fromUe <;> simp [sgsUeFsm, sgsUeAccepts, complete]⟩
  | false =>
      refine ⟨((vlrSubscrKeepIncompleteExpiry env.clocks s p).subscr p).expireLu, ?_⟩
      cases fromUe <;>
        simp [sgsUeFsm, sgsUeAccepts, complete, vlrSubscrKeepIncompleteExpiry, Store.write]

end Moves

/-! ### Runs -/

/-- What `db_sgs_assoc_foreach()` hands out: `imsi` is the primary key of the table, and a row without
one is skipped. -/
structure SgsRows where
  rows : List DbSgsAssoc
  distinct : (rows.map fun row => row.imsi).Nodup
  named : ∀ row ∈ rows, row.imsi ≠ []
  fits : ∀ row ∈ rows, row.imsi.length ≤ imsiMaxDigits

/-- An operation of the VLR or of the SGs interface, or a new process that restores the associations
of the table; `clocks` is the time at each row. -/
inductive VlrInput where
  | op (input : StoreInput) (running : input.Running)
  | start (clocks : DbSgsAssoc → Clocks) (rows : SgsRows)

/-- `sgs_iface_restore_assocs()`. -/
def sgsIfaceRestoreAssocs (cfg : StoreCfg) (clocks : DbSgsAssoc → Clocks) (rows : SgsRows)
    (s : Store) : Store :=
  if s.db.cfg.vlrPersist then
    rows.rows.foldl (fun s row => sgsRestoreOne cfg (clocks row) s row) s
  else s

def vlrStep (cfg : StoreCfg) (s : Store) : VlrInput → Store
  | .op input _ => storeStep cfg s input
  | .start clocks rows => sgsIfaceRestoreAssocs cfg clocks rows (storeStep cfg s .restart)

section Runs

variable {cfg : StoreCfg}

theorem attachInv_init {db : PersistState} : AttachInv { db := db } :=
  ⟨nodup_nil, nofun, rfl, nofun, fun _ _ => rfl⟩

/-! ### Start-up -/

/-- What `sgs_restore_one()` copies from the row into the record. -/
def restoreFields (cfg : StoreCfg) (clocks : Clocks) (row : DbSgsAssoc) (s : Store) (p : Nat) :
    Store :=
  let s := if row.msisdn = [] then s else s.write p fun vsub => { vsub with msisdn := row.msisdn }
  let s :=
    if row.tmsi = gsmReservedTmsi then s
    else vlrSubscrRehashTmsi cfg (s.write p fun vsub => { vsub with tmsi := row.tmsi }) p
  s.write p fun vsub =>
    { vsub with
      mmeName := row.mmeName
      lai := row.lai
      lastEutranPlmnPresent := row.lastEutranPlmnPresent
      lastEutranPlmn := if row.lastEutranPlmnPresent then row.lastEutranPlmn else vsub.lastEutranPlmn
      confByRadioContactInd := false
      expireLu :=
        if 0 < row.expireUnix then
          clocks.monotonic.map fun mono => mono + (row.expireUnix - clocks.realtime)
        else none }

theorem sgsRestoreOne_eq (current : ¬ (0 < row.expireUnix ∧ row.expireUnix ≤ clocks.realtime))
    (result : vlrSubscrFindOrCreateByImsi cfg clocks s row.imsi = (s', p)) :
    sgsRestoreOne cfg clocks s row =
      sgsStateChg (vlrSubscrSetLuComplete (restoreFields cfg clocks row (s'.getAttached p) p) p true)
        p .null false := by
  unfold sgsRestoreOne
  rw [if_neg current, result]
  rfl

/-- The step writes to the record `p` alone, and neither its attachment nor its IMSI. -/
structure KeepsNamed (p : Nat) (s s' : Store) : Prop where
  attach : KeepsAttach s s'
  touches : Touches p s s'
  imsi : (s'.subscr p).imsi = (s.subscr p).imsi

theorem KeepsNamed.refl (p : Nat) (s : Store) : KeepsNamed p s s := ⟨.refl s, .refl p s, rfl⟩

theorem KeepsNamed.trans (first : KeepsNamed p s s') (second : KeepsNamed p s' s'') :
    KeepsNamed p s s'' :=
  ⟨first.attach.trans second.attach, first.touches.trans second.touches,
    second.imsi.trans first.imsi⟩

theorem KeepsNamed.write (s : Store) (p : Nat)
    (same : (f (s.subscr p)).luComplete = (s.subscr p).luComplete ∧
      (f (s.subscr p)).attached = (s.subscr p).attached)
    (imsi : (f (s.subscr p)).imsi = (s.subscr p).imsi) : KeepsNamed p s (s.write p f) :=
  ⟨.write s p same, .write s p f, by rwa [write_subscr_self]⟩

theorem KeepsNamed.restoreFields (clocks : Clocks) (row : DbSgsAssoc) (s : Store) (p : Nat) :
    KeepsNamed p s (restoreFields cfg clocks row s p) := by
  unfold Vlr.restoreFields
  extract_lets s₁ s₂
  have msisdn : KeepsNamed p s s₁ := by
    simp only [s₁]
    split
    · exact .refl p s
    · exact .write s p ⟨rfl, rfl⟩ rfl
  have tmsi : KeepsNamed p s₁ s₂ := by
    simp only [s₂]
    split
    · exact .refl p s₁
    · exact (KeepsNamed.write s₁ p ⟨rfl, rfl⟩ rfl).trans
        ⟨.rehashTmsi cfg _ p, .rehashTmsi cfg _ p, rfl⟩
  exact (msisdn.trans tmsi).trans (.write s₂ p ⟨rfl, rfl⟩ rfl)

/-- The record that a row is restored into. -/
theorem restored_subscr {s : Store} {p : Nat} {restored : Store}
    (eq : sgsStateChg (vlrSubscrSetLuComplete (restoreFields cfg clocks row (s.getAttached p) p) p
      true) p .null false = restored) :
    Touches p s restored ∧
      ((restored.subscr p).imsi = (s.subscr p).imsi ∧ (restored.subscr p).sgsState = .null ∧
        (restored.subscr p).confByRadioContactInd = false ∧ (restored.subscr p).luComplete = true) ∧
      restored.next = s.next ∧
      ((s.subscr p).luComplete = false → restored.subscrLuComplete = s.subscrLuComplete + 1 ∧
        (restored.subscr p).attached = (s.subscr p).attached + 1) := by
  obtain ⟨keeps, touches, imsi⟩ : KeepsNamed p (s.getAttached p)
    (restoreFields cfg clocks row (s.getAttached p) p) := .restoreFields clocks row _ p
  have unconfirmed : ((restoreFields cfg clocks row (s.getAttached p) p).subscr
      p).confByRadioContactInd = false := by
    simp [restoreFields]
  generalize restoreFields cfg clocks row (s.getAttached p) p = s' at eq keeps touches imsi unconfirmed
  obtain ⟨count, flag⟩ := setLuComplete_eq s' p true
  have counted : (s.subscr p).luComplete = false → count = s.subscrLuComplete + 1 := by
    intro incomplete
    have same : (s'.subscr p).luComplete = false := by
      simpa [Store.getAttached, incomplete] using (keeps.flags p).1
    simpa [vlrSubscrSetLuComplete, same, keeps.count, Store.getAttached, Store.write] using
      (congrArg (·.subscrLuComplete) flag).symm
  rw [flag] at eq
  subst eq
  refine ⟨⟨touches.subscribers, fun q other => ?_, touches.db⟩, ?_, keeps.next,
    fun incomplete => ⟨counted incomplete, ?_⟩⟩
  · simpa [sgsStateChg, Store.write, Store.getAttached, other] using touches.others q other
  · simpa [sgsStateChg, Store.write, Store.getAttached, unconfirmed] using imsi
  · simpa [sgsStateChg, Store.write, Store.getAttached] using (keeps.flags p).2

/-- The counter, the flags and the uses agree over tables that index the records. -/
structure VlrInv (cfg : StoreCfg) (s : Store) : Prop where
  attach : AttachInv s
  coherent : Coherent cfg False False s

/-- While the associations are restored: the records are those of the rows `done`. -/
structure Restoring (cfg : StoreCfg) (done : List Digits) (s : Store) : Prop extends VlrInv cfg s where
  records : ∀ p ∈ s.subscribers, (s.subscr p).imsi ∈ done

/-- Each row finds no record, for no other row has its IMSI. -/
theorem Restoring.restoreOne {done : List Digits} (restoring : Restoring cfg done s)
    (clocks : Clocks) (fits : row.imsi.length ≤ imsiMaxDigits) (fresh : row.imsi ∉ done) :
    Restoring cfg (row.imsi :: done) (sgsRestoreOne cfg clocks s row) := by
  have coherent := restoring.coherent.restoreOne clocks fits False.elim
  by_cases expired : 0 < row.expireUnix ∧ row.expireUnix ≤ clocks.realtime
  · have deleted : sgsRestoreOne cfg clocks s row =
        { s with db := { s.db with table := dbSgsAssocDelete s.db.table row.imsi } } := if_pos expired
    exact
      { attach := deleted ▸ restoring.attach.keeps (.withDb s _)
        coherent := coherent
        records := by
          rw [deleted]
          exact fun p listed => mem_cons_of_mem _ (restoring.records p listed) }
  · have missing : vlrSubscrFindByImsi cfg s row.imsi = none := by
      by_contra found
      obtain ⟨q, found⟩ := Option.ne_none_iff_exists'.mp found
      obtain ⟨listed, has, -⟩ := restoring.coherent.of_findByImsi found
      exact fresh (has ▸ restoring.records q listed)
    obtain ⟨s', result, list, new, others, -⟩ :=
      findOrCreateByImsi_new restoring.coherent clocks missing
    have incomplete : (s'.subscr s.next).luComplete = false := by rw [new]
    have created : AttachInv s' :=
      restoring.attach.moves (restoring.coherent.findOrCreateByImsi clocks False.elim result).1
    have listed : s.next ∈ s'.subscribers := by simp [list]
    have step := sgsRestoreOne_eq expired result
    obtain ⟨touches, ⟨imsi, -, -, complete⟩, next, counts⟩ :=
      restored_subscr step.symm
    obtain ⟨counted, attached⟩ := counts incomplete
    exact
      { attach := by
          refine created.put listed touches next ?_ ?_
          · simp [complete, attached, new]
          · simp [complete, incomplete, counted]
        coherent := coherent
        records := by
          intro q inList
          rw [touches.subscribers, list] at inList
          rcases mem_concat.mp inList with before | rfl
          · have other : q ≠ s.next := Nat.ne_of_lt (restoring.attach.live q before)
            rw [touches.others q other, others q other]
            exact mem_cons_of_mem _ (restoring.records q before)
          · rw [imsi, new, take_of_length_le fits]
            exact mem_cons_self }

theorem Restoring.restoreAll (clocks : DbSgsAssoc → Clocks) :
    ∀ {rows : List DbSgsAssoc} {done : List Digits} {s : Store}, Restoring cfg done s →
      (rows.map fun row => row.imsi).Nodup → (∀ row ∈ rows, row.imsi ∉ done) →
      (∀ row ∈ rows, row.imsi.length ≤ imsiMaxDigits) →
      VlrInv cfg (rows.foldl (fun s row => sgsRestoreOne cfg (clocks row) s row) s)
  | [], _, _, restoring, _, _, _ => restoring.toVlrInv
  | row :: rows, done, s, restoring, distinct, fresh, fits => by
      obtain ⟨unlike, distinct⟩ := nodup_cons.mp distinct
      have restored := restoring.restoreOne (clocks row) (fits row mem_cons_self)
        (fresh row mem_cons_self)
      refine restored.restoreAll clocks distinct ?_ ?_
      · intro other member seen
        rcases mem_cons.mp seen with same | seen
        · exact unlike (mem_map.mpr ⟨other, member, same⟩)
        · exact fresh other (mem_cons_of_mem _ member) seen
      · exact fun other member => fits other (mem_cons_of_mem _ member)

theorem VlrInv.vlrStep (inv : VlrInv cfg s) (input : VlrInput) : VlrInv cfg (vlrStep cfg s input) := by
  cases input with
  | op input running =>
      have moves := storeStep_moves inv.coherent input running False.elim
      exact ⟨inv.attach.moves moves, inv.coherent.moves moves⟩
  | start clocks rows =>
      have empty : Restoring cfg [] (Vlr.storeStep cfg s .restart) :=
        ⟨⟨attachInv_init, coherent_init s.db.cfg s.db.table⟩, nofun⟩
      simp only [Vlr.vlrStep, sgsIfaceRestoreAssocs]
      split
      · exact empty.restoreAll clocks rows.distinct nofun rows.fits
      · exact empty.toVlrInv

theorem vlrRun_inv (cfg : StoreCfg) (persist : PersistCfg) (table : SgsAssoc) (inputs : List VlrInput) :
    VlrInv cfg (inputs.foldl (vlrStep cfg) (storeInit persist table)) :=
  foldl_invariant_always (fun _ input inv => inv.vlrStep input) inputs _
    ⟨attachInv_init, coherent_init persist table⟩

end Runs

/-- In every run, `subscr_lu_complete` counts the records with the flag `lu_complete`; a record with
the flag has one use `VSUB_USE_ATTACHED`, and a record without it has none. -/
theorem vlrRun_attached (cfg : StoreCfg) (persist : PersistCfg) (table : SgsAssoc)
    (inputs : List VlrInput) :
    let s := inputs.foldl (vlrStep cfg) (storeInit persist table)
    s.subscrLuComplete = (s.subscribers.countP fun p => (s.subscr p).luComplete) ∧
      ∀ p ∈ s.subscribers,
        ((s.subscr p).luComplete = true ↔ (s.subscr p).attached = 1) ∧
          ((s.subscr p).luComplete = false → (s.subscr p).attached = 0) := by
  have inv := (vlrRun_inv cfg persist table inputs).attach
  refine ⟨inv.count, fun p listed => ?_⟩
  have held := inv.attached p listed
  cases complete : (Store.subscr (inputs.foldl (vlrStep cfg) (storeInit persist table)) p).luComplete with
  | false | true => simp [held, complete]

end OsmoMsc.Vlr
