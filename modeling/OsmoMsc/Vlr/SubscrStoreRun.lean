/-
Module: OsmoMsc.Vlr.SubscrStoreRun
Purpose: The subscriber records over whole runs of the VLR, restarts and the restoration of SGs
  associations included.  The hash tables always find what a walk over the list finds, and no IMSI
  has two records.  No TMSI has two records either, as long as no association is restored with a
  TMSI that another record holds by then; an ordinary run can end in such a restoration.
Trusted boundary: none
Main exports: StoreInput, storeStep, Coherent, Moves, storeStep_moves, storeStep_coherent,
  storeRun_lookups, storeRun_tmsiUnique, storeRun_findsCreated
-/
import Mathlib.Logic.Relation
import OsmoMsc.Vlr.SgsUeFsm

namespace OsmoMsc.Vlr

open Library Sgs List

variable {p : Nat} {cfg : StoreCfg} {s s' : Store} {imsis tmsis : Prop}

/-! ### Runs -/

/-- The operations of the VLR.  Those that get a pointer to a record get one that is in the list. -/
inductive StoreInput where
  | findOrCreateByImsi (clocks : Clocks) (imsi : Digits)
  | findOrCreateByTmsi (clocks : Clocks) (tmsi : Nat)
  | setImsi (env : DedupEnv) (p : Nat) (imsi : Digits)
  | rxIdResp (env : DedupEnv) (waiter : IdWaiter) (p : Nat) (imsi : Digits)
  | luNewTmsi (rand : Nat → Option Nat) (p : Nat)
  | luNoTmsi (p : Nat)
  | luTmsiAck (p : Nat)
  | sgsEvent (env : SgsEnv) (p : Nat) (event : SgsUeEvent)
  | sgsTimer (p : Nat)
  | sgsLocUpdate (env : SgsEnv) (imsi : Digits) (mmeName : String) (lai : LocationAreaId)
      (lastEutranPlmn : Option PlmnId)
  | sgsLocUpdateAccSent (env : SgsEnv) (p : Nat)
  | sgsLocUpdateRejSent (env : SgsEnv) (p : Nat)
  | sgsTmsiReallCompl (env : SgsEnv) (imsi : Digits)
  | sgsImsiDetach (env : SgsEnv) (imsi : Digits) (implicit fromUe : Bool)
  | sgsEpsDetach (env : SgsEnv) (imsi : Digits) (fromUe : Bool)
  | expire (p : Nat)
  | detach (env : SgsEnv) (p : Nat)
  | free (p : Nat)
  | use (p count : Nat)
  | persistForgetMme (mmeName : String)
  | persistFlush
  | restart
  | restore (clocks : Clocks) (imsi : Digits)

/-- The row of an IMSI as `db_sgs_assoc_foreach()` hands it out, cut to the buffers of the structure. -/
def restorableRow (s : Store) (imsi : Digits) : Option DbSgsAssoc :=
  if !s.db.cfg.vlrPersist then none
  else
    match s.db.table imsi with
    | none => none
    | some row =>
        if row.imsi = [] ∨ row.mmeName = "" then none
        else some { row with imsi := row.imsi.take imsiMaxDigits }

section Step

variable (cfg : StoreCfg)

/-- An operation on a record in the list. -/
def onSubscr (s : Store) (p : Nat) (f : Store → Nat → Store) : Store :=
  if p ∈ s.subscribers then f s p else s

def storeStep (s : Store) : StoreInput → Store
  | .findOrCreateByImsi clocks imsi => (vlrSubscrFindOrCreateByImsi cfg clocks s imsi).1
  | .findOrCreateByTmsi clocks tmsi => (vlrSubscrFindOrCreateByTmsi cfg clocks s tmsi).1
  | .setImsi env p imsi => onSubscr s p fun s p => vlrSubscrSetImsi cfg env s p imsi
  | .rxIdResp env waiter p imsi => onSubscr s p fun s p => vlrSubscrRxIdResp cfg env waiter s p imsi
  | .luNewTmsi rand p => onSubscr s p (Store.luComplVlrNewTmsi cfg rand)
  | .luNoTmsi p => onSubscr s p (luComplVlrNoTmsi cfg)
  | .luTmsiAck p => onSubscr s p (Store.luComplVlrWaitTmsi cfg)
  | .sgsEvent env p event => onSubscr s p fun s p => sgsUeFsm cfg env s p event
  | .sgsTimer p => onSubscr s p (sgsUeFsmTimerCb cfg)
  | .sgsLocUpdate env imsi mmeName lai lastEutranPlmn =>
      vlrSgsLocUpdate cfg env s imsi mmeName lai lastEutranPlmn
  | .sgsLocUpdateAccSent env p => onSubscr s p (vlrSgsLocUpdateAccSent cfg env)
  | .sgsLocUpdateRejSent env p => onSubscr s p (vlrSgsLocUpdateRejSent cfg env)
  | .sgsTmsiReallCompl env imsi => vlrSgsTmsiReallCompl cfg env s imsi
  | .sgsImsiDetach env imsi implicit fromUe => vlrSgsImsiDetach cfg env s imsi implicit fromUe
  | .sgsEpsDetach env imsi fromUe => vlrSgsEpsDetach cfg env s imsi fromUe
  | .expire p => onSubscr s p vlrSubscrExpire
  | .detach env p => onSubscr s p (vlrSubscrDetach cfg env)
  | .free p => onSubscr s p vlrSubscrFree
  -- Connections, transactions and pagings get and put their uses of a record.
  | .use p count => onSubscr s p fun s p => s.write p fun vsub => { vsub with uses := count }
  | .persistForgetMme mmeName => { s with db := sgsVlrPersistForgetMme s.db mmeName }
  | .persistFlush => { s with db := sgsPersistFlush s.db }
  -- A new process: nothing but the table survives.
  | .restart => { db := persistInit s.db.cfg s.db.table }
  | .restore clocks imsi =>
      match restorableRow s imsi with
      | none => s
      | some row => sgsRestoreOne cfg clocks s row

end Step

/-- The VLR at start-up, over any table. -/
def storeInit (persist : PersistCfg) (table : SgsAssoc) : Store :=
  { db := persistInit persist table }

/-! ### The invariant -/

/-- A field of the records in the list, as a function of their address. -/
def keyed {κ : Type*} (s : Store) (key : Vsub → Option κ) (p : Nat) : Option κ :=
  if p ∈ s.subscribers then key (s.subscr p) else none

/-- The record has the TMSI, be it confirmed or new. -/
def Vsub.Holds (vsub : Vsub) (tmsi : Nat) : Prop := vsub.tmsi = tmsi ∨ vsub.tmsiNew = tmsi

instance (vsub : Vsub) (tmsi : Nat) : Decidable (vsub.Holds tmsi) :=
  inferInstanceAs (Decidable (vsub.tmsi = tmsi ∨ vsub.tmsiNew = tmsi))

/-- No two records share an IMSI. -/
def ImsiUnique (s : Store) : Prop :=
  ∀ p ∈ s.subscribers, ∀ q ∈ s.subscribers,
    (s.subscr p).imsi ≠ [] → (s.subscr p).imsi = (s.subscr q).imsi → p = q

/-- No two records share a TMSI, confirmed ones and new ones counted alike. -/
def TmsiUnique (s : Store) : Prop :=
  ∀ p ∈ s.subscribers, ∀ q ∈ s.subscribers, ∀ tmsi, tmsi ≠ gsmReservedTmsi →
    (s.subscr p).Holds tmsi → (s.subscr q).Holds tmsi → p = q

/-- The tables index the records in the list; and IMSIs are unique if `imsis` asks for it, TMSIs if
`tmsis` does. -/
structure Coherent (cfg : StoreCfg) (imsis tmsis : Prop) (s : Store) : Prop where
  byImsi : Indexes cfg.hashImsi s.subscrByImsi (keyed s fun vsub => imsiKey vsub.imsi)
  byTmsi : Indexes cfg.hashTmsi s.subscrByTmsi (keyed s fun vsub => tmsiKey vsub.tmsi)
  byTmsiNew : Indexes cfg.hashTmsi s.subscrByTmsiNew (keyed s fun vsub => tmsiKey vsub.tmsiNew)
  live : ∀ p ∈ s.subscribers, p < s.next
  stored : ∀ p ∈ s.subscribers, (s.subscr p).imsi.length ≤ imsiMaxDigits
  imsiUnique : imsis → ImsiUnique s
  tmsiUnique : tmsis → TmsiUnique s

variable {imsi : Digits} {chains : Chains Nat Nat}

section Lookup

theorem imsiKey_eq_some {imsi key : Digits} : imsiKey imsi = some key ↔ key ≠ [] ∧ imsi = key := by
  unfold imsiKey
  split <;> grind

theorem tmsiKey_eq_some {tmsi key : Nat} :
    tmsiKey tmsi = some key ↔ key ≠ gsmReservedTmsi ∧ tmsi = key := by
  unfold tmsiKey
  split <;> grind

theorem keyed_eq_some {κ : Type*} {key : Vsub → Option κ} {k : κ} :
    keyed s key p = some k ↔ p ∈ s.subscribers ∧ key (s.subscr p) = some k := by
  simp [keyed]

/-- The walk over the chain of a key finds a record of the list that has the key, if there is one. -/
theorem find_of_indexes {κ : Type*} {hash : κ → Nat} {key : Vsub → Option κ} {k : κ}
    {hit : Vsub → Bool} (indexes : Indexes hash chains (keyed s key))
    (compares : ∀ vsub, hit vsub = true ↔ key vsub = some k) :
    (((chains (hash k)).find? fun p => hit (s.subscr p)).isSome ↔
        ∃ p ∈ s.subscribers, hit (s.subscr p) = true) ∧
      ∀ p ∈ (chains (hash k)).find? fun p => hit (s.subscr p),
        p ∈ s.subscribers ∧ hit (s.subscr p) = true := by
  have listed (p : Nat) (member : p ∈ chains (hash k)) : p ∈ s.subscribers := by
    obtain ⟨_, keyedBy, -⟩ := (indexes _ p).mp member
    exact (keyed_eq_some.mp keyedBy).1
  refine ⟨?_, fun p found => ⟨listed p (mem_of_find?_eq_some found), ?_⟩⟩
  · rw [indexes.find_isSome_iff fun p member => by simp [keyed_eq_some, compares, listed p member]]
    simp only [keyed_eq_some, compares]
  · simpa using find?_some found

theorem matchesImsi_iff (named : imsi ≠ []) (vsub : Vsub) :
    vlrSubscrMatchesImsi vsub imsi = true ↔ imsiKey vsub.imsi = some imsi := by
  simp only [vlrSubscrMatchesImsi, imsiKey_eq_some, decide_eq_true_eq]
  grind

theorem hasTmsi_iff {tmsi : Nat} (valid : tmsi ≠ gsmReservedTmsi) (held : Nat) :
    decide (held = tmsi) = true ↔ tmsiKey held = some tmsi := by
  simp [tmsiKey_eq_some, valid]

section

variable {tmsi : Nat} (coherent : Coherent cfg imsis tmsis s)
include coherent

theorem Coherent.of_findByImsi (found : vlrSubscrFindByImsi cfg s imsi = some p) :
    p ∈ s.subscribers ∧ (s.subscr p).imsi = imsi ∧ imsi ≠ [] := by
  unfold vlrSubscrFindByImsi at found
  split at found
  · cases found
  · rename_i named
    obtain ⟨listed, hit⟩ := (find_of_indexes coherent.byImsi (matchesImsi_iff named)).2 p found
    simp only [vlrSubscrMatchesImsi, decide_eq_true_eq] at hit
    exact ⟨listed, hit.2, named⟩

/-- `_vlr_subscr_find_by_imsi()` finds a record if and only if there is one. -/
theorem Coherent.findByImsi_isSome (imsi : Digits) :
    (vlrSubscrFindByImsi cfg s imsi).isSome ↔
      ∃ p ∈ s.subscribers, vlrSubscrMatchesImsi (s.subscr p) imsi = true := by
  by_cases empty : imsi = []
  · simp only [vlrSubscrFindByImsi, empty, vlrSubscrMatchesImsi]
    simp
  · rw [vlrSubscrFindByImsi, if_neg empty]
    exact (find_of_indexes coherent.byImsi (matchesImsi_iff empty)).1

theorem Coherent.imsi_ne_of_findByImsi_eq_none (missing : vlrSubscrFindByImsi cfg s imsi = none)
    (named : imsi ≠ []) : ∀ q ∈ s.subscribers, (s.subscr q).imsi ≠ imsi := by
  intro q listed same
  have found := (coherent.findByImsi_isSome imsi).mpr
    ⟨q, listed, by simp [vlrSubscrMatchesImsi, same, named]⟩
  rw [missing] at found
  cases found

/-- `_vlr_subscr_find_by_tmsi()` finds a record if and only if there is one. -/
theorem Coherent.findByTmsi_isSome (tmsi : Nat) :
    (vlrSubscrFindByTmsi cfg s tmsi).isSome ↔
      ∃ p ∈ s.subscribers, vlrSubscrMatchesTmsi (s.subscr p) tmsi = true := by
  by_cases reserved : tmsi = gsmReservedTmsi
  · simp [vlrSubscrFindByTmsi, vlrSubscrMatchesTmsi, reserved]
  · have confirmed := (find_of_indexes coherent.byTmsi fun _ => hasTmsi_iff reserved _).1
    have new := (find_of_indexes coherent.byTmsiNew fun _ => hasTmsi_iff reserved _).1
    simp only [decide_eq_true_eq] at confirmed new
    simp only [vlrSubscrMatchesTmsi, reserved, ne_eq, not_false_eq_true, true_and,
      decide_eq_true_eq, and_or_left, exists_or]
    rw [← confirmed, ← new, vlrSubscrFindByTmsi, if_neg reserved]
    split <;> simp_all

theorem Coherent.not_holds_of_findByTmsi (valid : tmsi ≠ gsmReservedTmsi)
    (missing : (vlrSubscrFindByTmsi cfg s tmsi).isSome = false) :
    ∀ q ∈ s.subscribers, ¬ (s.subscr q).Holds tmsi := by
  intro q listed holds
  have found := (coherent.findByTmsi_isSome tmsi).mpr
    ⟨q, listed, by simpa [vlrSubscrMatchesTmsi, valid, Vsub.Holds] using holds⟩
  rw [missing] at found
  cases found

end

end Lookup

/-! ### What keeps the invariant -/

section Writes

section

variable (f : Vsub → Vsub)
include f

@[simp] theorem write_subscribers : (s.write p f).subscribers = s.subscribers := rfl

@[simp] theorem write_subscr_self : (s.write p f).subscr p = f (s.subscr p) := by
  simp [Store.write]

@[simp] theorem write_subscrByImsi :
    (s.write p f).subscrByImsi = s.subscrByImsi := rfl

@[simp] theorem write_subscrByTmsi :
    (s.write p f).subscrByTmsi = s.subscrByTmsi := rfl

@[simp] theorem write_subscrByTmsiNew :
    (s.write p f).subscrByTmsiNew = s.subscrByTmsiNew := rfl

end

@[simp] theorem rehashImsi_subscr : (vlrSubscrRehashImsi cfg s p).subscr = s.subscr := rfl

@[simp] theorem rehashImsi_subscribers :
    (vlrSubscrRehashImsi cfg s p).subscribers = s.subscribers := rfl

@[simp] theorem rehashTmsi_subscr : (vlrSubscrRehashTmsi cfg s p).subscr = s.subscr := rfl

@[simp] theorem rehashTmsi_subscribers :
    (vlrSubscrRehashTmsi cfg s p).subscribers = s.subscribers := rfl

/-- The identities of a record are as before. -/
def Vsub.SameIds (vsub vsub' : Vsub) : Prop :=
  vsub.imsi = vsub'.imsi ∧ vsub.tmsi = vsub'.tmsi ∧ vsub.tmsiNew = vsub'.tmsiNew

section

variable {f : Vsub → Vsub} {κ : Type*} {vsub : Vsub}

theorem subscribers_markDetached (s : Store) (p : Nat) :
    (s.markDetached p).subscribers = s.subscribers := by
  obtain ⟨attached, count, eq⟩ := markDetached_eq s p
  rw [eq]
  rfl

theorem imsi_markDetached (s : Store) (p q : Nat) :
    ((s.markDetached p).subscr q).imsi = (s.subscr q).imsi := by
  obtain ⟨attached, count, eq⟩ := markDetached_eq s p
  rw [eq]
  by_cases here : q = p
  · simp [Store.write, here]
  · simp [Store.write, here]

theorem keyed_update {key : Vsub → Option κ} (listed : p ∈ s'.subscribers)
    (others : ∀ q, q ≠ p → (q ∈ s'.subscribers ↔ q ∈ s.subscribers))
    (subscr : s'.subscr = Function.update s.subscr p vsub) (q : Nat) :
    keyed s' key q = Function.update (keyed s key) p (key vsub) q := by
  by_cases here : q = p
  · subst here
    simp [keyed, subscr, listed]
  · simp [keyed, subscr, others q here, here]

/-- At most one record of a list has a property, if that was so before one record was written and no
other record has it if the new one does. -/
theorem unique_of_update {l l' : List Nat} {subscr : Nat → Vsub} {P : Vsub → Prop}
    (before : ∀ q ∈ l', q ≠ p → q ∈ l)
    (only : ∀ q ∈ l, ∀ q' ∈ l, P (subscr q) → P (subscr q') → q = q')
    (free : P vsub → ∀ q ∈ l, q ≠ p → ¬ P (subscr q)) :
    ∀ q ∈ l', ∀ q' ∈ l', P (Function.update subscr p vsub q) →
      P (Function.update subscr p vsub q') → q = q' := by
  intro q listed q' listed' has has'
  by_cases here : q = p
  · subst here
    by_contra other
    rw [Function.update_self] at has
    rw [Function.update_of_ne (Ne.symm other)] at has'
    exact free has q' (before q' listed' (Ne.symm other)) (Ne.symm other) has'
  · rw [Function.update_of_ne here] at has
    by_cases here' : q' = p
    · subst here'
      rw [Function.update_self] at has'
      exact absurd has (free has' q (before q listed here) here)
    · rw [Function.update_of_ne here'] at has'
      exact only q (before q listed here) q' (before q' listed' here') has has'

/-- A table that is not touched still indexes a record whose key did not change. -/
theorem indexes_of_same {hash : κ → Nat} {key : Vsub → Option κ}
    (indexes : Indexes hash chains (keyed s key)) (listed : p ∈ s.subscribers)
    (same : key vsub = key (s.subscr p)) :
    Indexes hash chains (Function.update (keyed s key) p (key vsub)) := by
  refine indexes.congr fun q => ?_
  rw [same]
  by_cases here : q = p
  · subst here
    simp [keyed, listed]
  · simp [here]

variable (coherent : Coherent cfg imsis tmsis s)
include coherent

/-- A change that touches neither the list, nor the tables, nor an identity. -/
theorem Coherent.of_sameIds (subscribers : s'.subscribers = s.subscribers) (next : s'.next = s.next)
    (imsiTable : s'.subscrByImsi = s.subscrByImsi) (tmsiTable : s'.subscrByTmsi = s.subscrByTmsi)
    (tmsiNewTable : s'.subscrByTmsiNew = s.subscrByTmsiNew)
    (same : ∀ q, (s'.subscr q).SameIds (s.subscr q)) : Coherent cfg imsis tmsis s' where
  byImsi := imsiTable ▸ coherent.byImsi.congr fun q => by simp [keyed, subscribers, (same q).1]
  byTmsi := tmsiTable ▸ coherent.byTmsi.congr fun q => by simp [keyed, subscribers, (same q).2.1]
  byTmsiNew :=
    tmsiNewTable ▸ coherent.byTmsiNew.congr fun q => by simp [keyed, subscribers, (same q).2.2]
  live := by simpa [subscribers, next] using coherent.live
  stored := by
    intro q listed
    rw [subscribers] at listed
    simpa [(same q).1] using coherent.stored q listed
  imsiUnique := by
    intro asked q listed q' listed'
    rw [subscribers] at listed listed'
    simpa [(same q).1, (same q').1] using coherent.imsiUnique asked q listed q' listed'
  tmsiUnique := by
    intro asked q listed q' listed' tmsi valid
    rw [subscribers] at listed listed'
    simpa [Vsub.Holds, (same q).2, (same q').2] using
      coherent.tmsiUnique asked q listed q' listed' tmsi valid

/-- A write of other fields. -/
theorem Coherent.write (same : (f (s.subscr p)).SameIds (s.subscr p)) :
    Coherent cfg imsis tmsis (s.write p f) := by
  refine coherent.of_sameIds rfl rfl rfl rfl rfl fun q => ?_
  by_cases here : q = p
  · subst here
    simpa using same
  · simp [Store.write, here, Vsub.SameIds]

/-- A statement on the database. -/
theorem Coherent.withDb (db : PersistState) : Coherent cfg imsis tmsis { s with db := db } :=
  coherent.of_sameIds rfl rfl rfl rfl rfl fun _ => ⟨rfl, rfl, rfl⟩

/-- A write of the counter. -/
theorem Coherent.withCount (count : Nat) :
    Coherent cfg imsis tmsis { s with subscrLuComplete := count } :=
  coherent.of_sameIds rfl rfl rfl rfl rfl fun _ => ⟨rfl, rfl, rfl⟩

theorem Coherent.setLuComplete (p : Nat) (complete : Bool) :
    Coherent cfg imsis tmsis (vlrSubscrSetLuComplete s p complete) := by
  obtain ⟨count, eq⟩ := setLuComplete_eq s p complete
  rw [eq]
  exact (coherent.write ⟨rfl, rfl, rfl⟩).withCount count

theorem Coherent.markAttached (p : Nat) : Coherent cfg imsis tmsis (s.markAttached p) := by
  obtain ⟨attached, count, eq⟩ := markAttached_eq s p
  rw [eq]
  exact (coherent.write ⟨rfl, rfl, rfl⟩).withCount count

theorem Coherent.markDetached (p : Nat) : Coherent cfg imsis tmsis (s.markDetached p) := by
  obtain ⟨attached, count, eq⟩ := markDetached_eq s p
  rw [eq]
  exact (coherent.write ⟨rfl, rfl, rfl⟩).withCount count

/-- A record of the list gets new identities, or a new record comes in with them: the tables must index
it under them, and no other record may have them. -/
theorem Coherent.update (listed : p ∈ s'.subscribers)
    (others : ∀ q, q ≠ p → (q ∈ s'.subscribers ↔ q ∈ s.subscribers)) (live : p < s'.next)
    (next : s.next ≤ s'.next) (subscr : s'.subscr = Function.update s.subscr p vsub)
    (byImsi : Indexes cfg.hashImsi s'.subscrByImsi
      (Function.update (keyed s fun vsub => imsiKey vsub.imsi) p (imsiKey vsub.imsi)))
    (byTmsi : Indexes cfg.hashTmsi s'.subscrByTmsi
      (Function.update (keyed s fun vsub => tmsiKey vsub.tmsi) p (tmsiKey vsub.tmsi)))
    (byTmsiNew : Indexes cfg.hashTmsi s'.subscrByTmsiNew
      (Function.update (keyed s fun vsub => tmsiKey vsub.tmsiNew) p (tmsiKey vsub.tmsiNew)))
    (stored : vsub.imsi.length ≤ imsiMaxDigits)
    (imsiFree : imsis → vsub.imsi ≠ [] → ∀ q ∈ s.subscribers, q ≠ p → (s.subscr q).imsi ≠ vsub.imsi)
    (tmsiFree : tmsis → ∀ tmsi, tmsi ≠ gsmReservedTmsi → vsub.Holds tmsi →
      ∀ q ∈ s.subscribers, q ≠ p → ¬ (s.subscr q).Holds tmsi) : Coherent cfg imsis tmsis s' where
  byImsi := byImsi.congr (keyed_update listed others subscr)
  byTmsi := byTmsi.congr (keyed_update listed others subscr)
  byTmsiNew := byTmsiNew.congr (keyed_update listed others subscr)
  live := by
    intro q inList
    by_cases here : q = p
    · exact here ▸ live
    · exact Nat.lt_of_lt_of_le (coherent.live q ((others q here).mp inList)) next
  stored := by
    intro q inList
    rw [subscr]
    by_cases here : q = p
    · subst here
      simpa using stored
    · simpa [here] using coherent.stored q ((others q here).mp inList)
  imsiUnique := by
    intro asked q inList q' inList' named same
    rw [subscr] at named same
    generalize known : (Function.update s.subscr p vsub q).imsi = imsi at named same
    refine unique_of_update (P := (·.imsi = imsi)) (fun q inList other => (others q other).mp inList)
      ?_ ?_ q inList q' inList' known same.symm
    · exact fun r listed r' listed' has has' =>
        coherent.imsiUnique asked r listed r' listed' (has ▸ named) (has.trans has'.symm)
    · rintro rfl r listed other
      exact imsiFree asked named r listed other
  tmsiUnique := by
    intro asked q inList q' inList' tmsi valid
    rw [subscr]
    exact unique_of_update (P := (·.Holds tmsi)) (fun q inList other => (others q other).mp inList)
      (fun r listed r' listed' => coherent.tmsiUnique asked r listed r' listed' tmsi valid)
      (tmsiFree asked tmsi valid) q inList q' inList'

section

variable (listed : p ∈ s.subscribers)
include listed

/-- A write of the TMSIs that a rehash follows. -/
theorem Coherent.rehashTmsi (imsi : (f (s.subscr p)).imsi = (s.subscr p).imsi)
    (free : tmsis → ∀ tmsi, tmsi ≠ gsmReservedTmsi → (f (s.subscr p)).Holds tmsi →
      (s.subscr p).Holds tmsi ∨ ∀ q ∈ s.subscribers, q ≠ p → ¬ (s.subscr q).Holds tmsi) :
    Coherent cfg imsis tmsis (vlrSubscrRehashTmsi cfg (s.write p f) p) := by
  refine coherent.update listed (fun _ _ => .rfl) (coherent.live p listed) (Nat.le_refl _) rfl ?_ ?_ ?_ (imsi ▸ coherent.stored p listed) ?_ ?_
  · exact indexes_of_same coherent.byImsi listed (by simp [imsi])
  · simpa [vlrSubscrRehashTmsi] using coherent.byTmsi.rehash p (tmsiKey (f (s.subscr p)).tmsi)
  · simpa [vlrSubscrRehashTmsi] using coherent.byTmsiNew.rehash p (tmsiKey (f (s.subscr p)).tmsiNew)
  · intro asked named q listed' other same
    rw [imsi] at named same
    exact other (coherent.imsiUnique asked q listed' p listed (same ▸ named) same)
  · intro asked tmsi valid holds q listed' other
    rcases free asked tmsi valid holds with own | unheld
    · exact fun holds' => other (coherent.tmsiUnique asked q listed' p listed tmsi valid holds' own)
    · exact unheld q listed' other

/-- A write of the IMSI that a rehash follows. -/
theorem Coherent.rehashImsi (tmsi : (f (s.subscr p)).tmsi = (s.subscr p).tmsi)
    (tmsiNew : (f (s.subscr p)).tmsiNew = (s.subscr p).tmsiNew)
    (stored : (f (s.subscr p)).imsi.length ≤ imsiMaxDigits)
    (free : imsis → (f (s.subscr p)).imsi ≠ [] →
      ∀ q ∈ s.subscribers, q ≠ p → (s.subscr q).imsi ≠ (f (s.subscr p)).imsi) :
    Coherent cfg imsis tmsis (vlrSubscrRehashImsi cfg (s.write p f) p) := by
  refine coherent.update listed (fun _ _ => .rfl) (coherent.live p listed) (Nat.le_refl _) rfl ?_ ?_ ?_ stored free ?_
  · simpa [vlrSubscrRehashImsi] using coherent.byImsi.rehash p (imsiKey (f (s.subscr p)).imsi)
  · exact indexes_of_same coherent.byTmsi listed (by simp [tmsi])
  · exact indexes_of_same coherent.byTmsiNew listed (by simp [tmsiNew])
  · intro asked t valid holds q listed' other holds'
    have own : (s.subscr p).Holds t := by simpa [Vsub.Holds, tmsi, tmsiNew] using holds
    exact other (coherent.tmsiUnique asked q listed' p listed t valid holds' own)

/-- A record that gives up all its identities. -/
theorem Coherent.rehashCleared (imsi : (f (s.subscr p)).imsi = [])
    (tmsi : (f (s.subscr p)).tmsi = gsmReservedTmsi)
    (tmsiNew : (f (s.subscr p)).tmsiNew = gsmReservedTmsi) :
    Coherent cfg imsis tmsis (vlrSubscrRehashTmsi cfg (vlrSubscrRehashImsi cfg (s.write p f) p) p) := by
  refine coherent.update listed (fun _ _ => .rfl) (coherent.live p listed) (Nat.le_refl _) rfl ?_ ?_ ?_ (by simp [imsi]) ?_ ?_
  · simpa [vlrSubscrRehashImsi, vlrSubscrRehashTmsi] using
      coherent.byImsi.rehash p (imsiKey (f (s.subscr p)).imsi)
  · simpa [vlrSubscrRehashImsi, vlrSubscrRehashTmsi] using
      coherent.byTmsi.rehash p (tmsiKey (f (s.subscr p)).tmsi)
  · simpa [vlrSubscrRehashImsi, vlrSubscrRehashTmsi] using
      coherent.byTmsiNew.rehash p (tmsiKey (f (s.subscr p)).tmsiNew)
  · exact fun _ named => absurd imsi named
  · rintro - t valid (holds | holds)
    · exact absurd (holds.symm.trans tmsi) valid
    · exact absurd (holds.symm.trans tmsiNew) valid

end

end

/-- `vlr_subscr_free()` before it resets the flag. -/
def delist (s : Store) (p : Nat) : Store :=
  { s with
    subscribers := s.subscribers.filter (· ≠ p)
    subscrByImsi := hashDel s.subscrByImsi p
    subscrByTmsi := hashDel s.subscrByTmsi p
    subscrByTmsiNew := hashDel s.subscrByTmsiNew p }

theorem Coherent.delist (coherent : Coherent cfg imsis tmsis s) (p : Nat) :
    Coherent cfg imsis tmsis (delist s p) := by
  have keys {κ : Type} (key : Vsub → Option κ) (q : Nat) :
      keyed (Vlr.delist s p) key q = Function.update (keyed s key) p none q := by
    by_cases here : q = p
    · simp [keyed, Vlr.delist, here]
    · simp [keyed, Vlr.delist, here]
  have kept {q : Nat} (listed : q ∈ (Vlr.delist s p).subscribers) : q ∈ s.subscribers :=
    (mem_filter.mp listed).1
  exact
    { byImsi := (coherent.byImsi.hashDel p).congr (keys _)
      byTmsi := (coherent.byTmsi.hashDel p).congr (keys _)
      byTmsiNew := (coherent.byTmsiNew.hashDel p).congr (keys _)
      live := fun q listed => coherent.live q (kept listed)
      stored := fun q listed => coherent.stored q (kept listed)
      imsiUnique := fun asked q listed q' listed' =>
        coherent.imsiUnique asked q (kept listed) q' (kept listed')
      tmsiUnique := fun asked q listed q' listed' =>
        coherent.tmsiUnique asked q (kept listed) q' (kept listed') }

theorem Coherent.free (coherent : Coherent cfg imsis tmsis s) (p : Nat) :
    Coherent cfg imsis tmsis (vlrSubscrFree s p) :=
  (coherent.delist p).setLuComplete p false

theorem subscribers_free (s : Store) (p : Nat) :
    (vlrSubscrFree s p).subscribers = s.subscribers.filter (· ≠ p) := by
  obtain ⟨count, eq⟩ := setLuComplete_eq (delist s p) p false
  exact congrArg Store.subscribers eq

theorem subscr_free (s : Store) (p : Nat) :
    (vlrSubscrFree s p).subscr =
      Function.update s.subscr p { s.subscr p with luComplete := false } := by
  obtain ⟨count, eq⟩ := setLuComplete_eq (delist s p) p false
  exact congrArg Store.subscr eq

theorem imsi_free (s : Store) (p q : Nat) :
    ((vlrSubscrFree s p).subscr q).imsi = (s.subscr q).imsi := by
  by_cases here : q = p
  · simp [subscr_free, here]
  · simp [subscr_free, here]

theorem Coherent.alloc (coherent : Coherent cfg imsis tmsis s) (clocks : Clocks) :
    Coherent cfg imsis tmsis (vlrSubscrAlloc clocks s).1 := by
  have fresh : s.next ∉ s.subscribers := fun listed => Nat.lt_irrefl _ (coherent.live _ listed)
  -- The new record has no identity, so that no key appears.
  have blank {κ : Type} {hash : κ → Nat} {chains : Chains Nat Nat} {key : Vsub → Option κ}
      (indexes : Indexes hash chains (keyed s key)) :
      Indexes hash chains (Function.update (keyed s key) s.next none) := by
    refine indexes.congr fun q => ?_
    by_cases here : q = s.next
    · simp [keyed, here, fresh]
    · simp [here]
  refine coherent.update (by simp [vlrSubscrAlloc]) (fun q other => by simp [vlrSubscrAlloc, other])
    (Nat.lt_succ_self _) (Nat.le_succ _) rfl (blank coherent.byImsi) (blank coherent.byTmsi)
    (blank coherent.byTmsiNew) (Nat.zero_le _) (fun _ named => absurd rfl named) ?_
  rintro - tmsi valid (reserved | reserved)
  · exact absurd reserved.symm valid
  · exact absurd reserved.symm valid

end Writes

/-! ### Moves -/

/-- The flag and the use of a record are as before. -/
def Vsub.SameAttach (vsub vsub' : Vsub) : Prop :=
  vsub.luComplete = vsub'.luComplete ∧ vsub.attached = vsub'.attached

/-- What the functions of the store are made of.  A rehash follows every write of an identity, and no
record gets an IMSI of another if `imsis` forbids it, or a TMSI of another if `tmsis` does. -/
inductive Move (cfg : StoreCfg) (imsis tmsis : Prop) (s : Store) : Store → Prop where
  | write {p : Nat} {f : Vsub → Vsub} (ids : (f (s.subscr p)).SameIds (s.subscr p))
      (attach : (f (s.subscr p)).SameAttach (s.subscr p)) : Move cfg imsis tmsis s (s.write p f)
  | writeTmsi {p : Nat} {f : Vsub → Vsub} (listed : p ∈ s.subscribers)
      (imsi : (f (s.subscr p)).imsi = (s.subscr p).imsi)
      (attach : (f (s.subscr p)).SameAttach (s.subscr p))
      (free : tmsis → ∀ tmsi, tmsi ≠ gsmReservedTmsi → (f (s.subscr p)).Holds tmsi →
        (s.subscr p).Holds tmsi ∨ ∀ q ∈ s.subscribers, q ≠ p → ¬ (s.subscr q).Holds tmsi) :
      Move cfg imsis tmsis s (vlrSubscrRehashTmsi cfg (s.write p f) p)
  | writeImsi {p : Nat} {imsi : Digits} (listed : p ∈ s.subscribers)
      (stored : imsi.length ≤ imsiMaxDigits)
      (free : imsis → imsi ≠ [] → ∀ q ∈ s.subscribers, q ≠ p → (s.subscr q).imsi ≠ imsi) :
      Move cfg imsis tmsis s
        (vlrSubscrRehashImsi cfg (s.write p fun vsub => { vsub with imsi := imsi }) p)
  | clearIds {p : Nat} (listed : p ∈ s.subscribers) :
      Move cfg imsis tmsis s (vlrSubscrRehashTmsi cfg (vlrSubscrRehashImsi cfg (s.write p fun vsub =>
        { vsub with imsi := [], msisdn := [], tmsi := gsmReservedTmsi, tmsiNew := gsmReservedTmsi })
        p) p)
  | markAttached {p : Nat} (listed : p ∈ s.subscribers) : Move cfg imsis tmsis s (s.markAttached p)
  | markDetached (p : Nat) : Move cfg imsis tmsis s (s.markDetached p)
  | free (p : Nat) : Move cfg imsis tmsis s (vlrSubscrFree s p)
  | alloc (clocks : Clocks) : Move cfg imsis tmsis s (vlrSubscrAlloc clocks s).1
  | withDb (db : PersistState) : Move cfg imsis tmsis s { s with db := db }

/-- One move after the other. -/
abbrev Moves (cfg : StoreCfg) (imsis tmsis : Prop) : Store → Store → Prop :=
  Relation.ReflTransGen (Move cfg imsis tmsis)

theorem Coherent.move (coherent : Coherent cfg imsis tmsis s) (move : Move cfg imsis tmsis s s') :
    Coherent cfg imsis tmsis s' := by
  cases move with
  | write ids _ => exact coherent.write ids
  | writeTmsi listed imsi _ free => exact coherent.rehashTmsi listed imsi free
  | writeImsi listed stored free => exact coherent.rehashImsi listed rfl rfl stored free
  | clearIds listed => exact coherent.rehashCleared listed rfl rfl rfl
  | markAttached _ => exact coherent.markAttached _
  | markDetached p => exact coherent.markDetached p
  | free p => exact coherent.free p
  | alloc clocks => exact coherent.alloc clocks
  | withDb db => exact coherent.withDb db

theorem Coherent.moves (coherent : Coherent cfg imsis tmsis s) (moves : Moves cfg imsis tmsis s s') :
    Coherent cfg imsis tmsis s' := by
  induction moves with
  | refl => exact coherent
  | tail _ move ih => exact ih.move move

/-! ### The functions of the store -/

section Functions

/-- `dedup_vsub()` up to the loss of the identities. -/
def dedupIds (cfg : StoreCfg) (s : Store) (old p : Nat) : Store :=
  let s := s.write p fun vsub =>
    { vsub with msisdn := if vsub.msisdn = [] then (s.subscr old).msisdn else vsub.msisdn }
  let s := s.write old fun vsub =>
    { vsub with
      imsi := [], msisdn := [], tmsi := gsmReservedTmsi, tmsiNew := gsmReservedTmsi }
  vlrSubscrRehashTmsi cfg (vlrSubscrRehashImsi cfg s old) old

theorem dedupVsub_eq (env : DedupEnv) (s : Store) (old p : Nat) :
    dedupVsub cfg env s old p =
      if env.dedupFrees then vlrSubscrFree ((dedupIds cfg s old p).markDetached old) old
      else (dedupIds cfg s old p).markDetached old := rfl

theorem imsi_dedupIds {s : Store} {old : Nat} (other : old ≠ p) (q : Nat) :
    ((dedupIds cfg s old p).subscr q).imsi = if q = old then [] else (s.subscr q).imsi := by
  by_cases isOld : q = old
  · simp [dedupIds, Store.write, isOld]
  · by_cases isNew : q = p
    · simp [dedupIds, Store.write, isNew, Ne.symm other]
    · simp [dedupIds, Store.write, isOld, isNew]

/-- What `dedup_vsub()` leaves: no new record, and no IMSI but that of the old record is touched. -/
theorem moves_dedup {env : DedupEnv} {old : Nat} (listedOld : old ∈ s.subscribers)
    (listed : p ∈ s.subscribers) (other : old ≠ p) :
    Moves cfg imsis tmsis s (dedupVsub cfg env s old p) ∧
      p ∈ (dedupVsub cfg env s old p).subscribers ∧
      ∀ q ∈ (dedupVsub cfg env s old p).subscribers, q ∈ s.subscribers ∧
        ((dedupVsub cfg env s old p).subscr q).imsi = if q = old then [] else (s.subscr q).imsi := by
  have joined : Moves cfg imsis tmsis s (s.write p fun vsub =>
      { vsub with msisdn := if vsub.msisdn = [] then (s.subscr old).msisdn else vsub.msisdn }) :=
    .single (.write ⟨rfl, rfl, rfl⟩ ⟨rfl, rfl⟩)
  have cleared : Moves cfg imsis tmsis s (dedupIds cfg s old p) := joined.tail (.clearIds listedOld)
  have expired := cleared.tail (.markDetached old)
  have same : ((dedupIds cfg s old p).markDetached old).subscribers = s.subscribers :=
    subscribers_markDetached _ old
  rw [dedupVsub_eq]
  split
  · refine ⟨expired.tail (.free old), ?_, fun q inList => ?_⟩
    · rw [subscribers_free, same]
      exact mem_filter.mpr ⟨listed, by simpa using other.symm⟩
    · rw [subscribers_free, same] at inList
      rw [imsi_free, imsi_markDetached, imsi_dedupIds other]
      exact ⟨(mem_filter.mp inList).1, rfl⟩
  · refine ⟨expired, same ▸ listed, fun q inList => ?_⟩
    rw [imsi_markDetached, imsi_dedupIds other]
    exact ⟨same ▸ inList, rfl⟩

/-- The two lookups of `vlr_subscr_set_imsi()` and what becomes of the record they find. -/
def clearImsi (cfg : StoreCfg) (env : DedupEnv) (s : Store) (p : Nat) (imsi : Digits) : Store :=
  let s := match vlrSubscrFindByImsi cfg s imsi with
    | some old => if env.silentCallFrees then vlrSubscrFree s old else s
    | none => s
  match vlrSubscrFindByImsi cfg s imsi with
  | some old => dedupVsub cfg env s old p
  | none => s

theorem setImsi_eq (env : DedupEnv) (imsi : Digits) :
    vlrSubscrSetImsi cfg env s p imsi =
      if (s.subscr p).imsi = imsi then s
      else
        vlrSubscrRehashImsi cfg ((clearImsi cfg env s p imsi).write p fun vsub =>
          { vsub with imsi := imsi.take imsiMaxDigits }) p := rfl

/-- The random number of the round in which `vlr_subscr_alloc_tmsi()` finds a TMSI. -/
def tmsiDrawn (cfg : StoreCfg) (rand : Nat → Option Nat) (s : Store) : Nat → Nat → Option Nat
  | 0, _ => none
  | rounds + 1, tried =>
      (rand tried).bind fun value =>
        if (tmsiCandidate cfg value).any fun tmsi => (vlrSubscrFindByTmsi cfg s tmsi).isNone then some value
        else tmsiDrawn cfg rand s rounds (tried + 1)

/-- What the loop of `vlr_subscr_alloc_tmsi()` does when it succeeds: `tmsi_new` becomes a value that
is not in use. -/
theorem allocTmsi_eq {rand : Nat → Option Nat} {rounds tried : Nat}
    (allocated : allocTmsiLoop cfg rand s p rounds tried = some s') :
    ∃ tmsi, (vlrSubscrFindByTmsi cfg s tmsi).isSome = false ∧
      s' = vlrSubscrRehashTmsi cfg (s.write p fun vsub => { vsub with tmsiNew := tmsi }) p ∧
      ∃ value ∈ tmsiDrawn cfg rand s rounds tried, tmsiCandidate cfg value = some tmsi := by
  induction rounds generalizing tried with
  | zero => simp [allocTmsiLoop] at allocated
  | succ rounds ih =>
      unfold allocTmsiLoop at allocated
      unfold tmsiDrawn
      split at allocated
      · cases allocated
      · rename_i value drawn
        split at allocated
        · rename_i again
          simpa [drawn, again] using ih allocated
        · rename_i tmsi candidate
          split at allocated
          · rename_i taken
            simpa [drawn, candidate, Option.isSome_iff_ne_none.mp taken] using ih allocated
          · rename_i unused
            refine ⟨tmsi, by simpa using unused, (Option.some.inj allocated).symm, value, ?_, candidate⟩
            simp_all

section

variable {f : Vsub → Vsub} (listed : p ∈ s.subscribers)
include listed

/-- Giving up a TMSI, or confirming the new one, brings no TMSI in. -/
theorem Move.narrowTmsi (imsi : (f (s.subscr p)).imsi = (s.subscr p).imsi)
    (attach : (f (s.subscr p)).SameAttach (s.subscr p))
    (narrow : ∀ tmsi, (f (s.subscr p)).Holds tmsi →
      tmsi = gsmReservedTmsi ∨ (s.subscr p).Holds tmsi) :
    Move cfg imsis tmsis s (vlrSubscrRehashTmsi cfg (s.write p f) p) :=
  .writeTmsi listed imsi attach fun _ tmsi valid holds => .inl ((narrow tmsi holds).resolve_left valid)

theorem Move.confirmTmsi : Move cfg imsis tmsis s (confirmTmsi cfg s p) := by
  refine .narrowTmsi listed rfl ⟨rfl, rfl⟩ ?_
  rintro tmsi (confirmed | reserved)
  · exact .inr (.inr confirmed)
  · exact .inl reserved.symm

/-- The TMSI is given up, and perhaps the new one as well. -/
theorem Move.dropTmsi (imsi : (f (s.subscr p)).imsi = (s.subscr p).imsi)
    (attach : (f (s.subscr p)).SameAttach (s.subscr p))
    (tmsi : (f (s.subscr p)).tmsi = gsmReservedTmsi)
    (tmsiNew : (f (s.subscr p)).tmsiNew = (s.subscr p).tmsiNew ∨
      (f (s.subscr p)).tmsiNew = gsmReservedTmsi) :
    Move cfg imsis tmsis s (vlrSubscrRehashTmsi cfg (s.write p f) p) := by
  refine .narrowTmsi listed imsi attach ?_
  rintro other (reserved | held)
  · exact .inl (reserved.symm.trans tmsi)
  · exact tmsiNew.symm.imp held.symm.trans fun same => .inr (same.symm.trans held)

end

section

variable {rand : Nat → Option Nat} (coherent : Coherent cfg imsis tmsis s)
include coherent

section

variable (listed : p ∈ s.subscribers)
include listed

/-- Afterwards nobody has the IMSI. -/
theorem Coherent.clearImsi (env : DedupEnv) (new : (s.subscr p).imsi ≠ imsi) :
    Moves cfg imsis tmsis s (clearImsi cfg env s p imsi) ∧
      p ∈ (Vlr.clearImsi cfg env s p imsi).subscribers ∧
      (imsis → imsi ≠ [] → ∀ q ∈ (Vlr.clearImsi cfg env s p imsi).subscribers,
        ((Vlr.clearImsi cfg env s p imsi).subscr q).imsi ≠ imsi) := by
  have silent : ∃ s', (match vlrSubscrFindByImsi cfg s imsi with
      | some old => if env.silentCallFrees then vlrSubscrFree s old else s
      | none => s) = s' ∧ Moves cfg imsis tmsis s s' ∧ p ∈ s'.subscribers ∧
        (s'.subscr p).imsi ≠ imsi := by
    cases found : vlrSubscrFindByImsi cfg s imsi with
    | none => exact ⟨s, rfl, .refl, listed, new⟩
    | some old =>
        obtain ⟨-, has, -⟩ := coherent.of_findByImsi found
        have other : p ≠ old := fun same => new (same ▸ has)
        cases env.silentCallFrees with
        | false => exact ⟨s, rfl, .refl, listed, new⟩
        | true =>
            refine ⟨_, rfl, .single (.free old), ?_, (imsi_free s old p).symm ▸ new⟩
            exact subscribers_free s old ▸ mem_filter.mpr ⟨listed, by simpa using other⟩
  obtain ⟨s', eq, moves, listed', new'⟩ := silent
  have coherent' := coherent.moves moves
  simp only [Vlr.clearImsi, eq]
  cases found : vlrSubscrFindByImsi cfg s' imsi with
  | none =>
      exact ⟨moves, listed', fun _ named => coherent'.imsi_ne_of_findByImsi_eq_none found named⟩
  | some old =>
      obtain ⟨listedOld, has, named⟩ := coherent'.of_findByImsi found
      have other : old ≠ p := fun same => new' (same ▸ has)
      obtain ⟨deduped, kept, records⟩ := moves_dedup listedOld listed' other
      refine ⟨moves.trans deduped, kept, fun asked named q inList same => ?_⟩
      obtain ⟨before, ids⟩ := records q inList
      rw [ids] at same
      split at same
      · exact named same.symm
      · rename_i notOld
        exact notOld (coherent'.imsiUnique asked q before old listedOld (same ▸ named)
          (same.trans has.symm))

theorem Coherent.setImsi (env : DedupEnv) (fits : imsis → imsi.length ≤ imsiMaxDigits) :
    Moves cfg imsis tmsis s (vlrSubscrSetImsi cfg env s p imsi) ∧
      p ∈ (vlrSubscrSetImsi cfg env s p imsi).subscribers ∧
      ((vlrSubscrSetImsi cfg env s p imsi).subscr p).imsi = imsi.take imsiMaxDigits := by
  rw [setImsi_eq]
  split
  · rename_i same
    have short := coherent.stored p listed
    rw [same] at short
    exact ⟨.refl, listed, by rw [same, take_of_length_le short]⟩
  · rename_i new
    obtain ⟨cleared, kept, nobody⟩ := coherent.clearImsi listed env new
    refine ⟨cleared.tail (.writeImsi kept (length_take_le _ _) ?_), kept, by simp⟩
    intro asked named q inList _
    have whole : imsi.take imsiMaxDigits = imsi := take_of_length_le (fits asked)
    rw [whole] at named ⊢
    exact nobody asked named q inList

theorem Coherent.rxIdResp (env : DedupEnv) (waiter : IdWaiter)
    (fits : imsis → imsi.length ≤ imsiMaxDigits) :
    Moves cfg imsis tmsis s (vlrSubscrRxIdResp cfg env waiter s p imsi) := by
  -- Either the record keeps an IMSI that differs, or it has the one of the response.
  have first : ∃ s', (if (s.subscr p).imsi ≠ [] ∧ !vlrSubscrMatchesImsi (s.subscr p) imsi then s
      else vlrSubscrSetImsi cfg env s p imsi) = s' ∧ Moves cfg imsis tmsis s s' ∧
        p ∈ s'.subscribers ∧ ((s'.subscr p).imsi ≠ [] ∧
            vlrSubscrMatchesImsi (s'.subscr p) imsi = false ∨
          (s'.subscr p).imsi = imsi.take imsiMaxDigits) := by
    split
    · rename_i differs
      exact ⟨s, rfl, .refl, listed, .inl ⟨differs.1, by simpa using differs.2⟩⟩
    · obtain ⟨set, kept, has⟩ := coherent.setImsi listed env fits
      exact ⟨_, rfl, set, kept, .inr has⟩
  obtain ⟨s', eq, moves, listed', has⟩ := first
  simp only [vlrSubscrRxIdResp, eq]
  cases waiter with
  | nobody => exact moves
  | lu => exact moves.trans ((coherent.moves moves).setImsi listed' env fits).1
  | auth =>
      -- The copy without a rehash: the record has the IMSI already or refuses it.
      simp only [Store.authFsmWaitImsi]
      split
      · exact moves
      · rename_i writes
        refine moves.tail (.write ⟨?_, rfl, rfl⟩ ⟨rfl, rfl⟩)
        rcases has with ⟨some', differs⟩ | has
        · exact absurd ⟨some', by simp [differs]⟩ writes
        · exact has.symm

theorem Coherent.allocTmsi (allocated : vlrSubscrAllocTmsi cfg rand s p = some s') :
    Moves cfg imsis tmsis s s' ∧ p ∈ s'.subscribers := by
  obtain ⟨tmsi, unused, rfl, -⟩ := allocTmsi_eq allocated
  refine ⟨.single (.writeTmsi listed rfl ⟨rfl, rfl⟩ ?_), listed⟩
  rintro - t valid (own | rfl)
  · exact .inl (.inl own)
  · exact .inr fun q inList _ => coherent.not_holds_of_findByTmsi valid unused q inList

end

theorem findByImsi_alloc (clocks : Clocks) (missing : vlrSubscrFindByImsi cfg s imsi = none) :
    vlrSubscrFindByImsi cfg (vlrSubscrAlloc clocks s).1 imsi = none := by
  by_contra found
  obtain ⟨q, found⟩ := Option.ne_none_iff_exists'.mp found
  obtain ⟨listed, has, named⟩ := (coherent.alloc clocks).of_findByImsi found
  have isOld : q ≠ s.next := by
    rintro rfl
    exact named (by simpa [vlrSubscrAlloc] using has.symm)
  refine coherent.imsi_ne_of_findByImsi_eq_none missing named q ?_ ?_
  · simpa [vlrSubscrAlloc, isOld] using listed
  · simpa [vlrSubscrAlloc, isOld] using has

/-- A record is created for an IMSI that no record has: it has the IMSI and nothing else, and no other
record is touched. -/
theorem findOrCreateByImsi_new (clocks : Clocks) (missing : vlrSubscrFindByImsi cfg s imsi = none) :
    ∃ s', vlrSubscrFindOrCreateByImsi cfg clocks s imsi = (s', s.next) ∧
      s'.subscribers = s.subscribers ++ [s.next] ∧
      s'.subscr s.next =
        { imsi := imsi.take imsiMaxDigits
          expireLu := clocks.monotonic.map (· + vlrIncompleteLuSecs) } ∧
      (∀ q, q ≠ s.next → s'.subscr q = s.subscr q) ∧ s'.db = s.db := by
  have missing' := findByImsi_alloc coherent clocks missing
  have result : vlrSubscrFindOrCreateByImsi cfg clocks s imsi =
      (vlrSubscrSetImsi cfg {} (vlrSubscrAlloc clocks s).1 s.next imsi, s.next) := by
    simp only [vlrSubscrFindOrCreateByImsi, missing]
    rfl
  rw [setImsi_eq] at result
  simp only [clearImsi, missing'] at result
  refine ⟨_, result, ?_, ?_, ?_, ?_⟩
  · split <;> rfl
  · split
    · rename_i unnamed
      have unnamed : imsi = [] := by simpa [vlrSubscrAlloc] using unnamed.symm
      simp [vlrSubscrAlloc, unnamed]
    · simp [vlrSubscrAlloc]
  · intro q other
    split <;> simp [vlrSubscrAlloc, Store.write, other]
  · split <;> rfl

/-- `_vlr_subscr_find_or_create_by_imsi()` returns a record in the list, and no other record
changes. -/
theorem Coherent.findOrCreateByImsi (clocks : Clocks) (fits : imsis → imsi.length ≤ imsiMaxDigits)
    (result : vlrSubscrFindOrCreateByImsi cfg clocks s imsi = (s', p)) :
    Moves cfg imsis tmsis s s' ∧ p ∈ s'.subscribers ∧
      ∀ q ∈ s'.subscribers, q ≠ p →
        q ∈ s.subscribers ∧ s'.subscr q = s.subscr q ∧ vlrSubscrFindByImsi cfg s imsi ≠ some q := by
  cases found : vlrSubscrFindByImsi cfg s imsi with
  | some q =>
      simp only [vlrSubscrFindOrCreateByImsi, found] at result
      obtain ⟨rfl, rfl⟩ := Prod.mk.inj result
      refine ⟨.refl, (coherent.of_findByImsi found).1, fun q' inList other => ?_⟩
      exact ⟨inList, rfl, fun same => other (Option.some.inj same).symm⟩
  | none =>
      obtain ⟨_, created, list, -, others, -⟩ := findOrCreateByImsi_new coherent clocks found
      obtain ⟨rfl, rfl⟩ := Prod.mk.inj (created.symm.trans result)
      have listed : s.next ∈ (vlrSubscrAlloc clocks s).1.subscribers := by simp [vlrSubscrAlloc]
      obtain ⟨set, kept, -⟩ := (coherent.alloc clocks).setImsi listed {} fits
      simp only [vlrSubscrFindOrCreateByImsi, found] at created
      obtain ⟨rfl, -⟩ := Prod.mk.inj created
      refine ⟨.head (.alloc clocks) set, kept, fun q inList other => ⟨?_, others q other, by simp⟩⟩
      simpa [list, other] using inList

theorem Coherent.findOrCreateByTmsi (clocks : Clocks) (tmsi : Nat) :
    Moves cfg imsis tmsis s (vlrSubscrFindOrCreateByTmsi cfg clocks s tmsi).1 := by
  unfold vlrSubscrFindOrCreateByTmsi
  cases found : vlrSubscrFindByTmsi cfg s tmsi with
  | some q => exact .refl
  | none =>
      have listed : s.next ∈ (vlrSubscrAlloc clocks s).1.subscribers := by simp [vlrSubscrAlloc]
      refine .head (.alloc clocks) (.single (.writeTmsi listed rfl ⟨rfl, rfl⟩ ?_))
      rintro - t valid (rfl | reserved)
      · refine .inr fun q inList other => ?_
        have before : q ∈ s.subscribers := by
          simpa [vlrSubscrAlloc, show q ≠ s.next from other] using inList
        have unheld := coherent.not_holds_of_findByTmsi valid (by simp [found]) q before
        simpa [vlrSubscrAlloc, show q ≠ s.next from other] using unheld
      · exact absurd reserved.symm (by simpa [vlrSubscrAlloc] using valid)

end

end Functions

/-! ### The SGs association -/

variable {row : DbSgsAssoc}

section Sgs

theorem Move.sgsStateChg (s : Store) (p : Nat) (state : SgsUeState) (ts62 : Bool) :
    Move cfg imsis tmsis s (sgsStateChg s p state ts62) := .write ⟨rfl, rfl, rfl⟩ ⟨rfl, rfl⟩

theorem Move.keepIncompleteExpiry (clocks : Clocks) :
    Move cfg imsis tmsis s (vlrSubscrKeepIncompleteExpiry clocks s p) := by
  refine .write ?_ ?_
  · split <;> exact ⟨rfl, rfl, rfl⟩
  · split <;> exact ⟨rfl, rfl⟩

theorem Moves.expire (s : Store) (p : Nat) : Moves cfg imsis tmsis s (vlrSubscrExpire s p) := by
  unfold vlrSubscrExpire
  split
  · refine Relation.ReflTransGen.tail ?_ (.markDetached p)
    split
    · exact .refl
    · exact .single (.withDb _)
  · exact .refl

section

variable (listed : p ∈ s.subscribers)
include listed

theorem Moves.toNull : Moves cfg imsis tmsis s (toNull cfg s p) := by
  unfold Vlr.toNull
  refine .head (.sgsStateChg s p .null false) (.head (.narrowTmsi listed rfl ⟨rfl, rfl⟩ ?_)
    (.single (.write ⟨rfl, rfl, rfl⟩ ⟨rfl, rfl⟩)))
  rintro tmsi (own | reserved)
  · exact .inr (.inl own)
  · exact .inl reserved.symm

theorem Moves.performLuError : Moves cfg imsis tmsis s (performLuError cfg s p) := by
  unfold Vlr.performLuError
  simp only
  split
  · exact (Moves.toNull listed).tail (.free p)
  · exact .toNull listed

theorem Moves.sgsUeFsmLauPresent (event : SgsUeEvent) :
    Moves cfg imsis tmsis s (sgsUeFsmLauPresent cfg s p event) := by
  unfold Vlr.sgsUeFsmLauPresent
  split
  · exact .head (.write ⟨rfl, rfl, rfl⟩ ⟨rfl, rfl⟩)
      (.head (.markAttached listed) (.single (.sgsStateChg _ p _ _)))
  · split
    · exact .refl
    · exact .toNull listed
  · exact .toNull listed
  · exact .toNull listed
  · exact .refl

theorem Moves.sgsUeFsmTimerCb : Moves cfg imsis tmsis s (sgsUeFsmTimerCb cfg s p) := by
  unfold Vlr.sgsUeFsmTimerCb
  split
  · exact .single (.dropTmsi listed rfl ⟨rfl, rfl⟩ rfl (.inr rfl))
  · exact .refl

variable (coherent : Coherent cfg imsis tmsis s)
include coherent

theorem Coherent.performLu (env : SgsEnv) : Moves cfg imsis tmsis s (performLu cfg env s p) := by
  unfold Vlr.performLu
  simp only
  split
  · exact .performLuError listed
  · rename_i s' allocated
    have after : Moves cfg imsis tmsis s s' ∧ p ∈ s'.subscribers := by
      split at allocated
      · exact coherent.allocTmsi listed allocated
      · obtain rfl := Option.some.inj allocated
        exact ⟨.refl, listed⟩
    split
    · exact after.1.tail (.sgsStateChg _ p .laUpdPres false)
    · exact after.1.trans (Moves.performLuError after.2)

theorem Coherent.sgsUeFsmAssociated (env : SgsEnv) (event : SgsUeEvent) :
    Moves cfg imsis tmsis s (sgsUeFsmAssociated cfg env s p event) := by
  unfold Vlr.sgsUeFsmAssociated
  split
  · split
    · exact .single (.sgsStateChg _ p _ _)
    · exact .head (.confirmTmsi listed) (.single (.sgsStateChg _ p _ _))
  · split
    · exact .refl
    · exact .toNull listed
  · exact .toNull listed
  · exact coherent.performLu listed env
  · exact .refl

/-- What an event of the SGs machine does. -/
theorem Coherent.sgsUeFsm (env : SgsEnv) (event : SgsUeEvent) :
    Moves cfg imsis tmsis s (sgsUeFsm cfg env s p event) := by
  have detach : Moves cfg imsis tmsis s (Vlr.toNull cfg
      (if (s.subscr p).luComplete then s.write p fun vsub => { vsub with expireLu := none }
        else vlrSubscrKeepIncompleteExpiry env.clocks s p) p) := by
    split
    · exact .head (.write ⟨rfl, rfl, rfl⟩ ⟨rfl, rfl⟩) (Moves.toNull listed)
    · exact .head (.keepIncompleteExpiry env.clocks) (Moves.toNull listed)
  unfold Vlr.sgsUeFsm
  split
  · exact .refl
  · split
    · exact detach
    · exact detach
    · exact .toNull listed
    · exact .toNull listed
    · exact .toNull listed
    · split
      · unfold sgsUeFsmNull
        split
        · exact coherent.performLu listed env
        · exact .head (.write ⟨rfl, rfl, rfl⟩ ⟨rfl, rfl⟩) (.single (.sgsStateChg _ p _ _))
        · exact .refl
      · exact .sgsUeFsmLauPresent listed event
      · exact coherent.sgsUeFsmAssociated listed env event

theorem Coherent.accSent (env : SgsEnv) :
    Moves cfg imsis tmsis s (vlrSgsLocUpdateAccSent cfg env s p) := by
  have accepted := coherent.sgsUeFsm listed env .txLuAccept
  refine Relation.ReflTransGen.tail ?_ (.withDb _)
  split
  · exact accepted.tail (.write ⟨rfl, rfl, rfl⟩ ⟨rfl, rfl⟩)
  · split
    · exact accepted.tail (.write ⟨rfl, rfl, rfl⟩ ⟨rfl, rfl⟩)
    · exact accepted.tail (.write ⟨rfl, rfl, rfl⟩ ⟨rfl, rfl⟩)

end

section

variable (coherent : Coherent cfg imsis tmsis s)
include coherent

theorem Coherent.locUpdate (env : SgsEnv) (fits : imsis → imsi.length ≤ imsiMaxDigits)
    (mmeName : String) (lai : LocationAreaId) (lastEutranPlmn : Option PlmnId) :
    Moves cfg imsis tmsis s (vlrSgsLocUpdate cfg env s imsi mmeName lai lastEutranPlmn) := by
  unfold vlrSgsLocUpdate
  split
  rename_i s' q result
  obtain ⟨created, listed, -⟩ := coherent.findOrCreateByImsi env.clocks fits result
  split
  · exact created
  · have coherent' := coherent.moves created
    obtain ⟨set, kept, -⟩ := coherent'.setImsi listed {} fits
    extract_lets s₀ s₁ s₂
    have named : Moves cfg imsis tmsis s s₁ :=
      (created.trans set).tail (.write ⟨rfl, rfl, rfl⟩ ⟨rfl, rfl⟩)
    have started := Coherent.sgsUeFsm (s := s₁) kept (coherent.moves named) env .rxLuFromMme
    exact (named.trans started).tail (.write ⟨rfl, rfl, rfl⟩ ⟨rfl, rfl⟩)

theorem Coherent.imsiDetach (env : SgsEnv) (imsi : Digits) (implicit fromUe : Bool) :
    Moves cfg imsis tmsis s (vlrSgsImsiDetach cfg env s imsi implicit fromUe) := by
  unfold vlrSgsImsiDetach
  split
  · exact .refl
  · rename_i q found
    split
    · exact .refl
    · exact (coherent.sgsUeFsm (coherent.of_findByImsi found).1 env _).trans (Moves.expire _ q)

theorem Coherent.epsDetach (env : SgsEnv) (imsi : Digits) (fromUe : Bool) :
    Moves cfg imsis tmsis s (vlrSgsEpsDetach cfg env s imsi fromUe) := by
  unfold vlrSgsEpsDetach
  split
  · exact .refl
  · rename_i q found
    have listed := (coherent.of_findByImsi found).1
    generalize (if fromUe then SgsUeEvent.rxDetachIndFromUe else .rxDetachIndFromMme) = event
    have detached := coherent.sgsUeFsm listed env event
    refine Relation.ReflTransGen.tail ?_ (.withDb _)
    unfold vlrSubscrEnableExpireLu
    split
    · exact detached.tail (.write ⟨rfl, rfl, rfl⟩ ⟨rfl, rfl⟩)
    · exact detached

theorem Coherent.tmsiReallCompl (env : SgsEnv) (imsi : Digits) :
    Moves cfg imsis tmsis s (vlrSgsTmsiReallCompl cfg env s imsi) := by
  unfold vlrSgsTmsiReallCompl
  split
  · exact .refl
  · rename_i q found
    exact coherent.sgsUeFsm (coherent.of_findByImsi found).1 env _

end

/-- The restoration of the row gives no record a TMSI that another record holds. -/
def NoClash (cfg : StoreCfg) (clocks : Clocks) (s : Store) (row : DbSgsAssoc) : Prop :=
  0 < row.expireUnix ∧ row.expireUnix ≤ clocks.realtime ∨ row.tmsi = gsmReservedTmsi ∨
    ∀ q ∈ s.subscribers, vlrSubscrFindByImsi cfg s row.imsi ≠ some q →
      ¬ (s.subscr q).Holds row.tmsi

instance (cfg : StoreCfg) (clocks : Clocks) (s : Store) (row : DbSgsAssoc) :
    Decidable (NoClash cfg clocks s row) :=
  inferInstanceAs (Decidable (_ ∨ _ ∨ _))

theorem Coherent.restoreOne (coherent : Coherent cfg imsis tmsis s) (clocks : Clocks) (fits : row.imsi.length ≤ imsiMaxDigits)
    (noClash : tmsis → NoClash cfg clocks s row) :
    Coherent cfg imsis tmsis (sgsRestoreOne cfg clocks s row) := by
  unfold sgsRestoreOne
  split
  · exact coherent.withDb _
  · rename_i current
    split
    rename_i s' q result
    obtain ⟨created, listed, others⟩ := coherent.findOrCreateByImsi clocks (fun _ => fits) result
    refine Coherent.write (Coherent.setLuComplete (Coherent.write ?_ ⟨rfl, rfl, rfl⟩) _ _)
      ⟨rfl, rfl, rfl⟩
    have held : Coherent cfg imsis tmsis (s'.getAttached q) :=
      (coherent.moves created).write ⟨rfl, rfl, rfl⟩
    -- Whatever is written before the TMSI, the other records are those of `s`.
    have named : ∃ s'', (if row.msisdn = [] then s'.getAttached q
        else (s'.getAttached q).write q fun vsub => { vsub with msisdn := row.msisdn }) = s'' ∧
        Coherent cfg imsis tmsis s'' ∧ q ∈ s''.subscribers ∧
        ∀ r ∈ s''.subscribers, r ≠ q → r ∈ s.subscribers ∧ s''.subscr r = s.subscr r ∧
          vlrSubscrFindByImsi cfg s row.imsi ≠ some r := by
      split
      · refine ⟨_, rfl, held, listed, fun r inList other => ?_⟩
        simpa [Store.getAttached, Store.write, other] using others r inList other
      · refine ⟨_, rfl, held.write ⟨rfl, rfl, rfl⟩, listed, fun r inList other => ?_⟩
        simpa [Store.getAttached, Store.write, other] using others r inList other
    obtain ⟨s'', eq, written, listed', others'⟩ := named
    rw [eq]
    split
    · exact written
    · rename_i valid
      refine written.rehashTmsi listed' rfl ?_
      rintro asked tmsi - (rfl | own)
      · refine .inr fun r inList other => ?_
        obtain ⟨before, same, missed⟩ := others' r inList other
        rw [same]
        rcases noClash asked with expired | reserved | unheld
        · exact absurd expired current
        · exact absurd reserved valid
        · exact unheld r before missed
      · exact .inl (.inr own)

end Sgs

/-! ### Runs -/

/-- The IMSI an operation brings in, if it does. -/
def StoreInput.imsiIn : StoreInput → Digits
  | .findOrCreateByImsi _ imsi | .setImsi _ _ imsi | .rxIdResp _ _ _ imsi
  | .sgsLocUpdate _ imsi _ _ _ => imsi
  | _ => []

/-- The IMSI an operation brings in fits into a record. -/
def StoreInput.ImsiFits (input : StoreInput) : Prop := input.imsiIn.length ≤ imsiMaxDigits

instance : DecidablePred StoreInput.ImsiFits := fun input =>
  inferInstanceAs (Decidable (input.imsiIn.length ≤ imsiMaxDigits))

/-- An operation of a process that runs; associations are restored before the main loop only. -/
def StoreInput.Running : StoreInput → Prop
  | .restart | .restore _ _ => False
  | _ => True

/-- The operation restores no association with a TMSI that another record holds. -/
def RestoresApart (cfg : StoreCfg) (s : Store) : StoreInput → Prop
  | .restore clocks imsi => ∀ row ∈ restorableRow s imsi, NoClash cfg clocks s row
  | _ => True

section Runs

theorem moves_onSubscr {f : Store → Nat → Store}
    (moves : p ∈ s.subscribers → Moves cfg imsis tmsis s (f s p)) :
    Moves cfg imsis tmsis s (onSubscr s p f) := by
  unfold Vlr.onSubscr
  split
  · rename_i listed
    exact moves listed
  · exact .refl

theorem coherent_init (persist : PersistCfg) (table : SgsAssoc) :
    Coherent cfg imsis tmsis (storeInit persist table) where
  byImsi := indexes_empty
  byTmsi := indexes_empty
  byTmsiNew := indexes_empty
  live := by simp [storeInit]
  stored := by simp [storeInit]
  imsiUnique := by simp [ImsiUnique, storeInit]
  tmsiUnique := by simp [TmsiUnique, storeInit]

theorem restorableRow_fits (readable : restorableRow s imsi = some row) :
    row.imsi.length ≤ imsiMaxDigits := by
  unfold restorableRow at readable
  split at readable
  · cases readable
  · split at readable
    · cases readable
    · split at readable
      · cases readable
      · obtain rfl := Option.some.inj readable
        exact length_take_le _ _

/-- Every operation of a running process is made of moves. -/
theorem storeStep_moves (coherent : Coherent cfg imsis tmsis s) (input : StoreInput)
    (running : input.Running) (fits : imsis → input.ImsiFits) :
    Moves cfg imsis tmsis s (storeStep cfg s input) := by
  cases input with
  | findOrCreateByImsi clocks imsi => exact (coherent.findOrCreateByImsi clocks fits rfl).1
  | findOrCreateByTmsi clocks tmsi => exact coherent.findOrCreateByTmsi clocks tmsi
  | setImsi env p imsi =>
      simp only [storeStep]
      exact moves_onSubscr fun listed => (coherent.setImsi listed env fits).1
  | rxIdResp env waiter p imsi =>
      simp only [storeStep]
      exact moves_onSubscr fun listed => coherent.rxIdResp listed env waiter fits
  | luNewTmsi rand p =>
      refine moves_onSubscr fun listed => ?_
      unfold Store.luComplVlrNewTmsi
      cases allocated : vlrSubscrAllocTmsi cfg rand s p with
      | none => exact .refl
      | some s' => exact (coherent.allocTmsi listed allocated).1
  | luNoTmsi p =>
      exact moves_onSubscr fun listed => .head (.dropTmsi listed rfl ⟨rfl, rfl⟩ rfl (.inl rfl))
        (.single (.markAttached listed))
  | luTmsiAck p =>
      refine moves_onSubscr fun listed => ?_
      unfold Store.luComplVlrWaitTmsi
      split
      · exact .refl
      · exact .head (.confirmTmsi listed) (.single (.markAttached listed))
  | sgsEvent env p event =>
      simp only [storeStep]
      exact moves_onSubscr fun listed => coherent.sgsUeFsm listed env event
  | sgsTimer p => exact moves_onSubscr .sgsUeFsmTimerCb
  | sgsLocUpdate env imsi mmeName lai lastEutranPlmn =>
      exact coherent.locUpdate env fits mmeName lai lastEutranPlmn
  | sgsLocUpdateAccSent env p => exact moves_onSubscr fun listed => coherent.accSent listed env
  | sgsLocUpdateRejSent env p =>
      exact moves_onSubscr fun listed => coherent.sgsUeFsm listed env .txLuReject
  | sgsTmsiReallCompl env imsi => exact coherent.tmsiReallCompl env imsi
  | sgsImsiDetach env imsi implicit fromUe => exact coherent.imsiDetach env imsi implicit fromUe
  | sgsEpsDetach env imsi fromUe => exact coherent.epsDetach env imsi fromUe
  | expire p => exact moves_onSubscr fun _ => .expire s p
  | detach env p =>
      refine moves_onSubscr fun listed => ?_
      have detached := coherent.sgsUeFsm listed env .rxDetachIndFromUe
      exact (detached.trans (Moves.expire _ p)).tail (.keepIncompleteExpiry env.clocks)
  | free p => exact moves_onSubscr fun _ => .single (.free p)
  | use p count =>
      simp only [storeStep]
      refine moves_onSubscr fun _ => ?_
      exact .single (.write ⟨rfl, rfl, rfl⟩ ⟨rfl, rfl⟩)
  | persistForgetMme _ | persistFlush => exact .single (.withDb _)
  | restart | restore _ _ => exact running.elim

/-- Every operation keeps the tables in step with the records; it keeps IMSIs unique if they fit, and
TMSIs if no restoration brings one in twice. -/
theorem storeStep_coherent (coherent : Coherent cfg imsis tmsis s) (input : StoreInput)
    (fits : imsis → input.ImsiFits) (apart : tmsis → RestoresApart cfg s input) :
    Coherent cfg imsis tmsis (storeStep cfg s input) := by
  by_cases running : input.Running
  · exact coherent.moves (storeStep_moves coherent input running fits)
  · cases input with
    | restart => exact coherent_init s.db.cfg s.db.table
    | restore clocks imsi =>
        simp only [storeStep]
        split
        · exact coherent
        · rename_i row readable
          exact coherent.restoreOne clocks (restorableRow_fits readable)
            fun asked => apart asked row readable
    | _ => exact absurd trivial running

end Runs

/-- The hash tables find a record if and only if a walk over `vlr->subscribers` finds one, and what
they find is in the list and has the key. -/
structure LookupsAgree (cfg : StoreCfg) (s : Store) : Prop where
  imsi : ∀ imsi, (vlrSubscrFindByImsi cfg s imsi).isSome =
    (s.subscribers.find? fun p => vlrSubscrMatchesImsi (s.subscr p) imsi).isSome
  tmsi : ∀ tmsi, (vlrSubscrFindByTmsi cfg s tmsi).isSome =
    (s.subscribers.find? fun p => vlrSubscrMatchesTmsi (s.subscr p) tmsi).isSome
  imsiFound : ∀ imsi, ∀ p ∈ vlrSubscrFindByImsi cfg s imsi,
    p ∈ s.subscribers ∧ vlrSubscrMatchesImsi (s.subscr p) imsi = true
  tmsiFound : ∀ tmsi, ∀ p ∈ vlrSubscrFindByTmsi cfg s tmsi,
    p ∈ s.subscribers ∧ vlrSubscrMatchesTmsi (s.subscr p) tmsi = true

theorem Coherent.of_findByTmsi (coherent : Coherent cfg imsis tmsis s) {tmsi : Nat}
    (found : vlrSubscrFindByTmsi cfg s tmsi = some p) :
    p ∈ s.subscribers ∧ vlrSubscrMatchesTmsi (s.subscr p) tmsi = true := by
  unfold vlrSubscrFindByTmsi at found
  split at found
  · cases found
  · rename_i valid
    split at found
    · rename_i q confirmed
      obtain rfl := Option.some.inj found
      obtain ⟨listed, hit⟩ :=
        (find_of_indexes coherent.byTmsi fun _ => hasTmsi_iff valid _).2 q confirmed
      exact ⟨listed, by simp_all [vlrSubscrMatchesTmsi]⟩
    · obtain ⟨listed, hit⟩ :=
        (find_of_indexes coherent.byTmsiNew fun _ => hasTmsi_iff valid _).2 p found
      exact ⟨listed, by simp_all [vlrSubscrMatchesTmsi]⟩

theorem Coherent.lookupsAgree (coherent : Coherent cfg imsis tmsis s) : LookupsAgree cfg s where
  imsi imsi := by
    rw [Bool.eq_iff_iff, coherent.findByImsi_isSome, find?_isSome]
  tmsi tmsi := by
    rw [Bool.eq_iff_iff, coherent.findByTmsi_isSome, find?_isSome]
  imsiFound imsi p found := by
    obtain ⟨listed, has, named⟩ := coherent.of_findByImsi found
    exact ⟨listed, by simp [vlrSubscrMatchesImsi, has, named]⟩
  tmsiFound _ _ found := coherent.of_findByTmsi found

/-- In every run over IMSIs of at most 15 digits, the lookups by IMSI and by TMSI find a record if and
only if the list has one, and no two records share an IMSI. -/
theorem storeRun_lookups (cfg : StoreCfg) (persist : PersistCfg) (table : SgsAssoc)
    (inputs : List StoreInput) (fits : ∀ input ∈ inputs, input.ImsiFits) :
    LookupsAgree cfg (inputs.foldl (storeStep cfg) (storeInit persist table)) ∧
      ImsiUnique (inputs.foldl (storeStep cfg) (storeInit persist table)) := by
  have coherent := foldl_invariant (fun s input (coherent : Coherent cfg True False s) fits =>
      storeStep_coherent coherent input (fun _ => fits) False.elim)
    inputs _ (coherent_init persist table) (stepsMeet_of_forall (fun _ => fits) _)
  exact ⟨coherent.lookupsAgree, coherent.imsiUnique trivial⟩

/-- Hash functions for runs on fixed inputs: all IMSIs of one length share a chain. -/
def chainedCfg : StoreCfg where
  hashImsi := List.length
  hashTmsi tmsi := tmsi % 32768

/-- A subscriber known by a foreign TMSI turns out to be one that has a record already. -/
def duplicateRun : List StoreInput :=
  let clocks : Clocks := { monotonic := some 0, realtime := 0 }
  [.findOrCreateByImsi clocks [0, 0, 1], .luNewTmsi (fun _ => some 5) 0, .luTmsiAck 0,
    .findOrCreateByTmsi clocks 7, .rxIdResp { dedupFrees := true } .lu 1 [0, 0, 1],
    .luNewTmsi (fun _ => some 5) 1]

theorem storeRun_lookups_duplicateRun :
    LookupsAgree chainedCfg (duplicateRun.foldl (storeStep chainedCfg) (storeInit {} fun _ => none)) ∧
      ImsiUnique (duplicateRun.foldl (storeStep chainedCfg) (storeInit {} fun _ => none)) :=
  storeRun_lookups chainedCfg {} (fun _ => none) duplicateRun (by decide)

/-- In every run whose restorations bring no TMSI in twice, no two records share a TMSI. -/
theorem storeRun_tmsiUnique (cfg : StoreCfg) (persist : PersistCfg) (table : SgsAssoc)
    (inputs : List StoreInput)
    (apart : StepsMeet (storeStep cfg) (RestoresApart cfg) (storeInit persist table) inputs) :
    TmsiUnique (inputs.foldl (storeStep cfg) (storeInit persist table)) := by
  have coherent := foldl_invariant (fun s input (coherent : Coherent cfg False True s) apart =>
      storeStep_coherent coherent input False.elim fun _ => apart)
    inputs _ (coherent_init persist table) apart
  exact coherent.tmsiUnique trivial

/-- What a new TMSI has to be: a value that is not the reserved one, in the half of the values that
belongs to the domain, and that no other record has. -/
structure TmsiFresh (cfg : StoreCfg) (s : Store) (p : Nat) : Prop where
  valid : (s.subscr p).tmsiNew ≠ gsmReservedTmsi
  domain : (s.subscr p).tmsiNew &&& gsm23003TmsiSgsnMask = gsm23003TmsiSgsnMask ↔ cfg.isPs = true
  unshared : ∀ q ∈ s.subscribers, q ≠ p → ¬ (s.subscr q).Holds (s.subscr p).tmsiNew

/-- The mask of the domain is applied after the test for the reserved value, which it can bring back
for the SGSN only. -/
theorem tmsiCandidate_spec {value tmsi : Nat} (candidate : tmsiCandidate cfg value = some tmsi) :
    (tmsi &&& gsm23003TmsiSgsnMask = gsm23003TmsiSgsnMask ↔ cfg.isPs = true) ∧
      (tmsi = gsmReservedTmsi ↔
        cfg.isPs = true ∧ cfg.nriLimit value ||| gsm23003TmsiSgsnMask = gsmReservedTmsi) := by
  unfold tmsiCandidate at candidate
  simp only at candidate
  split at candidate
  · cases candidate
  · rename_i valid
    split at candidate
    · rename_i ps
      obtain rfl := Option.some.inj candidate
      refine ⟨iff_of_true ?_ ps, by simp [ps]⟩
      apply Nat.eq_of_testBit_eq
      simp +contextual
    · rename_i cs
      split at candidate
      · obtain rfl := Option.some.inj candidate
        have low : (cfg.nriLimit value &&& 0x3FFFFFFF) ≤ 0x3FFFFFFF := Nat.and_le_right
        refine ⟨iff_of_false ?_ cs, iff_of_false ?_ fun both => cs both.1⟩
        · rw [Nat.and_assoc]
          simp [gsm23003TmsiSgsnMask]
        · unfold gsmReservedTmsi
          omega
      · rename_i lower
        obtain rfl := Option.some.inj candidate
        exact ⟨iff_of_false lower cs, iff_of_false valid fun both => cs both.1⟩

/-- Whenever `vlr_subscr_alloc_tmsi()` succeeds, the new TMSI is fresh if and only if the random number
it is made of does not become the reserved value under the mask of the SGSN. -/
theorem allocTmsi_fresh_iff (cfg : StoreCfg) (rand : Nat → Option Nat) (s s' : Store) (p : Nat)
    (indexed : Coherent cfg False False s) (allocated : vlrSubscrAllocTmsi cfg rand s p = some s') :
    TmsiFresh cfg s' p ↔
      ∀ value ∈ tmsiDrawn cfg rand s 100 0,
        ¬ (cfg.isPs = true ∧ cfg.nriLimit value ||| gsm23003TmsiSgsnMask = gsmReservedTmsi) := by
  obtain ⟨tmsi, unused, rfl, value, drawn, candidate⟩ := allocTmsi_eq allocated
  obtain ⟨domain, reserved⟩ := tmsiCandidate_spec candidate
  have only : ∀ other ∈ tmsiDrawn cfg rand s 100 0, other = value := fun other also =>
    Option.mem_unique also drawn
  constructor
  · intro fresh other also
    rw [only other also, ← reserved]
    simpa using fresh.valid
  · intro safe
    have valid : tmsi ≠ gsmReservedTmsi := fun same => safe value drawn (reserved.mp same)
    refine ⟨by simpa using valid, by simpa using domain, fun q listed other => ?_⟩
    have unheld := indexed.not_holds_of_findByTmsi valid unused q listed
    simpa [Store.write, Function.update_of_ne other] using unheld

/-- In every run the tables index the records. -/
theorem storeRun_indexed (cfg : StoreCfg) (persist : PersistCfg) (table : SgsAssoc)
    (inputs : List StoreInput) :
    Coherent cfg False False (inputs.foldl (storeStep cfg) (storeInit persist table)) :=
  foldl_invariant_always
    (fun s input (indexed : Coherent cfg False False s) =>
      storeStep_coherent indexed input False.elim False.elim)
    inputs _ (coherent_init persist table)

/-- In every reachable state, the record that `_vlr_subscr_find_or_create_by_imsi()` returns is the one
that a lookup of the IMSI then finds. -/
theorem storeRun_findsCreated (cfg : StoreCfg) (persist : PersistCfg) (table : SgsAssoc)
    (inputs : List StoreInput) (clocks : Clocks) (imsi : Digits) (named : imsi ≠ [])
    (fits : imsi.length ≤ imsiMaxDigits) :
    let s := inputs.foldl (storeStep cfg) (storeInit persist table)
    let created := vlrSubscrFindOrCreateByImsi cfg clocks s imsi
    vlrSubscrFindByImsi cfg created.1 imsi = some created.2 := by
  have indexed := storeRun_indexed cfg persist table inputs
  generalize inputs.foldl (storeStep cfg) (storeInit persist table) = s at indexed ⊢
  dsimp only
  cases found : vlrSubscrFindByImsi cfg s imsi with
  | some p => simp [vlrSubscrFindOrCreateByImsi, found]
  | none =>
      obtain ⟨s', created, list, own, others, -⟩ := findOrCreateByImsi_new indexed clocks found
      have indexed' := indexed.moves (indexed.findOrCreateByImsi clocks False.elim created).1
      have hit := (indexed'.findByImsi_isSome imsi).mpr
        ⟨s.next, by simp [list], by simp [vlrSubscrMatchesImsi, own, named, take_of_length_le fits]⟩
      obtain ⟨q, there⟩ := Option.isSome_iff_exists.mp hit
      obtain ⟨listed, has, -⟩ := indexed'.of_findByImsi there
      rw [created, there]
      -- another record would have had the IMSI before
      by_contra other
      have other : q ≠ s.next := fun same => other (congrArg some same)
      refine indexed.imsi_ne_of_findByImsi_eq_none found named q ?_ (others q other ▸ has)
      simpa [list, other] using listed

/-- The VLR of an SGSN. -/
def sgsnCfg : StoreCfg := { chainedCfg with isPs := true }

/-- Two subscribers without TMSIs. -/
def twoRecords : List StoreInput :=
  [.findOrCreateByImsi { monotonic := some 0, realtime := 0 } [0, 0, 1],
    .findOrCreateByImsi { monotonic := some 0, realtime := 0 } [0, 0, 2]]

theorem storeRun_findsCreated_third :
    let s := twoRecords.foldl (storeStep sgsnCfg) (storeInit {} fun _ => none)
    let created := vlrSubscrFindOrCreateByImsi sgsnCfg ⟨some 9, 9⟩ s [0, 0, 3]
    vlrSubscrFindByImsi sgsnCfg created.1 [0, 0, 3] = some created.2 :=
  storeRun_findsCreated sgsnCfg {} _ twoRecords _ [0, 0, 3] (by decide) (by decide)

theorem allocTmsi_fresh_iff_sgsn :
    TmsiFresh sgsnCfg
      ((vlrSubscrAllocTmsi sgsnCfg (fun tried => some (0xFFFFFFFF - tried))
        (twoRecords.foldl (storeStep sgsnCfg) (storeInit {} fun _ => none)) 0).get (by decide)) 0 :=
  (allocTmsi_fresh_iff sgsnCfg (fun tried => some (0xFFFFFFFF - tried))
    (twoRecords.foldl (storeStep sgsnCfg) (storeInit {} fun _ => none)) _ 0
    (storeRun_indexed sgsnCfg {} (fun _ => none) twoRecords) (Option.some_get _).symm).mpr (by decide)

/-- The dice of an SGSN give 0x3FFFFFFF: the new TMSI is the reserved value, which all records without
a TMSI have as well. -/
theorem sgsn_allocates_reserved :
    ((vlrSubscrAllocTmsi sgsnCfg (fun _ => some 0x3FFFFFFF)
      (twoRecords.foldl (storeStep sgsnCfg) (storeInit {} fun _ => none)) 0).map fun s =>
        ((s.subscr 0).tmsiNew, (s.subscr 1).tmsi)) = some (gsmReservedTmsi, gsmReservedTmsi) := by
  decide

section Restart

/-- The clocks and random numbers of the runs below. -/
def sgsEnvOf (tmsi : Nat) : SgsEnv where
  clocks := { monotonic := some 0, realtime := 0 }
  rand _ := some tmsi

/-- A combined attach over SGs that is accepted, with the TMSI that the dice give if one is needed. -/
def sgsAttach (p : Nat) (imsi : Digits) (tmsi : Nat) : List StoreInput :=
  [.sgsLocUpdate (sgsEnvOf tmsi) imsi "mme1" {} none, .sgsLocUpdateAccSent (sgsEnvOf tmsi) p,
    .sgsTmsiReallCompl (sgsEnvOf tmsi) imsi]

/-- Two subscribers attach over SGs, and the VLR restarts. -/
def twoAttached : List StoreInput :=
  sgsAttach 0 [0, 0, 1] 5 ++ sgsAttach 0 [0, 0, 1] 5 ++ sgsAttach 1 [0, 0, 2] 6 ++
    [.restart, .restore (sgsEnvOf 0).clocks [0, 0, 1], .restore (sgsEnvOf 0).clocks [0, 0, 2]]

instance (cfg : StoreCfg) (s : Store) (input : StoreInput) : Decidable (RestoresApart cfg s input) := by
  unfold RestoresApart
  split <;> infer_instance

theorem storeRun_tmsiUnique_twoAttached :
    TmsiUnique (twoAttached.foldl (storeStep chainedCfg) (storeInit {} fun _ => none)) :=
  storeRun_tmsiUnique chainedCfg {} (fun _ => none) twoAttached (by decide)

/-- The first subscriber attaches twice over SGs, so that its row has its TMSI, and gets a new TMSI
over A; the old one goes to the second subscriber, who attaches twice over SGs as well.  Then the VLR
restarts. -/
def staleRow : List StoreInput :=
  sgsAttach 0 [0, 0, 1] 5 ++ sgsAttach 0 [0, 0, 1] 5 ++
    [.sgsEvent (sgsEnvOf 0) 0 .rxLuFromAIuGs, .luNewTmsi (fun _ => some 6) 0, .luTmsiAck 0] ++
    sgsAttach 1 [0, 0, 2] 5 ++ sgsAttach 1 [0, 0, 2] 5 ++
    [.restart, .restore (sgsEnvOf 0).clocks [0, 0, 1], .restore (sgsEnvOf 0).clocks [0, 0, 2]]

/-- Both rows are restored with the same TMSI. -/
theorem staleRow_not_tmsiUnique :
    ¬ TmsiUnique (staleRow.foldl (storeStep chainedCfg) (storeInit {} fun _ => none)) := by
  intro unique
  have same := unique 0 (by decide) 1 (by decide) 5 (by decide) (.inl (by decide)) (.inl (by decide))
  exact absurd same (by decide)

end Restart

end OsmoMsc.Vlr
