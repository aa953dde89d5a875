/-
Module: OsmoMsc.Sms.QueueRun
Purpose: Whether every entry of the SMS queue has something that completes or retries it: a live
  transaction that carries its SMS, or the resend timer.  It has in the runs in which no attempt
  meets a subscriber that already has an SMS transaction and no SMS is discarded on a connection in
  release.
Trusted boundary: none
Main exports: Served, Failed, Deliverable, smsRun_served
-/
import OsmoMsc.Library.Run
import OsmoMsc.Sms.Queue

namespace OsmoMsc.Sms

open Library List

variable {s s' s'' : SmsNet} {skip : Option Nat} {open' : Pending → Prop} {p : Pending} {r ptr x : Nat}
  {todo : List Nat} {f : SmsTrans → SmsTrans} {row : SmsRow}
  {t : SmsTrans} {sms : GsmSms}

/-! ### What is to be shown -/

/-- The transaction is one of the entry's subscriber and carries the entry's SMS. -/
def Carries (t : SmsTrans) (p : Pending) : Prop :=
  t.vsub = p.vsub ∧ t.sms.map GsmSms.id = some p.smsId

/-- Every entry of the queue has a live transaction that carries its SMS, or will be sent again when
the resend timer expires. -/
def Served (s : SmsNet) : Prop :=
  ∀ p ∈ s.pendingSms,
    (∃ t ∈ s.transList, Carries t p) ∨ (p.resend = true ∧ s.resendPending = true)

/-! ### The invariant -/

/-- The entries, the transactions and the counters of both. -/
def SmsNet.keyed (s : SmsNet) : List Pending × Nat × List SmsTrans × Nat :=
  (s.pendingSms, s.newPending, s.transList, s.newCallref)

/-- What tells an entry from others. -/
def Pending.keys (p : Pending) : Nat × Nat × Nat := (p.smsId, p.vsub, p.ptr)

/-- The entries and the transactions are told apart by their keys. -/
structure Keys (s : SmsNet) : Prop where
  ids : (s.pendingSms.map Pending.smsId).Nodup
  vsubs : (s.pendingSms.map Pending.vsub).Nodup
  ptrs : (s.pendingSms.map Pending.ptr).Nodup
  fresh : ∀ p ∈ s.pendingSms, p.ptr < s.newPending
  transPtrs : (s.transList.map SmsTrans.ptr).Nodup
  transFresh : ∀ t ∈ s.transList, t.ptr < s.newCallref

/-- The entry has what it needs without the transaction `skip`. -/
def ServedEntry (skip : Option Nat) (s : SmsNet) (p : Pending) : Prop :=
  (∃ t ∈ s.transList, some t.ptr ≠ skip ∧ Carries t p) ∨ (p.resend = true ∧ s.resendPending = true)

/-- The invariant in the middle of an event: the entries that satisfy `open'` are still to be dealt
with, and the transaction `skip` is about to lose its SMS. -/
structure QueueInv (skip : Option Nat) (open' : Pending → Prop) (s : SmsNet) : Prop where
  keys : Keys s
  old : ∀ ptr, skip = some ptr → ptr < s.newCallref
  served : ∀ p ∈ s.pendingSms, open' p ∨ ServedEntry skip s p

/-- The invariant between two events. -/
abbrev Settled (s : SmsNet) : Prop := QueueInv none (fun _ => False) s

theorem Settled.isServed (settled : Settled s) : Served s := by
  intro p member
  rcases settled.served p member with impossible | ⟨t, live, -, carries⟩ | resent
  · exact absurd impossible not_false
  · exact .inl ⟨t, live, carries⟩
  · exact .inr resent

section Keys

variable {q : Pending} (keys : Keys s)
include keys

theorem Keys.eq_of_smsId (isP : p ∈ s.pendingSms) (isQ : q ∈ s.pendingSms)
    (same : p.smsId = q.smsId) : p = q :=
  inj_on_of_nodup_map keys.ids isP isQ same

theorem Keys.eq_of_ptr (isP : p ∈ s.pendingSms) (isQ : q ∈ s.pendingSms) (same : p.ptr = q.ptr) :
    p = q :=
  inj_on_of_nodup_map keys.ptrs isP isQ same

theorem Keys.eq_of_vsub (isP : p ∈ s.pendingSms) (isQ : q ∈ s.pendingSms) (same : p.vsub = q.vsub) :
    p = q :=
  inj_on_of_nodup_map keys.vsubs isP isQ same

theorem Keys.eq_of_transPtr {u : SmsTrans} (isT : t ∈ s.transList) (isU : u ∈ s.transList)
    (same : t.ptr = u.ptr) : t = u :=
  inj_on_of_nodup_map keys.transPtrs isT isU same

/-- Only the two lists and the counters matter. -/
theorem Keys.congr (same : s'.keyed = s.keyed) : Keys s' := by
  simp only [SmsNet.keyed, Prod.mk.injEq] at same
  obtain ⟨pendingSms, newPending, transList, newCallref⟩ := same
  obtain ⟨ids, vsubs, ptrs, fresh, transPtrs, transFresh⟩ := keys
  constructor <;> simp only [pendingSms, newPending, transList, newCallref] <;> assumption

/-- Entries go or change, and no key is new. -/
theorem Keys.ofEntries
    (entries : (s'.pendingSms.map Pending.keys).Sublist (s.pendingSms.map Pending.keys))
    (rest : s'.keyed.2 = s.keyed.2) : Keys s' := by
  have distinct (key : Nat × Nat × Nat → Nat)
      (before : (s.pendingSms.map fun p => key p.keys).Nodup) :
      (s'.pendingSms.map fun p => key p.keys).Nodup := by
    have part := entries.map key
    rw [map_map, map_map] at part
    exact before.sublist part
  refine (⟨distinct (·.1) keys.ids, distinct (·.2.1) keys.vsubs, distinct (·.2.2) keys.ptrs, fun p member => ?_,
    keys.transPtrs, keys.transFresh⟩ : Keys { s with pendingSms := s'.pendingSms }).congr
    (congrArg (Prod.mk _) rest)
  obtain ⟨old, isOld, same⟩ := mem_map.mp (entries.subset (mem_map_of_mem member))
  have ptr : old.ptr = p.ptr := congrArg (·.2.2) same
  exact ptr ▸ keys.fresh old isOld

theorem Keys.adjustPending {f : Pending → Pending}
    (is : s'.keyed = (adjust Pending.ptr ptr f s.pendingSms, s.keyed.2))
    (same : ∀ p, (f p).keys = p.keys) : Keys s' := by
  refine keys.ofEntries ?_ (Prod.mk.inj is).2
  rw [(Prod.mk.inj is).1, map_adjust same]

theorem Keys.adjustTrans (samePtr : ∀ t, (f t).ptr = t.ptr) : Keys (updateTrans s ptr f) := by
  refine { keys with transPtrs := ?_, transFresh := ?_ }
  · simpa only [updateTrans, map_adjust samePtr] using keys.transPtrs
  · intro t member
    rcases mem_adjust.mp member with ⟨old, isOld, -, rfl⟩ | ⟨isOld, -⟩
    · rw [samePtr]
      exact keys.transFresh old isOld
    · exact keys.transFresh t isOld

theorem Keys.removeTrans (ptr : Nat) :
    Keys { s with transList := remove SmsTrans.ptr ptr s.transList } :=
  { keys with
    transPtrs := nodup_map_remove keys.transPtrs
    transFresh := fun t member => keys.transFresh t (mem_remove.mp member).1 }

theorem Keys.appendTrans (ptr : t.ptr = s.newCallref) :
    Keys { s with transList := s.transList ++ [t], newCallref := s.newCallref + 1 } := by
  have fresh := keys.transFresh
  rw [← ptr] at fresh ⊢
  exact { keys with
    transPtrs := nodup_map_concat keys.transPtrs fun u isU => Nat.ne_of_lt (fresh u isU)
    transFresh := lt_succ_of_concat fresh }

end Keys

/-! ### A failed delivery -/

/-- The rows of the second table stem from rows of the first: at most the number of attempts has
changed. -/
def RowsFrom (db db' : List SmsRow) : Prop :=
  ∀ row' ∈ db', ∃ row ∈ db, row.id = row'.id ∧ row.destAddr = row'.destAddr ∧ row.sent = row'.sent

variable {db : List SmsRow} {subscribers : List Subscr} {open'' : Pending → Prop}

theorem rowsFrom_refl : RowsFrom db db :=
  fun row member => ⟨row, member, rfl, rfl, rfl⟩

theorem RowsFrom.trans {db db' db'' : List SmsRow} (first : RowsFrom db db')
    (second : RowsFrom db' db'') : RowsFrom db db'' := by
  intro row'' member
  obtain ⟨row', isRow', id', dest', sent'⟩ := second row'' member
  obtain ⟨row, isRow, id, dest, sent⟩ := first row' isRow'
  exact ⟨row, isRow, id.trans id', dest.trans dest', sent.trans sent'⟩

theorem rowsFrom_filter {keep : SmsRow → Bool} : RowsFrom db (db.filter keep) :=
  fun row member => ⟨row, (mem_filter.mp member).1, rfl, rfl, rfl⟩

theorem rowsFrom_deleteOldestExpired {now : Nat} :
    RowsFrom db (dbSmsDeleteOldestExpiredMessage db now) := by
  unfold dbSmsDeleteOldestExpiredMessage
  split
  · split
    · exact rowsFrom_refl
    · exact rowsFrom_filter
  · exact rowsFrom_refl

theorem rowsFrom_incDeliverAttempts (db : List SmsRow) (id : Nat) :
    RowsFrom db (dbSmsIncDeliverAttempts db id) := by
  intro row' member
  obtain ⟨row, isRow, rfl⟩ := mem_map.mp member
  refine ⟨row, isRow, ?_⟩
  split <;> exact ⟨rfl, rfl, rfl⟩

/-- What a signal about the failure of the SMS with the id `x` can do: the entry goes, or waits for
the resend timer; everything else stays. -/
structure Failed (x : Nat) (s s' : SmsNet) : Prop where
  transList : s'.transList = s.transList
  subscribers : s'.subscribers = s.subscribers
  conns : s'.conns = s.conns
  newCallref : s.newCallref ≤ s'.newCallref
  rows : RowsFrom s.db s'.db
  timer : s.resendPending = true → s'.resendPending = true
  keys : Keys s'
  entries : ∀ p' ∈ s'.pendingSms, (p' ∈ s.pendingSms ∧ p'.smsId ≠ x) ∨
    ((∃ p ∈ s.pendingSms, p.smsId = x ∧ p.keys = p'.keys) ∧
      p'.resend = true ∧ s'.resendPending = true)
  kept : ∀ p ∈ s.pendingSms, p.smsId ≠ x → p ∈ s'.pendingSms

theorem smsPendingFailed_cases {s : SmsNet} {p : Pending} :
    (∃ failedAttempts, smsPendingFailed s p =
      { s with
        pendingSms := adjust Pending.ptr p.ptr
          (fun q => { q with failedAttempts := failedAttempts, resend := true }) s.pendingSms
        resendPending := true }) ∨
      smsPendingFailed s p = smsPendingFree s p.ptr := by
  unfold smsPendingFailed
  dsimp only
  split
  · refine .inl ⟨p.failedAttempts + 1, ?_⟩
    simp only [smsPendingResend]
    rw [adjust_adjust]
    exact fun _ => rfl
  · refine .inr ?_
    simp only [smsPendingFree]
    rw [remove_adjust]
    exact fun _ => rfl

theorem failed_smsPendingFailed (keys : Keys s) (isEntry : p ∈ s.pendingSms) :
    Failed p.smsId s (smsPendingFailed s p) := by
  have otherPtr : ∀ q ∈ s.pendingSms, q.smsId ≠ p.smsId → q.ptr ≠ p.ptr :=
    fun q isQ other same => other (congrArg Pending.smsId (keys.eq_of_ptr isQ isEntry same))
  rcases smsPendingFailed_cases with ⟨failedAttempts, result⟩ | result
  · rw [result]
    refine ⟨rfl, rfl, rfl, le_rfl, rowsFrom_refl, fun _ => rfl, ?_, ?_, ?_⟩
    · exact keys.adjustPending rfl fun _ => rfl
    · intro p' member
      rcases mem_adjust.mp member with ⟨old, isOld, same, rfl⟩ | ⟨isOld, other⟩
      · obtain rfl := keys.eq_of_ptr isOld isEntry same
        exact .inr ⟨⟨old, isOld, rfl, rfl⟩, rfl, rfl⟩
      · refine .inl ⟨isOld, fun same => other ?_⟩
        exact congrArg Pending.ptr (keys.eq_of_smsId isOld isEntry same)
    · intro q isQ other
      exact mem_adjust.mpr (.inr ⟨isQ, otherPtr q isQ other⟩)
  · rw [result]
    refine ⟨rfl, rfl, rfl, le_rfl, rowsFrom_refl, fun armed => armed, ?_, ?_, ?_⟩
    · exact keys.ofEntries (filter_sublist.map _) rfl
    · intro p' member
      obtain ⟨isOld, other⟩ := mem_remove.mp member
      refine .inl ⟨isOld, fun same => other ?_⟩
      exact congrArg Pending.ptr (keys.eq_of_smsId isOld isEntry same)
    · intro q isQ other
      exact mem_remove.mpr ⟨isQ, otherPtr q isQ other⟩

/-- `Failed` is about the entries; the table may lose expired rows besides. -/
theorem Failed.deleteExpired (failed : Failed x s s') : Failed x s (deleteExpired s') := by
  unfold Sms.deleteExpired
  split
  · exact { failed with
      rows := failed.rows.trans rowsFrom_deleteOldestExpired
      keys := failed.keys.congr rfl }
  · exact failed

theorem failed_of_notPending (keys : Keys s) (absent : ∀ p ∈ s.pendingSms, p.smsId ≠ x) :
    Failed x s s :=
  ⟨rfl, rfl, rfl, le_rfl, rowsFrom_refl, id, keys, fun p member => .inl ⟨member, absent p member⟩,
    fun _ member _ => member⟩

theorem failed_smsSmsCbUnknownError (keys : Keys s) (sms : GsmSms) :
    Failed sms.id s (smsSmsCbUnknownError s sms) := by
  unfold smsSmsCbUnknownError smsFindPending
  split
  · rename_i absent
    refine failed_of_notPending keys fun p member => ?_
    simpa using find?_eq_none.mp absent p member
  · rename_i p found
    obtain ⟨isEntry, same⟩ := mem_of_find found
    rw [← same]
    exact (failed_smsPendingFailed keys isEntry).deleteExpired

/-- After the signal the entry of the SMS is dealt with. -/
theorem QueueInv.failed (inv : QueueInv skip (fun p => open' p ∨ p.smsId = x) s)
    (failed : Failed x s s') : QueueInv skip open' s' := by
  refine ⟨failed.keys, fun ptr isSkip => (inv.old ptr isSkip).trans_le failed.newCallref, ?_⟩
  intro p member
  rcases failed.entries p member with ⟨isOld, other⟩ | ⟨-, resent⟩
  · rcases inv.served p isOld with (isOpen | same) | ⟨t, live, carried⟩ | resent
    · exact .inl isOpen
    · exact absurd same other
    · exact .inr (.inl ⟨t, failed.transList ▸ live, carried⟩)
    · exact .inr (.inr ⟨resent.1, failed.timer resent.2⟩)
  · exact .inr (.inr resent)

/-! ### An attempt to send -/

/-- The SMS is on its way in a new transaction of the subscriber `r`. -/
structure Sent (r : Nat) (sms : GsmSms) (s s' : SmsNet) : Prop where
  transList : ∃ t, s'.transList = s.transList ++ [t] ∧ t.ptr = s.newCallref ∧ t.vsub = r ∧
    t.sms = some sms
  subscribers : s'.subscribers = s.subscribers
  rows : RowsFrom s.db s'.db
  timer : s'.resendPending = s.resendPending
  pendingSms : s'.pendingSms = s.pendingSms
  newCallref : s.newCallref ≤ s'.newCallref
  keys : Keys s'

/-- How `gsm411_send_sms()` can end: it refuses without a word, and nothing has happened but that an
attempt was counted; the queue is told that it failed; or the SMS is on its way. -/
inductive SendResult (env : SendEnv) (vsub : Option Nat) (sms : GsmSms) (s s' : SmsNet) : Prop where
  | refused (unchanged : (s'.subscribers, s'.db, s'.resendPending, s'.keyed) =
        (s.subscribers, s.db, s.resendPending, s.keyed))
      (reason : ∀ r, vsub = some r → hasSmsTrans s r = true ∨ env.transAlloc = false)
  | failed (isFailed : Failed sms.id s s')
  | sent (r : Nat) (isVsub : vsub = some r) (isSent : Sent r sms s s')

/-- What an attempt can do to the transactions and the entries, however it ends. -/
structure Attempted (vsub : Option Nat) (x : Nat) (s s' : SmsNet) : Prop where
  subscribers : s'.subscribers = s.subscribers
  rows : RowsFrom s.db s'.db
  trans : ∀ t ∈ s'.transList,
    t ∈ s.transList ∨ some t.vsub = vsub ∧ s'.pendingSms = s.pendingSms
  entries : ∀ p' ∈ s'.pendingSms,
    p' ∈ s.pendingSms ∨ ∃ p ∈ s.pendingSms, p.smsId = x ∧ p.keys = p'.keys
  kept : ∀ p ∈ s.pendingSms, p.smsId ≠ x → p ∈ s'.pendingSms

section Send

variable {env : SendEnv} {vsub : Option Nat}

theorem SendResult.attempted (result : SendResult env vsub sms s s') :
    Attempted vsub sms.id s s' := by
  cases result with
  | refused same =>
      simp only [SmsNet.keyed, Prod.mk.injEq] at same
      obtain ⟨subscribers, db, -, pendingSms, -, transList, -⟩ := same
      exact ⟨subscribers, db ▸ rowsFrom_refl, fun t live => .inl (transList ▸ live),
        fun p member => .inl (pendingSms ▸ member), fun p member _ => pendingSms ▸ member⟩
  | failed failed =>
      exact ⟨failed.subscribers, failed.rows, fun t live => .inl (failed.transList ▸ live),
        fun p member => (failed.entries p member).imp And.left And.left, failed.kept⟩
  | sent r isVsub sent =>
      obtain ⟨t, transList, -, isFor, -⟩ := sent.transList
      refine ⟨sent.subscribers, sent.rows, fun u live => ?_,
        fun p member => .inl (sent.pendingSms ▸ member), fun p member _ => sent.pendingSms ▸ member⟩
      rw [transList] at live
      rcases mem_concat.mp live with isOld | rfl
      · exact .inl isOld
      · exact .inr ⟨by rw [isFor, isVsub], sent.pendingSms⟩

/-- `Failed` does not ask where the transactions and the table come from. -/
theorem Failed.lift (failed : Failed x s' s'') (pendingSms : s'.pendingSms = s.pendingSms)
    (timer : s'.resendPending = s.resendPending) (subscribers : s'.subscribers = s.subscribers)
    (conns : s'.conns = s.conns) (transList : s'.transList = s.transList)
    (newCallref : s.newCallref ≤ s'.newCallref) (rows : RowsFrom s.db s'.db) : Failed x s s'' where
  transList := failed.transList.trans transList
  subscribers := failed.subscribers.trans subscribers
  conns := failed.conns.trans conns
  newCallref := newCallref.trans failed.newCallref
  rows := rows.trans failed.rows
  timer := fun armed => failed.timer (timer.trans armed)
  keys := failed.keys
  entries := pendingSms ▸ failed.entries
  kept := pendingSms ▸ failed.kept

theorem remove_newTrans (keys : Keys s) (ptr : t.ptr = s.newCallref) :
    remove SmsTrans.ptr s.newCallref (s.transList ++ [t]) = s.transList := by
  have others : s.transList.filter (fun u => u.ptr ≠ s.newCallref) = s.transList := by
    refine filter_eq_self.mpr fun u isU => ?_
    have := keys.transFresh u isU
    simp only [ne_eq, decide_not, Bool.not_eq_true', decide_eq_false_iff_not]
    omega
  rw [remove, filter_append, others]
  simp [ptr]

theorem adjust_newTrans (keys : Keys s) (ptr : t.ptr = s.newCallref) :
    adjust SmsTrans.ptr s.newCallref f (s.transList ++ [t]) = s.transList ++ [f t] := by
  have others :
      s.transList.map (fun u => if u.ptr = s.newCallref then f u else u) = s.transList := by
    refine (map_congr_left fun u isU => ?_).trans (map_id _)
    have := keys.transFresh u isU
    rw [if_neg (by omega)]
    rfl
  rw [adjust, map_append, others]
  simp [ptr]

/-- A transaction that was just allocated goes again after the queue was told. -/
theorem failed_beforeSms (keys : Keys s) (ptr : t.ptr = s.newCallref) (noSms : t.sms = none)
    (sms : GsmSms) :
    Failed sms.id s (transFree (smsSmsCbUnknownError
      { s with transList := s.transList ++ [t], newCallref := s.newCallref + 1 } sms) t) := by
  have failed := failed_smsSmsCbUnknownError (keys.appendTrans ptr) sms
  simp only [transFree, noSms]
  exact {
    transList := by
      simp only [failed.transList, ptr]
      exact remove_newTrans keys ptr
    subscribers := failed.subscribers
    conns := failed.conns
    newCallref := (Nat.le_succ _).trans failed.newCallref
    rows := failed.rows
    timer := failed.timer
    keys := failed.keys.removeTrans t.ptr
    entries := failed.entries
    kept := failed.kept }

theorem gsm411SendSms_result (keys : Keys s) (env : SendEnv) (vsub : Option Nat) (sms : GsmSms) :
    SendResult env vsub sms s (gsm411SendSms s env vsub sms) := by
  cases vsub with
  | none => exact .refused rfl (by simp)
  | some r =>
      unfold gsm411SendSms gsm411AllocMtTrans
      simp only [Option.bind_some]
      by_cases refuse : (hasSmsTrans s r || !env.transAlloc) = true
      · simp only [refuse, if_true]
        refine .refused rfl fun r' same => ?_
        cases same
        simpa using refuse
      · simp only [refuse, if_false, Bool.false_eq_true]
        split
        · exact .failed (failed_beforeSms keys rfl rfl sms)
        · have rows := rowsFrom_incDeliverAttempts s.db sms.id
          have started := adjust_newTrans keys
            (t := gsm411TransInit s r (mscAForVsub s r))
            (f := fun t => { t with sms := some sms, paging := t.mscA.isNone }) rfl
          split
          · refine .sent r rfl ⟨⟨_, started, rfl, rfl, rfl⟩, rfl, rows, rfl, rfl, Nat.le_succ _, ?_⟩
            exact (keys.appendTrans rfl).congr (congrArg (fun list => (_, _, list, _)) started)
          · rename_i noWay
            -- Without a connection the transaction is not one in release, so the queue hears of it.
            have noConn : mscAForVsub s r = none := by
              simp only [Bool.or_eq_true, not_or, Bool.not_eq_true, gsm411TransInit,
                Option.isSome_eq_false_iff, Option.isNone_iff_eq_none] at noWay
              exact noWay.1
            have gone : remove SmsTrans.ptr s.newCallref (adjust SmsTrans.ptr s.newCallref
                (fun t => { t with sms := some sms, paging := t.mscA.isNone })
                (s.transList ++ [gsm411TransInit s r none])) = s.transList := by
              refine (remove_adjust ?_).trans (remove_newTrans keys rfl)
              exact fun _ => rfl
            simp only [transFree, updateTrans, noConn, gsm411TransInit, Option.any_none,
              Bool.false_eq_true, if_false]
            simp only [gsm411TransInit] at gone
            rw [gone]
            refine .failed ((failed_smsSmsCbUnknownError ?_ sms).lift rfl rfl rfl rfl rfl
              (Nat.le_succ _) rows)
            exact { keys with transFresh := fun t isT => Nat.lt_succ_of_lt (keys.transFresh t isT) }

/-- The queue counts its attempts. -/
theorem queueGsm411SendSms_result (keys : Keys s) (env : Nat → SendEnv) (vsub : Option Nat)
    (sms : GsmSms) :
    SendResult (env s.deliveryAttempts) vsub sms s (queueGsm411SendSms env s vsub sms) := by
  have counted : Keys { s with deliveryAttempts := s.deliveryAttempts + 1 } :=
    keys.congr rfl
  cases gsm411SendSms_result counted (env s.deliveryAttempts) vsub sms with
  | refused unchanged reason => exact .refused unchanged reason
  | failed isFailed => exact .failed (isFailed.lift rfl rfl rfl rfl rfl le_rfl rowsFrom_refl)
  | sent r isVsub isSent => exact .sent r isVsub { isSent with }

section

variable (inv : QueueInv skip open' s)
include inv

/-- Only the two lists, their counters and the timer matter. -/
theorem QueueInv.congr (same : (s'.resendPending, s'.keyed) = (s.resendPending, s.keyed)) :
    QueueInv skip open' s' := by
  obtain ⟨timer, keyed⟩ := Prod.mk.inj same
  refine ⟨inv.keys.congr keyed, ?_, ?_⟩
  all_goals
    simp only [SmsNet.keyed, Prod.mk.injEq] at keyed
    obtain ⟨pendingSms, -, transList, newCallref⟩ := keyed
  · rw [newCallref]
    exact inv.old
  · rw [pendingSms]
    simpa only [ServedEntry, transList, timer] using inv.served

theorem QueueInv.mono (imp : ∀ p ∈ s.pendingSms, open' p → open'' p ∨ ServedEntry skip s p) :
    QueueInv skip open'' s := by
  refine ⟨inv.keys, inv.old, fun p member => ?_⟩
  rcases inv.served p member with isOpen | served
  · exact imp p member isOpen
  · exact .inr served

/-- A change of the transactions: it is enough to look at the SMS that they carry. -/
theorem QueueInv.change {skip' : Option Nat} (keys : Keys s')
    (old : ∀ ptr, skip' = some ptr → ptr < s'.newCallref)
    (pendingSms : s'.pendingSms = s.pendingSms) (timer : s'.resendPending = s.resendPending)
    (opens : ∀ p, open' p → open'' p)
    (carried : ∀ p, ∀ u ∈ s.transList, some u.ptr ≠ skip → Carries u p →
      open'' p ∨ ∃ t ∈ s'.transList, some t.ptr ≠ skip' ∧ Carries t p) :
    QueueInv skip' open'' s' := by
  refine ⟨keys, old, fun p member => ?_⟩
  rw [pendingSms] at member
  rcases inv.served p member with isOpen | ⟨u, live, other, carries⟩ | resent
  · exact .inl (opens p isOpen)
  · exact (carried p u live other carries).imp_right .inl
  · exact .inr (.inr ⟨resent.1, timer.trans resent.2⟩)

/-- Another transaction takes nothing away. -/
theorem QueueInv.sent (sent : Sent r sms s s') : QueueInv skip open' s' := by
  obtain ⟨t, transList, -⟩ := sent.transList
  refine inv.change sent.keys (fun ptr isSkip => (inv.old ptr isSkip).trans_le sent.newCallref)
    sent.pendingSms sent.timer (fun _ => id) fun p u live other carries => ?_
  rw [transList]
  exact .inr ⟨u, mem_append_left _ live, other, carries⟩

/-- An attempt from outside the queue. -/
theorem QueueInv.sendAny (result : SendResult env vsub sms s s') : QueueInv skip open' s' := by
  cases result with
  | refused unchanged => exact inv.congr (congrArg (·.2.2) unchanged)
  | failed isFailed => exact (inv.mono fun p _ isOpen => .inl (.inl isOpen)).failed isFailed
  | sent r _ isSent => exact inv.sent isSent

/-- A new transaction takes nothing away. -/
theorem QueueInv.appendTrans (ptr : t.ptr = s.newCallref) :
    QueueInv skip open'
      { s with transList := s.transList ++ [t], newCallref := s.newCallref + 1 } :=
  inv.change (inv.keys.appendTrans ptr) (fun q isSkip => Nat.lt_succ_of_lt (inv.old q isSkip)) rfl rfl
    (fun _ => id) fun _ u live other carries => .inr ⟨u, mem_append_left _ live, other, carries⟩

/-- A transaction that nothing depends on may as well be depended on. -/
theorem QueueInv.unskip : QueueInv none open' s :=
  inv.change inv.keys (by simp) rfl rfl (fun _ => id)
    fun _ u isLive _ carries => .inr ⟨u, isLive, by simp, carries⟩

theorem QueueInv.deleteExpired : QueueInv skip open' (deleteExpired s) := by
  unfold Sms.deleteExpired
  split
  · exact inv.congr rfl
  · exact inv

end

/-- An attempt of the queue for its entry serves the entry, unless it is refused. -/
theorem QueueInv.send (inv : QueueInv skip (fun p => open' p ∨ p.smsId = sms.id) s)
    (result : SendResult env vsub sms s s') (isVsub : vsub = some r)
    (free : hasSmsTrans s r = false) (memory : env.transAlloc = true)
    (entry : ∀ p ∈ s.pendingSms, p.smsId = sms.id → p.vsub = r) : QueueInv skip open' s' := by
  cases result with
  | refused _ reason =>
      have := reason r isVsub
      simp [free, memory] at this
  | failed isFailed => exact inv.failed isFailed
  | sent r' isVsub' isSent =>
      obtain rfl : r = r' := Option.some.inj (isVsub.symm.trans isVsub')
      refine (inv.sent isSent).mono fun p member isOpen => ?_
      rcases isOpen with isOpen | same
      · exact .inl isOpen
      · obtain ⟨t, transList, ptr, isFor, carriesSms⟩ := isSent.transList
        refine .inr (.inl ⟨t, ?_, ?_, ?_, ?_⟩)
        · rw [transList]
          exact mem_concat_self
        · intro isSkip
          have := inv.old t.ptr isSkip.symm
          omega
        · rw [isFor, entry p (isSent.pendingSms ▸ member) same]
        · rw [carriesSms, same, Option.map_some]

end Send

/-! ### Reading new messages -/

variable {env : Nat → SendEnv} (memory : ∀ n, (env n).transAlloc = true)

theorem smsQueueSmsIsPending_iff :
    smsQueueSmsIsPending s x = true ↔ ∃ p ∈ s.pendingSms, p.smsId = x := by
  simp [smsQueueSmsIsPending, smsFindPending]

theorem smsSubscriberIsPending_iff :
    smsSubscriberIsPending s r = true ↔ ∃ p ∈ s.pendingSms, p.vsub = r := by
  simp [smsSubscriberIsPending, smsSubscriberFindPending]

theorem hasSmsTrans_iff : hasSmsTrans s r = true ↔ ∃ t ∈ s.transList, t.vsub = r := by
  simp [hasSmsTrans]

theorem smsFromResult_congr {row' : SmsRow} (id : row.id = row'.id)
    (destAddr : row.destAddr = row'.destAddr) :
    smsFromResult subscribers row = smsFromResult subscribers row' := by
  simp only [smsFromResult, id, destAddr]

/-- Every message that the queue could take from the table is already in the queue, is for a
subscriber in the queue, or is for a subscriber without an SMS transaction. -/
def CanSubmit (s : SmsNet) : Prop :=
  ∀ row ∈ s.db, row.sent = false → (smsFromResult s.subscribers row).id ≠ 0 →
    ∀ r ∈ (smsFromResult s.subscribers row).receiver,
      smsQueueSmsIsPending s (smsFromResult s.subscribers row).id = true ∨
        smsSubscriberIsPending s r = true ∨ hasSmsTrans s r = false

/-- The queue keeps its entries, and subscribers only get an SMS transaction with an entry. -/
structure Grown (s s' : SmsNet) : Prop where
  subscribers : s'.subscribers = s.subscribers
  rows : RowsFrom s.db s'.db
  entries : ∀ p ∈ s.pendingSms, ∃ p' ∈ s'.pendingSms, p'.smsId = p.smsId ∧ p'.vsub = p.vsub
  trans : ∀ t' ∈ s'.transList, (∃ t ∈ s.transList, t.vsub = t'.vsub) ∨
    ∃ p' ∈ s'.pendingSms, p'.vsub = t'.vsub

theorem grown_of_eq (subscribers : s'.subscribers = s.subscribers) (db : s'.db = s.db)
    (pendingSms : s'.pendingSms = s.pendingSms) (transList : s'.transList = s.transList) :
    Grown s s' where
  subscribers := subscribers
  rows := db ▸ rowsFrom_refl
  entries := fun p member => ⟨p, pendingSms ▸ member, rfl, rfl⟩
  trans := fun t member => .inl ⟨t, transList ▸ member, rfl⟩

theorem CanSubmit.grown (can : CanSubmit s) (grown : Grown s s') : CanSubmit s' := by
  intro row' member unsent attached r isReceiver
  obtain ⟨row, isRow, id, destAddr, sent⟩ := grown.rows row' member
  rw [grown.subscribers, ← smsFromResult_congr id destAddr] at *
  rcases can row isRow (sent.trans unsent) attached r isReceiver with isPending | isPending | free
  · obtain ⟨p, isEntry, same⟩ := smsQueueSmsIsPending_iff.mp isPending
    obtain ⟨p', isEntry', smsId, -⟩ := grown.entries p isEntry
    exact .inl (smsQueueSmsIsPending_iff.mpr ⟨p', isEntry', smsId.trans same⟩)
  · obtain ⟨p, isEntry, same⟩ := smsSubscriberIsPending_iff.mp isPending
    obtain ⟨p', isEntry', -, vsub⟩ := grown.entries p isEntry
    exact .inr (.inl (smsSubscriberIsPending_iff.mpr ⟨p', isEntry', vsub.trans same⟩))
  · refine .inr (Classical.or_iff_not_imp_left.mpr fun notPending => ?_)
    refine Bool.eq_false_iff.mpr fun hasTrans => ?_
    obtain ⟨t', live, isFor⟩ := hasSmsTrans_iff.mp hasTrans
    rcases grown.trans t' live with ⟨t, wasLive, same⟩ | ⟨p', isEntry', same⟩
    · have := hasSmsTrans_iff.mpr ⟨t, wasLive, same.trans isFor⟩
      simp [free] at this
    · exact notPending (smsSubscriberIsPending_iff.mpr ⟨p', isEntry', same.trans isFor⟩)

theorem QueueInv.smsPendingFrom (inv : QueueInv skip open' s)
    (newSms : smsQueueSmsIsPending s x = false) (newSub : smsSubscriberIsPending s r = false) :
    QueueInv skip (fun p => open' p ∨ p.smsId = x) (smsPendingFrom s r x) := by
  have noSms : ∀ p ∈ s.pendingSms, p.smsId ≠ x := fun p isEntry same => by
    simp [smsQueueSmsIsPending_iff.mpr ⟨p, isEntry, same⟩] at newSms
  have noSub : ∀ p ∈ s.pendingSms, p.vsub ≠ r := fun p isEntry same => by
    simp [smsSubscriberIsPending_iff.mpr ⟨p, isEntry, same⟩] at newSub
  have keys := inv.keys
  refine ⟨⟨nodup_map_concat keys.ids noSms, nodup_map_concat keys.vsubs noSub,
    nodup_map_concat keys.ptrs fun p isEntry => (keys.fresh p isEntry).ne, lt_succ_of_concat keys.fresh,
    keys.transPtrs, keys.transFresh⟩, inv.old, fun p member => ?_⟩
  rcases mem_concat.mp member with isOld | rfl
  · exact (inv.served p isOld).imp_left .inl
  · exact .inl (.inr rfl)

/-- What `smsq_take_next_sms()` returns is the message of an unsent row, for an attached subscriber. -/
theorem takeNextSms_fromRow {started : Msisdn} (sanity : Nat) (lastMsisdn : Msisdn) (wrapped : Nat)
    (taken : (takeNextSms subscribers db started sanity lastMsisdn wrapped).1 = some sms) :
    ∃ row ∈ db, row.sent = false ∧ smsFromResult subscribers row = sms ∧ sms.id ≠ 0 := by
  induction sanity generalizing lastMsisdn wrapped with
  | zero => cases taken
  | succ sanity ih =>
      unfold takeNextSms at taken
      split at taken
      · cases taken
      · split at taken
        · cases taken
        · split at taken
          · exact ih _ _ taken
          · rename_i found isFound
            dsimp only at taken
            split at taken
            · exact ih _ _ taken
            · rename_i attached
              obtain rfl : found = sms := Option.some.inj taken
              obtain ⟨row, isRow, fromRow⟩ := Option.map_eq_some_iff.mp isFound
              have selected := mem_filter.mp (argmin_mem isRow)
              simp only [Bool.and_eq_true, Bool.not_eq_true'] at selected
              exact ⟨row, selected.1, selected.2.1.1, fromRow, attached⟩

section

include memory

/-- A new entry and the attempt to send its SMS. -/
theorem QueueInv.enqueue (inv : QueueInv skip open' s)
    (newSms : smsQueueSmsIsPending s sms.id = false) (newSub : smsSubscriberIsPending s r = false)
    (free : hasSmsTrans s r = false) :
    QueueInv skip open' (queueGsm411SendSms env (Sms.smsPendingFrom s r sms.id) (some r) sms) ∧
      Grown s (queueGsm411SendSms env (Sms.smsPendingFrom s r sms.id) (some r) sms) := by
  have noSms : ∀ p ∈ s.pendingSms, p.smsId ≠ sms.id := fun p isEntry same => by
    simp [smsQueueSmsIsPending_iff.mpr ⟨p, isEntry, same⟩] at newSms
  have added := inv.smsPendingFrom newSms newSub
  have result := queueGsm411SendSms_result added.keys env (some r) sms
  constructor
  · refine added.send result rfl free (memory _) ?_
    intro p member same
    rcases mem_concat.mp member with isOld | rfl
    · exact absurd same (noSms p isOld)
    · rfl
  · have attempted := result.attempted
    refine ⟨attempted.subscribers, attempted.rows, fun p isEntry => ?_, fun t live => ?_⟩
    · exact ⟨p, attempted.kept p (mem_append_left _ isEntry) (noSms p isEntry), rfl, rfl⟩
    · rcases attempted.trans t live with isOld | ⟨isFor, pendingSms⟩
      · exact .inl ⟨t, isOld, rfl⟩
      · rw [pendingSms]
        exact .inr ⟨_, mem_concat_self, (Option.some.inj isFor).symm⟩

theorem submitSms_inv (inv : QueueInv skip open' s) (can : smsQueueSmsIsPending s sms.id = true ∨
      smsSubscriberIsPending s r = true ∨ hasSmsTrans s r = false) :
    QueueInv skip open' (submitSms env s r sms).1 ∧ Grown s (submitSms env s r sms).1 := by
  unfold submitSms
  split
  · exact ⟨inv, grown_of_eq rfl rfl rfl rfl⟩
  · rename_i notPending
    simp only [Bool.or_eq_true, not_or, Bool.not_eq_true] at notPending
    split
    · exact ⟨inv, grown_of_eq rfl rfl rfl rfl⟩
    · refine inv.enqueue memory notPending.1 notPending.2 ?_
      simpa [notPending.1, notPending.2] using can

/-- One round of the loop takes a message that can be sent, and leaves the others so. -/
theorem submitLoop_inv (attempts : Int) (rounds : Nat) (s : SmsNet) (firstSub : Option Nat)
    (attempted : Int) (inv : QueueInv skip open' s) (can : CanSubmit s) :
    QueueInv skip open' (submitLoop env attempts rounds s firstSub attempted) := by
  induction rounds generalizing s firstSub attempted with
  | zero => exact inv
  | succ rounds ih =>
      have invNext (lastMsisdn : Msisdn) :
          QueueInv skip open' { s with lastMsisdn := lastMsisdn } :=
        inv.congr rfl
      have canNext (lastMsisdn : Msisdn) : CanSubmit { s with lastMsisdn := lastMsisdn } :=
        can.grown (grown_of_eq rfl rfl rfl rfl)
      unfold submitLoop
      dsimp only
      split
      · exact invNext _
      · rename_i sms taken
        obtain ⟨row, isRow, unsent, fromRow, attached⟩ := takeNextSms_fromRow _ _ _ taken
        split
        · exact inv.congr rfl
        · rename_i vsub found
          have receiver : sms.receiver = some vsub.ptr := by simpa using find?_some found
          split
          · exact invNext _
          · have canSend := canNext (smsqTakeNextSms s.subscribers s.db s.lastMsisdn).2 row isRow
              unsent (fromRow ▸ attached) vsub.ptr (fromRow ▸ receiver)
            simp only [fromRow] at canSend
            obtain ⟨inv', grown⟩ := submitSms_inv memory (invNext _) canSend
            split
            · exact ih _ _ _ inv' ((canNext _).grown grown)
            · exact inv'

theorem QueueInv.smsSubmitPending (inv : QueueInv skip open' s) (can : CanSubmit s) :
    QueueInv skip open' (smsSubmitPending env s) :=
  submitLoop_inv memory _ _ s _ _ inv can

end

/-! ### Sending again -/

/-- The entries that wait to be sent again, among those with a pointer in `todo`, find their SMS in the
table, addressed to their subscriber, who is attached and has no SMS transaction. -/
def CanResendOf (todo : List Nat) (s : SmsNet) : Prop :=
  ∀ p ∈ s.pendingSms, p.ptr ∈ todo → p.resend = true → ∀ row ∈ s.db, row.id = p.smsId →
    (smsFromResult s.subscribers row).id = p.smsId ∧
      (smsFromResult s.subscribers row).receiver = some p.vsub ∧ hasSmsTrans s p.vsub = false

/-- The entries that the resend timer still has to look at. -/
abbrev Waiting (todo : List Nat) (p : Pending) : Prop := p.ptr ∈ todo ∧ p.resend = true

theorem QueueInv.smsPendingFree (inv : QueueInv skip (fun p => open' p ∨ p.ptr = ptr) s) :
    QueueInv skip open' (smsPendingFree s ptr) := by
  refine ⟨inv.keys.ofEntries (filter_sublist.map _) rfl, inv.old, fun p member => ?_⟩
  obtain ⟨isOld, other⟩ := mem_remove.mp member
  rcases inv.served p isOld with (isOpen | same) | served
  · exact .inl isOpen
  · exact absurd same other
  · exact .inr served

theorem QueueInv.clearResend (inv : QueueInv none (Waiting (p.ptr :: todo)) s)
    (isEntry : p ∈ s.pendingSms) :
    QueueInv none (fun q => Waiting todo q ∨ q.smsId = p.smsId) (clearResend s p.ptr) := by
  refine ⟨?_, inv.old, fun q member => ?_⟩
  · exact inv.keys.adjustPending rfl fun _ => rfl
  · rcases mem_adjust.mp member with ⟨old, isOld, same, rfl⟩ | ⟨isOld, other⟩
    · obtain rfl := inv.keys.eq_of_ptr isOld isEntry same
      exact .inl (.inr rfl)
    · rcases inv.served q isOld with waiting | served
      · exact .inl (.inl ⟨(mem_cons.mp waiting.1).resolve_left other, waiting.2⟩)
      · exact .inr served

/-- The entries with a pointer in `todo` stay as they are, and their subscribers get no transaction. -/
theorem CanResendOf.keeps (can : CanResendOf todo s)
    (entries : ∀ p ∈ s'.pendingSms, p.ptr ∈ todo → p ∈ s.pendingSms) (rows : RowsFrom s.db s'.db)
    (subscribers : s'.subscribers = s.subscribers)
    (trans : ∀ p ∈ s.pendingSms, p.ptr ∈ todo → hasSmsTrans s p.vsub = false →
      hasSmsTrans s' p.vsub = false) : CanResendOf todo s' := by
  intro p member isTodo resend row' isRow' smsId
  obtain ⟨row, isRow, id, destAddr, -⟩ := rows row' isRow'
  have isOld := entries p member isTodo
  obtain ⟨attached, receiver, free⟩ := can p isOld isTodo resend row isRow (id.trans smsId)
  rw [subscribers, ← smsFromResult_congr id destAddr]
  exact ⟨attached, receiver, trans p isOld isTodo free⟩

/-- Only the entry itself has changed. -/
theorem Keys.mem_clearResend (keys : Keys s) {q : Pending} (isEntry : p ∈ s.pendingSms)
    (member : q ∈ (clearResend s p.ptr).pendingSms) :
    q.ptr = p.ptr ∧ q.vsub = p.vsub ∨ q ∈ s.pendingSms ∧ q.ptr ≠ p.ptr := by
  rcases mem_adjust.mp member with ⟨q', isOld, same, rfl⟩ | other
  · have sameVsub : q'.vsub = p.vsub :=
      congrArg Pending.vsub (keys.eq_of_ptr isOld isEntry same)
    exact .inl ⟨same, sameVsub⟩
  · exact .inr other

/-- Sending one SMS again takes no other waiting entry its way: entries are for different
subscribers. -/
theorem CanResendOf.resendSms (can : CanResendOf todo s) (keys : Keys s) (notTodo : p.ptr ∉ todo)
    (isEntry : p ∈ s.pendingSms) (id : sms.id = p.smsId) (receiver : sms.receiver = some p.vsub) :
    CanResendOf todo (queueGsm411SendSms env (clearResend s p.ptr) sms.receiver sms) := by
  have oldTodo : ∀ q ∈ (clearResend s p.ptr).pendingSms, q.ptr ∈ todo → q ∈ s.pendingSms := by
    intro q member isTodo
    rcases keys.mem_clearResend isEntry member with ⟨same, -⟩ | ⟨isOld, -⟩
    · exact absurd (same ▸ isTodo) notTodo
    · exact isOld
  have cleared : Keys (clearResend s p.ptr) := keys.adjustPending rfl fun _ => rfl
  have attempted := (queueGsm411SendSms_result cleared env sms.receiver sms).attempted
  refine can.keeps (fun q member isTodo => ?_) attempted.rows attempted.subscribers
    fun q isOld isTodo noTrans => Bool.eq_false_iff.mpr fun hasTrans => ?_
  · rcases attempted.entries q member with isOld | ⟨q', isOld, isSms, same⟩
    · exact oldTodo q isOld isTodo
    · have ptr : q'.ptr = q.ptr := congrArg (·.2.2) same
      have isTodo' : q'.ptr ∈ todo := ptr ▸ isTodo
      have isP := keys.eq_of_smsId (oldTodo q' isOld isTodo') isEntry (isSms.trans id)
      exact absurd (isP ▸ isTodo') notTodo
  · obtain ⟨t, live, isFor⟩ := hasSmsTrans_iff.mp hasTrans
    rcases attempted.trans t live with wasLive | ⟨forP, -⟩
    · exact Bool.eq_false_iff.mp noTrans (hasSmsTrans_iff.mpr ⟨t, wasLive, isFor⟩)
    · have same : p.vsub = q.vsub := (Option.some.inj (forP.trans receiver)).symm.trans isFor
      exact notTodo (keys.eq_of_vsub isEntry isOld same ▸ isTodo)

section

include memory

/-- An entry whose SMS is sent again is served. -/
theorem QueueInv.resendSms (inv : QueueInv none (Waiting (p.ptr :: todo)) s)
    (isEntry : p ∈ s.pendingSms) (id : sms.id = p.smsId) (receiver : sms.receiver = some p.vsub)
    (free : hasSmsTrans s p.vsub = false) :
    QueueInv none (Waiting todo)
      (queueGsm411SendSms env (Sms.clearResend s p.ptr) sms.receiver sms) := by
  have cleared : QueueInv none (fun q => Waiting todo q ∨ q.smsId = sms.id)
      (Sms.clearResend s p.ptr) := by
    rw [id]
    exact inv.clearResend isEntry
  refine cleared.send (queueGsm411SendSms_result cleared.keys env sms.receiver sms) receiver free
    (memory _) ?_
  intro q member same
  rcases inv.keys.mem_clearResend isEntry member with ⟨-, vsub⟩ | ⟨isOld, other⟩
  · exact vsub
  · refine absurd (congrArg Pending.ptr (inv.keys.eq_of_smsId isOld isEntry ?_)) other
    exact same.trans id

/-- One round of `sms_resend_pending()`. -/
theorem resendEntry_inv (notTodo : ptr ∉ todo) (inv : QueueInv none (Waiting (ptr :: todo)) s)
    (can : CanResendOf (ptr :: todo) s) :
    QueueInv none (Waiting todo) (resendEntry env s ptr) ∧
      CanResendOf todo (resendEntry env s ptr) := by
  have canRest : CanResendOf todo s :=
    fun p member isTodo => can p member (mem_cons_of_mem ptr isTodo)
  have invRest (settled : ∀ p ∈ s.pendingSms, p.ptr = ptr → p.resend = false) :
      QueueInv none (Waiting todo) s := by
    refine inv.mono fun p member waiting => .inl ⟨?_, waiting.2⟩
    refine (mem_cons.mp waiting.1).resolve_left fun same => ?_
    exact Bool.false_ne_true ((settled p member same).symm.trans waiting.2)
  unfold resendEntry
  split
  · rename_i absent
    refine ⟨invRest fun p member same => ?_, canRest⟩
    have := find?_eq_none.mp absent p member
    simp [same] at this
  · rename_i p found
    obtain ⟨isEntry, rfl⟩ := mem_of_find found
    split
    · rename_i quiet
      refine ⟨invRest fun q member same => ?_, canRest⟩
      obtain rfl := inv.keys.eq_of_ptr member isEntry same
      simpa using quiet
    · rename_i resend
      have resend : p.resend = true := by simpa using resend
      split
      · -- The SMS is gone, and the entry with it.
        have freed : QueueInv none (Waiting todo) (smsPendingFree s p.ptr) := by
          refine (inv.mono fun q _ waiting => .inl ?_).smsPendingFree
          rcases mem_cons.mp waiting.1 with same | isTodo
          · exact .inr same
          · exact .inl ⟨isTodo, waiting.2⟩
        refine ⟨(freed.congr rfl), ?_⟩
        refine canRest.keeps ?_ rowsFrom_refl rfl (fun _ _ _ free => free)
        exact fun q member _ => (mem_remove.mp member).1
      · rename_i sms isSms
        obtain ⟨row, isRow, rfl⟩ := Option.map_eq_some_iff.mp isSms
        obtain ⟨isRow, rowId⟩ := mem_of_find isRow
        obtain ⟨attached, receiver, free⟩ := can p isEntry mem_cons_self resend row isRow rowId
        exact ⟨inv.resendSms memory isEntry attached receiver free,
          canRest.resendSms inv.keys notTodo isEntry attached receiver⟩

/-- Every entry that waits is looked at once. -/
theorem resendLoop_inv (todo : List Nat) (distinct : todo.Nodup) (s : SmsNet)
    (inv : QueueInv none (Waiting todo) s) (can : CanResendOf todo s) :
    QueueInv none (Waiting []) (todo.foldl (resendEntry env) s) := by
  induction todo generalizing s with
  | nil => exact inv
  | cons ptr todo ih =>
      obtain ⟨notTodo, distinct⟩ := nodup_cons.mp distinct
      obtain ⟨inv', can'⟩ := resendEntry_inv memory notTodo inv can
      exact ih distinct _ inv' can'

end

/-! ### Transactions that end -/

section

variable (inv : QueueInv none open' s) (live : t ∈ s.transList)
include inv live

/-- Without the transaction only the entry of its SMS is affected. -/
theorem QueueInv.skipAny :
    QueueInv (some t.ptr) (fun p => open' p ∨ t.sms.map GsmSms.id = some p.smsId) s := by
  refine inv.change inv.keys ?_ rfl rfl (fun _ => .inl) fun p u isLive _ carries => ?_
  · rintro ptr ⟨⟩
    exact inv.keys.transFresh t live
  · by_cases same : u.ptr = t.ptr
    · obtain rfl := inv.keys.eq_of_transPtr isLive live same
      exact .inl (.inr carries.2)
    · exact .inr ⟨u, isLive, by simpa using same, carries⟩

theorem QueueInv.skipTrans (isSms : t.sms = some sms) :
    QueueInv (some t.ptr) (fun p => open' p ∨ p.smsId = sms.id) s :=
  (inv.skipAny live).mono fun p _ isOpen =>
    .inl (isOpen.imp_right fun same => by simpa [isSms] using same.symm)

theorem QueueInv.skipEmpty (noSms : t.sms = none) : QueueInv (some t.ptr) open' s :=
  (inv.skipAny live).mono fun p _ isOpen => .inl (isOpen.resolve_right (by simp [noSms]))

/-- Once the queue has heard of the failure, the transaction has nothing to report any more. -/
theorem QueueInv.smsSmsCbUnknownError (isSms : t.sms = some sms) :
    QueueInv (some t.ptr) open' (smsSmsCbUnknownError s sms) :=
  (inv.skipTrans live isSms).failed (failed_smsSmsCbUnknownError inv.keys sms)

end

/-- Once nothing depends on the transaction it can go. -/
theorem QueueInv.removeTrans (inv : QueueInv (some ptr) open' s) :
    QueueInv none open' { s with transList := remove SmsTrans.ptr ptr s.transList } := by
  refine inv.change (inv.keys.removeTrans ptr) (by simp) rfl rfl (fun _ => id)
    fun p u isLive other carries => .inr ⟨u, mem_remove.mpr ⟨isLive, ?_⟩, by simp, carries⟩
  exact fun same => other (congrArg some same)

/-- Nothing depends on what happens to the transaction. -/
theorem QueueInv.updateTrans (inv : QueueInv (some ptr) open' s) (samePtr : ∀ u, (f u).ptr = u.ptr) :
    QueueInv (some ptr) open' (updateTrans s ptr f) := by
  refine inv.change (inv.keys.adjustTrans samePtr) inv.old rfl rfl (fun _ => id)
    fun p u isLive other carries => .inr ⟨u, mem_adjust.mpr (.inr ⟨isLive, ?_⟩), other, carries⟩
  exact fun same => other (congrArg some same)

/-- A change that leaves the subscriber and the SMS of a transaction alone. -/
theorem QueueInv.updateConn (inv : QueueInv none open' s) (samePtr : ∀ u, (f u).ptr = u.ptr)
    (sameVsub : ∀ u, (f u).vsub = u.vsub) (sameSms : ∀ u, (f u).sms = u.sms) :
    QueueInv none open' (Sms.updateTrans s ptr f) := by
  refine inv.change (inv.keys.adjustTrans samePtr) (by simp) rfl rfl (fun _ => id)
    fun p u isLive _ carries => .inr ?_
  by_cases same : u.ptr = ptr
  · refine ⟨f u, mem_adjust.mpr (.inl ⟨u, isLive, same, rfl⟩), by simp, ?_⟩
    rwa [Carries, sameVsub, sameSms]
  · exact ⟨u, mem_adjust.mpr (.inr ⟨isLive, same⟩), by simp, carries⟩

/-- The transaction carries an SMS that is in the queue. -/
def carriesPending (s : SmsNet) (t : SmsTrans) : Bool :=
  t.sms.any fun sms => smsQueueSmsIsPending s sms.id

/-- What ending a transaction leaves: connections, fewer transactions, no new entries. -/
structure Shrunk (s s' : SmsNet) : Prop where
  conns : s'.conns = s.conns
  transList : ∀ t ∈ s'.transList, t ∈ s.transList
  ids : ∀ p' ∈ s'.pendingSms, ∃ p ∈ s.pendingSms, p.smsId = p'.smsId

theorem shrunk_transFree (keys : Keys s) (t : SmsTrans) : Shrunk s (transFree s t) := by
  have removed : Shrunk s { s with transList := remove SmsTrans.ptr t.ptr s.transList } :=
    ⟨rfl, fun _ live => (mem_remove.mp live).1, fun p member => ⟨p, member, rfl⟩⟩
  unfold transFree
  dsimp only
  split
  · exact removed
  · rename_i sms _
    split
    · exact removed
    · have failed := failed_smsSmsCbUnknownError (keys.removeTrans t.ptr) sms
      refine ⟨failed.conns, fun u live => removed.transList u (failed.transList ▸ live), fun p' member => ?_⟩
      rcases failed.entries p' member with ⟨isOld, -⟩ | ⟨⟨p, isOld, -, same⟩, -⟩
      · exact ⟨p', isOld, rfl⟩
      · exact ⟨p, isOld, congrArg (·.1) same⟩

theorem Shrunk.carriesPending (shrunk : Shrunk s s') (notPending : carriesPending s t = false) :
    carriesPending s' t = false := by
  unfold Sms.carriesPending at *
  cases isSms : t.sms with
  | none => rfl
  | some sms =>
      rw [isSms, Option.any_some] at notPending
      rw [Option.any_some]
      refine Bool.eq_false_iff.mpr fun isPending => Bool.eq_false_iff.mp notPending ?_
      obtain ⟨p', member, same⟩ := smsQueueSmsIsPending_iff.mp isPending
      obtain ⟨p, isEntry, same'⟩ := shrunk.ids p' member
      exact smsQueueSmsIsPending_iff.mpr ⟨p, isEntry, same'.trans same⟩

theorem Shrunk.mscAInRelease (shrunk : Shrunk s s') : mscAInRelease s' = mscAInRelease s := by
  funext mscA
  simp only [Sms.mscAInRelease, shrunk.conns]

section

variable (settled : Settled s)
include settled

section

variable (live : t ∈ s.transList)
include live

theorem transFree_settled
    (notDiscarded : t.mscA.any (mscAInRelease s) = true → carriesPending s t = false) :
    Settled (transFree s t) := by
  unfold transFree
  dsimp only
  split
  · rename_i noSms
    exact (settled.skipEmpty live noSms).removeTrans
  · rename_i sms isSms
    have skipped := settled.skipTrans live isSms
    split
    · rename_i inRelease
      -- The SMS is discarded without a word, so it must not be one of the queue.
      have notPending := notDiscarded inRelease
      rw [carriesPending, isSms, Option.any_some] at notPending
      refine (skipped.mono fun p member isOpen => ?_).removeTrans
      rcases isOpen with isOpen | same
      · exact .inl isOpen
      · have := smsQueueSmsIsPending_iff.mpr ⟨p, member, same⟩
        simp [notPending] at this
    · exact skipped.removeTrans.failed
        (failed_smsSmsCbUnknownError (settled.keys.removeTrans t.ptr) sms)

theorem mmsmsPagingCb_settled (mscA : Option Nat) : Settled (mmsmsPagingCb s mscA t) := by
  unfold mmsmsPagingCb
  split
  · exact settled
  · cases mscA with
    | some mscA =>
        refine settled.updateConn ?_ ?_ ?_ <;> exact fun _ => rfl
    | none =>
        -- The SMS leaves the transaction before the queue is told.
        cases isSms : t.sms with
        | none =>
            refine ((settled.skipEmpty live isSms).updateTrans ?_).removeTrans
            exact fun _ => rfl
        | some sms =>
            have updated := (settled.skipTrans live isSms).updateTrans
              (f := fun u => { u with sms := none, paging := false }) (fun _ => rfl)
            exact (updated.failed (failed_smsSmsCbUnknownError updated.keys sms)).removeTrans

theorem sapiNReject_settled : Settled (sapiNReject s t) := by
  unfold sapiNReject
  split
  · exact settled
  · rename_i sms isSms
    exact (settled.smsSmsCbUnknownError live isSms).removeTrans

end

/-- Several transactions end, none of them with an SMS of the queue on a connection in release. -/
theorem transFreeAll_settled (ptrs : List Nat)
    (notDiscarded : ∀ t ∈ s.transList, t.ptr ∈ ptrs → t.mscA.any (mscAInRelease s) = true →
      carriesPending s t = false) : Settled (transFreeAll s ptrs) := by
  induction ptrs generalizing s with
  | nil => exact settled
  | cons ptr ptrs ih =>
      rw [transFreeAll, foldl_cons, ← transFreeAll]
      cases found : transFind s ptr with
      | none =>
          exact ih settled fun t live isOne => notDiscarded t live (mem_cons_of_mem ptr isOne)
      | some t =>
          obtain ⟨live, isT⟩ := mem_of_find found
          have shrunk := shrunk_transFree settled.keys t
          refine ih (transFree_settled settled live (notDiscarded t live (by simp [isT]))) ?_
          intro u isLive isOne inRelease
          simp only [Option.map_some, Option.getD_some] at isLive inRelease ⊢
          rw [shrunk.mscAInRelease] at inRelease
          exact shrunk.carriesPending (notDiscarded u (shrunk.transList u isLive)
            (mem_cons_of_mem ptr isOne) inRelease)

/-- No transaction among the chosen ones carries an SMS of the queue on a connection in release. -/
def NoneDiscarded (s : SmsNet) (chosen : SmsTrans → Prop) : Prop :=
  ∀ t ∈ s.transList, chosen t → t.mscA.any (mscAInRelease s) = true → carriesPending s t = false

theorem transFreeAll_chosen_settled (chosen : SmsTrans → Prop) [DecidablePred chosen]
    (notDiscarded : NoneDiscarded s chosen) :
    Settled (transFreeAll s ((s.transList.filter fun t => chosen t).map SmsTrans.ptr)) := by
  refine transFreeAll_settled settled _ fun t live isOne inRelease => ?_
  obtain ⟨u, member, same⟩ := mem_map.mp isOne
  obtain ⟨isLive, isChosen⟩ := mem_filter.mp member
  obtain rfl := settled.keys.eq_of_transPtr isLive live same
  exact notDiscarded u live (by simpa using isChosen) inRelease

/-- A handler of a transaction is run for a live one, the one with the given callref. -/
theorem onTrans_settled {handler : SmsTrans → SmsNet}
    (handled : ∀ t ∈ s.transList, t.ptr = ptr → Settled (handler t)) :
    Settled (onTrans s ptr handler) := by
  unfold onTrans
  split
  · exact settled
  · rename_i t found
    exact handled t (mem_of_find found).1 (mem_of_find found).2

theorem gsm411SapiNReject_settled (mscA : Nat) : Settled (gsm411SapiNReject s mscA) := by
  refine foldl_invariant_always (fun s ptr settled => ?_) _ s settled
  cases found : transFind s ptr with
  | none => exact settled
  | some t => exact sapiNReject_settled settled (mem_of_find?_eq_some found)

end

/-! ### Reports of the phone -/

/-- The subscriber of the entry has no other unsent message in the table. -/
def NoMore (s : SmsNet) (p : Pending) : Prop :=
  ∀ row ∈ s.db, row.sent = false → row.id ≠ p.smsId →
    (smsFromResult s.subscribers row).receiver ≠ some p.vsub ∧
      ∀ vsub ∈ s.subscribers, vsub.ptr = p.vsub → row.destAddr ≠ vsub.msisdn

theorem smsFromResult_id (attached : (smsFromResult subscribers row).id ≠ 0) :
    (smsFromResult subscribers row).id = row.id := by
  unfold smsFromResult at *
  dsimp only at *
  split at attached
  · exact absurd rfl attached
  · split at attached
    · exact absurd rfl attached
    · rename_i notDetached
      rw [if_neg notDetached]

/-- The row of a delivered message is gone or is no longer unsent. -/
theorem smsDelivered_unsent (member : row ∈ (smsDelivered s p).db) (unsent : row.sent = false) :
    row ∈ s.db ∧ row.id ≠ p.smsId := by
  have isRow : row ∈ if s.cfg.deleteDelivered then dbSmsDeleteMessageById s.db p.smsId
      else dbSmsMarkDelivered s.db p.smsId := member
  split at isRow
  · simpa [dbSmsDeleteMessageById] using isRow
  · obtain ⟨old, isOld, rfl⟩ := mem_map.mp isRow
    by_cases same : old.id = p.smsId
    · simp [same] at unsent
    · rw [if_neg same]
      exact ⟨isOld, same⟩

theorem CanSubmit.smsDelivered (can : CanSubmit s) (keys : Keys s) (isEntry : p ∈ s.pendingSms)
    (noMore : NoMore s p) : CanSubmit (smsDelivered s p) := by
  intro row member unsent attached r isReceiver
  obtain ⟨isRow, otherSms⟩ := smsDelivered_unsent member unsent
  have otherSub : r ≠ p.vsub := by
    rintro rfl
    exact (noMore row isRow unsent otherSms).1 isReceiver
  have stays : ∀ q ∈ s.pendingSms, q ≠ p → q ∈ (Sms.smsDelivered s p).pendingSms :=
    fun q isQ other => mem_remove.mpr ⟨isQ, fun same => other (keys.eq_of_ptr isQ isEntry same)⟩
  rcases can row isRow unsent attached r isReceiver with isPending | isPending | free
  · obtain ⟨q, isQ, same⟩ := smsQueueSmsIsPending_iff.mp isPending
    refine .inl (smsQueueSmsIsPending_iff.mpr ⟨q, stays q isQ ?_, same⟩)
    rintro rfl
    exact otherSms (same.trans (smsFromResult_id attached)).symm
  · obtain ⟨q, isQ, same⟩ := smsSubscriberIsPending_iff.mp isPending
    refine .inr (.inl (smsSubscriberIsPending_iff.mpr ⟨q, stays q isQ ?_, same⟩))
    rintro rfl
    exact otherSub same.symm
  · exact .inr (.inr free)

theorem NoMore.unsentForSubscr (noMore : NoMore s p) :
    unsentForSubscr (smsDelivered s p) p.vsub = none := by
  unfold Sms.unsentForSubscr
  refine Option.bind_eq_none_iff.mpr fun vsub found => ?_
  obtain ⟨isVsub, ptr⟩ : vsub ∈ s.subscribers ∧ vsub.ptr = p.vsub := mem_of_find found
  unfold dbSmsGetUnsentForSubscr
  split
  · rfl
  · refine Option.map_eq_none_iff.mpr (argmin_eq_none.mpr ?_)
    refine filter_eq_nil_iff.mpr fun row member selected => ?_
    simp only [Bool.and_eq_true, Bool.not_eq_true', decide_eq_true_eq] at selected
    obtain ⟨isRow, otherSms⟩ := smsDelivered_unsent member selected.1.1
    exact (noMore row isRow selected.1.1 otherSms).2 vsub isVsub ptr selected.1.2

section

include memory

/-- With no other message for the subscriber, the queue goes on with other subscribers. -/
theorem QueueInv.smsSendNext (inv : QueueInv skip open' (smsDelivered s p))
    (can : CanSubmit (smsDelivered s p)) (noMore : NoMore s p) : QueueInv skip open' (smsSendNext env (smsDelivered s p) p.vsub) := by
  unfold Sms.smsSendNext
  split
  · exact inv.congr rfl
  · rw [noMore.unsentForSubscr]
    exact inv.smsSubmitPending memory can

/-- What the queue does about a report on one of its messages deals with the entry. -/
theorem smsSmsCb_inv (signal : SmsSignal)
    (inv : QueueInv skip (fun p => open' p ∨ p.smsId = sms.id) s)
    (can : signal = .delivered → ∀ p ∈ s.pendingSms, p.smsId = sms.id → NoMore s p ∧ CanSubmit s) :
    QueueInv skip open' (smsSmsCb env s signal sms) := by
  have keys := inv.keys
  unfold smsSmsCb
  split
  · rename_i absent
    refine inv.mono fun p member isOpen => .inl (isOpen.resolve_right fun same => ?_)
    simpa [same] using find?_eq_none.mp absent p member
  · rename_i p found
    obtain ⟨isEntry, isSms⟩ := mem_of_find found
    have ready : QueueInv skip (fun q => open' q ∨ q.ptr = p.ptr) s := by
      refine inv.mono fun q member isOpen => .inl (isOpen.imp_right fun same => ?_)
      exact congrArg Pending.ptr (keys.eq_of_smsId member isEntry (same.trans isSms.symm))
    cases signal with
    | delivered =>
        obtain ⟨noMore, canSubmit⟩ := can rfl p isEntry isSms
        have delivered : QueueInv skip open' (smsDelivered s p) := by
          refine QueueInv.smsPendingFree ?_
          exact ready.congr rfl
        have sent := delivered.smsSendNext memory (canSubmit.smsDelivered keys isEntry noMore) noMore
        dsimp only
        split
        · exact sent
        · exact sent.deleteExpired
    | memExceeded =>
        refine QueueInv.deleteExpired (s := smsQueueTrigger (smsPendingFree s p.ptr)) ?_
        exact ready.smsPendingFree.congr rfl
    | unknownError => exact inv.failed (failed_smsSmsCbUnknownError keys sms)

theorem rpReport_settled (signal : SmsSignal) (settled : Settled s) (live : t ∈ s.transList)
    (can : signal = .delivered → ∀ sms ∈ t.sms, ∀ p ∈ s.pendingSms, p.smsId = sms.id →
      NoMore s p ∧ CanSubmit s) : Settled (rpReport env s signal t) := by
  unfold rpReport
  split
  · exact settled
  · split
    · exact settled
    · rename_i sms isSms
      have told := smsSmsCb_inv memory signal (settled.skipTrans live isSms)
        (fun isDelivered => can isDelivered sms isSms)
      dsimp only
      split
      · exact told.unskip
      · refine (told.updateTrans ?_).unskip
        exact fun _ => rfl

end

/-! ### Whole runs -/

/-- What a step must not meet.  An attempt of the queue must not be for a subscriber that already has
an SMS transaction; in particular the phone acknowledges a message of the queue only when there is no
other for it, since its transaction is still there then.  A message that is sent again must be for an
attached subscriber, the one of the entry.  And no transaction ends with a message of the queue on a
connection in release. -/
def Deliverable (s : SmsNet) : SmsInput → Prop
  | .pushQueueTimeout => CanSubmit s
  | .resendTimeout => CanResendOf (s.pendingSms.map Pending.ptr) s
  | .attached vsub => ∀ sms ∈ unsentForSubscr s vsub, smsSubscriberIsPending s vsub = true ∨
      sms.receiver = some vsub ∧ smsQueueSmsIsPending s sms.id = false ∧ hasSmsTrans s vsub = false
  | .rpAck ptr => ∀ t ∈ s.transList, t.ptr = ptr → ∀ sms ∈ t.sms, ∀ p ∈ s.pendingSms,
      p.smsId = sms.id → NoMore s p ∧ CanSubmit s
  | .relReq ptr => NoneDiscarded s fun t => t.ptr = ptr
  | .connReleasing mscA => ∀ t ∈ s.transList, t.mscA = some mscA → carriesPending s t = false
  | .connGone mscA => NoneDiscarded s fun t => t.mscA = some mscA
  | .freeForVsub vsub => NoneDiscarded s fun t => t.vsub = vsub
  | _ => True

instance (s : SmsNet) : Decidable (CanSubmit s) :=
  List.decidableBAll _ s.db

instance (todo : List Nat) (s : SmsNet) : Decidable (CanResendOf todo s) :=
  List.decidableBAll _ s.pendingSms

instance (s : SmsNet) (p : Pending) : Decidable (NoMore s p) :=
  List.decidableBAll _ s.db

instance (s : SmsNet) (chosen : SmsTrans → Prop) [DecidablePred chosen] :
    Decidable (NoneDiscarded s chosen) :=
  List.decidableBAll _ s.transList

instance (s : SmsNet) (input : SmsInput) : Decidable (Deliverable s input) := by
  unfold Deliverable
  split <;> infer_instance

section Runs

include memory

theorem subReadyForSm_settled (settled : Settled s) {vsub : Nat}
    (deliverable : Deliverable s (.attached vsub)) : Settled (subReadyForSm env s vsub) := by
  unfold subReadyForSm
  split
  · exact settled
  · rename_i notPending
    split
    · exact settled
    · rename_i sms isSms
      split
      · exact settled.congr rfl
      · rename_i receiver isReceiver
        split
        · exact settled
        · obtain ⟨forVsub, newSms, free⟩ := (deliverable sms isSms).resolve_left notPending
          obtain rfl : receiver = vsub := Option.some.inj (isReceiver.symm.trans forVsub)
          exact (settled.enqueue memory newSms (by simpa using notPending) free).1

theorem smsResendPending_settled (settled : Settled s) (deliverable : Deliverable s .resendTimeout) :
    Settled (smsResendPending env { s with resendPending := false }) := by
  -- With the timer expired, the entries to be sent again are the open ones.
  have waiting : QueueInv none (Waiting (s.pendingSms.map Pending.ptr))
      { s with resendPending := false } := by
    refine ⟨(settled.keys.congr rfl), settled.old, fun p member => ?_⟩
    rcases settled.served p member with impossible | served | resent
    · exact absurd impossible not_false
    · exact .inr (.inl served)
    · exact .inl ⟨mem_map_of_mem member, resent.1⟩
  have resent := resendLoop_inv memory _ settled.keys.ptrs _ waiting deliverable
  exact resent.mono fun p _ isOpen => absurd isOpen.1 not_mem_nil

/-- One input leaves no entry alone. -/
theorem smsInput_settled (settled : Settled s) (input : SmsInput)
    (deliverable : Deliverable s input) : Settled (smsInput env s input) := by
  cases input with
  | pushQueueTimeout =>
      simp only [smsInput]
      split
      · refine QueueInv.smsSubmitPending memory (settled.congr rfl) ?_
        exact CanSubmit.grown deliverable (grown_of_eq rfl rfl rfl rfl)
      · exact settled
  | resendTimeout =>
      simp only [smsInput]
      split
      · exact smsResendPending_settled memory settled deliverable
      · exact settled
  | attached vsub => exact subReadyForSm_settled memory settled deliverable
  | trigger => exact settled.congr rfl
  | rpAck ptr =>
      refine onTrans_settled settled fun t live isT => ?_
      exact rpReport_settled memory _ settled live fun _ => deliverable t live isT
  | rpError memExceeded ptr =>
      refine onTrans_settled settled fun t live _ => ?_
      refine rpReport_settled memory _ settled live fun isDelivered => ?_
      cases memExceeded <;> cases isDelivered
  | pagingResult mscA ptr =>
      exact onTrans_settled settled fun t live _ => mmsmsPagingCb_settled settled live mscA
  | relReq ptr =>
      exact onTrans_settled settled fun t live isT =>
        transFree_settled settled live (deliverable t live isT)
  | sapiNReject mscA => exact gsm411SapiNReject_settled settled mscA
  | connChanged conn =>
      simp only [smsInput]
      split
      · exact settled
      · exact settled.congr rfl
  | connReleasing mscA =>
      have releasing : Settled { s with
          conns := adjust SmsConn.id mscA (fun c => { c with state := .inRelease }) s.conns } :=
        settled.congr rfl
      exact transFreeAll_chosen_settled releasing (·.mscA = some mscA)
        (fun t live onConn _ => deliverable t live onConn)
  | connGone mscA =>
      have closed : Settled (transConnClosed s mscA) :=
        transFreeAll_chosen_settled settled (·.mscA = some mscA) deliverable
      exact closed.congr rfl
  | freeForVsub vsub => exact transFreeAll_chosen_settled settled (·.vsub = vsub) deliverable
  | moTrans vsub mscA => exact settled.appendTrans rfl
  | sendSms e vsub sms => exact settled.sendAny (gsm411SendSms_result settled.keys e (some vsub) sms)
  | sendRpData e vsub =>
      simp only [smsInput, gsm411AllocMtTrans]
      split
      · exact settled
      · exact settled.appendTrans rfl
  | queueClear =>
      refine foldl_invariant_always (fun s ptr settled => ?_) _ s settled
      exact (settled.mono fun p _ isOpen => .inl (.inl isOpen)).smsPendingFree
  | subscrFreed vsub =>
      simp only [smsInput]
      split
      · exact settled
      · exact settled.congr rfl
  | subscrChanged _ | dbChanged _ | clock _ => exact settled.congr rfl

theorem smsStep_settled (s : SmsNet) (input : SmsInput) (settled : Settled s)
    (deliverable : Deliverable s input) : Settled (smsStep env s input) := by
  unfold smsStep
  split
  · exact settled
  · exact smsInput_settled memory settled input deliverable

/-- When the queue starts there are no transactions yet. -/
theorem smsQueueStart_settled (cfg : SmsCfg) (subscribers : List Subscr) (conns : List SmsConn)
    (db : List SmsRow) (now : Nat) : Settled (smsQueueStart env cfg subscribers conns db now) := by
  refine QueueInv.smsSubmitPending memory ⟨⟨?_, ?_, ?_, ?_, ?_, ?_⟩, ?_, ?_⟩ ?_
  iterate 8 simp
  exact fun _ _ _ _ _ _ => .inr (.inr rfl)

end Runs

/-- In every run that never sends to a subscriber with an SMS transaction, never sends again to one
that has left, and never releases a connection under an SMS of the queue, every entry of the queue has
something that completes or retries it. -/
theorem smsRun_served (env : Nat → SendEnv) (cfg : SmsCfg) (subscribers : List Subscr)
    (conns : List SmsConn) (db : List SmsRow) (now : Nat) (inputs : List SmsInput)
    (memory : ∀ n, (env n).transAlloc = true)
    (deliverable : StepsMeet (smsStep env) Deliverable
      (smsQueueStart env cfg subscribers conns db now) inputs) :
    Served (inputs.foldl (smsStep env) (smsQueueStart env cfg subscribers conns db now)) := by
  have settled := foldl_invariant (smsStep_settled memory) inputs _
    (smsQueueStart_settled memory cfg subscribers conns db now) deliverable
  exact settled.isServed

instance (t : SmsTrans) (p : Pending) : Decidable (Carries t p) :=
  inferInstanceAs (Decidable (_ ∧ _))

instance (s : SmsNet) : Decidable (Served s) :=
  List.decidableBAll _ s.pendingSms

/-- A message is sent, paging fails, the resend timer sends it again, and the phone acknowledges it. -/
theorem smsRun_served_secondAttempt :
    Served ([.pagingResult none 0, .resendTimeout, .connChanged ⟨7, 1, .accepted⟩,
        .pagingResult (some 7) 1, .rpAck 1, .relReq 1, .connReleasing 7, .connGone 7].foldl
      (smsStep fun _ => {}) (smsQueueStart (fun _ => {}) { maxFail := 2 }
        [⟨1, some 901, [4, 9], true⟩] [] [{ id := 1, destAddr := [4, 9], validUntil := 100 }] 0)) :=
  smsRun_served _ _ _ _ _ _ _ (fun _ => rfl) (by decide)

/-- Two ways for an entry to be left alone.  With two messages for one subscriber, the acknowledgement
of the first makes an entry for the second, but the transaction of the first is still listed: nothing
is sent and nothing is reported.  And a connection that is released takes its message with it without a
report. -/
theorem entry_is_left_alone :
    ¬ Served ([.connChanged ⟨7, 1, .accepted⟩, .pagingResult (some 7) 0, .rpAck 0, .relReq 0].foldl
        (smsStep fun _ => {}) (smsQueueStart (fun _ => {}) {} [⟨1, some 901, [4, 9], true⟩] []
          [{ id := 1, destAddr := [4, 9], validUntil := 100 },
            { id := 2, destAddr := [4, 9], validUntil := 100 }] 0)) ∧
      ¬ Served ([.connChanged ⟨7, 1, .accepted⟩, .pagingResult (some 7) 0, .connReleasing 7].foldl
        (smsStep fun _ => {}) (smsQueueStart (fun _ => {}) {} [⟨1, some 901, [4, 9], true⟩] []
          [{ id := 1, destAddr := [4, 9], validUntil := 100 }] 0)) := by
  decide

end OsmoMsc.Sms
