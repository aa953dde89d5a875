/-
Module: OsmoMsc.Vlr.SubscrStore
Purpose: The subscriber records of the VLR (vlr.c): the list `vlr->subscribers`, the three hash
  tables over IMSI, TMSI and new TMSI, and every function that writes one of the indexed fields:
  allocation and freeing, `vlr_subscr_set_imsi()` with the resolution of duplicates, the allocation
  of TMSIs, and the writes of the location updating and authentication machines.
Trusted boundary: the number of uses of a record other than `VSUB_USE_ATTACHED` is an input, and so is
  whether the resolution of duplicates drops the last use of one
Main exports: Vsub, Store, StoreCfg, vlrSubscrFindByImsi, vlrSubscrFindByTmsi, vlrSubscrRehashImsi,
  vlrSubscrRehashTmsi, vlrSubscrFree, vlrSubscrAllocTmsi, vlrSubscrFindOrCreateByImsi, dedupVsub,
  vlrSubscrSetImsi, vlrSubscrRxIdResp
-/
import OsmoMsc.Library.HashIndex
import OsmoMsc.Sgs.Persist

namespace OsmoMsc.Vlr

open Library Sgs

/-- The states of the SGs association (`vlr_sgs_fsm.h`). -/
inductive SgsUeState where
  | null
  | laUpdPres
  | associated
deriving DecidableEq, Repr

/-- `struct vlr_subscr`, the part that identifies a subscriber and that its SGs association needs.
`attached` is the count of the use `VSUB_USE_ATTACHED`, `uses` that of all uses but this one and the
one of the SGs location update that is being started, and `ts62` says that the timer Ts6-2 of the SGs
machine runs. -/
structure Vsub extends SgsVsub where
  tmsiNew : Nat := gsmReservedTmsi
  luComplete : Bool := false
  attached : Int := 0
  uses : Nat := 0
  sgsState : SgsUeState := .null
  ts62 : Bool := false
  confByRadioContactInd : Bool := false
deriving DecidableEq, Repr

/-- What the functions of this module read of the configuration.  The hash functions are those of the
tables, reduced to their size; `nriLimit` is `osmo_tmsi_nri_v_limit_by_ranges()`, and the identity
where no NRI ranges are configured. -/
structure StoreCfg where
  hashImsi : Digits → Nat
  hashTmsi : Nat → Nat
  nriLimit : Nat → Nat := id
  isPs : Bool := false
  x3212Secs : Nat := 0
  t3212Secs : Nat := 1800

/-- `struct vlr_instance`: the records by address, the list of those in use and the hash tables; and
what the SGs associations left in the database. -/
structure Store where
  subscr : Nat → Vsub := fun _ => {}
  subscribers : List Nat := []
  next : Nat := 0
  subscrByImsi : Chains Nat Nat := fun _ => []
  subscrByTmsi : Chains Nat Nat := fun _ => []
  subscrByTmsiNew : Chains Nat Nat := fun _ => []
  subscrLuComplete : Nat := 0
  db : PersistState

/-- Write some fields of a record. -/
def Store.write (s : Store) (p : Nat) (f : Vsub → Vsub) : Store :=
  { s with subscr := Function.update s.subscr p (f (s.subscr p)) }

/-! ### Lookups -/

/-- `vlr_subscr_matches_imsi()`. -/
def vlrSubscrMatchesImsi (vsub : Vsub) (imsi : Digits) : Bool := vsub.imsi ≠ [] ∧ vsub.imsi = imsi

/-- `vlr_subscr_matches_tmsi()`. -/
def vlrSubscrMatchesTmsi (vsub : Vsub) (tmsi : Nat) : Bool :=
  tmsi ≠ gsmReservedTmsi ∧ (vsub.tmsi = tmsi ∨ vsub.tmsiNew = tmsi)

/-- The key of a record in the IMSI table. -/
def imsiKey (imsi : Digits) : Option Digits := if imsi = [] then none else some imsi

/-- The key of a record in the TMSI tables. -/
def tmsiKey (tmsi : Nat) : Option Nat := if tmsi = gsmReservedTmsi then none else some tmsi

section Functions

variable (cfg : StoreCfg)

variable (s : Store) (p : Nat) (imsi : Digits)

/-- `vlr_subscr_rehash_imsi()`. -/
def vlrSubscrRehashImsi : Store :=
  { s with subscrByImsi := rehash cfg.hashImsi s.subscrByImsi p (imsiKey (s.subscr p).imsi) }

/-- `vlr_subscr_rehash_tmsi()`. -/
def vlrSubscrRehashTmsi : Store :=
  { s with
    subscrByTmsi := rehash cfg.hashTmsi s.subscrByTmsi p (tmsiKey (s.subscr p).tmsi)
    subscrByTmsiNew := rehash cfg.hashTmsi s.subscrByTmsiNew p (tmsiKey (s.subscr p).tmsiNew) }

/-- `_vlr_subscr_find_by_imsi()`. -/
def vlrSubscrFindByImsi : Option Nat :=
  if imsi = [] then none
  else (s.subscrByImsi (cfg.hashImsi imsi)).find? fun p => vlrSubscrMatchesImsi (s.subscr p) imsi

/-- `_vlr_subscr_find_by_tmsi()`. -/
def vlrSubscrFindByTmsi (tmsi : Nat) : Option Nat :=
  if tmsi = gsmReservedTmsi then none
  else
    match (s.subscrByTmsi (cfg.hashTmsi tmsi)).find? fun p => (s.subscr p).tmsi = tmsi with
    | some p => some p
    | none =>
        (s.subscrByTmsiNew (cfg.hashTmsi tmsi)).find? fun p => (s.subscr p).tmsiNew = tmsi

/-! ### Allocation and freeing -/

/-- `VLR_INCOMPLETE_LU_SECS`. -/
def vlrIncompleteLuSecs : Int := 600

/-- `_vlr_subscr_alloc()`: a record without identities at the end of the list. -/
def vlrSubscrAlloc (clocks : Clocks) (s : Store) : Store × Nat :=
  ({ s with
      subscr := Function.update s.subscr s.next
        { expireLu := clocks.monotonic.map (· + vlrIncompleteLuSecs) }
      subscribers := s.subscribers ++ [s.next]
      next := s.next + 1 },
    s.next)

/-- `vlr_subscr_set_lu_complete()`. -/
def vlrSubscrSetLuComplete (complete : Bool) : Store :=
  if (s.subscr p).luComplete = complete then s
  else
    { s.write p fun vsub => { vsub with luComplete := complete } with
      subscrLuComplete :=
        if complete then s.subscrLuComplete + 1 else s.subscrLuComplete - 1 }

/-- `vlr_subscr_free()`. -/
def vlrSubscrFree : Store :=
  vlrSubscrSetLuComplete
    { s with
      subscribers := s.subscribers.filter (· ≠ p)
      subscrByImsi := hashDel s.subscrByImsi p
      subscrByTmsi := hashDel s.subscrByTmsi p
      subscrByTmsiNew := hashDel s.subscrByTmsiNew p }
    p false

/-- A use `VSUB_USE_ATTACHED` is taken. -/
def Store.getAttached : Store :=
  s.write p fun vsub => { vsub with attached := vsub.attached + 1 }

/-- A location update has completed: the flag is set, and the record is held until it is reset. -/
def Store.markAttached : Store :=
  if (s.subscr p).luComplete then s else (vlrSubscrSetLuComplete s p true).getAttached p

/-- `vlr_subscr_expire()` without the association it forgets. -/
def Store.markDetached : Store :=
  if (s.subscr p).luComplete then
    (vlrSubscrSetLuComplete s p false).write p fun vsub => { vsub with attached := vsub.attached - 1 }
  else s

/-- All that `vlr_subscr_set_lu_complete()` writes. -/
theorem setLuComplete_eq (complete : Bool) :
    ∃ count, vlrSubscrSetLuComplete s p complete =
      { s.write p fun vsub => { vsub with luComplete := complete } with
        subscrLuComplete := count } := by
  unfold vlrSubscrSetLuComplete
  split
  · rename_i same
    refine ⟨s.subscrLuComplete, ?_⟩
    simp only [Store.write, ← same, Function.update_eq_self]
  · exact ⟨_, rfl⟩

/-- All that the end of a location update writes. -/
theorem markAttached_eq :
    ∃ attached count, s.markAttached p =
      { s.write p fun vsub => { vsub with luComplete := true, attached := attached } with
        subscrLuComplete := count } := by
  unfold Store.markAttached
  split
  · rename_i complete
    refine ⟨(s.subscr p).attached, s.subscrLuComplete, ?_⟩
    simp only [Store.write, ← complete, Function.update_eq_self]
  · obtain ⟨count, eq⟩ := setLuComplete_eq s p true
    refine ⟨(s.subscr p).attached + 1, count, ?_⟩
    rw [eq]
    simp [Store.getAttached, Store.write]

/-- All that the end of an attachment writes. -/
theorem markDetached_eq :
    ∃ attached count, s.markDetached p =
      { s.write p fun vsub => { vsub with luComplete := false, attached := attached } with
        subscrLuComplete := count } := by
  unfold Store.markDetached
  split
  · obtain ⟨count, eq⟩ := setLuComplete_eq s p false
    refine ⟨(s.subscr p).attached - 1, count, ?_⟩
    rw [eq]
    simp [Store.write]
  · rename_i incomplete
    refine ⟨(s.subscr p).attached, s.subscrLuComplete, ?_⟩
    simp only [Store.write, ← Bool.eq_false_iff.mpr incomplete, Function.update_eq_self]

/-! ### IMSI -/

/-- What becomes of the other record with an IMSI: whether stopping its silent call drops its last
use, and whether the use that `dedup_vsub()` drops is the last. -/
structure DedupEnv where
  silentCallFrees : Bool := false
  dedupFrees : Bool := false
deriving DecidableEq, Repr

/-- `dedup_vsub()`: the record `old` gives up its identities to `p`. -/
def dedupVsub (env : DedupEnv) (s : Store) (old p : Nat) : Store :=
  let s := s.write p fun vsub =>
    { vsub with msisdn := if vsub.msisdn = [] then (s.subscr old).msisdn else vsub.msisdn }
  let s := s.write old fun vsub =>
    { vsub with
      imsi := [], msisdn := [], tmsi := gsmReservedTmsi, tmsiNew := gsmReservedTmsi }
  let s := vlrSubscrRehashImsi cfg s old
  let s := vlrSubscrRehashTmsi cfg s old
  -- vlr_subscr_expire() forgets no association here, for the IMSI is cleared already.
  let s := s.markDetached old
  if env.dedupFrees then vlrSubscrFree s old else s

/-- `GSM23003_IMSI_MAX_DIGITS`: what fits into `imsi[]`. -/
def imsiMaxDigits : Nat := 15

/-- `vlr_subscr_set_imsi()`. -/
def vlrSubscrSetImsi (env : DedupEnv) (s : Store) (p : Nat) (imsi : Digits) : Store :=
  if (s.subscr p).imsi = imsi then s
  else
    let s := match vlrSubscrFindByImsi cfg s imsi with
      | some old => if env.silentCallFrees then vlrSubscrFree s old else s
      | none => s
    let s := match vlrSubscrFindByImsi cfg s imsi with
      | some old => dedupVsub cfg env s old p
      | none => s
    let s := s.write p fun vsub => { vsub with imsi := imsi.take imsiMaxDigits }
    vlrSubscrRehashImsi cfg s p

/-- `_vlr_subscr_find_or_create_by_imsi()`. -/
def vlrSubscrFindOrCreateByImsi (clocks : Clocks) (s : Store) (imsi : Digits) : Store × Nat :=
  match vlrSubscrFindByImsi cfg s imsi with
  | some p => (s, p)
  | none =>
      let (s, p) := vlrSubscrAlloc clocks s
      (vlrSubscrSetImsi cfg {} s p imsi, p)

/-- Who waits for the IMSI of an IDENTITY RESPONSE: the authentication machine in
`VLR_SUB_AS_WAIT_ID_IMSI`, the location updating machine in `VLR_ULA_S_WAIT_IMSI`, or neither. -/
inductive IdWaiter where
  | auth
  | lu
  | nobody
deriving DecidableEq, Repr

/-- `auth_fsm_wait_imsi()`: copies the IMSI without a rehash. -/
def Store.authFsmWaitImsi : Store :=
  if (s.subscr p).imsi ≠ [] ∧ !vlrSubscrMatchesImsi (s.subscr p) imsi then s
  else s.write p fun vsub => { vsub with imsi := imsi.take imsiMaxDigits }

/-- `vlr_subscr_rx_id_resp()` with an IMSI, and what the machine that waits for it does. -/
def vlrSubscrRxIdResp (env : DedupEnv) (waiter : IdWaiter) (s : Store) (p : Nat)
    (imsi : Digits) : Store :=
  let s :=
    if (s.subscr p).imsi ≠ [] ∧ !vlrSubscrMatchesImsi (s.subscr p) imsi then s
    else vlrSubscrSetImsi cfg env s p imsi
  match waiter with
  | .auth => Store.authFsmWaitImsi s p imsi
  | .lu => vlrSubscrSetImsi cfg env s p imsi
  | .nobody => s

/-! ### TMSI -/

/-- `_vlr_subscr_find_or_create_by_tmsi()`. -/
def vlrSubscrFindOrCreateByTmsi (clocks : Clocks) (s : Store) (tmsi : Nat) : Store × Nat :=
  match vlrSubscrFindByTmsi cfg s tmsi with
  | some p => (s, p)
  | none =>
      let (s, p) := vlrSubscrAlloc clocks s
      (vlrSubscrRehashTmsi cfg (s.write p fun vsub => { vsub with tmsi := tmsi }) p, p)

/-- `GSM23003_TMSI_SGSN_MASK`. -/
def gsm23003TmsiSgsnMask : Nat := 0xC0000000

/-- The TMSI one round of `vlr_subscr_alloc_tmsi()` makes of a random number; `none` throws the dice
again. -/
def tmsiCandidate (rand : Nat) : Option Nat :=
  let tmsi := cfg.nriLimit rand
  if tmsi = gsmReservedTmsi then none
  else if cfg.isPs then some (tmsi ||| gsm23003TmsiSgsnMask)
  else if tmsi &&& gsm23003TmsiSgsnMask = gsm23003TmsiSgsnMask then some (tmsi &&& 0x3FFFFFFF)
  else some tmsi

/-- The rounds that are left of `vlr_subscr_alloc_tmsi()`.  `rand` is what `osmo_get_rand_id()`
returns in each round. -/
def allocTmsiLoop (rand : Nat → Option Nat) (s : Store) (p : Nat) : Nat → Nat → Option Store
  | 0, _ => none
  | rounds + 1, tried =>
      match rand tried with
      | none => none
      | some value =>
          match tmsiCandidate cfg value with
          | none => allocTmsiLoop rand s p rounds (tried + 1)
          | some tmsi =>
              -- If this TMSI is already in use, try another one.
              if (vlrSubscrFindByTmsi cfg s tmsi).isSome then
                allocTmsiLoop rand s p rounds (tried + 1)
              else
                some (vlrSubscrRehashTmsi cfg
                  (s.write p fun vsub => { vsub with tmsiNew := tmsi }) p)

/-- `vlr_subscr_alloc_tmsi()`; `none` is a failure, which changes nothing. -/
def vlrSubscrAllocTmsi (rand : Nat → Option Nat) (s : Store) (p : Nat) : Option Store :=
  allocTmsiLoop cfg rand s p 100 0

/-- `lu_compl_vlr_new_tmsi()`. -/
def Store.luComplVlrNewTmsi (rand : Nat → Option Nat) (s : Store) (p : Nat) : Store :=
  (vlrSubscrAllocTmsi cfg rand s p).getD s

/-- `tmsi_new` becomes the TMSI. -/
def confirmTmsi : Store :=
  vlrSubscrRehashTmsi cfg
    (s.write p fun vsub => { vsub with tmsi := vsub.tmsiNew, tmsiNew := gsmReservedTmsi }) p

/-- `vlr_lu_compl_fsm_success()`. -/
def Store.vlrLuComplFsmSuccess : Store := s.markAttached p

/-- The end of `lu_compl_vlr_wait_subscr_pres()` and `lu_compl_vlr_wait_imei()` without a new TMSI:
any previously used TMSI is now invalid. -/
def luComplVlrNoTmsi : Store :=
  Store.vlrLuComplFsmSuccess
    (vlrSubscrRehashTmsi cfg (s.write p fun vsub => { vsub with tmsi := gsmReservedTmsi }) p) p

/-- `lu_compl_vlr_wait_tmsi()`. -/
def Store.luComplVlrWaitTmsi : Store :=
  if (s.subscr p).tmsiNew = gsmReservedTmsi then s
  else Store.vlrLuComplFsmSuccess (confirmTmsi cfg s p) p

end Functions

end OsmoMsc.Vlr
