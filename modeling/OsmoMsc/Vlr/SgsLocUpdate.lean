/-
Module: OsmoMsc.Vlr.SgsLocUpdate
Purpose: Whether `vlr_sgs_loc_update()` writes to a record only while the VLR lists it.  A location update
  that fails at once releases its use of the record before `vlr_sgs_loc_update()` is done with it.
Trusted boundary: none
Main exports: Store.checked, vlrSgsLocUpdateChecked, luFails, freedAtOnce
-/
import OsmoMsc.Vlr.SgsMirror

namespace OsmoMsc.Vlr

section

variable (cfg : StoreCfg) (env : SgsEnv) (s : Store) (p : Nat) (imsi : Digits) (mmeName : String)
  (lai : Sgs.LocationAreaId) (lastEutranPlmn : Option Sgs.PlmnId)

/-- What writes to a record of the list leads to `next`; there is nothing to be said of other writes. -/
def Store.checked (next : Store) : Option Store := if p ∈ s.subscribers then some next else none

/-- The record before the SGs machine is told of the location update. -/
def locUpdatePrepared : Store :=
  (vlrSubscrSetImsi cfg {} s p imsi).write p fun vsub =>
    { vsub with
      lastEutranPlmnPresent := lastEutranPlmn.isSome
      lastEutranPlmn := lastEutranPlmn.getD vsub.lastEutranPlmn
      mmeName := mmeName }

/-- `vlr_sgs_loc_update()`, as long as the records that it writes to are listed. -/
def vlrSgsLocUpdateChecked : Option Store :=
  let (s₁, p) := vlrSubscrFindOrCreateByImsi cfg env.clocks s imsi
  if (s₁.subscr p).sgsState = .laUpdPres then some s₁
  else do
    let s₂ ← s₁.checked p (locUpdatePrepared cfg s₁ p imsi mmeName lastEutranPlmn)
    -- The machine writes to the record first and releases it last.
    let s₃ ← s₂.checked p (sgsUeFsm cfg env s₂ p .rxLuFromMme)
    s₃.checked p (vlrSgsLocUpdate cfg env s imsi mmeName lai lastEutranPlmn)

/-- `perform_lu()` fails: there is no TMSI, or the HLR cannot be asked. -/
def luFails : Bool :=
  !env.reqLu || (s.subscr p).tmsi = gsmReservedTmsi && (vlrSubscrAllocTmsi cfg env.rand s p).isNone

/-- The location update fails at once, and nobody else uses the record. -/
def freedAtOnce : Bool :=
  let (s₁, p) := vlrSubscrFindOrCreateByImsi cfg env.clocks s imsi
  let s₂ := locUpdatePrepared cfg s₁ p imsi mmeName lastEutranPlmn
  (s₁.subscr p).sgsState ≠ .laUpdPres && (s₂.subscr p).unused && luFails cfg env s₂ p

theorem performLu_subscribers :
    (performLu cfg env s p).subscribers =
      if (s.subscr p).unused && luFails cfg env s p then s.subscribers.filter (· ≠ p)
      else s.subscribers := by
  have failed (s : Store) : (performLuError cfg s p).subscribers =
      if (s.subscr p).unused then s.subscribers.filter (· ≠ p) else s.subscribers := by
    have same : ((toNull cfg s p).subscr p).unused = (s.subscr p).unused := by
      rw [toNull_subscr, Vsub.unused, Vsub.unused]
    rw [performLuError, same]
    split
    · rw [subscribers_free, (Touches.toNull cfg s p).subscribers]
    · exact (Touches.toNull cfg s p).subscribers
  unfold performLu luFails
  by_cases needed : (s.subscr p).tmsi = gsmReservedTmsi
  · cases allocated : vlrSubscrAllocTmsi cfg env.rand s p with
    | none => simp [needed, failed]
    | some s' =>
        obtain ⟨touches, tmsi, record⟩ := allocTmsi_touches allocated
        have unused : (s'.subscr p).unused = (s.subscr p).unused := by
          rw [record, Vsub.unused, Vsub.unused]
        cases env.reqLu <;>
          simp [needed, failed, touches.subscribers, unused, sgsStateChg, Store.write]
  · cases env.reqLu <;> simp [needed, failed, sgsStateChg, Store.write]

/-- The checks do not change what is done. -/
theorem vlrSgsLocUpdateChecked_eq {s' : Store}
    (checked : vlrSgsLocUpdateChecked cfg env s imsi mmeName lai lastEutranPlmn = some s') :
    s' = vlrSgsLocUpdate cfg env s imsi mmeName lai lastEutranPlmn := by
  unfold vlrSgsLocUpdateChecked at checked
  split at checked
  rename_i s₁ p result
  split at checked
  · rename_i pres
    rw [vlrSgsLocUpdate, result]
    simpa [pres] using checked.symm
  · simp [Store.checked, Option.bind_eq_some_iff] at checked
    exact checked.2.2.2.symm

end

end OsmoMsc.Vlr
