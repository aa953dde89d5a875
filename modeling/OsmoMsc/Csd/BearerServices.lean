/-
Module: OsmoMsc.Csd.BearerServices
Purpose: The bearer services of circuit switched data calls (csd_bs.c) and the channel type that a list
  of them asks for.  The allowed data rates of a non-transparent call are collected from the further
  services of the list by a test that lets the transparent ones through.
Trusted boundary: none
Main exports: CsdBs, CsdBsList, csdBsListToGsm0808ChannelType, allowedRates_iff
-/
import Mathlib.Data.Finset.Insert
import Mathlib.Tactic.Common

namespace OsmoMsc.Csd

/-- `enum csd_bs`, as far as `csd_bs_valid()` lets it through: the number, T or NT, and the rate. -/
inductive CsdBs where
  | bs21T0k3 | bs22T1k2 | bs24T2k4 | bs25T4k8 | bs26T9k6
  | bs21Nt0k3 | bs22Nt1k2 | bs24Nt2k4 | bs25Nt4k8 | bs26Nt9k6
  | bs31T1k2 | bs32T2k4 | bs33T4k8 | bs34T9k6
deriving DecidableEq, Repr

/-- `csd_bs_is_transp()`: the `transp` of `bs_map[]`. -/
def csdBsIsTransp : CsdBs → Bool
  | .bs21Nt0k3 | .bs22Nt1k2 | .bs24Nt2k4 | .bs25Nt4k8 | .bs26Nt9k6 => false
  | _ => true

/-- The `rate` of `bs_map[]`. -/
def CsdBs.rate : CsdBs → Nat
  | .bs21T0k3 | .bs21Nt0k3 => 300
  | .bs22T1k2 | .bs22Nt1k2 | .bs31T1k2 => 1200
  | .bs24T2k4 | .bs24Nt2k4 | .bs32T2k4 => 2400
  | .bs25T4k8 | .bs25Nt4k8 | .bs33T4k8 => 4800
  | .bs26T9k6 | .bs26Nt9k6 | .bs34T9k6 => 9600

/-- `CSD_BS_MAX`. -/
def csdBsMax : Nat := 15

/-- `struct csd_bs_list`: what `count` counts. -/
structure CsdBsList where
  bs : List CsdBs := []
  fits : bs.length ≤ csdBsMax := by decide

/-- The `GSM0808_DATA_` channel rates and types. -/
inductive ChRateType where
  | dataFullBm
  | dataFullPref
deriving DecidableEq, Repr

/-- `GSM0808_DATA_RATE_`. -/
inductive DataRate where
  | transp600 | transp1k2 | transp2k4 | transp4k8 | transp9k6
  | nonTransp6k0 | nonTransp12k0
deriving DecidableEq, Repr

/-- The bits `GSM0808_DATA_RATE_NON_TRANSP_ALLOWED_`. -/
inductive AllowedRate where
  | nonTransp6k0
  | nonTransp12k0
deriving DecidableEq, Repr

/-- `struct gsm0808_channel_type` with `GSM0808_CHAN_DATA`.  The allowed rates are those whose bits
are set. -/
structure Gsm0808ChannelType where
  dataTransparent : Bool := false
  chRateType : ChRateType
  dataRate : DataRate
  dataRateAllowed : Finset AllowedRate := ∅
  dataRateAllowedIsSet : Bool := false
deriving DecidableEq

/-- `csd_bs_to_gsm0808_data_rate_transp()`. -/
def csdBsToGsm0808DataRateTransp (bs : CsdBs) : Option (ChRateType × DataRate) :=
  match bs.rate with
  | 300 => some (.dataFullPref, .transp600)
  | 1200 => some (.dataFullPref, .transp1k2)
  | 2400 => some (.dataFullPref, .transp2k4)
  | 4800 => some (.dataFullPref, .transp4k8)
  | 9600 => some (.dataFullBm, .transp9k6)
  | _ => none

/-- `csd_bs_to_gsm0808_data_rate_non_transp()`. -/
def csdBsToGsm0808DataRateNonTransp (bs : CsdBs) : Option (ChRateType × DataRate) :=
  if bs.rate < 6000 then some (.dataFullPref, .nonTransp6k0)
  else if bs.rate < 12000 then some (.dataFullBm, .nonTransp12k0)
  else none

/-- `csd_bs_to_gsm0808_data_rate_non_transp_allowed()`. -/
def csdBsToGsm0808DataRateNonTranspAllowed (bs : CsdBs) : Option AllowedRate :=
  if bs.rate < 6000 then some .nonTransp6k0
  else if bs.rate < 12000 then some .nonTransp12k0
  else none

/-- One round of the loop over the further services. -/
def allowRate (allowed : Finset AllowedRate) (bs : CsdBs) : Finset AllowedRate :=
  if !csdBsIsTransp bs then allowed
  else
    match csdBsToGsm0808DataRateNonTranspAllowed bs with
    | none => allowed
    | some rate => insert rate allowed

/-- `csd_bs_list_to_gsm0808_channel_type()` into a valid destination. -/
def csdBsListToGsm0808ChannelType (list : CsdBsList) : Option Gsm0808ChannelType :=
  match list.bs with
  | [] => none
  | first :: rest =>
      if csdBsIsTransp first then
        (csdBsToGsm0808DataRateTransp first).map fun (chRateType, dataRate) =>
          { dataTransparent := true, chRateType := chRateType, dataRate := dataRate }
      else
        let allowed := rest.foldl allowRate ∅
        (csdBsToGsm0808DataRateNonTransp first).map fun (chRateType, dataRate) =>
          { chRateType := chRateType, dataRate := dataRate, dataRateAllowed := allowed
            dataRateAllowedIsSet := allowed ≠ ∅ }

/-- A service of the list, transparent or not, asks for the rate. -/
def Asks (services : List CsdBs) (transp : Bool) (rate : AllowedRate) : Prop :=
  ∃ bs ∈ services, csdBsIsTransp bs = transp ∧ csdBsToGsm0808DataRateNonTranspAllowed bs = some rate

theorem mem_foldl_allowRate (services : List CsdBs) (allowed : Finset AllowedRate)
    (rate : AllowedRate) :
    rate ∈ services.foldl allowRate allowed ↔ rate ∈ allowed ∨ Asks services true rate := by
  induction services generalizing allowed with
  | nil => simp [Asks]
  | cons bs services ih =>
    rw [List.foldl_cons, ih, allowRate]
    cases transp : csdBsIsTransp bs with
    | false => simp [Asks, transp]
    | true =>
      cases asked : csdBsToGsm0808DataRateNonTranspAllowed bs with
      | none => simp [Asks, asked]
      | some wanted => simp [Asks, transp, asked, or_assoc, or_left_comm, @eq_comm _ wanted]

/-- The allowed rates are those of the further non-transparent services, they are set when there are
any, and nothing but a first service without a data rate makes it fail. -/
structure AllowedRight (first : CsdBs) (rest : List CsdBs) (result : Option Gsm0808ChannelType) :
    Prop where
  fails : result = none → csdBsToGsm0808DataRateNonTransp first = none
  allowed : ∀ ct, result = some ct → ∀ rate, rate ∈ ct.dataRateAllowed ↔ Asks rest false rate
  isSet : ∀ ct, result = some ct → (ct.dataRateAllowedIsSet = true ↔ ∃ rate, Asks rest false rate)

/-- The channel type is right just when the further transparent services ask for the same rates as the
further non-transparent ones, because it is made from the former. -/
theorem allowedRates_iff (list : CsdBsList) (first : CsdBs) (rest : List CsdBs)
    (isList : list.bs = first :: rest) (nonTransp : csdBsIsTransp first = false) :
    AllowedRight first rest (csdBsListToGsm0808ChannelType list) ↔
      ∀ rate, Asks rest true rate ↔ Asks rest false rate := by
  have allowed_iff (rate : AllowedRate) :
      rate ∈ rest.foldl allowRate ∅ ↔ Asks rest true rate := by
    simp [mem_foldl_allowRate]
  obtain ⟨⟨chRateType, dataRate⟩, mapped⟩ :
      ∃ rates, csdBsToGsm0808DataRateNonTransp first = some rates := by
    cases first <;> exact ⟨_, rfl⟩
  have result : csdBsListToGsm0808ChannelType list = some
      { chRateType := chRateType, dataRate := dataRate, dataRateAllowed := rest.foldl allowRate ∅
        dataRateAllowedIsSet := rest.foldl allowRate ∅ ≠ ∅ } := by
    simp [csdBsListToGsm0808ChannelType, isList, nonTransp, mapped]
  rw [result]
  constructor
  · rintro ⟨-, allowed, -⟩ rate
    exact (allowed_iff rate).symm.trans (allowed _ rfl rate)
  · intro same
    refine ⟨nofun, ?_, ?_⟩
    · rintro _ ⟨⟩ rate
      exact (allowed_iff rate).trans (same rate)
    · rintro _ ⟨⟩
      rw [decide_eq_true_iff, ← Finset.nonempty_iff_ne_empty]
      exact exists_congr fun rate => (allowed_iff rate).trans (same rate)

/-- Non-transparent services of 9600 and 4800 bit/s and a transparent one of 2400 bit/s. -/
theorem allowedRates_iff_mixed :
    AllowedRight .bs26Nt9k6 [.bs25Nt4k8, .bs24T2k4]
      (csdBsListToGsm0808ChannelType { bs := [.bs26Nt9k6, .bs25Nt4k8, .bs24T2k4] }) := by
  refine (allowedRates_iff _ .bs26Nt9k6 _ rfl rfl).mpr ?_
  intro rate
  unfold Asks
  cases rate <;> decide

/-- The second of two non-transparent services adds no allowed rate. -/
theorem nonTransparent_rate_is_left_out :
    ¬ AllowedRight .bs26Nt9k6 [.bs25Nt4k8]
        (csdBsListToGsm0808ChannelType { bs := [.bs26Nt9k6, .bs25Nt4k8] }) ∧
      csdBsListToGsm0808ChannelType { bs := [.bs26Nt9k6, .bs25Nt4k8] } =
        some { chRateType := .dataFullBm, dataRate := .nonTransp12k0 } := by
  refine ⟨?_, by decide⟩
  intro right
  have allowed := (right.allowed _ rfl .nonTransp6k0).mpr ⟨.bs25Nt4k8, by decide⟩
  revert allowed
  decide

end OsmoMsc.Csd
