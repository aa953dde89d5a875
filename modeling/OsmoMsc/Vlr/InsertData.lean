/-
Module: OsmoMsc.Vlr.InsertData
Purpose: InsertSubscriberData requests of the HLR (vlr.c).  A request for an IMSI without a record
  creates one, but the only use of the new record is the handler's own, and dropping it frees the
  record again after the success has been reported.  For an IMSI that has a record, what the record
  holds afterwards is what fits into it.
Trusted boundary: `gsm48_decode_bcd_number2()` is modelled as libosmocore has it, `osmo_apn_to_str()`
  is a parameter; the counts of uses are those of `osmo_use_count_total()`
Main exports: IsdRequest, vlrSubscrGsupInsertData, vlrGsupRxIsd, HoldsData, DataFits,
  vlrGsupRxIsd_holds_iff
-/
import OsmoMsc.Vlr.SubscrStoreRun

namespace OsmoMsc.Vlr

open Sgs

/-! ### Requests and records -/

/-- `struct osmo_gsup_pdp_info`. -/
structure PdpInfo where
  contextId : Nat
  pdpTypeOrg : Nat := 0
  pdpTypeNr : Nat := 0
  pdpAddress : List UInt8 × List UInt8 := ([], [])
  apnEnc : List UInt8 := []
  qosEnc : List UInt8 := []
deriving DecidableEq, Repr

/-- An INSERT_DATA_REQUEST, `struct osmo_gsup_message`.  `hlrEnc` is `none` for a NULL pointer. -/
structure IsdRequest where
  imsi : Digits
  msisdnEnc : List UInt8 := []
  hlrEnc : Option (List UInt8) := none
  pdpInfoCompl : Bool := false
  pdpInfos : List PdpInfo := []

/-- `struct sgsn_subscriber_pdp_data`.  `apnStr` is `none` where `osmo_apn_to_str()` gave up in the
middle and left no text of an APN. -/
structure PdpData where
  contextId : Nat
  pdpTypeOrg : Nat
  pdpTypeNr : Nat
  pdpAddress : List UInt8 × List UInt8
  apnStr : Option String
  qosSubscribed : List UInt8
deriving DecidableEq, Repr

/-- What a record holds besides its identities: the number of the HLR, the PDP contexts, and how many
uses it has. -/
structure HlrData where
  hlr : List UInt8 := []
  pdpList : List PdpData := []
  useCount : Int := 0
deriving DecidableEq, Repr

structure HlrVlr where
  store : Store
  data : Nat → HlrData := fun _ => {}

inductive IsdAnswer where
  | insertDataResult
  | imsiUnknown
deriving DecidableEq, Repr

/-! ### Numbers -/

/-- `bcd_num_digits[]`, of which the last one is a zero. -/
def bcdNumDigit (nibble : Nat) : Char := "0123456789*#abc".toList.getD nibble '\x00'

/-- The digits of octets, the low nibble of each before the high one. -/
def nibbles (octets : List UInt8) : List Nat :=
  octets.flatMap fun octet => [octet.toNat % 16, octet.toNat / 16]

/-- `gsm48_decode_bcd_number2()` without a header: what `output[output_len]` holds as a C string.  A
length octet that promises more than there is leaves it empty, and what has no room is cut off. -/
def gsm48DecodeBcdNumber2 (outputLen : Nat) : List UInt8 → List Char
  | [] => []
  | inLen :: octets =>
      if octets.length < inLen.toNat then []
      else (((nibbles (octets.take inLen.toNat)).take (outputLen - 1)).takeWhile (· < 15)).map
        bcdNumDigit

/-- The digits without the filler that makes their number even. -/
def unfilled (digits : List Nat) : List Nat :=
  if digits.getLast? = some 15 then digits.dropLast else digits

/-- The number that a length octet and the octets behind it stand for, if they stand for one. -/
def bcdNumber : List UInt8 → Option (List Char)
  | [] => none
  | inLen :: octets =>
      let digits := unfilled (nibbles (octets.take inLen.toNat))
      if octets.length < inLen.toNat ∨ ¬ digits.all (· < 15) then none
      else some (digits.map bcdNumDigit)

/-! ### The handler -/

/-- The APN fits into `apn_str[GSM_APN_LENGTH]` and the quality of service into its 20 octets. -/
def PdpInfo.fits (info : PdpInfo) : Bool := info.apnEnc.length < 101 ∧ info.qosEnc.length ≤ 20

section Handler

variable (apnToStr : List UInt8 → Option String)

/-- The entry for one PDP context. -/
def PdpInfo.toData (info : PdpInfo) : PdpData where
  contextId := info.contextId
  pdpTypeOrg := info.pdpTypeOrg
  pdpTypeNr := info.pdpTypeNr
  pdpAddress := info.pdpAddress
  apnStr := apnToStr info.apnEnc
  qosSubscribed := info.qosEnc

/-- `vlr_subscr_pdp_data_get_by_id()`. -/
def vlrSubscrPdpDataGetById (pdpList : List PdpData) (contextId : Nat) : Option PdpData :=
  pdpList.find? fun pdp => pdp.contextId = contextId

/-- Set the entry of a context, or add one at the end. -/
def setPdpData (data : PdpData) : List PdpData → List PdpData
  | [] => [data]
  | pdp :: rest =>
      if pdp.contextId = data.contextId then data :: rest else pdp :: setPdpData data rest

/-- The loop over the PDP contexts of a request; one that does not fit is skipped. -/
def insertPdpInfos (infos : List PdpInfo) (pdpList : List PdpData) : List PdpData :=
  infos.foldl (fun pdpList info =>
    if info.fits then setPdpData (info.toData apnToStr) pdpList else pdpList) pdpList

/-- `vlr_subscr_gsup_insert_data()`.  Nobody looks at whether the number could be decoded. -/
def vlrSubscrGsupInsertData (v : HlrVlr) (p : Nat) (gsup : IsdRequest) : HlrVlr where
  store :=
    if gsup.msisdnEnc = [] then v.store
    else v.store.write p fun vsub => { vsub with msisdn := gsm48DecodeBcdNumber2 16 gsup.msisdnEnc }
  data := Function.update v.data p
    { v.data p with
      hlr := match gsup.hlrEnc with
        | none => (v.data p).hlr
        | some enc => if 16 < enc.length then [] else enc
      pdpList := insertPdpInfos apnToStr gsup.pdpInfos
        (if gsup.pdpInfoCompl then [] else (v.data p).pdpList) }

/-- A use of a record is taken or dropped. -/
def HlrVlr.count (v : HlrVlr) (p : Nat) (change : Int) : HlrVlr :=
  { v with
    data := Function.update v.data p { v.data p with useCount := (v.data p).useCount + change } }

/-- `vlr_subscr_put()`: the last use takes the record with it. -/
def vlrSubscrPut (v : HlrVlr) (p : Nat) : HlrVlr :=
  let v := v.count p (-1)
  if (v.data p).useCount ≤ 0 then { v with store := vlrSubscrFree v.store p } else v

/-- The record a request is about. -/
def isdSubscr (cfg : StoreCfg) (clocks : Clocks) (v : HlrVlr) (gsup : IsdRequest) :
    Option (HlrVlr × Nat) :=
  match vlrSubscrFindByImsi cfg v.store gsup.imsi with
  | some p => some (v.count p 1, p)
  | none =>
      if gsup.imsi = [] then none
      else
        let (store, p) := vlrSubscrFindOrCreateByImsi cfg clocks v.store gsup.imsi
        some (HlrVlr.count { store := store, data := Function.update v.data p {} } p 1, p)

/-- `vlr_gsup_rx()` with an INSERT_DATA_REQUEST, and what it answers. -/
def vlrGsupRxIsd (cfg : StoreCfg) (clocks : Clocks) (v : HlrVlr) (gsup : IsdRequest) :
    HlrVlr × IsdAnswer :=
  match isdSubscr cfg clocks v gsup with
  | none => (v, .imsiUnknown)
  | some (v, p) => (vlrSubscrPut (vlrSubscrGsupInsertData apnToStr v p gsup) p, .insertDataResult)

/-! ### What is held afterwards -/

/-- The record has the data of the request. -/
structure HasData (v : HlrVlr) (gsup : IsdRequest) (p : Nat) : Prop where
  imsi : (v.store.subscr p).imsi = gsup.imsi
  msisdn : gsup.msisdnEnc ≠ [] → bcdNumber gsup.msisdnEnc = some (v.store.subscr p).msisdn
  hlr : ∀ enc ∈ gsup.hlrEnc, (v.data p).hlr = enc
  pdp : ∀ info ∈ gsup.pdpInfos, (apnToStr info.apnEnc).isSome ∧
    vlrSubscrPdpDataGetById (v.data p).pdpList info.contextId = some (info.toData apnToStr)

/-- The VLR holds a record with the data of the request. -/
def HoldsData (v : HlrVlr) (gsup : IsdRequest) : Prop :=
  ∃ p ∈ v.store.subscribers, HasData apnToStr v gsup p

/-- The last PDP context of the request with this number that is not skipped. -/
def IsdRequest.lastFitting (gsup : IsdRequest) (contextId : Nat) : Option PdpInfo :=
  gsup.pdpInfos.reverse.find? fun info => info.fits ∧ info.contextId = contextId

/-- The data of the request fits into a record with these PDP contexts: the number is one of at most
15 digits and that of the HLR has at most 16 octets, and each PDP context of the request has a
readable APN and is the last one with its number or, if all those are skipped, in the record
already. -/
structure IsdRequest.Fits (gsup : IsdRequest) (pdpList : List PdpData) : Prop where
  msisdn : gsup.msisdnEnc ≠ [] → ∃ number ∈ bcdNumber gsup.msisdnEnc, number.length ≤ 15
  hlr : ∀ enc ∈ gsup.hlrEnc, enc.length ≤ 16
  pdp : ∀ info ∈ gsup.pdpInfos, (apnToStr info.apnEnc).isSome ∧
    ((gsup.lastFitting info.contextId).map (PdpInfo.toData apnToStr)).or
      (vlrSubscrPdpDataGetById (if gsup.pdpInfoCompl then [] else pdpList) info.contextId) =
        some (info.toData apnToStr)

/-- There is a record with the IMSI that somebody uses, and the data fits into it. -/
def DataFits (cfg : StoreCfg) (v : HlrVlr) (gsup : IsdRequest) : Prop :=
  ∃ p, vlrSubscrFindByImsi cfg v.store gsup.imsi = some p ∧ 0 < (v.data p).useCount ∧
    gsup.Fits apnToStr (v.data p).pdpList

end Handler

section

variable {apnToStr : List UInt8 → Option String} {cfg : StoreCfg} {tmsis : Prop} {v : HlrVlr} {gsup : IsdRequest} {p : Nat}

theorem getById_setPdpData (data : PdpData) (pdpList : List PdpData) (contextId : Nat) :
    vlrSubscrPdpDataGetById (setPdpData data pdpList) contextId =
      if data.contextId = contextId then some data
      else vlrSubscrPdpDataGetById pdpList contextId := by
  unfold vlrSubscrPdpDataGetById
  induction pdpList with
  | nil => simp [setPdpData]
  | cons pdp rest ih =>
      unfold setPdpData
      by_cases same : pdp.contextId = data.contextId
      · by_cases asked : data.contextId = contextId <;> simp [same, asked]
      · rw [if_neg same, List.find?_cons, List.find?_cons, ih]
        by_cases asked : data.contextId = contextId
        · have other : pdp.contextId ≠ contextId := fun here => same (here.trans asked.symm)
          simp [asked, other]
        · simp [asked]

/-- The loop leaves the last context with a number that fits, and what was there if there is none. -/
theorem getById_insertPdpInfos {infos : List PdpInfo} {pdpList : List PdpData} {contextId : Nat} :
    vlrSubscrPdpDataGetById (insertPdpInfos apnToStr infos pdpList) contextId =
      ((infos.reverse.find? fun info => info.fits ∧ info.contextId = contextId).map
        (PdpInfo.toData apnToStr)).or (vlrSubscrPdpDataGetById pdpList contextId) := by
  induction infos generalizing pdpList with
  | nil => simp [insertPdpInfos]
  | cons info rest ih =>
      have step : insertPdpInfos apnToStr (info :: rest) pdpList = insertPdpInfos apnToStr rest
        (if info.fits then setPdpData (info.toData apnToStr) pdpList else pdpList) := rfl
      rw [step, ih, List.reverse_cons, List.find?_append, Option.map_or, Option.or_assoc]
      congr 1
      by_cases fits : info.fits = true
      · rw [if_pos fits, getById_setPdpData]
        by_cases same : info.contextId = contextId <;> simp [fits, same, PdpInfo.toData]
      · simp [fits]

/-- The identities of the records stay. -/
theorem insertData_imsi (q : Nat) :
    ((vlrSubscrGsupInsertData apnToStr v p gsup).store.subscr q).imsi = (v.store.subscr q).imsi := by
  unfold vlrSubscrGsupInsertData
  split
  · rfl
  · by_cases here : q = p
    · rw [here, write_subscr_self]
    · simp [Store.write, here]

theorem insertData_subscribers :
    (vlrSubscrGsupInsertData apnToStr v p gsup).store.subscribers = v.store.subscribers := by
  unfold vlrSubscrGsupInsertData
  split <;> rfl

theorem unfilled_append (digits : List Nat) :
    ∃ rest, digits = unfilled digits ++ rest ∧ ∀ digit ∈ rest, ¬ digit < 15 := by
  unfold unfilled
  split
  · rename_i filled
    exact ⟨[15], (List.dropLast_append_getLast? 15 filled).symm, by simp⟩
  · exact ⟨[], (List.append_nil digits).symm, by simp⟩

theorem takeWhile_take_append {digits rest : List Nat} (valid : ∀ digit ∈ digits, digit < 15)
    (filler : ∀ digit ∈ rest, ¬ digit < 15) (n : Nat) :
    ((digits ++ rest).take n).takeWhile (· < 15) = digits.take n := by
  induction digits generalizing n with
  | nil =>
      cases n <;> cases rest <;> simp_all
  | cons digit digits ih =>
      cases n with
      | zero => rfl
      | succ n => simp [valid digit (by simp), ih (fun d member => valid d (by simp [member])) n]

/-- The record holds the number if and only if it is one and has room there. -/
theorem bcdNumber_eq_decoded_iff (enc : List UInt8) :
    bcdNumber enc = some (gsm48DecodeBcdNumber2 16 enc) ↔
      ∃ number ∈ bcdNumber enc, number.length ≤ 15 := by
  cases enc with
  | nil => simp [bcdNumber]
  | cons inLen octets =>
      by_cases number : octets.length < inLen.toNat ∨
          ¬ (unfilled (nibbles (octets.take inLen.toNat))).all (· < 15)
      · have none : bcdNumber (inLen :: octets) = none := if_pos number
        simp [none]
      · obtain ⟨enough, valid⟩ := not_or.mp number
        obtain ⟨rest, split, filler⟩ := unfilled_append (nibbles (octets.take inLen.toNat))
        have decoded := takeWhile_take_append (by simpa using valid) filler 15
        rw [← split] at decoded
        simp only [bcdNumber, gsm48DecodeBcdNumber2, if_neg number, if_neg enough, decoded,
          Option.some.injEq, Option.mem_some_iff, exists_eq_left', List.length_map]
        constructor
        · intro same
          have length := congrArg List.length same
          simp only [List.length_map, List.length_take] at length
          omega
        · intro short
          rw [List.take_of_length_le short]

/-- What is written to a record. -/
theorem hasData_iff (apnToStr : List UInt8 → Option String)
    (has : (v.store.subscr p).imsi = gsup.imsi) :
    HasData apnToStr (vlrSubscrGsupInsertData apnToStr v p gsup) gsup p ↔
      gsup.Fits apnToStr (v.data p).pdpList := by
  have imsi : ((vlrSubscrGsupInsertData apnToStr v p gsup).store.subscr p).imsi = gsup.imsi :=
    (insertData_imsi p).trans has
  have msisdn : (gsup.msisdnEnc ≠ [] → bcdNumber gsup.msisdnEnc =
      some ((vlrSubscrGsupInsertData apnToStr v p gsup).store.subscr p).msisdn) ↔
      (gsup.msisdnEnc ≠ [] → ∃ number ∈ bcdNumber gsup.msisdnEnc, number.length ≤ 15) := by
    refine imp_congr_right fun given => ?_
    rw [← bcdNumber_eq_decoded_iff]
    simp [vlrSubscrGsupInsertData, given]
  have hlr : (∀ enc ∈ gsup.hlrEnc,
      ((vlrSubscrGsupInsertData apnToStr v p gsup).data p).hlr = enc) ↔
      ∀ enc ∈ gsup.hlrEnc, enc.length ≤ 16 := by
    refine forall₂_congr fun enc given => ?_
    have given : gsup.hlrEnc = some enc := given
    simp only [vlrSubscrGsupInsertData, Function.update_self, given]
    by_cases long : 16 < enc.length
    · rw [if_pos long]
      constructor
      · rintro rfl
        exact absurd long (by simp)
      · intro short
        omega
    · simp [long, Nat.not_lt.mp long]
  have pdp : ∀ info : PdpInfo,
      vlrSubscrPdpDataGetById ((vlrSubscrGsupInsertData apnToStr v p gsup).data p).pdpList
        info.contextId = _ :=
    fun info => (congrArg (fun data : HlrData => vlrSubscrPdpDataGetById data.pdpList
      info.contextId) (Function.update_self ..)).trans getById_insertPdpInfos
  constructor
  · intro data
    refine ⟨msisdn.mp data.msisdn, hlr.mp data.hlr, fun info member => ?_⟩
    obtain ⟨readable, found⟩ := data.pdp info member
    exact ⟨readable, (pdp info).symm.trans found⟩
  · rintro ⟨number, short, last⟩
    refine ⟨imsi, msisdn.mpr number, hlr.mpr short, fun info member => ?_⟩
    obtain ⟨readable, found⟩ := last info member
    exact ⟨readable, (pdp info).trans found⟩

theorem hasData_count {n : Int} {q : Nat} :
    HasData apnToStr (v.count p n) gsup q ↔ HasData apnToStr v gsup q := by
  by_cases here : q = p
  · subst here
    constructor <;> rintro ⟨imsi, msisdn, hlr, pdp⟩ <;>
      exact ⟨imsi, msisdn, by simpa [HlrVlr.count] using hlr, by simpa [HlrVlr.count] using pdp⟩
  · constructor <;> rintro ⟨imsi, msisdn, hlr, pdp⟩ <;>
      exact ⟨imsi, msisdn, by simpa [HlrVlr.count, here] using hlr,
        by simpa [HlrVlr.count, here] using pdp⟩

/-- The handler's use was the only one: the record is gone, so another one would have to have the
IMSI. -/
theorem holdsData_put_last (last : (v.data p).useCount ≤ 1)
    (holds : HoldsData apnToStr (vlrSubscrPut v p) gsup) :
    ∃ q ∈ v.store.subscribers, q ≠ p ∧ (v.store.subscr q).imsi = gsup.imsi := by
  obtain ⟨q, listed, data⟩ := holds
  have imsi := data.imsi
  have dropped : ((v.count p (-1)).data p).useCount ≤ 0 := by
    simp only [HlrVlr.count, Function.update_self]
    omega
  simp only [vlrSubscrPut, if_pos dropped, subscribers_free, imsi_free] at listed imsi
  obtain ⟨before, other⟩ := List.mem_filter.mp listed
  exact ⟨q, before, by simpa using other, imsi⟩

theorem holdsData_put (more : 1 < (v.data p).useCount) :
    HoldsData apnToStr (vlrSubscrPut v p) gsup ↔ HoldsData apnToStr v gsup := by
  have kept : ¬ ((v.count p (-1)).data p).useCount ≤ 0 := by
    simp only [HlrVlr.count, Function.update_self]
    omega
  simp only [vlrSubscrPut, if_neg kept]
  exact exists_congr fun q => and_congr_right fun _ => hasData_count

section

variable (coherent : Coherent cfg True tmsis v.store)
include coherent

/-- A record that is found takes what fits, and stays if anybody else uses it. -/
theorem holdsData_of_found (found : vlrSubscrFindByImsi cfg v.store gsup.imsi = some p) :
    HoldsData apnToStr (vlrSubscrPut (vlrSubscrGsupInsertData apnToStr (v.count p 1) p gsup) p) gsup ↔
      DataFits apnToStr cfg v gsup := by
  obtain ⟨listed, has, named⟩ := coherent.of_findByImsi found
  have only : ∀ q ∈ v.store.subscribers, (v.store.subscr q).imsi = gsup.imsi → q = p :=
    fun q inList same => coherent.imsiUnique trivial q inList p listed (same ▸ named)
      (same.trans has.symm)
  have count : ((vlrSubscrGsupInsertData apnToStr (v.count p 1) p gsup).data p).useCount =
      (v.data p).useCount + 1 := by
    simp [vlrSubscrGsupInsertData, HlrVlr.count]
  have list : (vlrSubscrGsupInsertData apnToStr (v.count p 1) p gsup).store.subscribers =
    v.store.subscribers := insertData_subscribers
  have written := hasData_iff apnToStr (v := v.count p 1) has
  rw [show ((v.count p 1).data p).pdpList = (v.data p).pdpList by simp [HlrVlr.count]] at written
  constructor
  · intro holds
    refine ⟨p, found, ?_⟩
    by_cases used : 0 < (v.data p).useCount
    · rw [holdsData_put (by omega)] at holds
      obtain ⟨q, inList, data⟩ := holds
      have same := data.imsi
      rw [insertData_imsi] at same
      obtain rfl := only q (list ▸ inList) same
      exact ⟨used, written.mp data⟩
    · obtain ⟨q, inList, other, same⟩ := holdsData_put_last (by omega) holds
      rw [insertData_imsi] at same
      exact absurd (only q (list ▸ inList) same) other
  · rintro ⟨q, here, used, fits⟩
    obtain rfl := Option.some.inj (found.symm.trans here)
    rw [holdsData_put (by omega)]
    exact ⟨p, list ▸ listed, written.mpr fits⟩

/-- A record that is created for the request is freed again. -/
theorem not_holdsData_of_created {clocks : Clocks} {store : Store}
    (missing : vlrSubscrFindByImsi cfg v.store gsup.imsi = none) (named : gsup.imsi ≠ [])
    (created : vlrSubscrFindOrCreateByImsi cfg clocks v.store gsup.imsi = (store, p)) :
    ¬ HoldsData apnToStr (vlrSubscrPut (vlrSubscrGsupInsertData apnToStr
      (HlrVlr.count { store := store, data := Function.update v.data p {} } p 1) p gsup) p)
      gsup := by
  intro holds
  obtain ⟨q, listed, other, same⟩ := holdsData_put_last
    (by simp [vlrSubscrGsupInsertData, HlrVlr.count]) holds
  rw [insertData_subscribers] at listed
  rw [insertData_imsi] at same
  have weaker : Coherent cfg False tmsis v.store := { coherent with imsiUnique := nofun }
  obtain ⟨-, -, others⟩ := weaker.findOrCreateByImsi clocks nofun created
  obtain ⟨before, unchanged, -⟩ := others q listed other
  exact coherent.imsi_ne_of_findByImsi_eq_none missing named q before (unchanged ▸ same)

/-- A request that is answered with a result leaves a record with its data if and only if a record was
there and in use, and the data fits into it. -/
theorem vlrGsupRxIsd_holds_iff (clocks : Clocks)
    (answered : (vlrGsupRxIsd apnToStr cfg clocks v gsup).2 = .insertDataResult) :
    HoldsData apnToStr (vlrGsupRxIsd apnToStr cfg clocks v gsup).1 gsup ↔ DataFits apnToStr cfg v gsup := by
  unfold vlrGsupRxIsd isdSubscr at *
  cases found : vlrSubscrFindByImsi cfg v.store gsup.imsi with
  | some p => exact holdsData_of_found coherent found
  | none =>
      by_cases named : gsup.imsi = []
      · simp only [found, if_pos named] at answered
        cases answered
      · simp only [if_neg named]
        refine iff_of_false (not_holdsData_of_created coherent found named rfl) ?_
        rintro ⟨p, here, -⟩
        cases found.symm.trans here

end

/-- A VLR with one record, which somebody uses. -/
def oneRecord : HlrVlr where
  store := (vlrSubscrFindOrCreateByImsi chainedCfg { monotonic := some 0, realtime := 0 }
    (storeInit {} fun _ => none) [0, 0, 1]).1
  data _ := { useCount := 1 }

/-- A decoder for APNs of one label. -/
def oneLabel (octets : List UInt8) : Option String :=
  some (String.ofList (octets.tail.map fun octet => Char.ofNat octet.toNat))

/-- A request with a number and one PDP context. -/
def isdRequest : IsdRequest where
  imsi := [0, 0, 1]
  msisdnEnc := [2, 0x21, 0xf3]
  hlrEnc := some [1]
  pdpInfos := [{ contextId := 1, apnEnc := [1, 65] }]

theorem vlrGsupRxIsd_holds_iff_oneRecord :
    HoldsData oneLabel (vlrGsupRxIsd oneLabel chainedCfg { monotonic := some 0, realtime := 0 }
      oneRecord isdRequest).1 isdRequest := by
  have coherent : Coherent chainedCfg True True oneRecord.store :=
    storeStep_coherent (coherent_init _ _) (.findOrCreateByImsi _ _) (fun _ => by decide)
      fun _ => trivial
  refine (vlrGsupRxIsd_holds_iff coherent _ (by decide)).mpr ⟨0, by decide, by decide, ?_, ?_, ?_⟩
  · exact fun _ => ⟨['1', '2', '3'], by decide, by decide⟩
  · decide
  · decide

/-- The first request for an IMSI is answered with a result, and the record is gone. -/
theorem created_record_is_freed :
    let after := vlrGsupRxIsd oneLabel chainedCfg { monotonic := some 0, realtime := 0 }
      { store := storeInit {} fun _ => none } isdRequest
    after.2 = .insertDataResult ∧ ¬ HoldsData oneLabel after.1 isdRequest := by
  refine ⟨by decide, ?_⟩
  rintro ⟨p, listed, -⟩
  revert listed
  decide +revert

end

end OsmoMsc.Vlr
