/-
Module: OsmoMsc.Sms.MoSubmit
Purpose: What becomes of an RP-DATA message from a mobile (gsm_04_11.c): the walk over its length
  octets in `gsm411_rx_rp_data()`, the TPDU that `gsm340_rx_tpdu()` takes apart through a moving
  pointer, and the way over GSUP.  Neither function looks at the end of the message.  The module
  says which layout keeps every read inside the message, and what follows for the outcome.
Trusted boundary: the libosmocore decoders read no octets but those the code delimits for them
Main exports: MoSms, MoEnv, gsm340RxTpdu, gsm411RxRpUd, gsm411RxRpData, RpDataInside,
  rpUserDataEnd, gsm411RxRpData_local
-/
import Mathlib.Algebra.Group.Nat.Defs
import OsmoMsc.Library.Reading

namespace OsmoMsc.Sms

open Library Library.Reading

/-! ### The message -/

/-- `TP-VPF`. -/
inductive Vpf where
  | none
  | enhanced
  | relative
  | absolute
deriving DecidableEq, Repr

/-- `(*smsp & 0x18) >> 3`. -/
def vpfOf (first : UInt8) : Vpf :=
  match (first >>> 3).toNat % 4 with
  | 0 => .none
  | 1 => .enhanced
  | 2 => .relative
  | _ => .absolute

/-- `struct gsm_sms`, as `gsm340_rx_tpdu()` fills it in. -/
structure MoSms where
  statusRepReq : Bool
  udHdrInd : Bool
  msgRef : UInt8
  transactionId : Nat
  gsm411MsgRef : UInt8
  dstTon : Nat
  dstNpi : Nat
  dstAddr : List Char
  protocolId : UInt8
  dataCodingScheme : UInt8
  userDataLen : Nat
  userData : List UInt8
  text : List Char
  srcAddr : List Char
  validityMinutes : Nat
deriving DecidableEq, Repr

/-- `GSM411_RP_CAUSE_MO_NET_OUT_OF_ORDER`. -/
def causeMoNetOutOfOrder : Int := 38

/-- `GSM411_RP_CAUSE_SEMANT_INC_MSG`. -/
def causeSemantIncMsg : Int := 95

/-- `GSM411_RP_CAUSE_INV_MAND_INF`. -/
def causeInvMandInf : Int := 96

/-- `GSM411_RP_CAUSE_IE_NOTEXIST`. -/
def causeIeNotexist : Int := 99

/-- `-EINPROGRESS`. -/
def eInProgress : Int := -115

/-- What `gsm411_gsup_mo_fwd_sm_req()` puts into the GSUP message. -/
structure GsupMoFwdSm where
  smRpMr : UInt8
  smRpDa : List UInt8
  smRpUi : List UInt8
deriving DecidableEq, Repr

/-- What the functions meet besides the message: the transaction and its subscriber, the
configuration, the decoders of libosmocore, and what routing, storing and sending return.
`getSmsAlphabet` returns whether the alphabet is the default one, and `none` for `0xffffffff`. -/
structure MoEnv where
  smsOverGsup : Bool := false
  hasMscA : Bool := true
  hasVsub : Bool := true
  smsAlloc : Bool := true
  transactionId : Nat := 0
  msisdn : List Char := []
  minimumValidityMins : Nat := 1
  decodeBcdNumber2 : List UInt8 → Option (List Char)
  getSmsAlphabet : UInt8 → Option Bool
  gsm7bitDecodeN : List UInt8 → Nat → List Char
  validityPeriod : Vpf → List UInt8 → Nat
  /-- `sms_route_mt_sms()`: its return value, and whether it left the message with an ESME. -/
  routeMtSms : MoSms → Int × Bool
  dbSmsStore : MoSms → Bool
  encodeMsisdn : Bool := true
  gsupMuxTx : GsupMoFwdSm → Int

/-- The RP message that answers the mobile. -/
inductive RpAnswer where
  | ack
  | error (cause : UInt8)
deriving DecidableEq, Repr

/-- What `gsm340_rx_tpdu()` returns, and the message it routed and the one it stored. -/
structure TpduOutcome where
  rc : Int
  routed : Option MoSms := none
  stored : Option MoSms := none
deriving DecidableEq, Repr

/-- The outcome of an RP-DATA: the answer with its RP message reference, and what was routed, stored
or forwarded. -/
structure RpOutcome where
  answer : Option (UInt8 × RpAnswer) := none
  routed : Option MoSms := none
  stored : Option MoSms := none
  forwarded : Option GsupMoFwdSm := none
deriving DecidableEq, Repr

/-! ### `gsm340_rx_tpdu()` -/

/-- `2 + *smsp/2 + *smsp%2`: the octets of the destination address. -/
def daLenBytes (daLen : UInt8) : Nat := 2 + daLen.toNat / 2 + daLen.toNat % 2

/-- The octets of an enhanced validity period: one more with the additional functionality
indicator. -/
def enhancedLen (indicator : UInt8) : Nat := if indicator.toNat / 128 = 1 then 8 else 7

/-- The octets of the validity period, as far as the pointer moves over them. -/
def readValidity (vpf : Vpf) (pos : Nat) : Reading (List UInt8) :=
  match vpf with
  | .none => pure []
  | .relative => readN pos 1
  | .absolute => readN pos 7
  | .enhanced => do
      let indicator ← read pos
      readN pos (enhancedLen indicator)

/-- `TP-UDL`, cut to what fits into `user_data[]`. -/
def userDataLen (sevenBit : Bool) (udl : UInt8) : Nat :=
  if sevenBit then min udl.toNat 160 else min udl.toNat 140

/-- The octets of the user data; `gsm_get_octet_len()` for septets. -/
def userDataOctets (sevenBit : Bool) (udl : UInt8) : Nat :=
  if sevenBit then (userDataLen sevenBit udl * 7 + 7) / 8 else userDataLen sevenBit udl

/-- `gsm340_rx_sms_submit()`. -/
def gsm340RxSmsSubmit (env : MoEnv) (gsms : MoSms) : TpduOutcome :=
  if env.dbSmsStore gsms then { rc := 0, routed := some gsms, stored := some gsms }
  else { rc := causeMoNetOutOfOrder, routed := some gsms }

/-- The part of `gsm340_rx_tpdu()` from routing on.  `mti` is `TP-MTI`. -/
def routeTpdu (env : MoEnv) (mti : Nat) (gsms : MoSms) : TpduOutcome :=
  let (rc, esme) := env.routeMtSms gsms
  if esme then { rc := eInProgress, routed := some gsms }
  else if rc = causeMoNetOutOfOrder then { rc := rc, routed := some gsms }
  else if mti = 1 then gsm340RxSmsSubmit env gsms
  else { rc := causeIeNotexist, routed := some gsms }

/-- The part of `gsm340_rx_tpdu()` from the protocol identifier at `pos` on. -/
def gsm340RxTpduBody (env : MoEnv) (first msgRef gsm411MsgRef : UInt8) (addressLv : List UInt8)
    (dstAddr : List Char) (pos : Nat) : Reading TpduOutcome := do
  let protocolId ← read pos
  let dataCodingScheme ← read (pos + 1)
  match env.getSmsAlphabet dataCodingScheme with
  | none => return { rc := causeMoNetOutOfOrder }
  | some sevenBit =>
      let vpf := vpfOf first
      let vp ← readValidity vpf (pos + 2)
      let udl ← read (pos + 2 + vp.length)
      let userData ← readN (pos + 3 + vp.length) (userDataOctets sevenBit udl)
      let len := userDataLen sevenBit udl
      let typeOctet := (addressLv.getD 1 0).toNat
      return routeTpdu env (first.toNat % 4)
        { statusRepReq := first.toNat / 32 % 2 = 1
          udHdrInd := first.toNat / 64 % 2 = 1
          msgRef := msgRef
          transactionId := env.transactionId
          gsm411MsgRef := gsm411MsgRef
          dstTon := typeOctet / 16 % 8
          dstNpi := typeOctet % 16
          dstAddr := dstAddr
          protocolId := protocolId
          dataCodingScheme := dataCodingScheme
          userDataLen := len
          userData := userData
          text := if sevenBit ∧ 0 < len then env.gsm7bitDecodeN userData len else []
          srcAddr := env.msisdn
          validityMinutes := max (env.validityPeriod vpf vp) env.minimumValidityMins }

/-- `gsm340_rx_tpdu()`, with the TPDU at `pos`. -/
def gsm340RxTpdu (env : MoEnv) (pos : Nat) (gsm411MsgRef : UInt8) : Reading TpduOutcome :=
  if !env.hasMscA || !env.hasVsub || !env.smsAlloc then
    pure { rc := causeMoNetOutOfOrder }
  else do
    let first ← read pos
    let msgRef ← read (pos + 1)
    let daLen ← read (pos + 2)
    let bytes := daLenBytes daLen
    if 12 < bytes ∨ bytes < 4 then return { rc := causeSemantIncMsg }
    else
      let address ← readN (pos + 2) bytes
      -- mangle first byte to reflect length in bytes, not digits
      let addressLv := UInt8.ofNat (bytes - 1) :: address.tail
      match env.decodeBcdNumber2 addressLv with
      | none => return { rc := causeSemantIncMsg }
      | some dstAddr =>
          gsm340RxTpduBody env first msgRef gsm411MsgRef addressLv dstAddr (pos + 2 + bytes)

/-! ### `gsm411_rx_rp_data()` -/

/-- `msgb_l4len()`: the octets from `pos` to the end of a message of `len` octets, computed as an
`unsigned int`. -/
def msgbL4len (len pos : Nat) : Nat := if pos ≤ len then len - pos else 2 ^ 32 - (pos - len)

/-- `gsm411_send_rp_error()` truncates the cause to an octet. -/
def rpError (msgRef : UInt8) (cause : Int) : Option (UInt8 × RpAnswer) :=
  some (msgRef, .error (UInt8.ofInt cause))

/-- `gsm411_gsup_mo_fwd_sm_req()` and what `gsm411_rx_rp_ud()` makes of its return value. -/
def gsm411GsupMoFwdSmReq (env : MoEnv) (len : Nat) (msgRef : UInt8) (dst dstLen ud : Nat) :
    Reading RpOutcome :=
  -- -EINVAL
  if !env.encodeMsisdn then pure { answer := rpError msgRef (-22) }
  else do
    let da ← readN dst dstLen
    let ui ← readN ud (msgbL4len len ud)
    let gsup : GsupMoFwdSm := { smRpMr := msgRef, smRpDa := da, smRpUi := ui }
    let rc := env.gsupMuxTx gsup
    return { answer := if rc = 0 then none else rpError msgRef rc, forwarded := some gsup }

/-- `gsm411_rx_rp_ud()`, with the destination and the TPDU at `dst` and `ud`. -/
def gsm411RxRpUd (env : MoEnv) (len : Nat) (msgRef : UInt8) (dst dstLen ud : Nat) :
    Reading RpOutcome :=
  if env.smsOverGsup then gsm411GsupMoFwdSmReq env len msgRef dst dstLen ud
  else do
    let tpdu ← gsm340RxTpdu env ud msgRef
    let answer :=
      if tpdu.rc = 0 then some (msgRef, .ack)
      else if 0 < tpdu.rc then rpError msgRef tpdu.rc
      else none
    return { answer := answer, routed := tpdu.routed, stored := tpdu.stored }

/-- `gsm411_rx_rp_data()` on a message of `len` octets.  Position 0 is the `struct gsm411_rp_hdr`:
its length, the message type, the message reference, and then `data[]`. -/
def gsm411RxRpData (env : MoEnv) (len : Nat) : Reading RpOutcome := do
  let msgRef ← read 2
  let srcLen ← read 3
  let dstLen ← read (4 + srcLen.toNat)
  let rpudLen ← read (5 + srcLen.toNat + dstLen.toNat)
  if dstLen = 0 ∨ rpudLen = 0 then return { answer := rpError msgRef causeInvMandInf }
  else
    gsm411RxRpUd env len msgRef (5 + srcLen.toNat) dstLen.toNat (6 + srcLen.toNat + dstLen.toNat)

/-! ### Messages that hold all that is read -/

/-- Two memories hold the same octets before `stop`. -/
def SameMessage (stop : Nat) (mem mem' : Nat → UInt8) : Prop := ∀ i < stop, mem' i = mem i

/-- How many octets the validity period has. -/
def validityLen (mem : Nat → UInt8) (vpf : Vpf) (pos : Nat) : Nat :=
  match vpf with
  | .none => 0
  | .relative => 1
  | .absolute => 7
  | .enhanced => enhancedLen (mem pos)

/-- The fields from the protocol identifier at `pos` on end before `stop`; of a message in an unknown
alphabet only the first two count. -/
def TpduBodyInside (env : MoEnv) (stop : Nat) (mem : Nat → UInt8) (first : UInt8) (pos : Nat) :
    Prop :=
  pos + 1 < stop ∧
    ∀ sevenBit ∈ env.getSmsAlphabet (mem (pos + 1)),
      let udl := pos + 2 + validityLen mem (vpfOf first) (pos + 2)
      udl < stop ∧ udl + 1 + userDataOctets sevenBit (mem udl) ≤ stop

/-- `address_lv[]` of the TPDU at `pos`. -/
def addressLv (mem : Nat → UInt8) (pos : Nat) : List UInt8 :=
  let bytes := daLenBytes (mem (pos + 2))
  UInt8.ofNat (bytes - 1) :: (run mem (readN (pos + 2) bytes)).tail

/-- The TPDU at `pos` ends before `stop`, up to the field that makes the function give up; without
what it takes to process one it is not looked at. -/
def TpduInside (env : MoEnv) (stop : Nat) (mem : Nat → UInt8) (pos : Nat) : Prop :=
  let bytes := daLenBytes (mem (pos + 2))
  env.hasMscA = true → env.hasVsub = true → env.smsAlloc = true →
    pos + 2 < stop ∧
      (4 ≤ bytes → bytes ≤ 12 →
        pos + 2 + bytes ≤ stop ∧
          ((env.decodeBcdNumber2 (addressLv mem pos)).isSome →
            TpduBodyInside env stop mem (mem pos) (pos + 2 + bytes)))

/-- The length octets of an RP-DATA of `len` octets stand before `stop`, and so does the TPDU if it is
looked at.  What goes to GSUP is the rest of the message, whatever the length of the RP-User-Data. -/
def RpDataInside (env : MoEnv) (len stop : Nat) (mem : Nat → UInt8) : Prop :=
  let src := (mem 3).toNat
  let dst := (mem (4 + src)).toNat
  5 + src + dst < stop ∧
    (dst ≠ 0 → mem (5 + src + dst) ≠ 0 →
      if env.smsOverGsup then env.encodeMsisdn = true → stop = len
      else TpduInside env stop mem (6 + src + dst))

/-- Where the RP-User-Data of an RP-DATA of `len` octets ends, by its length octet or with the
message. -/
def rpUserDataEnd (len : Nat) (mem : Nat → UInt8) : Nat :=
  let src := (mem 3).toNat
  let dst := (mem (4 + src)).toNat
  min len (6 + src + dst + (mem (5 + src + dst)).toNat)

section Extent

variable {env : MoEnv} {len stop : Nat} {mem : Nat → UInt8}

theorem run_readValidity_length (vpf : Vpf) (pos : Nat) :
    (run mem (readValidity vpf pos)).length = validityLen mem vpf pos := by
  cases vpf <;> simp [readValidity, validityLen]

theorem extent_readValidity_le (mem : Nat → UInt8) (vpf : Vpf) (pos : Nat) :
    extent mem (readValidity vpf pos) ≤ pos + validityLen mem vpf pos := by
  cases vpf with
  | none => simp [readValidity]
  | relative | absolute => simp [readValidity, validityLen, extent_readN]
  | enhanced =>
      have some' : 7 ≤ enhancedLen (mem pos) := by
        unfold enhancedLen
        split <;> omega
      simp only [readValidity, validityLen, extent_read_bind, extent_readN]
      split <;> omega

theorem extent_tpduBody_le_iff {first msgRef gsm411MsgRef : UInt8} {address : List UInt8}
    {dstAddr : List Char} {pos : Nat} :
    extent mem (gsm340RxTpduBody env first msgRef gsm411MsgRef address dstAddr pos) ≤ stop ↔
      TpduBodyInside env stop mem first pos := by
  simp only [gsm340RxTpduBody, TpduBodyInside, extent_read_bind]
  cases alphabet : env.getSmsAlphabet (mem (pos + 1)) with
  | none =>
      simp only [extent_pure, Option.not_mem_none, false_implies, implies_true, and_true]
      omega
  | some sevenBit =>
      have vp := extent_readValidity_le mem (vpfOf first) (pos + 2)
      simp only [extent_bind, extent_read, extent_pure, run_read, run_readValidity_length,
        extent_readN, Option.mem_some_iff, forall_eq']
      split <;> omega

theorem extent_tpdu_le_iff {pos : Nat} (gsm411MsgRef : UInt8) :
    extent mem (gsm340RxTpdu env pos gsm411MsgRef) ≤ stop ↔ TpduInside env stop mem pos := by
  unfold gsm340RxTpdu TpduInside
  split
  · rename_i missing
    simp only [extent_pure, Nat.zero_le, true_iff]
    grind
  · rename_i present
    have given : (env.hasMscA = true ∧ env.hasVsub = true) ∧ env.smsAlloc = true := by
      simpa using present
    simp only [given, forall_true_left, extent_read_bind]
    by_cases invalid : 12 < daLenBytes (mem (pos + 2)) ∨ daLenBytes (mem (pos + 2)) < 4
    · rw [if_pos invalid, extent_pure]
      omega
    · rw [if_neg invalid, extent_bind, extent_readN]
      change max _ (max _ (max _ (max _ (extent mem
          (match env.decodeBcdNumber2 (addressLv mem pos) with
            | none => pure { rc := causeSemantIncMsg }
            | some dstAddr =>
                gsm340RxTpduBody env (mem pos) (mem (pos + 1)) gsm411MsgRef (addressLv mem pos)
                  dstAddr (pos + 2 + daLenBytes (mem (pos + 2)))))))) ≤ stop ↔ _
      cases result : env.decodeBcdNumber2 (addressLv mem pos) with
      | none =>
          simp only [extent_pure, Option.isSome_none, Bool.false_eq_true, false_implies, and_true]
          split <;> omega
      | some dstAddr =>
          have body := @extent_tpduBody_le_iff env stop mem (mem pos) (mem (pos + 1)) gsm411MsgRef
            (addressLv mem pos) dstAddr (pos + 2 + daLenBytes (mem (pos + 2)))
          simp only [Option.isSome_some, forall_true_left, ← body]
          split <;> omega

theorem extent_gsupMoFwdSmReq_le_iff {msgRef : UInt8} {dst dstLen ud : Nat}
    (before : dst + dstLen ≤ ud) (ahead : ud ≤ stop) (inMessage : stop ≤ len) :
    extent mem (gsm411GsupMoFwdSmReq env len msgRef dst dstLen ud) ≤ stop ↔
      (env.encodeMsisdn = true → stop = len) := by
  unfold gsm411GsupMoFwdSmReq
  cases encodes : env.encodeMsisdn with
  | false => simp
  | true =>
      have rest : msgbL4len len ud = len - ud := if_pos (by omega)
      simp only [Bool.not_true, Bool.false_eq_true, if_false, extent_bind, extent_pure, extent_readN,
        rest, forall_true_left]
      split <;> split <;> omega

theorem extent_rpUd_le_iff {msgRef : UInt8} {dst dstLen ud : Nat} (before : dst + dstLen ≤ ud)
    (ahead : ud ≤ stop) (inMessage : stop ≤ len) :
    extent mem (gsm411RxRpUd env len msgRef dst dstLen ud) ≤ stop ↔
      if env.smsOverGsup then env.encodeMsisdn = true → stop = len
      else TpduInside env stop mem ud := by
  unfold gsm411RxRpUd
  split
  · exact extent_gsupMoFwdSmReq_le_iff before ahead inMessage
  · simp [extent_bind, extent_tpdu_le_iff]

theorem extent_rpData_le_iff (inMessage : stop ≤ len) :
    extent mem (gsm411RxRpData env len) ≤ stop ↔ RpDataInside env len stop mem := by
  have none (x : UInt8) : x = 0 ↔ x.toNat = 0 := by simp [← UInt8.toNat_inj]
  simp only [gsm411RxRpData, RpDataInside, extent_read_bind, none, ne_eq]
  generalize (mem 3).toNat = src
  generalize (mem (4 + src)).toNat = dst
  by_cases head : 5 + src + dst < stop
  · by_cases missing : dst = 0 ∨ (mem (5 + src + dst)).toNat = 0
    · rw [if_pos missing, extent_pure]
      exact ⟨fun _ => ⟨head, fun dst' rpud => (missing.elim dst' rpud).elim⟩, fun _ => by omega⟩
    · rw [if_neg missing]
      rw [not_or] at missing
      have ud := @extent_rpUd_le_iff env len stop mem (mem 2) (5 + src) dst (6 + src + dst)
        (by omega) (by omega) inMessage
      rw [← ud]
      constructor
      · exact fun all => ⟨head, fun _ _ => by omega⟩
      · rintro ⟨_, rest⟩
        have fields := rest missing.1 missing.2
        omega
  · constructor <;> intro all <;> omega

theorem run_rpData_of_inside (inMessage : stop ≤ len) (inside : RpDataInside env len stop mem)
    {mem' : Nat → UInt8} (same : SameMessage stop mem mem') :
    run mem' (gsm411RxRpData env len) = run mem (gsm411RxRpData env len) := by
  have reads := (extent_rpData_le_iff inMessage).mpr inside
  exact run_congr fun i below => same i (by omega)

end Extent

/-- The condition is exactly that no octet from `stop` on is read.  Where it holds at the end of the
RP-User-Data, what is stored, forwarded and answered is the same whatever stands behind that; where it
holds at the end of the message, whatever the memory behind the message holds.  The same is true of
the TPDU by itself. -/
theorem gsm411RxRpData_local (env : MoEnv) (len : Nat) (mem : Nat → UInt8) :
    (∀ stop ≤ len, extent mem (gsm411RxRpData env len) ≤ stop ↔ RpDataInside env len stop mem) ∧
    (RpDataInside env len (rpUserDataEnd len mem) mem →
      ∀ mem', SameMessage (rpUserDataEnd len mem) mem mem' →
        run mem' (gsm411RxRpData env len) = run mem (gsm411RxRpData env len)) ∧
    (RpDataInside env len len mem → ∀ mem', SameMessage len mem mem' →
      run mem' (gsm411RxRpData env len) = run mem (gsm411RxRpData env len)) ∧
    ∀ pos gsm411MsgRef stop,
      (extent mem (gsm340RxTpdu env pos gsm411MsgRef) ≤ stop ↔ TpduInside env stop mem pos) ∧
      (TpduInside env stop mem pos → ∀ mem', SameMessage stop mem mem' →
        run mem' (gsm340RxTpdu env pos gsm411MsgRef) =
          run mem (gsm340RxTpdu env pos gsm411MsgRef)) := by
  refine ⟨fun stop inMessage => extent_rpData_le_iff inMessage,
    fun inside mem' => run_rpData_of_inside (Nat.min_le_left _ _) inside,
    fun inside mem' => run_rpData_of_inside (Nat.le_refl len) inside, ?_⟩
  intro pos gsm411MsgRef stop
  refine ⟨extent_tpdu_le_iff gsm411MsgRef, fun inside mem' same => ?_⟩
  have reads := (extent_tpdu_le_iff gsm411MsgRef).mpr inside
  exact run_congr fun i below => same i (by omega)

/-- A message in a memory that holds `after` everywhere behind it. -/
def placed (message : List UInt8) (after : UInt8) (i : Nat) : UInt8 := message.getD i after

theorem sameMessage_placed (message : List UInt8) (after after' : UInt8) :
    SameMessage message.length (placed message after) (placed message after') := by
  intro i inside
  simp [placed, List.getD_eq_getElem?_getD, inside]

/-- A network that stores every message locally. -/
def localEnv : MoEnv where
  decodeBcdNumber2 _ := some ['1', '2', '3', '4']
  getSmsAlphabet dcs := some (dcs = 0)
  gsm7bitDecodeN octets _ := octets.map fun octet => Char.ofNat octet.toNat
  validityPeriod _ _ := 1440
  routeMtSms _ := (1, false)
  dbSmsStore _ := true
  gsupMuxTx _ := 0

/-- An RP-DATA with reference 7, no originator, a service centre of one digit octet, and an
SMS-SUBMIT of one octet of 8 bit data to a number of four digits. -/
def submitMessage : List UInt8 :=
  [15, 0, 7, 0, 2, 0x91, 0x21, 10, 0x01, 9, 4, 0x91, 0x21, 0x43, 0, 4, 1, 0x78]

theorem gsm411RxRpData_local_submit :
    rpUserDataEnd 20 (placed submitMessage 0) = 18 ∧
    RpDataInside localEnv 20 18 (placed submitMessage 0) ∧
    SameMessage 18 (placed submitMessage 0) (placed submitMessage 255) ∧
    (run (placed submitMessage 0) (gsm411RxRpData localEnv 20)).answer = some (7, .ack) ∧
    run (placed submitMessage 255) (gsm411RxRpData localEnv 20) =
      run (placed submitMessage 0) (gsm411RxRpData localEnv 20) := by
  have inside : RpDataInside localEnv 20 18 (placed submitMessage 0) := by
    refine ⟨by decide, fun _ _ _ _ _ => ⟨by decide, fun _ _ => ⟨by decide, fun _ => ⟨by decide, ?_⟩⟩⟩⟩
    intro sevenBit alphabet
    obtain rfl : false = sevenBit := Option.some.inj alphabet
    decide
  have same := sameMessage_placed submitMessage 0 255
  exact ⟨by decide, inside, same, by decide, (gsm411RxRpData_local _ _ _).2.1 inside _ same⟩

/-- An RP-DATA that ends inside its destination address. -/
def truncatedMessage : List UInt8 := [5, 0, 7, 0, 1, 0x91]

/-- The octet after the message is taken for the length of the RP-User-Data: with a zero there the
mobile gets the cause for invalid mandatory information, and with anything else one for the TPDU
that is not there. -/
theorem truncated_answer_from_after :
    SameMessage 6 (placed truncatedMessage 0) (placed truncatedMessage 1) ∧
    (run (placed truncatedMessage 0) (gsm411RxRpData localEnv 6)).answer =
      some (7, .error 96) ∧
    (run (placed truncatedMessage 1) (gsm411RxRpData localEnv 6)).answer =
      some (7, .error 95) := by
  exact ⟨sameMessage_placed truncatedMessage 0 1, by decide, by decide⟩

end OsmoMsc.Sms
