/-
Module: OsmoMsc.Cdr.Ticket
Purpose: The charging tickets the MSC writes (msc_cdr.c): what `emit_row()` prints into the columns
  of a line, and the file the lines go to, with its header, its rotation and its reopening after a
  change of the configuration.  Each file keeps beside its text the rows that were written to it.
Trusted boundary: the calendar of the C library and the MME name parser of libosmogsm are parameters
  (`Host`); a file is changed by the MSC alone, and a failed `fflush()` leaves nothing in it
Main exports: Column, cdrHeader, RowArgs, RowData, RowData.given, RowData.printed, RowData.line,
  CdrNet, emitRow, cdrStep, cdrRun
-/
import OsmoMsc.Library.CText
import OsmoMsc.Msc.MscAFsm
import OsmoMsc.Sgs.Persist

namespace OsmoMsc.Cdr

open Library Library.CText Msc Sgs

/-! ### Columns -/

/-- The columns of a ticket. -/
inductive Column where
  | recordType | recordNumber | sequenceNumber | partialRecord | recordingEntity | mscAddress
  | servedImsi | servedImei | servedImeisv | servedMsisdn
  | callingNumber | calledNumber | translatedNumber | connectedNumber
  | destinationNumber | origination | serviceCentre
  | seizureTime | setupTime | alertingTime | answerTime | releaseTime
  | originationTime | deliveryTime
  | callDuration | ringing | causeForTerm | diagnostics
  | callReference | networkCallReference
  | mcc | mnc | lac | ci | globalAreaId | firstMccmnc | lastMccmnc
  | ran | systemType | incomingRoute | outgoingRoute
  | bscPc | cipher | msClassmark | hlr | mme | emergency | bearer | codec | result
  | smsDcs | smsPid | smsRpMr | smsTextLen
deriving DecidableEq, Repr

/-- The name of a column in the header. -/
def Column.name : Column → Text
  | recordType => ascii "record_type"
  | recordNumber => ascii "record_number"
  | sequenceNumber => ascii "sequence_number"
  | partialRecord => ascii "partial"
  | recordingEntity => ascii "recording_entity"
  | mscAddress => ascii "msc_address"
  | servedImsi => ascii "served_imsi"
  | servedImei => ascii "served_imei"
  | servedImeisv => ascii "served_imeisv"
  | servedMsisdn => ascii "served_msisdn"
  | callingNumber => ascii "calling_number"
  | calledNumber => ascii "called_number"
  | translatedNumber => ascii "translated_number"
  | connectedNumber => ascii "connected_number"
  | destinationNumber => ascii "destination_number"
  | origination => ascii "origination"
  | serviceCentre => ascii "service_centre"
  | seizureTime => ascii "seizure_time"
  | setupTime => ascii "setup_time"
  | alertingTime => ascii "alerting_time"
  | answerTime => ascii "answer_time"
  | releaseTime => ascii "release_time"
  | originationTime => ascii "origination_time"
  | deliveryTime => ascii "delivery_time"
  | callDuration => ascii "call_duration"
  | ringing => ascii "ringing"
  | causeForTerm => ascii "cause_for_term"
  | diagnostics => ascii "diagnostics"
  | callReference => ascii "call_reference"
  | networkCallReference => ascii "network_call_reference"
  | mcc => ascii "mcc"
  | mnc => ascii "mnc"
  | lac => ascii "lac"
  | ci => ascii "ci"
  | globalAreaId => ascii "global_area_id"
  | firstMccmnc => ascii "first_mccmnc"
  | lastMccmnc => ascii "last_mccmnc"
  | ran => ascii "ran"
  | systemType => ascii "system_type"
  | incomingRoute => ascii "incoming_route"
  | outgoingRoute => ascii "outgoing_route"
  | bscPc => ascii "bsc_pc"
  | cipher => ascii "cipher"
  | msClassmark => ascii "ms_classmark"
  | hlr => ascii "hlr"
  | mme => ascii "mme"
  | emergency => ascii "emergency"
  | bearer => ascii "bearer"
  | codec => ascii "codec"
  | result => ascii "result"
  | smsDcs => ascii "sms_dcs"
  | smsPid => ascii "sms_pid"
  | smsRpMr => ascii "sms_rp_mr"
  | smsTextLen => ascii "sms_text_len"

/-- The columns in the order of `cdr_header`. -/
def headerColumns : List Column :=
  [.recordType, .recordNumber, .sequenceNumber, .partialRecord,
   .recordingEntity, .mscAddress,
   .servedImsi, .servedImei, .servedImeisv, .servedMsisdn,
   .callingNumber, .calledNumber, .translatedNumber, .connectedNumber,
   .destinationNumber, .origination, .serviceCentre,
   .seizureTime, .setupTime, .alertingTime, .answerTime, .releaseTime,
   .originationTime, .deliveryTime,
   .callDuration, .ringing, .causeForTerm, .diagnostics,
   .callReference, .networkCallReference,
   .mcc, .mnc, .lac, .ci, .globalAreaId, .firstMccmnc, .lastMccmnc,
   .ran, .systemType, .incomingRoute, .outgoingRoute,
   .bscPc, .cipher, .msClassmark, .hlr, .mme, .emergency, .bearer, .codec, .result,
   .smsDcs, .smsPid, .smsRpMr, .smsTextLen]

/-- `cdr_header`, without its line feed. -/
def cdrHeader : Text := [','].intercalate (headerColumns.map Column.name)

/-! ### What a row is made of -/

/-- `struct tm`. -/
structure Tm where
  year : Int
  mon : Int
  mday : Int
  hour : Int
  min : Int
  sec : Int
  yday : Int
deriving DecidableEq, Repr

/-- What other libraries compute: `gmtime_r()`, and the PLMN of `osmo_parse_mme_domain()`. -/
structure Host where
  gmtime : Int → Tm
  parseMmeDomain : Text → Option PlmnId

/-- `enum msc_cdr_rotate`. -/
inductive Rotate where
  | none
  | fiveMin
  | hourly
  | daily
deriving DecidableEq, Repr

/-- The fields of `struct vlr_subscr` a ticket shows. -/
structure CdrVsub where
  imsi : CStr
  imei : CStr
  imeisv : CStr
  msisdn : CStr
  mmeName : CStr
  cgiLai : LocationAreaId := {}
  cellIdentity : Nat := 0
  lastEutranPlmnPresent : Bool := false
  lastEutranPlmn : PlmnId := {}
  sgsLai : LocationAreaId := {}
  /-- `OSMO_RAT_UNKNOWN` is `none`. -/
  attachedViaRan : Option OsmoRatType := none
  classmark2 : List UInt8 := []
  hlr : List UInt8 := []

/-- The fields of `struct msc_a` a ticket shows. -/
structure CdrMscA where
  ran : Option OsmoRatType := none
  /-- The point code of the peer of the `msc_i`'s connection, where there is all of these. -/
  peerPc : Option Nat := none
  algId : Nat := 0

/-- The arguments of `emit_row()`, apart from the network. -/
structure RowArgs where
  vsub : Option CdrVsub := none
  /-- `trans`, of which only its `msc_a` matters. -/
  trans : Option (Option CdrMscA) := none
  mscA : Option CdrMscA := none
  recordType : Int := 0
  sequence : Int := 0
  partialRecord : Int := 0
  calling : Option CStr := none
  called : Option CStr := none
  translated : Option CStr := none
  connected : Option CStr := none
  destination : Option CStr := none
  origination : Option CStr := none
  serviceCentre : Option CStr := none
  tSeizure : Int := 0
  tSetup : Int := 0
  tAlert : Int := 0
  tAnswer : Int := 0
  tRelease : Int := 0
  tOrigination : Int := 0
  tDelivery : Int := 0
  duration : Int := 0
  ringing : Int := 0
  cft : Int := 0
  diagnostics : Option CStr := none
  callref : UInt32 := 0
  outgoingRoute : Option CStr := none
  emergency : Int := 0
  bearer : Option CStr := none
  codec : Option CStr := none
  result : Option CStr := none
  smsDcs : Option CStr := none
  smsPid : Option CStr := none
  smsRpMr : Option CStr := none
  smsTextLen : Option CStr := none

/-- `s ? s : ""`. -/
def orEmpty (s : Option CStr) : Text := (s.map Subtype.val).getD []

/-- `snprintf()` into a buffer of `size` characters. -/
def snprintf (size : Nat) (text : Text) : Text := text.take (size - 1)

variable (host : Host)

/-- `fmt_time()`. -/
def fmtTime (t : Int) : Text :=
  if t = 0 then []
  else
    let tm := host.gmtime t
    snprintf 32 (padText 4 (tm.year + 1900) ++ padText 2 (tm.mon + 1) ++ padText 2 tm.mday ++
      padText 2 tm.hour ++ padText 2 tm.min ++ padText 2 tm.sec)

/-- `ctx_ran()`. -/
def ctxRan (trans : Option (Option CdrMscA)) (mscA : Option CdrMscA) (vsub : Option CdrVsub) :
    Option OsmoRatType :=
  match trans.join.bind CdrMscA.ran, mscA.bind CdrMscA.ran with
  | some ran, _ => some ran
  | none, some ran => some ran
  | none, none => vsub.bind CdrVsub.attachedViaRan

/-- `osmo_rat_type_name()`. -/
def osmoRatTypeName : Option OsmoRatType → Text
  | none => ascii "unknown"
  | some .geranA => ascii "GERAN-A"
  | some .utranIu => ascii "UTRAN-Iu"
  | some .eutranSgs => ascii "EUTRAN-SGs"

/-- `system_type_str()`. -/
def systemTypeStr : Option OsmoRatType → Text
  | some .geranA => ascii "2"
  | some .utranIu => ascii "1"
  | _ => ascii "0"

/-- `incoming_route()`. -/
def incomingRoute : Option OsmoRatType → Text
  | some .geranA => ascii "GERAN"
  | some .utranIu => ascii "UTRAN"
  | some .eutranSgs => ascii "SGS"
  | none => []

/-- `osmo_hexdump_buf()` without delimiters: whole bytes, as many as fit. -/
def hexdump (size : Nat) (bytes : List UInt8) : Text :=
  (bytes.take ((size - 1) / 2)).flatMap fun b =>
    [(b.toNat / 16).digitChar, (b.toNat % 16).digitChar]

/-- `fill_classmark()`. -/
def fillClassmark (vsub : Option CdrVsub) : Text :=
  (vsub.map fun v => hexdump 80 v.classmark2).getD []

/-- `fill_hlr()`. -/
def fillHlr (vsub : Option CdrVsub) : Text := (vsub.map fun v => hexdump 80 v.hlr).getD []

/-- The `msc_a` that `fill_bsc_pc()` and `fill_cipher()` ask. -/
def cdrMscA (trans : Option (Option CdrMscA)) (mscA : Option CdrMscA) : Option CdrMscA :=
  mscA.or trans.join

/-- `fill_bsc_pc()`. -/
def fillBscPc (trans : Option (Option CdrMscA)) (mscA : Option CdrMscA) : Text :=
  match (cdrMscA trans mscA).bind CdrMscA.peerPc with
  | none => []
  | some pc => snprintf 16 (decText pc)

/-- `fill_cipher()`. -/
def fillCipher (trans : Option (Option CdrMscA)) (mscA : Option CdrMscA) : Text :=
  match cdrMscA trans mscA with
  | none => []
  | some a => if a.algId = 0 then [] else snprintf 8 (decText a.algId)

/-- `plmn_from_imsi()`: the first five digits, if there are five. -/
def plmnFromImsi (imsi : Text) : PlmnId :=
  match (imsi.filter Char.isDigit).take 5 with
  | [a, b, c, d, e] =>
      let digit := fun x : Char => x.toNat - '0'.toNat
      { mcc := digit a * 100 + digit b * 10 + digit c, mnc := digit d * 10 + digit e }
  | _ => {}

/-- `plmn_from_mme()`. -/
def plmnFromMme (mme : Text) : Option PlmnId :=
  if mme = [] then none
  else (host.parseMmeDomain mme).filter fun plmn => plmn.mcc ≠ 0

/-- The PLMN of `fill_location()`: the last one seen, or a guess. -/
def locationPlmn (vsub : CdrVsub) : PlmnId :=
  if vsub.cgiLai.plmn.mcc ≠ 0 then vsub.cgiLai.plmn
  else if vsub.lastEutranPlmnPresent = true ∧ vsub.lastEutranPlmn.mcc ≠ 0 then vsub.lastEutranPlmn
  else if vsub.sgsLai.plmn.mcc ≠ 0 then vsub.sgsLai.plmn
  else
    match plmnFromMme host vsub.mmeName.val with
    | some plmn => plmn
    | none => plmnFromImsi vsub.imsi.val

/-- The texts `fill_location()` fills. -/
structure Location where
  mcc : Text := []
  mnc : Text := []
  lac : Text := []
  ci : Text := []
  gai : Text := []
  mccmnc : Text := []

/-- `%u` into a buffer, unless the number is 0. -/
def fillNonzero (size n : Nat) : Text := if n = 0 then [] else snprintf size (decText n)

/-- `fill_location()`. -/
def fillLocation : Option CdrVsub → Location
  | none => {}
  | some vsub =>
      let plmn := locationPlmn host vsub
      let mcc := if plmn.mcc = 0 then [] else snprintf 8 (padText 3 plmn.mcc)
      let mnc :=
        if plmn.mcc = 0 then []
        else snprintf 8 (padText (if plmn.mnc3Digits then 3 else 2) plmn.mnc)
      let lac :=
        fillNonzero 12 (if vsub.cgiLai.lac ≠ 0 then vsub.cgiLai.lac else vsub.sgsLai.lac)
      let ci := fillNonzero 12 vsub.cellIdentity
      { mcc, mnc, lac, ci
        gai :=
          if mcc ≠ [] ∧ mnc ≠ [] then
            snprintf 48 (mcc ++ '-' :: mnc ++ '-' :: lac ++ '-' :: ci)
          else []
        mccmnc := if plmn.mcc = 0 then [] else snprintf 16 (mcc ++ mnc) }

/-- The values behind the format of `emit_row()`. -/
structure RowData where
  recordType : Int
  recordNumber : Nat
  sequence : Int
  partialRecord : Int
  entity : Text
  imsi : Text
  imei : Text
  imeisv : Text
  msisdn : Text
  calling : Text
  called : Text
  translated : Text
  connected : Text
  destination : Text
  origination : Text
  serviceCentre : Text
  seizure : Text
  setup : Text
  alert : Text
  answer : Text
  release : Text
  origT : Text
  deliv : Text
  duration : Int
  ringing : Int
  cft : Int
  diagnostics : Text
  callref : UInt32
  location : Location
  ran : Option OsmoRatType
  outgoingRoute : Text
  bscPc : Text
  cipher : Text
  classmark : Text
  hlr : Text
  mme : Text
  emergency : Int
  bearer : Text
  codec : Text
  result : Text
  smsDcs : Text
  smsPid : Text
  smsRpMr : Text
  smsTextLen : Text

variable (row : RowData)

/-- `0x%x`. -/
def callrefText (callref : UInt32) : Text := '0' :: 'x' :: hexText callref.toNat

/-- The value a row holds for a column. -/
def RowData.given : Column → Text
  | .recordType => decText row.recordType
  | .recordNumber => decText row.recordNumber
  | .sequenceNumber => decText row.sequence
  | .partialRecord => decText row.partialRecord
  | .recordingEntity | .mscAddress => row.entity
  | .servedImsi => row.imsi
  | .servedImei => row.imei
  | .servedImeisv => row.imeisv
  | .servedMsisdn => row.msisdn
  | .callingNumber => row.calling
  | .calledNumber => row.called
  | .translatedNumber => row.translated
  | .connectedNumber => row.connected
  | .destinationNumber => row.destination
  | .origination => row.origination
  | .serviceCentre => row.serviceCentre
  | .seizureTime => row.seizure
  | .setupTime => row.setup
  | .alertingTime => row.alert
  | .answerTime => row.answer
  | .releaseTime => row.release
  | .originationTime => row.origT
  | .deliveryTime => row.deliv
  | .callDuration => decText row.duration
  | .ringing => decText row.ringing
  | .causeForTerm => decText row.cft
  | .diagnostics => row.diagnostics
  | .callReference | .networkCallReference => callrefText row.callref
  | .mcc => row.location.mcc
  | .mnc => row.location.mnc
  | .lac => row.location.lac
  | .ci => row.location.ci
  | .globalAreaId => row.location.gai
  | .firstMccmnc | .lastMccmnc => row.location.mccmnc
  | .ran => osmoRatTypeName row.ran
  | .systemType => systemTypeStr row.ran
  | .incomingRoute => Cdr.incomingRoute row.ran
  | .outgoingRoute => row.outgoingRoute
  | .bscPc => row.bscPc
  | .cipher => row.cipher
  | .msClassmark => row.classmark
  | .hlr => row.hlr
  | .mme => row.mme
  | .emergency => decText row.emergency
  | .bearer => row.bearer
  | .codec => row.codec
  | .result => row.result
  | .smsDcs => row.smsDcs
  | .smsPid => row.smsPid
  | .smsRpMr => row.smsRpMr
  | .smsTextLen => row.smsTextLen

/-- The values in the order in which the format of `emit_row()` prints them. -/
def RowData.printed : List Text :=
  [decText row.recordType, decText row.recordNumber, decText row.sequence,
   decText row.partialRecord,
   row.entity, row.entity,
   row.imsi, row.imei, row.imeisv, row.msisdn,
   row.calling, row.called, row.translated, row.connected,
   row.destination, row.origination, row.serviceCentre,
   row.seizure, row.setup, row.alert, row.answer, row.release,
   row.origT, row.deliv,
   decText row.duration, decText row.ringing, decText row.cft, row.diagnostics,
   callrefText row.callref, callrefText row.callref,
   row.location.mcc, row.location.mnc, row.location.lac, row.location.ci, row.location.gai,
   row.location.mccmnc, row.location.mccmnc,
   osmoRatTypeName row.ran, systemTypeStr row.ran, incomingRoute row.ran, row.outgoingRoute,
   row.bscPc, row.cipher, row.classmark, row.hlr, row.mme, decText row.emergency, row.bearer,
   row.codec, row.result,
   row.smsDcs, row.smsPid, row.smsRpMr, row.smsTextLen]

/-- The text of the row, before it is cut to the size of the buffer. -/
def RowData.text : Text := [','].intercalate row.printed

/-- `CDR_LINE_MAX` -/
def cdrLineMax : Nat := 4096

/-- The line `emit_row()` writes. -/
def RowData.line : Text := snprintf cdrLineMax row.text

/-! ### The file -/

/-- A ticket file, with the rows whose lines were written to it. -/
structure CdrFile where
  text : Text := []
  rows : List RowData := []

/-- The part of `struct gsm_network` that tickets use, and the files. -/
structure CdrNet where
  filename : Option CStr := none
  trap : Bool := false
  recordingEntity : Option CStr := none
  mscIpaName : Option CStr := none
  rotate : Rotate := .none
  rotateAnchor : Int := 0
  nextRecordNumber : Nat := 1
  /-- The path `fh` was opened with. -/
  fh : Option Text := none
  files : Text → Option CdrFile := fun _ => none

variable (net : CdrNet)

/-- What the system answers while a row is written: the time, and which calls succeed. -/
structure FileEnv where
  now : Int := 0
  renameOk : Bool := true
  fopenOk : Bool := true
  fflushOk : Bool := true
deriving DecidableEq, Repr

/-- `cdr_enabled()`. -/
def cdrEnabled : Bool := net.filename.isSome || net.trap

/-- `recording_entity()`. -/
def recordingEntity : Text :=
  if orEmpty net.recordingEntity ≠ [] then orEmpty net.recordingEntity
  else if orEmpty net.mscIpaName ≠ [] then orEmpty net.mscIpaName
  else ascii "OsmoMSC"

/-- `cdr_period_elapsed()`. -/
def cdrPeriodElapsed (rotate : Rotate) (now anchor : Int) : Bool :=
  let tmNow := host.gmtime now
  let tmPrev := host.gmtime anchor
  match rotate with
  | .fiveMin => now.tdiv 300 ≠ anchor.tdiv 300
  | .hourly => tmNow.year ≠ tmPrev.year || tmNow.yday ≠ tmPrev.yday || tmNow.hour ≠ tmPrev.hour
  | _ => tmNow.year ≠ tmPrev.year || tmNow.yday ≠ tmPrev.yday

/-- The path a file is rotated to; `PATH_MAX` is 4096. -/
def rotatedName (rotate : Rotate) (filename : Text) (anchor : Int) : Text :=
  match rotate with
  | .fiveMin =>
      let tm := host.gmtime (anchor.tdiv 300 * 300)
      snprintf 4096 (filename ++ '.' :: padText 4 (tm.year + 1900) ++ padText 2 (tm.mon + 1) ++
        padText 2 tm.mday ++ padText 2 tm.hour ++ padText 2 tm.min)
  | _ =>
      let tm := host.gmtime anchor
      snprintf 4096 (filename ++ '.' :: padText 4 (tm.year + 1900) ++ padText 2 (tm.mon + 1) ++
        padText 2 tm.mday ++ padText 2 tm.hour)

/-- `rename()` of a path; it fails if there is no such file. -/
def renameFile (src dest : Text) : CdrNet :=
  match net.files src with
  | none => net
  | some file =>
      { net with
        files := fun path =>
          if path = dest then some file else if path = src then none else net.files path }

/-- `msc_cdr_close_file()`. -/
def mscCdrCloseFile : CdrNet := { net with fh := none }

/-- `cdr_maybe_rotate()`. -/
def cdrMaybeRotate (env : FileEnv) (net : CdrNet) : CdrNet :=
  match net.filename with
  | none => net
  | some filename =>
      if net.rotate = .none then net
      else if net.rotateAnchor = 0 then { net with rotateAnchor := env.now }
      else if cdrPeriodElapsed host net.rotate env.now net.rotateAnchor = false then net
      else
        let dest := rotatedName host net.rotate filename.val net.rotateAnchor
        let renamed := if env.renameOk then renameFile net filename.val dest else net
        { mscCdrCloseFile renamed with rotateAnchor := env.now }

/-- The file at a path is replaced. -/
def setFile (path : Text) (file : CdrFile) : CdrNet :=
  { net with files := fun other => if other = path then some file else net.files other }

/-- `maybe_print_header()`: only where the file was empty when it was opened. -/
def maybePrintHeader (file : CdrFile) : CdrFile :=
  if file.text.length ≠ 0 then file else { file with text := cdrHeader ++ ['\n'] }

/-- `cdr_file()`: the path of the open file, or `none` if it cannot be opened. -/
def cdrFile (env : FileEnv) (net : CdrNet) : CdrNet × Option Text :=
  match net.fh, net.filename with
  | some path, _ => (net, some path)
  | none, none => (net, none)
  | none, some filename =>
      if env.fopenOk = false then (net, none)
      else
        let file := maybePrintHeader ((net.files filename.val).getD {})
        ({ setFile net filename.val file with fh := some filename.val }, some filename.val)

/-- `fprintf(f, "%s\n", line)` and `fflush()`. -/
def appendRow (path : Text) (row : RowData) : CdrNet :=
  let file := (net.files path).getD {}
  setFile net path { text := file.text ++ row.line ++ ['\n'], rows := file.rows ++ [row] }

/-- `cdr_write_line()`, without the trap on the control interface. -/
def cdrWriteLine (env : FileEnv) (net : CdrNet) (row : RowData) : CdrNet :=
  if net.filename = none then net
  else
    match cdrFile env (cdrMaybeRotate host env net) with
    | (net, none) => net
    | (net, some path) =>
        if env.fflushOk then appendRow net path row else mscCdrCloseFile net

/-- The values `emit_row()` passes to its format. -/
def rowData (args : RowArgs) : RowData where
  recordType := args.recordType
  recordNumber := net.nextRecordNumber
  sequence := args.sequence
  partialRecord := args.partialRecord
  entity := recordingEntity net
  imsi := orEmpty (args.vsub.map CdrVsub.imsi)
  imei := orEmpty (args.vsub.map CdrVsub.imei)
  imeisv := orEmpty (args.vsub.map CdrVsub.imeisv)
  msisdn := orEmpty (args.vsub.map CdrVsub.msisdn)
  calling := orEmpty args.calling
  called := orEmpty args.called
  translated := orEmpty args.translated
  connected := orEmpty args.connected
  destination := orEmpty args.destination
  origination := orEmpty args.origination
  serviceCentre := orEmpty args.serviceCentre
  seizure := fmtTime host args.tSeizure
  setup := fmtTime host args.tSetup
  alert := fmtTime host args.tAlert
  answer := fmtTime host args.tAnswer
  release := fmtTime host args.tRelease
  origT := fmtTime host args.tOrigination
  deliv := fmtTime host args.tDelivery
  duration := args.duration
  ringing := args.ringing
  cft := args.cft
  diagnostics := orEmpty args.diagnostics
  callref := args.callref
  location := fillLocation host args.vsub
  ran := ctxRan args.trans args.mscA args.vsub
  outgoingRoute := orEmpty args.outgoingRoute
  bscPc := fillBscPc args.trans args.mscA
  cipher := fillCipher args.trans args.mscA
  classmark := fillClassmark args.vsub
  hlr := fillHlr args.vsub
  mme := orEmpty (args.vsub.map CdrVsub.mmeName)
  emergency := args.emergency
  bearer := orEmpty args.bearer
  codec := orEmpty args.codec
  result := orEmpty args.result
  smsDcs := orEmpty args.smsDcs
  smsPid := orEmpty args.smsPid
  smsRpMr := orEmpty args.smsRpMr
  smsTextLen := orEmpty args.smsTextLen

/-- `emit_row()`. -/
def emitRow (env : FileEnv) (net : CdrNet) (args : RowArgs) : CdrNet :=
  if cdrEnabled net = false then net
  else
    let numbered := { net with nextRecordNumber := (net.nextRecordNumber + 1) % 2 ^ 64 }
    cdrWriteLine host env numbered (rowData host net args)

/-- What can happen to the tickets. -/
inductive CdrInput where
  | row (args : RowArgs) (env : FileEnv)
  /-- `cdr_rotate_cb()` -/
  | rotateTimer (env : FileEnv)
  /-- The VTY changes the configuration and calls `msc_cdr_reconfigure()`. -/
  | reconfigure (filename : Option CStr) (trap : Bool) (rotate : Rotate)
      (recordingEntity mscIpaName : Option CStr)

/-- One input. -/
def cdrStep : CdrInput → CdrNet
  | .row args env => emitRow host env net args
  | .rotateTimer env => cdrMaybeRotate host env net
  | .reconfigure filename trap rotate entity ipaName =>
      mscCdrCloseFile
        { net with filename, trap, rotate, recordingEntity := entity, mscIpaName := ipaName }

/-- The MSC from its start, before there is a ticket file. -/
def cdrRun (inputs : List CdrInput) : CdrNet := inputs.foldl (cdrStep host) {}

end OsmoMsc.Cdr
