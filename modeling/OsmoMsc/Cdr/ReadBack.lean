/-
Module: OsmoMsc.Cdr.ReadBack
Purpose: How the encoder osmo-msc-cdrenc reads a ticket file (cdrenc_main.c), and that what it reads
  from any file the MSC has written is what the MSC was given.  Nothing quotes or escapes a value,
  so this holds as long as no text that goes into a ticket has a comma or a line end in it and the
  line fits into the buffers.
Trusted boundary: none
Main exports: splitCsv, rowGet, encodeFileRows, Plain, RowData.Careful, CdrNet.Ok,
  RowData.readsBack_iff, cdrRun_read_back
-/
import Mathlib.Data.List.Forall2
import Mathlib.Data.List.Nodup
import OsmoMsc.Cdr.Ticket

namespace OsmoMsc.Cdr

open Library Library.CText List

variable {net : CdrNet}

/-! ### The encoder's reader -/

/-- `MAX_COLS` -/
def maxCols : Nat := 80

/-- `LINE_MAX_LEN` -/
def lineMaxLen : Nat := 4096

/-- `struct row`: keys and values. -/
abbrev Row := List (Text × Text)

/-- `split_csv()`: the pieces between commas; what follows the last of `max` pieces is lost. -/
def splitCsv : Nat → Text → List Text
  | 0, _ => []
  | max + 1, line =>
      match strchr ',' line with
      | none => [line]
      | some comma => cut [','] line :: splitCsv max comma.tail

/-- `strcasecmp() == 0`. -/
def strcaseeq (a b : Text) : Bool := a.map Char.toLower = b.map Char.toLower

/-- `row_get()`. -/
def rowGet : Row → Text → Text
  | [], _ => []
  | (key, value) :: row, name => if strcaseeq key name then value else rowGet row name

/-- The rows `encode_file()` builds from a file. -/
def encodeFileRows (file : Text) : List Row :=
  match fgets lineMaxLen file with
  | none => []
  | some (headerLine, rest) =>
      let hdr := splitCsv maxCols (cut ['\r', '\n'] headerLine)
      (readLines lineMaxLen rest).map fun line => hdr.zip (splitCsv maxCols line)

variable {rows : List RowData} {pieces : List Text}

/-- Pieces without commas are split where they were joined. -/
theorem splitCsv_intercalate {max : Nat} (nonempty : pieces ≠ []) (few : pieces.length ≤ max)
    (noComma : ∀ piece ∈ pieces, ',' ∉ piece) :
    splitCsv max ([','].intercalate pieces) = pieces := by
  induction pieces generalizing max with
  | nil => exact absurd rfl nonempty
  | cons piece pieces ih =>
      obtain ⟨max, rfl⟩ := Nat.exists_eq_succ_of_ne_zero
        (Nat.ne_of_gt (Nat.lt_of_lt_of_le (Nat.succ_pos _) few))
      have absent : ',' ∉ piece := noComma piece mem_cons_self
      cases pieces with
      | nil =>
          have none := strchr_append absent []
          rw [append_nil] at none
          simp [splitCsv, none, strchr]
      | cons next pieces =>
          have rest := ih (cons_ne_nil next pieces) (Nat.le_of_succ_le_succ few)
            (fun p member => noComma p (mem_cons_of_mem piece member))
          have cutPiece : cut [','] (piece ++ ',' :: [','].intercalate (next :: pieces)) = piece := by
            refine cut_append ?_ (mem_singleton.mpr rfl) _
            intro c member
            rw [mem_singleton]
            rintro rfl
            exact absent member
          rw [intercalate_cons_cons, append_assoc, singleton_append, splitCsv,
            strchr_append absent, strchr_cons_self]
          simp only [tail_cons]
          rw [cutPiece, rest]

/-- A piece is a part of the line without commas. -/
theorem mem_splitCsv {max : Nat} {line piece : Text} (member : piece ∈ splitCsv max line) :
    piece <:+: line ∧ ',' ∉ piece := by
  induction max generalizing line with
  | zero => exact absurd member not_mem_nil
  | succ max ih =>
      unfold splitCsv at member
      split at member
      · rename_i noComma
        rw [mem_singleton.mp member]
        exact ⟨infix_refl line, strchr_eq_none noComma⟩
      · rename_i comma found
        rcases mem_cons.mp member with rfl | member
        · refine ⟨(List.takeWhile_prefix _).isInfix, fun within => ?_⟩
          simpa using mem_takeWhile_imp within
        · obtain ⟨within, noComma⟩ := ih member
          exact ⟨within.trans ((tail_suffix comma).trans (strchr_suffix found)).isInfix, noComma⟩

section

variable {ι : Type*} {keys : List ι} {name value : ι → Text} {key other : ι} {v : Text} {row : Row}

theorem rowGet_self : rowGet ((name key, v) :: row) (name key) = v := by
  simp [rowGet, strcaseeq]

theorem rowGet_other (member : other ∈ keys)
    (distinct : ((key :: keys).map fun key => (name key).map Char.toLower).Nodup) :
    rowGet ((name key, v) :: row) (name other) = rowGet row (name other) := by
  rw [rowGet, if_neg]
  intro same
  exact (nodup_cons.mp distinct).1 (mem_map.mpr ⟨other, member, (of_decide_eq_true same).symm⟩)

/-- A row keyed by names that differ in more than case gives each name its value. -/
theorem rowGet_zip (distinct : (keys.map fun key => (name key).map Char.toLower).Nodup)
    (member : key ∈ keys) : rowGet ((keys.map name).zip (keys.map value)) (name key) = value key := by
  induction keys with
  | nil => exact absurd member not_mem_nil
  | cons first keys ih =>
      rw [map_cons, map_cons, zip_cons_cons]
      obtain rfl | later := mem_cons.mp member
      · exact rowGet_self
      · rw [rowGet_other later distinct]
        exact ih (nodup_cons.mp distinct).2 later

end

/-- What is found in a row is nothing, or one of its values. -/
theorem rowGet_zip_mem (names values : List Text) (key : Text) :
    rowGet (names.zip values) key = [] ∨ rowGet (names.zip values) key ∈ values := by
  induction names generalizing values with
  | nil => exact .inl rfl
  | cons name names ih =>
      cases values with
      | nil => exact .inl rfl
      | cons value values =>
          rw [zip_cons_cons, rowGet]
          split
          · exact .inr mem_cons_self
          · exact (ih values).imp id (mem_cons_of_mem value)

/-! ### Values that need no quoting -/

/-- Neither a comma nor a line end. -/
def Plain (text : Text) : Prop := ∀ c ∈ text, c ∉ [',', '\r', '\n']

instance (text : Text) : Decidable (Plain text) :=
  inferInstanceAs (Decidable (∀ c ∈ text, c ∉ [',', '\r', '\n']))

theorem Plain.append {s t : Text} (s_plain : Plain s) (t_plain : Plain t) : Plain (s ++ t) := by
  intro c member
  obtain left | right := mem_append.mp member
  · exact s_plain c left
  · exact t_plain c right

theorem Plain.snprintf {text : Text} (plain : Plain text) (size : Nat) :
    Plain (snprintf size text) :=
  fun c member => plain c (mem_of_mem_take member)

theorem plain_nil : Plain [] := by decide

theorem plain_of_numerals {text : Text} (all : ∀ c ∈ text, c ∈ numerals) : Plain text := by
  have disjoint : ∀ c ∈ numerals, c ∉ [',', '\r', '\n'] := by decide
  exact fun c member => disjoint c (all c member)

theorem plain_decText (n : Int) : Plain (decText n) :=
  plain_of_numerals fun _ => mem_numerals_of_mem_decText

theorem plain_padText (width : Nat) (n : Int) : Plain (padText width n) :=
  plain_of_numerals fun _ => mem_numerals_of_mem_padText

theorem plain_callrefText (callref : UInt32) : Plain (callrefText callref) :=
  Plain.append (s := ['0', 'x']) (by decide)
    (plain_of_numerals fun _ => mem_numerals_of_mem_toDigits (by decide) (by decide))

theorem plain_fmtTime (host : Host) (t : Int) : Plain (fmtTime host t) := by
  unfold fmtTime
  split
  · exact plain_nil
  · apply Plain.snprintf
    have pad := plain_padText
    exact (((((pad _ _).append (pad _ _)).append (pad _ _)).append (pad _ _)).append
      (pad _ _)).append (pad _ _)

theorem plain_hexdump {size : Nat} {bytes : List UInt8} : Plain (hexdump size bytes) := by
  apply plain_of_numerals
  intro c member
  obtain ⟨b, -, member⟩ := mem_flatMap.mp member
  have bound := b.toNat_lt
  obtain rfl | member := mem_cons.mp member
  · exact digitChar_mem_numerals (by omega)
  · rw [mem_singleton.mp member]
    exact digitChar_mem_numerals (by omega)

theorem plain_fillNonzero {size n : Nat} : Plain (fillNonzero size n) := by
  unfold fillNonzero
  split
  · exact plain_nil
  · exact (plain_decText n).snprintf size

theorem plain_fillClassmark (vsub : Option CdrVsub) : Plain (fillClassmark vsub) := by
  cases vsub with
  | none => exact plain_nil
  | some vsub => exact plain_hexdump

theorem plain_fillHlr (vsub : Option CdrVsub) : Plain (fillHlr vsub) := by
  cases vsub with
  | none => exact plain_nil
  | some vsub => exact plain_hexdump

theorem plain_fillBscPc (trans : Option (Option CdrMscA)) (mscA : Option CdrMscA) :
    Plain (fillBscPc trans mscA) := by
  unfold fillBscPc
  split
  · exact plain_nil
  · exact (plain_decText _).snprintf 16

theorem plain_fillCipher (trans : Option (Option CdrMscA)) (mscA : Option CdrMscA) :
    Plain (fillCipher trans mscA) := by
  unfold fillCipher
  split
  · exact plain_nil
  · split
    · exact plain_nil
    · exact (plain_decText _).snprintf 8

theorem plain_ite {p : Prop} [Decidable p] {s t : Text} (s_plain : Plain s) (t_plain : Plain t) :
    Plain (if p then s else t) := by
  split
  · exact s_plain
  · exact t_plain

def Location.texts (location : Location) : List Text :=
  [location.mcc, location.mnc, location.lac, location.ci, location.gai, location.mccmnc]

theorem fillLocation_plain (host : Host) (vsub : Option CdrVsub) :
    ∀ text ∈ (fillLocation host vsub).texts, Plain text := by
  cases vsub with
  | none => exact (by decide : ∀ text ∈ List.replicate 6 [], Plain text)
  | some vsub =>
      have mcc : Plain (fillLocation host (some vsub)).mcc :=
        plain_ite plain_nil ((plain_padText 3 _).snprintf 8)
      have mnc : Plain (fillLocation host (some vsub)).mnc :=
        plain_ite plain_nil ((plain_padText _ _).snprintf 8)
      have lac : Plain (fillLocation host (some vsub)).lac := plain_fillNonzero
      have ci : Plain (fillLocation host (some vsub)).ci := plain_fillNonzero
      have dash : Plain ['-'] := by decide
      have gai := ((mcc.append (dash.append mnc)).append (dash.append lac)).append (dash.append ci)
      simp only [Location.texts, forall_mem_cons]
      exact ⟨mcc, mnc, lac, ci, plain_ite (gai.snprintf 48) plain_nil,
        plain_ite plain_nil ((mcc.append mnc).snprintf 16), forall_mem_nil _⟩

/-- The texts of a row that come from outside. -/
def RowData.strings (row : RowData) : List Text :=
  [row.entity, row.imsi, row.imei, row.imeisv, row.msisdn, row.calling, row.called,
   row.translated, row.connected, row.destination, row.origination, row.serviceCentre,
   row.diagnostics, row.outgoingRoute, row.mme, row.bearer, row.codec, row.result, row.smsDcs,
   row.smsPid, row.smsRpMr, row.smsTextLen]

/-- Nothing in the row needs quoting, and the line fits into the buffer of `emit_row()`. -/
def RowData.Careful (row : RowData) : Prop :=
  (∀ text ∈ row.strings, Plain text) ∧ row.text.length < cdrLineMax

instance (row : RowData) : Decidable row.Careful :=
  inferInstanceAs (Decidable ((∀ text ∈ row.strings, Plain text) ∧ row.text.length < cdrLineMax))

/-- The texts of the MSC's own. -/
def RowData.ownTexts (row : RowData) : List Text :=
  [row.seizure, row.setup, row.alert, row.answer, row.release, row.origT, row.deliv, row.bscPc,
   row.cipher, row.classmark, row.hlr] ++ row.location.texts

def RowData.OwnTextsPlain (row : RowData) : Prop := ∀ text ∈ row.ownTexts, Plain text

theorem rowData_ownTextsPlain (host : Host) (net : CdrNet) (args : RowArgs) :
    (rowData host net args).OwnTextsPlain := by
  have time := plain_fmtTime host
  simp only [RowData.OwnTextsPlain, RowData.ownTexts, forall_mem_append, forall_mem_cons]
  exact ⟨⟨time _, time _, time _, time _, time _, time _, time _, plain_fillBscPc _ _,
    plain_fillCipher _ _, plain_fillClassmark _, plain_fillHlr _, forall_mem_nil _⟩,
    fillLocation_plain host _⟩

theorem plain_ranTexts (ran : Option Msc.OsmoRatType) :
    Plain (osmoRatTypeName ran) ∧ Plain (systemTypeStr ran) ∧ Plain (incomingRoute ran) := by
  rcases ran with _ | _ | _ | _ <;> decide

variable {file : CdrFile} {row : RowData} {value : Column → Text}

/-- With plain strings from outside every column of a row is plain. -/
theorem RowData.given_plain (own : row.OwnTextsPlain) (strings : ∀ text ∈ row.strings, Plain text)
    (column : Column) : Plain (row.given column) := by
  have ran := plain_ranTexts row.ran
  cases column with
  | recordType => exact plain_decText row.recordType
  | recordNumber => exact plain_decText row.recordNumber
  | sequenceNumber => exact plain_decText row.sequence
  | partialRecord => exact plain_decText row.partialRecord
  | callDuration => exact plain_decText row.duration
  | ringing => exact plain_decText row.ringing
  | causeForTerm => exact plain_decText row.cft
  | emergency => exact plain_decText row.emergency
  | callReference | networkCallReference => exact plain_callrefText _
  | ran => exact ran.1
  | systemType => exact ran.2.1
  | incomingRoute => exact ran.2.2
  | seizureTime | setupTime | alertingTime | answerTime | releaseTime | originationTime | deliveryTime
  | mcc | mnc | lac | ci | globalAreaId | firstMccmnc | lastMccmnc | bscPc | cipher | msClassmark | hlr =>
      exact own _ (by simp [RowData.given, RowData.ownTexts, Location.texts])
  -- the remaining columns are texts from outside
  | _ => exact strings _ (by simp [RowData.given, RowData.strings])

/-! ### Header and row against each other -/

theorem mem_headerColumns {column : Column} : column ∈ headerColumns := by
  cases column <;> decide

theorem headerColumns_nodup :
    (headerColumns.map fun column => column.name.map Char.toLower).Nodup := by
  decide +kernel

theorem name_plain : ∀ column ∈ headerColumns, Plain column.name := by
  decide +kernel

/-- Columns without commas are read back from the text they are joined to. -/
theorem splitCsv_columns (plain : ∀ c ∈ headerColumns, Plain (value c)) :
    splitCsv maxCols ([','].intercalate (headerColumns.map value)) = headerColumns.map value := by
  apply splitCsv_intercalate
  · exact cons_ne_nil _ _
  · rw [length_map]
    decide
  · intro piece member comma
    obtain ⟨column, known, rfl⟩ := mem_map.mp member
    exact plain column known ',' comma (by decide)

theorem mem_intercalate {c : Char} (member : c ∈ [','].intercalate pieces) :
    c = ',' ∨ ∃ piece ∈ pieces, c ∈ piece := by
  induction pieces with
  | nil => simp at member
  | cons piece pieces ih =>
      cases pieces with
      | nil => exact .inr ⟨piece, mem_cons_self, by simpa using member⟩
      | cons next pieces =>
          rw [intercalate_cons_cons, append_assoc, singleton_append, mem_append, mem_cons] at member
          obtain here | rfl | later := member
          · exact .inr ⟨piece, mem_cons_self, here⟩
          · exact .inl rfl
          · obtain comma | ⟨p, known, within⟩ := ih later
            · exact .inl comma
            · exact .inr ⟨p, mem_cons_of_mem piece known, within⟩

/-- Columns without line ends make a line without line ends. -/
theorem noLineEnd_intercalate (plain : ∀ c ∈ headerColumns, Plain (value c)) :
    ∀ c ∈ [','].intercalate (headerColumns.map value), c ∉ ['\r', '\n'] := by
  intro c member
  obtain rfl | ⟨piece, printed, within⟩ := mem_intercalate member
  · decide
  · obtain ⟨column, known, rfl⟩ := mem_map.mp printed
    intro lineEnd
    exact plain column known c within (mem_cons_of_mem ',' lineEnd)

/-- A row that can be read back. -/
structure RowData.Readable (row : RowData) : Prop where
  careful : row.Careful
  own : row.OwnTextsPlain

namespace RowData.Readable

variable {row : RowData}

theorem plain (readable : row.Readable) : ∀ c ∈ headerColumns, Plain (row.given c) :=
  fun column _ => RowData.given_plain readable.own readable.careful.1 column

theorem line_eq (readable : row.Readable) :
    row.line = [','].intercalate (headerColumns.map row.given) := by
  have fits := readable.careful.2
  rw [RowData.line, snprintf, take_of_length_le (Nat.le_sub_one_of_lt fits)]
  rfl

end RowData.Readable

theorem RowData.line_length (row : RowData) : row.line.length < lineMaxLen := by
  have shorter : row.line.length ≤ cdrLineMax - 1 := length_take_le _ _
  exact Nat.lt_of_le_of_lt shorter (by decide)

theorem RowData.line_ne_nil (row : RowData) : row.line ≠ [] := by
  simp [RowData.line, snprintf, RowData.text, RowData.printed, cdrLineMax]

/-- The text of a file with the given rows. -/
def fileText (rows : List RowData) : Text :=
  cdrHeader ++ '\n' :: rows.flatMap fun row => row.line ++ ['\n']

/-- The row the encoder should get. -/
def expectedRow (row : RowData) : Row :=
  (headerColumns.map Column.name).zip (headerColumns.map row.given)

theorem rowGet_expectedRow (row : RowData) (column : Column) :
    rowGet (expectedRow row) column.name = row.given column :=
  rowGet_zip headerColumns_nodup mem_headerColumns

theorem readLines_rows (plain : ∀ row ∈ rows, ∀ c ∈ headerColumns, Plain (row.given c)) :
    readLines lineMaxLen (rows.flatMap fun row => row.line ++ ['\n']) = rows.map RowData.line := by
  induction rows with
  | nil => rfl
  | cons row rows ih =>
      have noLineEnd : ∀ c ∈ row.line, c ∉ ['\r', '\n'] := fun c member =>
        noLineEnd_intercalate (plain row mem_cons_self) c (mem_of_mem_take member)
      have line := readLines_line noLineEnd row.line_ne_nil row.line_length
        (rows.flatMap fun row => row.line ++ ['\n'])
      rw [flatMap_cons, append_assoc, singleton_append, line,
        ih fun row member => plain row (mem_cons_of_mem _ member)]
      rfl

theorem fgets_header (rest : Text) :
    fgets lineMaxLen (cdrHeader ++ '\n' :: rest) = some (cdrHeader ++ ['\n'], rest) := by
  have noLf : '\n' ∉ cdrHeader := fun member =>
    noLineEnd_intercalate name_plain '\n' member (by decide)
  have short : cdrHeader.length < lineMaxLen - 1 := by decide +kernel
  rw [fgets, if_neg (by simp), fgetsTake_line noLf short]

/-- The encoder gets a row from each line. -/
theorem encodeFileRows_lines (plain : ∀ row ∈ rows, ∀ c ∈ headerColumns, Plain (row.given c)) :
    encodeFileRows (fileText rows) = rows.map fun row =>
      (headerColumns.map Column.name).zip (splitCsv maxCols row.line) := by
  have header : splitCsv maxCols (cut ['\r', '\n'] (cdrHeader ++ ['\n'])) =
      headerColumns.map Column.name := by
    rw [cdrHeader, cut_append (d := '\n') (noLineEnd_intercalate name_plain) (by decide)]
    exact splitCsv_columns name_plain
  rw [encodeFileRows, fileText, fgets_header]
  simp only [header]
  rw [readLines_rows plain, map_map]
  rfl

/-- The encoder gets the rows of a file, each as one. -/
theorem encodeFileRows_fileText (readable : ∀ row ∈ rows, row.Readable) :
    encodeFileRows (fileText rows) = rows.map expectedRow := by
  rw [encodeFileRows_lines fun row member => (readable row member).plain]
  apply map_congr_left
  intro row member
  rw [(readable row member).line_eq, splitCsv_columns (readable row member).plain, expectedRow]

/-! ### Files over a whole run -/

/-- The text of the file is that of its rows, and they can be read back. -/
structure CdrFile.Ok (file : CdrFile) : Prop where
  text : file.text = fileText file.rows
  readable : ∀ row ∈ file.rows, row.Readable

/-- Every file is well formed, and an open one exists. -/
structure CdrNet.Ok (net : CdrNet) : Prop where
  files : ∀ path file, net.files path = some file → file.Ok
  opened : ∀ path, net.fh = some path → ∃ file, net.files path = some file

theorem CdrNet.Ok.close (files : ∀ path file, net.files path = some file → file.Ok) :
    (mscCdrCloseFile net).Ok where
  files := files
  opened := nofun

theorem renameFile_files (ok : net.Ok) (src dest : Text) :
    ∀ path file, (renameFile net src dest).files path = some file → file.Ok := by
  intro path file stored
  unfold renameFile at stored
  split at stored
  · exact ok.files path file stored
  · rename_i moved found
    by_cases isDest : path = dest
    · simp only [if_pos isDest, Option.some.injEq] at stored
      exact stored ▸ ok.files src moved found
    · by_cases isSrc : path = src
      · simp [if_neg isDest, if_pos isSrc] at stored
      · simp only [if_neg isDest, if_neg isSrc] at stored
        exact ok.files path file stored

theorem cdrMaybeRotate_ok (host : Host) (env : FileEnv) (ok : net.Ok) :
    (cdrMaybeRotate host env net).Ok := by
  unfold cdrMaybeRotate
  split
  · exact ok
  · split
    · exact ok
    · split
      · exact ⟨ok.files, ok.opened⟩
      · split
        · exact ok
        · refine ⟨?_, nofun⟩
          intro path file stored
          cases renames : env.renameOk with
          | true =>
              simp only [renames] at stored
              exact renameFile_files ok _ _ path file stored
          | false =>
              simp only [renames] at stored
              exact ok.files path file stored

theorem setFile_ok (ok : net.Ok) (path : Text) (file_ok : file.Ok) :
    (setFile net path file).Ok where
  files other stored found := by
    by_cases same : other = path
    · simp only [setFile, if_pos same, Option.some.injEq] at found
      exact found ▸ file_ok
    · simp only [setFile, if_neg same] at found
      exact ok.files other stored found
  opened other isOpen := by
    obtain ⟨old, found⟩ := ok.opened other isOpen
    by_cases same : other = path
    · exact ⟨file, if_pos same⟩
    · exact ⟨old, (if_neg same).trans found⟩

/-- A file that is opened is one of the MSC's own, or it is new and gets its header. -/
theorem maybePrintHeader_ok (ok : net.Ok) (path : Text) :
    (maybePrintHeader ((net.files path).getD {})).Ok := by
  cases found : net.files path with
  | none => exact ⟨rfl, fun row member => absurd member not_mem_nil⟩
  | some file =>
      have file_ok := ok.files path file found
      have nonempty : file.text.length ≠ 0 := by
        rw [file_ok.text, fileText]
        simp
      simp only [Option.getD_some, maybePrintHeader, if_pos nonempty]
      exact file_ok

theorem cdrFile_ok (env : FileEnv) (ok : net.Ok) :
    (cdrFile env net).1.Ok ∧
      ∀ path, (cdrFile env net).2 = some path → (cdrFile env net).1.fh = some path := by
  unfold cdrFile
  split
  · rename_i isOpen
    exact ⟨ok, fun other same => isOpen.trans same⟩
  · exact ⟨ok, nofun⟩
  · rename_i filename _ _
    split
    · exact ⟨ok, nofun⟩
    · have stored := setFile_ok ok filename.val (maybePrintHeader_ok ok filename.val)
      refine ⟨⟨stored.files, ?_⟩, fun path same => same⟩
      intro path isOpen
      obtain rfl := Option.some.inj isOpen
      exact ⟨_, if_pos rfl⟩

theorem appendRow_ok (ok : net.Ok) {path : Text} (isOpen : net.fh = some path)
    (readable : row.Readable) : (appendRow net path row).Ok := by
  obtain ⟨file, found⟩ := ok.opened path isOpen
  have file_ok := ok.files path file found
  apply setFile_ok ok
  simp only [found, Option.getD_some]
  constructor
  · rw [file_ok.text]
    simp [fileText]
  · intro other member
    obtain earlier | new := mem_append.mp member
    · exact file_ok.readable other earlier
    · exact mem_singleton.mp new ▸ readable

theorem cdrWriteLine_ok (host : Host) (env : FileEnv) (ok : net.Ok) (readable : row.Readable) :
    (cdrWriteLine host env net row).Ok := by
  have opened := cdrFile_ok env (cdrMaybeRotate_ok host env ok)
  unfold cdrWriteLine
  split
  · exact ok
  · split
    · rename_i failed
      simp only [failed] at opened
      exact opened.1
    · rename_i succeeded
      simp only [succeeded] at opened
      split
      · exact appendRow_ok opened.1 (opened.2 _ rfl) readable
      · exact .close opened.1.files

/-- The rows an input writes need no quoting. -/
def CarefulInput (host : Host) (net : CdrNet) : CdrInput → Prop
  | .row args _ => cdrEnabled net = true → (rowData host net args).Careful
  | _ => True

instance (host : Host) (net : CdrNet) (input : CdrInput) :
    Decidable (CarefulInput host net input) :=
  match input with
  | .row args _ =>
      inferInstanceAs (Decidable (cdrEnabled net = true → (rowData host net args).Careful))
  | .rotateTimer _ | .reconfigure .. => .isTrue trivial

theorem cdrStep_ok (host : Host) (net : CdrNet) (input : CdrInput) (ok : net.Ok)
    (careful : CarefulInput host net input) : (cdrStep host net input).Ok := by
  cases input with
  | row args env =>
      simp only [cdrStep, emitRow]
      split
      · exact ok
      · rename_i enabled
        have readable : (rowData host net args).Readable :=
          ⟨careful (Bool.not_eq_false _ ▸ enabled), rowData_ownTextsPlain host net args⟩
        have numbered :
            { net with nextRecordNumber := (net.nextRecordNumber + 1) % 2 ^ 64 }.Ok :=
          ⟨ok.files, ok.opened⟩
        exact cdrWriteLine_ok host env numbered readable
  | rotateTimer env => exact cdrMaybeRotate_ok host env ok
  | reconfigure filename trap rotate entity ipaName => exact .close ok.files

theorem cdrRun_ok {host : Host} {inputs : List CdrInput}
    (careful : StepsMeet (cdrStep host) (CarefulInput host) {} inputs) : (cdrRun host inputs).Ok :=
  foldl_invariant (cdrStep_ok host) inputs {}
    ⟨nofun,
      nofun⟩ careful

/-- What the encoder reads from the file is what was written: a row for each ticket, in order, and
in it every column's value under the column's name. -/
def ReadsBack (file : CdrFile) : Prop :=
  List.Forall₂ (fun read row => ∀ column : Column, rowGet read column.name = row.given column)
    (encodeFileRows file.text) file.rows

theorem CdrFile.Ok.readsBack (ok : file.Ok) : ReadsBack file := by
  rw [ReadsBack, ok.text, encodeFileRows_fileText ok.readable, forall₂_map_left_iff]
  exact forall₂_same.mpr fun row _ => rowGet_expectedRow row

/-- Then the values of a column are those of the rows. -/
theorem ReadsBack.column (reads : ReadsBack file) (column : Column) :
    (encodeFileRows file.text).map (rowGet · column.name) = file.rows.map (·.given column) := by
  apply forall₂_eq_eq_eq ▸ forall₂_map_left_iff.mpr _
  exact forall₂_map_right_iff.mpr (reads.imp fun read row same => same column)

/-! ### A ticket alone -/

/-- What is left of pieces when the text they are joined to is cut after `n` characters. -/
def cutPieces : Nat → List Text → List Text
  | _, [] => []
  | n, piece :: pieces =>
      if n ≤ piece.length then [piece.take n] else piece :: cutPieces (n - (piece.length + 1)) pieces

theorem take_intercalate (n : Nat) :
    ([','].intercalate pieces).take n = [','].intercalate (cutPieces n pieces) := by
  induction pieces generalizing n with
  | nil => simp [cutPieces]
  | cons piece pieces ih =>
      rw [cutPieces]
      cases pieces with
      | nil =>
          split
          · simp
          · rw [cutPieces, intercalate_singleton, take_of_length_le (by omega)]
      | cons next pieces =>
          rw [intercalate_cons_cons, append_assoc, singleton_append]
          split
          · rename_i short
            rw [take_append_of_le_length short, intercalate_singleton]
          · rename_i long
            have more : n - piece.length = n - (piece.length + 1) + 1 := by omega
            obtain ⟨first, others, left⟩ : ∃ first others,
                cutPieces (n - (piece.length + 1)) (next :: pieces) = first :: others := by
              rw [cutPieces]
              split <;> exact ⟨_, _, rfl⟩
            rw [take_append, take_of_length_le (by omega), more, take_succ_cons, ih, left,
              intercalate_cons_cons, append_assoc, singleton_append]

theorem mem_cutPieces {n : Nat} {piece : Text} (member : piece ∈ cutPieces n pieces) :
    ∃ whole ∈ pieces, piece ⊆ whole := by
  induction pieces generalizing n with
  | nil => exact absurd member not_mem_nil
  | cons whole pieces ih =>
      rw [cutPieces] at member
      split at member
      · exact ⟨whole, mem_cons_self, mem_singleton.mp member ▸ take_subset n whole⟩
      · rcases mem_cons.mp member with rfl | later
        · exact ⟨piece, mem_cons_self, Subset.refl piece⟩
        · obtain ⟨other, known, within⟩ := ih later
          exact ⟨other, mem_cons_of_mem _ known, within⟩

theorem length_cutPieces_le {n : Nat} : (cutPieces n pieces).length ≤ pieces.length := by
  induction pieces generalizing n with
  | nil => exact Nat.le_refl 0
  | cons piece pieces ih =>
      rw [cutPieces]
      split
      · simp
      · exact Nat.succ_le_succ ih

theorem rowGet_cutPieces_zero (names : List Text) (key : Text) :
    rowGet (names.zip (cutPieces 0 pieces)) key = [] := by
  cases pieces <;> cases names <;> simp [cutPieces, rowGet]

/-- A row is found with all its values if and only if nothing but commas was cut off. -/
theorem rowGet_cutPieces_iff {ι : Type*} {keys : List ι} {name value : ι → Text} {n : Nat}
    (distinct : (keys.map fun key => (name key).map Char.toLower).Nodup)
    (noComma : ∀ key ∈ keys, ',' ∉ value key) :
    (∀ key ∈ keys,
        rowGet ((keys.map name).zip (cutPieces n (keys.map value))) (name key) = value key) ↔
      ∀ c ∈ ([','].intercalate (keys.map value)).drop n, c = ',' := by
  induction keys generalizing n with
  | nil => simp
  | cons key keys ih =>
      have rest {n : Nat} := @ih n (nodup_cons.mp distinct).2 fun other member =>
        noComma other (mem_cons_of_mem key member)
      have whole : (value key).take n = value key ↔ ∀ c ∈ (value key).drop n, c = ',' := by
        rw [take_eq_self_iff, ← drop_eq_nil_iff]
        refine ⟨fun none => by simp [none], fun commas => eq_nil_iff_forall_not_mem.mpr ?_⟩
        exact fun c member => noComma key mem_cons_self (commas c member ▸ mem_of_mem_drop member)
      rw [forall_mem_cons, map_cons, map_cons, cutPieces]
      split
      · rename_i short
        have nothing : (∀ other ∈ keys,
              rowGet [(name key, (value key).take n)] (name other) = value other) ↔
            ∀ c ∈ [','].intercalate (keys.map value), c = ',' := by
          rw [← drop_zero (l := [','].intercalate (keys.map value)), ← rest]
          exact forall₂_congr fun other member => by
            rw [rowGet_other member distinct, rowGet, rowGet_cutPieces_zero]
        rw [zip_cons_cons, zip_nil_right, rowGet_self, whole, nothing]
        cases keys with
        | nil => simp
        | cons next keys =>
            rw [map_cons, intercalate_cons_cons, append_assoc, singleton_append,
              drop_append_of_le_length short, forall_mem_append, forall_mem_cons]
            simp
      · rename_i long
        rw [zip_cons_cons, rowGet_self]
        have tail : (∀ other ∈ keys, rowGet ((name key, value key) ::
              (keys.map name).zip (cutPieces (n - ((value key).length + 1)) (keys.map value)))
            (name other) = value other) ↔ _ :=
          (forall₂_congr fun other member => by rw [rowGet_other member distinct]).trans rest
        rw [tail]
        cases keys with
        | nil => simp [drop_eq_nil_of_le (Nat.le_of_not_le long)]
        | cons next keys =>
            have more : n - (value key).length = n - ((value key).length + 1) + 1 := by omega
            rw [map_cons, intercalate_cons_cons, append_assoc, singleton_append, drop_append,
              drop_eq_nil_of_le (Nat.le_of_not_le long), nil_append, more, drop_succ_cons]
            simp

/-- Whatever the file, the encoder finds plain values. -/
theorem encodeFileRows_plain {file : Text} {read : Row} (member : read ∈ encodeFileRows file)
    (key : Text) : Plain (rowGet read key) := by
  unfold encodeFileRows at member
  split at member
  · exact absurd member not_mem_nil
  · obtain ⟨line, known, rfl⟩ := mem_map.mp member
    obtain ⟨uncut, -, rfl⟩ := mem_map.mp (mem_of_mem_filter known)
    rcases rowGet_zip_mem _ _ key with none | value
    · rw [none]
      exact plain_nil
    · obtain ⟨within, noComma⟩ := mem_splitCsv value
      intro c among stop
      rcases mem_cons.mp stop with rfl | lineEnd
      · exact noComma among
      · have := mem_takeWhile_imp (within.subset among)
        simp [lineEnd] at this

/-- The encoder splits a line into what is left of the columns. -/
theorem splitCsv_line (noComma : ∀ c ∈ headerColumns, ',' ∉ row.given c) :
    splitCsv maxCols row.line = cutPieces (cdrLineMax - 1) (headerColumns.map row.given) := by
  rw [RowData.line, snprintf, RowData.text, take_intercalate]
  refine splitCsv_intercalate ?_ ?_ fun piece member comma => ?_
  · rw [RowData.printed, cutPieces]
    split <;> exact cons_ne_nil _ _
  · exact Nat.le_trans length_cutPieces_le (by simp [RowData.printed, maxCols])
  · obtain ⟨value, printed, within⟩ := mem_cutPieces member
    obtain ⟨column, known, rfl⟩ : ∃ c ∈ headerColumns, row.given c = value := mem_map.mp printed
    exact noComma column known (within comma)

/-- A ticket alone in its file is read back if and only if its columns need no quoting and nothing but
commas is cut off its line. -/
theorem RowData.readsBack_iff (row : RowData) :
    ReadsBack { text := fileText [row], rows := [row] } ↔
      (∀ column, Plain (row.given column)) ∧ ∀ c ∈ row.text.drop (cdrLineMax - 1), c = ',' := by
  have law (plain : ∀ column, Plain (row.given column)) :
      ReadsBack { text := fileText [row], rows := [row] } ↔
        ∀ c ∈ row.text.drop (cdrLineMax - 1), c = ',' := by
    have noComma : ∀ c ∈ headerColumns, ',' ∉ row.given c :=
      fun column _ comma => plain column ',' comma (by decide)
    rw [ReadsBack, encodeFileRows_lines (by simpa using fun c _ => plain c)]
    simp only [map_cons, map_nil, forall₂_cons, Forall₂.nil, and_true, splitCsv_line noComma]
    refine Iff.trans ?_ (rowGet_cutPieces_iff headerColumns_nodup noComma)
    exact ⟨fun all column _ => all column, fun all column => all column mem_headerColumns⟩
  refine ⟨fun reads => ?_, fun both => (law both.1).mpr both.2⟩
  have plain (column : Column) : Plain (row.given column) := by
    obtain ⟨read, rest, same, -, eq⟩ := forall₂_cons_right_iff.mp reads
    rw [← same column]
    exact encodeFileRows_plain (eq ▸ mem_cons_self) _
  exact ⟨plain, (law plain).mp reads⟩

/-! ### All tickets -/

/-- Every ticket file of the MSC, also a rotated one, is read back by the encoder as it was written,
if no text that goes into a ticket has a comma or a line end and no line is cut. -/
theorem cdrRun_read_back (host : Host) (inputs : List CdrInput)
    (careful : StepsMeet (cdrStep host) (CarefulInput host) {} inputs) (path : Text)
    (file : CdrFile) (written : (cdrRun host inputs).files path = some file) : ReadsBack file :=
  ((cdrRun_ok careful).files path file written).readsBack

/-- A host whose clock stands at its epoch. -/
def epochHost : Host where
  gmtime := fun _ => ⟨70, 0, 1, 0, 0, 0, 0⟩
  parseMmeDomain := fun _ => none

/-- A ticket file is configured, and rows are written to it. -/
def ticketRun (rows : List RowArgs) : List CdrInput :=
  .reconfigure (some ⟨ascii "cdr", by decide⟩) false .hourly none none ::
    rows.map fun args => .row args {}

/-- A call that was answered, and one that was not. -/
def twoCalls : List RowArgs :=
  [{ calling := some ⟨ascii "12", by decide⟩, called := some ⟨ascii "34", by decide⟩
     tAnswer := 60, duration := 5, callref := 0x1f },
   { called := some ⟨ascii "56", by decide⟩, cft := 3 }]

theorem cdrRun_read_back_twoCalls :
    StepsMeet (cdrStep epochHost) (CarefulInput epochHost) {} (ticketRun twoCalls) ∧
      ∃ file, (cdrRun epochHost (ticketRun twoCalls)).files (ascii "cdr") = some file ∧
        file.rows.length = 2 ∧ ReadsBack file := by
  have careful :
      StepsMeet (cdrStep epochHost) (CarefulInput epochHost) {} (ticketRun twoCalls) := by
    decide +kernel
  exact ⟨careful, _, rfl, rfl, cdrRun_read_back epochHost _ careful (ascii "cdr") _ rfl⟩

/-- The calling number has a comma in it. -/
def commaCall : RowArgs :=
  { calling := some ⟨ascii "1,2", by decide⟩, called := some ⟨ascii "34", by decide⟩ }

/-- The name of the service centre has a line feed in it. -/
def lineFeedCall : RowArgs := { serviceCentre := some ⟨ascii "a\nb", by decide⟩ }

/-- A comma in one number becomes the boundary of the next column, and a line feed makes two
records of one. -/
theorem not_readsBack :
    (∃ file, (cdrRun epochHost (ticketRun [commaCall])).files (ascii "cdr") = some file ∧
        (encodeFileRows file.text).map (rowGet · Column.calledNumber.name) = [ascii "2"] ∧
        file.rows.map (·.given .calledNumber) = [ascii "34"] ∧ ¬ ReadsBack file) ∧
      ∃ file, (cdrRun epochHost (ticketRun [lineFeedCall])).files (ascii "cdr") = some file ∧
        (encodeFileRows file.text).length = 2 ∧ file.rows.length = 1 ∧ ¬ ReadsBack file := by
  constructor
  · refine ⟨_, rfl, ?_, ?_, ?_⟩
    · decide +kernel
    · decide +kernel
    · intro reads
      exact absurd (reads.column .calledNumber) (by decide +kernel)
  · refine ⟨_, rfl, ?_, rfl, ?_⟩
    · decide +kernel
    · intro reads
      exact absurd reads.length_eq (by decide +kernel)

end OsmoMsc.Cdr
