/-
  The columns of an ingest, of `src/tools.rs`: how the columns of a report are named in its
  table, and how its rows are rewritten.

  * `IsIdentifier`: what `validate_sql_identifier` accepts; `isIdentifier_target`: every
    target is one.
  * `nodup_targets_iff`: which columns have distinct targets.
  * `usableSchema_iff`: exactly those are ingested, each value under its own target.
-/
import Ga4Mcp.Scratchpad.System
import Ga4Mcp.Tools.ColumnNames
import Ga4Mcp.Tools.ReleaseSql

namespace Ga4Mcp.Tools

open Ga4Mcp.Lib Ga4Mcp.Scratchpad

/-! ## Mappings -/

/-- What happens to a value on its way into a table. -/
inductive IngestValueTransform where
  | identity
  | parseGaDate
  | parseGaDateHour
deriving DecidableEq, Repr

/-- A column of a report, and the one of the table. -/
structure IngestColumnMapping where
  sourceName : Text
  targetName : Text
  logicalType : Text
  transform : IngestValueTransform
deriving DecidableEq, Repr

/-- The suffix, the type and the transform of the derived column. -/
def temporalMappingForSourceName (sourceName : Text) :
    Option (Text × Text × IngestValueTransform) :=
  let normalized := Text.toAsciiLowercase (sourceName.filter Char.isAlphanum)
  if normalized = text "date" then some (text "parsed", text "date", .parseGaDate)
  else if normalized = text "datehour" then
    some (text "parsed", text "timestamp", .parseGaDateHour)
  else none

/-- `dedupe` counts the bases before, which are in `seen`. -/
def nextMappingTarget (seen : List Text) (base : Text) : Text :=
  let next := seen.count base
  if next = 0 then base else base ++ text "_" ++ Text.decimal (next + 1)

/-- The name of a column whose own leaves nothing. -/
def ingestFallback (index : Nat) : Text := text "col_" ++ Text.decimal (index + 1)

/-- The loop of `build_ingest_column_mappings`. -/
def ingestMappingsFrom (seen : List Text) : List (ColumnMeta × Nat) → List IngestColumnMapping
  | [] => []
  | (column, index) :: rest =>
      let base := normalizeSqlIdentifier column.name (ingestFallback index)
      let mapping : IngestColumnMapping := ⟨column.name, nextMappingTarget seen base,
        column.logicalType.getD (text "string"), .identity⟩
      match temporalMappingForSourceName column.name with
      | none => mapping :: ingestMappingsFrom (base :: seen) rest
      | some (derivedSuffix, derivedType, derivedTransform) =>
          let derivedBase := base ++ text "_" ++ derivedSuffix
          mapping :: ⟨column.name, nextMappingTarget (base :: seen) derivedBase, derivedType,
              derivedTransform⟩ ::
            ingestMappingsFrom (derivedBase :: base :: seen) rest

def buildIngestColumnMappings (columns : List ColumnMeta) : List IngestColumnMapping :=
  ingestMappingsFrom [] columns.zipIdx

/-- The columns that `ingest_rows_with_mode` is called with. -/
def ingestColumns (mappings : List IngestColumnMapping) : List ScratchpadIngestColumn :=
  mappings.map fun mapping => ⟨mapping.targetName, mapping.logicalType⟩

/-! ## Rows -/

/-- A text or a number as a text, if anything is left. -/
def valueAsTrimmedString (value : Json) : Option Text :=
  let raw := match value with
    | .string value => some (Text.trim value)
    | .number value => some (Json.renderNumber value)
    | _ => none
  raw.filter fun raw => ¬ raw.isEmpty

/-- `{:0width$}` of a number. -/
def zeroPadded (width n : Nat) : Text :=
  List.replicate (width - (Text.decimal n).length) '0' ++ Text.decimal n

/-- The checks are on bytes; only ASCII digits pass them. -/
def normalizeGaDateLiteral (raw : Text) : Option Text := do
  let value := Text.trim raw
  guard (value.length = 8 ∧ value.all Char.isDigit)
  let number := fun first last => Nat.ofDigitChars 10 ((value.take last).drop first) 0
  let year := number 0 4
  let month := number 4 6
  let day := number 6 8
  guard (month ≠ 0 ∧ month ≤ 12)
  guard (day ≠ 0 ∧ day ≤ maxDay year month)
  return zeroPadded 4 year ++ text "-" ++ zeroPadded 2 month ++ text "-" ++ zeroPadded 2 day

/-- `YYYYMMDDHH` as a timestamp. -/
def normalizeGaDateHourLiteral (raw : Text) : Option Text := do
  let value := Text.trim raw
  guard (value.length = 10 ∧ value.all Char.isDigit)
  let date ← normalizeGaDateLiteral (value.take 8)
  let hour := Nat.ofDigitChars 10 (value.drop 8) 0
  guard (hour ≤ 23)
  return date ++ text " " ++ zeroPadded 2 hour ++ text ":00:00"

/-- A value under a transform. -/
def remapValueForIngestMapping (value : Option Json) (transform : IngestValueTransform) : Json :=
  let parsed := fun normalize : Text → Option Text =>
    Json.ofOption (((value.bind valueAsTrimmedString).bind normalize).map .string)
  match transform with
  | .identity => value.getD .null
  | .parseGaDate => parsed normalizeGaDateLiteral
  | .parseGaDateHour => parsed normalizeGaDateHourLiteral

/-- One row of `remap_rows_for_ingest`. -/
def remapRowForIngest (mappings : List IngestColumnMapping) (row : JsonMap) : JsonMap :=
  JsonMap.ofFields (mappings.map fun mapping => (mapping.targetName,
    remapValueForIngestMapping (JsonMap.get row mapping.sourceName) mapping.transform))

/-- All the rows, under the names of the table. -/
def remapRowsForIngest (rows : List JsonMap) (mappings : List IngestColumnMapping) :
    List JsonMap :=
  rows.map (remapRowForIngest mappings)

example : remapRowForIngest
    (buildIngestColumnMappings [.new (text "date"), .new (text "eventName")])
    (.ofFields [(text "date", .string (text "20260230")), (text "eventName", .string (text "x"))]) =
    .ofFields [(text "date", .string (text "20260230")), (text "date_parsed", .null),
      (text "eventname", .string (text "x"))] := by
  rfl

/-! ## Identifiers -/

/-- A character of an identifier. -/
def isIdentifierChar (c : Char) : Bool := c.isAlphanum || c = '_'

/-- A text that may stand as an identifier. -/
structure IsIdentifier (t : Text) : Prop where
  start : ∃ first ∈ t.head?, (first.isAlpha || first = '_') = true
  all : ∀ c ∈ t, isIdentifierChar c = true

theorem not_isWhitespace_of_isIdentifierChar {c : Char} (h : isIdentifierChar c = true) :
    Text.isWhitespace c = false := by
  rcases Bool.or_eq_true_iff.mp h with h | h
  · exact Text.not_isWhitespace_of_isAlphanum h
  · rw [of_decide_eq_true h]
    rfl

theorem isAlpha_or_isDigit {c : Char} (h : c.isAlphanum = true) : c.isAlpha ∨ c.isDigit := by
  rwa [Char.isAlphanum, Bool.or_eq_true] at h

/-- What is accepted. -/
theorem IsIdentifier.accepted {t : Text} (h : IsIdentifier t) (field : Text) :
    validateSqlIdentifier t field = .ok () := by
  have htrim : Text.trim t = t :=
    Text.trim_of_not_isWhitespace fun c hc => not_isWhitespace_of_isIdentifierChar (h.all c hc)
  obtain ⟨first, hfirst, hstart⟩ := h.start
  cases t with
  | nil => cases hfirst
  | cons c rest =>
      obtain rfl := Option.some.inj hfirst
      have hrest : rest.all (fun ch => ch.isAlphanum || ch = '_') = true :=
        List.all_eq_true.mpr fun ch hch => h.all ch (List.mem_cons_of_mem _ hch)
      rw [validateSqlIdentifier, htrim]
      simp only
      rw [if_neg (not_not_intro hstart), if_neg (not_not_intro hrest)]

theorem IsIdentifier.append {t suffix : Text} (h : IsIdentifier t)
    (hsuffix : ∀ c ∈ suffix, isIdentifierChar c = true) : IsIdentifier (t ++ suffix) := by
  obtain ⟨first, hfirst, hstart⟩ := h.start
  refine ⟨⟨first, ?_, hstart⟩, fun c hc => ?_⟩
  · rw [List.head?_append, hfirst]
    rfl
  · rcases List.mem_append.mp hc with hc | hc
    · exact h.all c hc
    · exact hsuffix c hc

theorem isIdentifierChar_of_mem_identifierChars {previousUnderscore : Bool} {t : Text} {c : Char}
    (h : c ∈ identifierChars previousUnderscore t) : isIdentifierChar c = true := by
  induction t generalizing previousUnderscore with
  | nil => cases h
  | cons ch rest ih =>
      rw [identifierChars] at h
      split at h
      · next halphanum =>
          rcases List.mem_cons.mp h with rfl | h
          · refine Bool.or_eq_true_iff.mpr (.inl ?_)
            exact Text.forall_char_lt (p := fun c => c.isAlphanum → c.toLower.isAlphanum = true) 123
              (by decide +kernel) ch (Text.toNat_lt_of_isAlphanum halphanum) halphanum
          · exact ih h
      · split at h
        · exact ih h
        · rcases List.mem_cons.mp h with rfl | h
          · rfl
          · exact ih h

/-- A name of these characters is an identifier, behind an underscore if it starts with a
    digit. -/
theorem isIdentifier_guarded (t : Text) : t ≠ [] → (∀ c ∈ t, isIdentifierChar c = true) →
    IsIdentifier (match t with
      | first :: _ => if first.isDigit then '_' :: t else t
      | [] => t) := by
  intro hne hall
  cases t with
  | nil => exact absurd rfl hne
  | cons first rest =>
      simp only
      split
      · exact ⟨⟨'_', rfl, rfl⟩, List.forall_mem_cons.mpr ⟨rfl, hall⟩⟩
      · next hdigit =>
          refine ⟨⟨first, rfl, ?_⟩, hall⟩
          rcases Bool.or_eq_true_iff.mp (hall first List.mem_cons_self) with halphanum | hscore
          · exact Bool.or_eq_true_iff.mpr
              (.inl ((isAlpha_or_isDigit halphanum).resolve_right hdigit))
          · exact Bool.or_eq_true_iff.mpr (.inr hscore)

/-- **Normalised names** are identifiers, if the fallback is one. -/
theorem isIdentifier_normalizeSqlIdentifier {fallback : Text} (hfallback : IsIdentifier fallback)
    (raw : Text) : IsIdentifier (normalizeSqlIdentifier raw fallback) := by
  let stripped := ((identifierChars false (Text.trim raw)).dropWhile (· = '_')).rdropWhile (· = '_')
  have hstripped : ∀ c ∈ stripped, isIdentifierChar c = true := by
    intro c hc
    exact isIdentifierChar_of_mem_identifierChars
      ((List.dropWhile_suffix _).mem ((List.rdropWhile_prefix _ _).mem hc))
  refine isIdentifier_guarded (if stripped.isEmpty then fallback else stripped) ?_ ?_
  · split
    · obtain ⟨first, hmem, -⟩ := hfallback.start
      rintro rfl
      cases hmem
    · next hne => exact fun hnil => hne (by rw [hnil]; rfl)
  · split
    · exact hfallback.all
    · exact hstripped

theorem isIdentifier_ingestFallback (index : Nat) : IsIdentifier (ingestFallback index) := by
  have hcol : IsIdentifier (text "col_") :=
    ⟨⟨'c', rfl, rfl⟩, List.forall_iff_forall_mem.mp (by decide)⟩
  refine hcol.append fun c hc => ?_
  rw [isIdentifierChar, Char.isAlphanum, Text.isDigit_of_mem_decimal hc, Bool.or_true,
    Bool.true_or]

/-! ## Targets -/

/-- The names before repeated ones are numbered: of each column, and of the column derived
    from it. -/
def ingestBases (columns : List (ColumnMeta × Nat)) : List Text :=
  columns.flatMap fun column =>
    let base := normalizeSqlIdentifier column.1.name (ingestFallback column.2)
    base :: ((temporalMappingForSourceName column.1.name).map fun derived =>
      base ++ text "_" ++ derived.1).toList

theorem ingestMappingsFrom_targets (seen : List Text) (columns : List (ColumnMeta × Nat)) :
    (ingestMappingsFrom seen columns).map IngestColumnMapping.targetName =
      suffixRepeats repeatedName seen (ingestBases columns) := by
  induction columns generalizing seen with
  | nil => rfl
  | cons column columns ih =>
      rw [ingestMappingsFrom, ingestBases, List.flatMap_cons]
      cases temporalMappingForSourceName column.1.name with
      | none =>
          rw [List.map_cons, ih]
          rfl
      | some derived =>
          rw [List.map_cons, List.map_cons, ih]
          rfl

theorem temporalMappingForSourceName_some {sourceName : Text}
    {derived : Text × Text × IngestValueTransform}
    (h : temporalMappingForSourceName sourceName = some derived) :
    derived.1 = text "parsed" ∧ derived.2.2 ≠ .identity := by
  unfold temporalMappingForSourceName at h
  dsimp only at h
  split at h
  · rw [← Option.some.inj h]
    exact ⟨rfl, by decide⟩
  · split at h
    · rw [← Option.some.inj h]
      exact ⟨rfl, by decide⟩
    · cases h

/-- Each source column keeps a column of its own, in order. -/
theorem ingestMappingsFrom_identity (seen : List Text) (columns : List (ColumnMeta × Nat)) :
    ((ingestMappingsFrom seen columns).filter fun mapping => mapping.transform = .identity).map
      IngestColumnMapping.sourceName = columns.map fun column => column.1.name := by
  induction columns generalizing seen with
  | nil => rfl
  | cons column columns ih =>
      rw [ingestMappingsFrom]
      cases hderived : temporalMappingForSourceName column.1.name with
      | none =>
          rw [List.filter_cons_of_pos rfl, List.map_cons, List.map_cons, ih]
      | some derived =>
          have hderived := (temporalMappingForSourceName_some hderived).2
          rw [List.filter_cons_of_pos rfl, List.filter_cons_of_neg (by simpa using hderived),
            List.map_cons, List.map_cons, ih]

theorem isIdentifier_of_mem_ingestBases {columns : List (ColumnMeta × Nat)} {base : Text}
    (h : base ∈ ingestBases columns) : IsIdentifier base := by
  obtain ⟨column, -, hbase⟩ := List.mem_flatMap.mp h
  have hcolumn := isIdentifier_normalizeSqlIdentifier (isIdentifier_ingestFallback column.2)
    column.1.name
  rcases List.mem_cons.mp hbase with rfl | hderived
  · exact hcolumn
  · obtain ⟨derived, hsome, rfl⟩ := Option.map_eq_some_iff.mp (Option.mem_toList.mp hderived)
    rw [(temporalMappingForSourceName_some hsome).1]
    refine (hcolumn.append ?_).append ?_
    · exact List.forall_iff_forall_mem.mp (by decide)
    · exact List.forall_iff_forall_mem.mp (by decide)

theorem isIdentifier_repeatedName {base : Text} (h : IsIdentifier base) (count : Nat) :
    IsIdentifier (repeatedName base count) := by
  have hunderscore : IsIdentifier (base ++ text "_") :=
    h.append (List.forall_iff_forall_mem.mp (by decide))
  refine hunderscore.append fun c hc => ?_
  rw [isIdentifierChar, Char.isAlphanum, Text.isDigit_of_mem_decimal hc, Bool.or_true,
    Bool.true_or]

/-- **Every target** is an identifier. -/
theorem isIdentifier_target {columns : List ColumnMeta} {mapping : IngestColumnMapping}
    (h : mapping ∈ buildIngestColumnMappings columns) : IsIdentifier mapping.targetName := by
  have htarget : mapping.targetName ∈
      (buildIngestColumnMappings columns).map IngestColumnMapping.targetName :=
    List.mem_map_of_mem h
  rw [buildIngestColumnMappings, ingestMappingsFrom_targets, mem_suffixRepeats] at htarget
  rcases htarget with ⟨hbase, -⟩ | ⟨base, count, ⟨-, hlt, hle⟩, hname⟩
  · exact isIdentifier_of_mem_ingestBases hbase
  · have hbase : base ∈ ingestBases columns.zipIdx := by
      refine List.count_pos_iff.mp ?_
      omega
    exact hname ▸ isIdentifier_repeatedName (isIdentifier_of_mem_ingestBases hbase) count

/-- No numbered name is the name of a column or of a derived column. -/
def TargetsApart (columns : List ColumnMeta) : Prop :=
  ∀ base ∈ ingestBases columns.zipIdx, ∀ count ≤ (ingestBases columns.zipIdx).count base,
    2 ≤ count → repeatedName base count ∉ ingestBases columns.zipIdx

instance (columns : List ColumnMeta) : Decidable (TargetsApart columns) := by
  unfold TargetsApart
  infer_instance

theorem nodup_targets_iff (columns : List ColumnMeta) :
    ((buildIngestColumnMappings columns).map IngestColumnMapping.targetName).Nodup ↔
      TargetsApart columns := by
  rw [buildIngestColumnMappings, ingestMappingsFrom_targets,
    nodup_suffixRepeats_iff repeatedName_injective]
  constructor
  · exact fun h base _ count hle htwo => h base count htwo hle
  · intro h base count htwo hle
    exact h base (List.count_pos_iff.mp (by omega)) count hle htwo

/-! ## The schema -/

theorem validateIngestColumns_eq_ok {seen : List Text} {columns : List ScratchpadIngestColumn} :
    validateIngestColumns seen columns = .ok () ↔
      (∀ column ∈ columns, validateSqlIdentifier column.name (text "column_name") = .ok ()) ∧
      (columns.map ScratchpadIngestColumn.name).Nodup ∧
      ∀ column ∈ columns, column.name ∉ seen := by
  induction columns generalizing seen with
  | nil => exact iff_of_true rfl (by simp)
  | cons column columns ih =>
      have hbind : validateIngestColumns seen (column :: columns) = .ok () ↔
          validateSqlIdentifier column.name (text "column_name") = .ok () ∧
            column.name ∉ seen ∧ validateIngestColumns (column.name :: seen) columns = .ok () := by
        constructor
        · intro h
          obtain ⟨⟨⟩, haccepted, h⟩ := bind_eq_ok.mp h
          obtain ⟨⟨⟩, hnew, h⟩ := bind_eq_ok.mp h
          exact ⟨haccepted, refuseIf_eq_ok.mp hnew, h⟩
        · rintro ⟨haccepted, hnew, h⟩
          exact bind_eq_ok.mpr ⟨(), haccepted, bind_eq_ok.mpr ⟨(), refuseIf_eq_ok.mpr hnew, h⟩⟩
      rw [hbind, ih]
      simp only [List.forall_mem_cons]
      simp only [List.map_cons, List.nodup_cons, List.mem_cons, not_or, List.mem_map]
      constructor
      · rintro ⟨haccepted, hnew, hall, hdistinct, hseen⟩
        exact ⟨⟨haccepted, hall⟩, ⟨fun ⟨other, hother, heq⟩ => (hseen other hother).1 heq,
          hdistinct⟩, hnew, fun other hother => (hseen other hother).2⟩
      · rintro ⟨⟨haccepted, hall⟩, ⟨hhead, hdistinct⟩, hnew, hseen⟩
        exact ⟨haccepted, hnew, hall, hdistinct, fun other hother =>
          ⟨fun heq => hhead ⟨other, hother, heq⟩, hseen other hother⟩⟩

/-- The mappings of some columns make a table, and lose no value. -/
structure UsableSchema (columns : List ColumnMeta) : Prop where
  distinct : ((buildIngestColumnMappings columns).map IngestColumnMapping.targetName).Nodup
  accepted : ∀ mapping ∈ buildIngestColumnMappings columns, ∀ field,
    validateSqlIdentifier mapping.targetName field = .ok ()
  ingested : validateIngestColumns [] (ingestColumns (buildIngestColumnMappings columns)) = .ok ()
  covered : ((buildIngestColumnMappings columns).filter fun mapping =>
    mapping.transform = .identity).map IngestColumnMapping.sourceName =
      columns.map ColumnMeta.name
  kept : ∀ row, ∀ mapping ∈ buildIngestColumnMappings columns, mapping.transform = .identity →
    JsonMap.get (remapRowForIngest (buildIngestColumnMappings columns) row) mapping.targetName =
      some ((JsonMap.get row mapping.sourceName).getD .null)

/-- **A report is ingested** as it is exactly when no numbered name is a name that the columns
    have anyway. -/
theorem usableSchema_iff (columns : List ColumnMeta) :
    UsableSchema columns ↔ TargetsApart columns := by
  rw [← nodup_targets_iff]
  refine ⟨UsableSchema.distinct, fun hdistinct => ?_⟩
  have haccepted : ∀ mapping ∈ buildIngestColumnMappings columns, ∀ field,
      validateSqlIdentifier mapping.targetName field = .ok () :=
    fun mapping hmapping field => (isIdentifier_target hmapping).accepted field
  refine ⟨hdistinct, haccepted, ?_, ?_, fun row mapping hmapping hidentity => ?_⟩
  · refine validateIngestColumns_eq_ok.mpr ⟨fun column hcolumn => ?_, ?_, by simp⟩
    · obtain ⟨mapping, hmapping, rfl⟩ := List.mem_map.mp hcolumn
      exact haccepted mapping hmapping _
    · rw [ingestColumns, List.map_map]
      exact hdistinct
  · rw [buildIngestColumnMappings, ingestMappingsFrom_identity]
    calc columns.zipIdx.map (fun column => column.1.name)
        = (columns.zipIdx.map Prod.fst).map ColumnMeta.name := by rw [List.map_map]; rfl
      _ = columns.map ColumnMeta.name := by rw [List.zipIdx_map_fst]
  · refine JsonMap.get_ofFields ?_ ?_
    · rw [List.map_map]
      exact hdistinct
    · refine List.mem_map.mpr ⟨mapping, hmapping, ?_⟩
      rw [hidentity]
      rfl

/-- Two names that become one, and a third that has the number already. -/
theorem not_usableSchema :
    ¬ UsableSchema (["Event Name", "Event-Name", "event_name_2"].map fun name => .new (text name)) ∧
    validateIngestColumns [] (ingestColumns (buildIngestColumnMappings
      (["Event Name", "Event-Name", "event_name_2"].map fun name => .new (text name)))) =
        .error (.invalidArgument (text "columns")
          (text "duplicate column name 'event_name_2'")) := by
  exact ⟨fun h => absurd h.distinct (by decide), by rfl⟩

end Ga4Mcp.Tools
