/-
  The page window of a tool call, of `src/tools.rs`: the checks of its arguments, the
  query hash, and the cursor that names a query and an offset.

  * `decodeCursor_encodeCursor`: a cursor is read back as it was written, for every hash
    that a tool makes (`stableQueryHash_sound`) and every `u64` offset.
  * `resolveCursorWindow_eq_ok`, `resolveCursorOffset_encodeCursor`: when a window is
    granted, and which of its own cursors a query accepts.
-/
import Ga4Mcp.Error
import Ga4Mcp.Lib.Checks
import Ga4Mcp.Tools.Json

namespace Ga4Mcp.Tools

open Ga4Mcp.Lib

/-! ## Bounds -/

def maxReportLimit : Nat := 250000

def defaultTabularMaxRows : Nat := 200

def maxTabularMaxRows : Nat := 25000

def maxCellCharsLimit : Nat := 16384

/-! ## Checks of the arguments -/

/-- The error of an offset out of bounds. -/
def offsetTooHigh : AnalyticsError :=
  .invalidArgument (text "offset") (text "is unreasonably high for a single request")

/-- The common check of `limit`, `max_rows` and `max_cell_chars`. -/
def checkPositiveUpTo (field : Text) (bound : Nat) (value : Nat) : Except AnalyticsError Unit := do
  refuseIf (value = 0) (.invalidArgument field (text "must be greater than zero"))
  refuseIf (value > bound) (.invalidArgument field (text "must be <= " ++ Text.decimal bound))

/-- The bounds of a window. -/
def validateLimitOffset (limit offset : Option Nat) : Except AnalyticsError Unit := do
  ifSome limit (checkPositiveUpTo (text "limit") maxReportLimit)
  ifSome offset fun value => refuseIf (value > maxReportLimit * 10) offsetTooHigh

/-- The bounds of the controls, and a cursor that is not blank. -/
def validateTabularControls (maxRows maxCellChars : Option Nat) (cursor : Option Text) :
    Except AnalyticsError Unit := do
  ifSome maxRows (checkPositiveUpTo (text "max_rows") maxTabularMaxRows)
  ifSome maxCellChars (checkPositiveUpTo (text "max_cell_chars") maxCellCharsLimit)
  ifSome cursor fun raw =>
    refuseIf (Text.trim raw).isEmpty (.invalidCursor (text "cursor must not be an empty string"))

/-! ## Query hashes -/

/-- `stable_query_hash`; `hasher` is `DefaultHasher` on one text. -/
def stableQueryHash (hasher : Text → UInt64) (signature : Json) : Text :=
  hex16 (hasher signature.sortObject.render)

/-! ## Cursors -/

/-- What a cursor says. -/
structure CursorToken where
  queryHash : Text
  offset : Nat
deriving DecidableEq, Repr

def encodeCursor (queryHash : Text) (offset : Nat) : Text :=
  text "v1:" ++ queryHash ++ text ":" ++ Text.decimal offset

def decodeCursor (raw : Text) : Except AnalyticsError CursorToken :=
  match Text.splitn 3 ':' raw with
  | [version, queryHash, offset] =>
      if version ≠ text "v1" then
        .error (.invalidCursor (text "expected cursor format v1:<query_hash>:<offset>"))
      else
        match parseU64 offset with
        | none =>
            .error (.invalidCursor (text "offset component must be a non-negative integer"))
        | some offset =>
            if (Text.trim queryHash).isEmpty then
              .error (.invalidCursor (text "query hash component must not be empty"))
            else .ok ⟨queryHash, offset⟩
  | _ => .error (.invalidCursor (text "expected cursor format v1:<query_hash>:<offset>"))

/-! ## The window -/

/-- The rows of a page, within every bound that is given. -/
def resolvePageSize (maxRows requestedLimit : Option Nat) : Nat :=
  let pageSize := max (maxRows.getD defaultTabularMaxRows) 1
  let pageSize := match requestedLimit with
    | some limit => min pageSize limit
    | none => pageSize
  min (max pageSize 1) maxTabularMaxRows

/-- The offset of a cursor for this query, or the one asked for. -/
def resolveCursorOffset (queryHash : Text) (cursor : Option Text) (requestedOffset : Option Nat) :
    Except AnalyticsError Nat :=
  match cursor with
  | some rawCursor => do
      refuseIf requestedOffset.isSome
        (.invalidArgument (text "offset") (text "must be omitted when cursor is supplied"))
      let token ← decodeCursor rawCursor
      refuseIf (token.queryHash ≠ queryHash) .cursorQueryMismatch
      refuseIf (token.offset > maxReportLimit * 10) offsetTooHigh
      return token.offset
  | none => .ok (requestedOffset.getD 0)

/-- The offset and the page size. -/
def resolveCursorWindow (queryHash : Text) (cursor : Option Text)
    (requestedOffset maxRows requestedLimit : Option Nat) : Except AnalyticsError (Nat × Nat) := do
  let offset ← resolveCursorOffset queryHash cursor requestedOffset
  return (offset, resolvePageSize maxRows requestedLimit)

/-! ## What a granted window is like -/

theorem checkPositiveUpTo_eq_ok {field : Text} {bound value : Nat} :
    checkPositiveUpTo field bound value = .ok () ↔ 0 < value ∧ value ≤ bound := by
  unfold checkPositiveUpTo
  constructor
  · intro h
    obtain ⟨⟨⟩, hzero, h⟩ := bind_eq_ok.mp h
    have hpos := refuseIf_eq_ok.mp hzero
    have hle := refuseIf_eq_ok.mp h
    omega
  · intro h
    have hpos : ¬ value = 0 := by omega
    have hle : ¬ value > bound := by omega
    exact bind_eq_ok.mpr ⟨(), refuseIf_eq_ok.mpr hpos, refuseIf_eq_ok.mpr hle⟩

theorem validateLimitOffset_eq_ok {limit offset : Option Nat} :
    validateLimitOffset limit offset = .ok () ↔
      (∀ value ∈ limit, 0 < value ∧ value ≤ maxReportLimit) ∧
        ∀ value ∈ offset, value ≤ maxReportLimit * 10 := by
  have hoffset : ifSome offset (fun value =>
      refuseIf (value > maxReportLimit * 10) offsetTooHigh) = .ok () ↔
        ∀ value ∈ offset, value ≤ maxReportLimit * 10 := by
    rw [ifSome_eq_ok]
    exact forall₂_congr fun _ _ => refuseIf_eq_ok.trans Nat.not_lt
  unfold validateLimitOffset
  rw [← hoffset]
  constructor
  · intro h
    obtain ⟨⟨⟩, hlimit, h⟩ := bind_eq_ok.mp h
    exact ⟨fun value hvalue => checkPositiveUpTo_eq_ok.mp (ifSome_eq_ok.mp hlimit value hvalue), h⟩
  · intro h
    exact bind_eq_ok.mpr ⟨(), ifSome_eq_ok.mpr fun value hvalue =>
      checkPositiveUpTo_eq_ok.mpr (h.1 value hvalue), h.2⟩

/-- An offset is below the ceiling, whether it comes from a cursor or was checked before. -/
theorem resolveCursorOffset_le {queryHash : Text} {cursor : Option Text}
    {requestedOffset : Option Nat} {offset : Nat}
    (h : resolveCursorOffset queryHash cursor requestedOffset = .ok offset)
    (hrequested : ∀ value ∈ requestedOffset, value ≤ maxReportLimit * 10) :
    offset ≤ maxReportLimit * 10 := by
  unfold resolveCursorOffset at h
  cases cursor with
  | some rawCursor =>
      obtain ⟨⟨⟩, -, h⟩ := bind_eq_ok.mp h
      obtain ⟨token, -, h⟩ := bind_eq_ok.mp h
      obtain ⟨⟨⟩, -, h⟩ := bind_eq_ok.mp h
      obtain ⟨⟨⟩, hceiling, h⟩ := bind_eq_ok.mp h
      have hle := refuseIf_eq_ok.mp hceiling
      rw [← pure_eq_ok.mp h]
      omega
  | none =>
      cases requestedOffset with
      | none =>
          cases h
          exact Nat.zero_le _
      | some value =>
          cases h
          exact hrequested _ rfl

theorem resolvePageSize_pos (maxRows requestedLimit : Option Nat) :
    0 < resolvePageSize maxRows requestedLimit := by
  exact Nat.lt_min.mpr ⟨Nat.lt_of_lt_of_le Nat.zero_lt_one (Nat.le_max_right _ _), by decide⟩

theorem resolvePageSize_le (maxRows requestedLimit : Option Nat) :
    resolvePageSize maxRows requestedLimit ≤ maxTabularMaxRows :=
  Nat.min_le_right _ _

theorem resolveCursorWindow_eq_ok {queryHash : Text} {cursor : Option Text}
    {requestedOffset maxRows requestedLimit : Option Nat} {window : Nat × Nat} :
    resolveCursorWindow queryHash cursor requestedOffset maxRows requestedLimit = .ok window ↔
      resolveCursorOffset queryHash cursor requestedOffset = .ok window.1 ∧
        window.2 = resolvePageSize maxRows requestedLimit := by
  unfold resolveCursorWindow
  constructor
  · intro h
    obtain ⟨offset, hoffset, h⟩ := bind_eq_ok.mp h
    rw [← pure_eq_ok.mp h]
    exact ⟨hoffset, rfl⟩
  · intro h
    rw [h.1, ← Prod.mk.eta (p := window), h.2]
    rfl

/-! ## Reading a cursor back -/

/-- What the hash in a cursor must be like to be read back. -/
structure SoundHash (queryHash : Text) : Prop where
  noColon : ':' ∉ queryHash
  notBlank : Text.trim queryHash ≠ []

theorem decodeCursor_encodeCursor {queryHash : Text} (h : SoundHash queryHash) {offset : Nat}
    (hoffset : offset ≤ usizeMax) :
    decodeCursor (encodeCursor queryHash offset) = .ok ⟨queryHash, offset⟩ := by
  have hsplit : Text.splitn 3 ':' (encodeCursor queryHash offset) =
      [text "v1", queryHash, Text.decimal offset] := by
    have hshape : encodeCursor queryHash offset =
        text "v1" ++ ':' :: (queryHash ++ ':' :: Text.decimal offset) := by
      simp [encodeCursor, text]
    rw [hshape, Text.splitn_append (by decide), Text.splitn_append h.noColon]
    rfl
  unfold decodeCursor
  rw [hsplit]
  simp [parseU64_decimal hoffset, h.notBlank]

/-- Every hash that a tool makes can be read back. -/
theorem stableQueryHash_sound (hasher : Text → UInt64) (signature : Json) :
    SoundHash (stableQueryHash hasher signature) := by
  have halnum : ∀ c ∈ stableQueryHash hasher signature, c.isAlphanum := isAlphanum_of_mem_hex16
  refine ⟨fun hcolon => absurd (halnum _ hcolon) (by decide), ?_⟩
  rw [Text.trim_of_not_isWhitespace fun c hc => Text.not_isWhitespace_of_isAlphanum (halnum c hc)]
  exact hex16_ne_nil _

/-- The query accepts a cursor it wrote itself up to the ceiling of the offset. -/
theorem resolveCursorOffset_encodeCursor {queryHash : Text} (h : SoundHash queryHash)
    {offset : Nat} (hoffset : offset ≤ usizeMax) :
    resolveCursorOffset queryHash (some (encodeCursor queryHash offset)) none =
      if offset ≤ maxReportLimit * 10 then .ok offset else .error offsetTooHigh := by
  have hdecode := decodeCursor_encodeCursor h hoffset
  by_cases hle : offset ≤ maxReportLimit * 10
  · have hceiling : ¬ offset > maxReportLimit * 10 := by omega
    simp [resolveCursorOffset, hdecode, refuseIf, hle, hceiling, bind, Except.bind, pure,
      Except.pure]
  · have hceiling : offset > maxReportLimit * 10 := by omega
    simp [resolveCursorOffset, hdecode, refuseIf, hle, hceiling, bind, Except.bind]

/-- The other controls may stay as they are. -/
theorem validateTabularControls_encodeCursor {maxRows maxCellChars : Option Nat}
    {cursor : Option Text} (h : validateTabularControls maxRows maxCellChars cursor = .ok ())
    (queryHash : Text) (offset : Nat) :
    validateTabularControls maxRows maxCellChars (some (encodeCursor queryHash offset)) =
      .ok () := by
  obtain ⟨⟨⟩, hrows, h⟩ := bind_eq_ok.mp h
  obtain ⟨⟨⟩, hcells, -⟩ := bind_eq_ok.mp h
  have hne : Text.trim (encodeCursor queryHash offset) ≠ [] :=
    Text.trim_ne_nil (c := 'v') List.mem_cons_self (by decide)
  refine bind_eq_ok.mpr ⟨(), hrows, bind_eq_ok.mpr ⟨(), hcells, refuseIf_eq_ok.mpr ?_⟩⟩
  rwa [List.isEmpty_iff]

end Ga4Mcp.Tools
