/-
  The templates of the release texts apart from the arguments.

  A template is the same list of pieces for all arguments, up to what fills its holes:
  it is written once with labels, and `Piece.fill` puts the arguments there. What is
  checked on the labelled template by evaluation then holds for all arguments.

  * `ReleaseRegressionParams.template_eq`, `LandingParamShiftParams.template_eq`.
-/
import Ga4Mcp.Tools.ReleaseSql

namespace Ga4Mcp.Tools

/-! ## Holes -/

/-- What goes into the holes, by label. -/
structure Fill where
  name : Text → Text
  literal : Text → Text
  days : Nat → Nat
  number : Nat → Nat

/-- A part with its hole filled. -/
def Piece.fill (f : Fill) : Piece → Piece
  | .sql fixed => .sql fixed
  | .name label => .name (f.name label)
  | .literal label => .literal (f.literal label)
  | .days label => .days (f.days label)
  | .number label => .number (f.number label)

/-- A piece with its fixed text as a list of characters, which can be evaluated. -/
inductive Shape where
  | fixed (chars : Text)
  | name (label : Text)
  | literal (label : Text)
  | days (label : Nat)
  | number (label : Nat)
deriving DecidableEq

/-- A part with its characters spelled out. -/
inductive Spells : Piece → Shape → Prop where
  | sql (chars : Text) : Spells (.sql (String.ofList chars)) (.fixed chars)
  | name (label : Text) : Spells (.name label) (.name label)
  | literal (label : Text) : Spells (.literal label) (.literal label)
  | days (label : Nat) : Spells (.days label) (.days label)
  | number (label : Nat) : Spells (.number label) (.number label)

/-! ## Labels -/

namespace ReleaseRegressionParams

/-- Holes in place of the arguments. -/
def labels (metric : Bool) : ReleaseRegressionParams where
  normalizedTableName := ['t']
  releaseDate := ['r']
  anchorEvent := ['a']
  comparisonEvent := ['c']
  dateColumn := ['d']
  eventColumn := ['e']
  metricColumn := if metric then some ['m'] else none
  preDays := 0
  transitionDays := 1
  postDays := 2

/-- The arguments for the holes. -/
def fill (p : ReleaseRegressionParams) : Fill where
  name
    | ['t'] => p.normalizedTableName
    | ['d'] => p.dateColumn
    | ['e'] => p.eventColumn
    | ['m'] => p.metricColumn.getD []
    | label => label
  literal
    | ['r'] => p.releaseDate
    | ['a'] => p.anchorEvent
    | ['c'] => p.comparisonEvent
    | label => label
  days
    | 0 => p.preDays
    | 1 => p.transitionDays
    | _ => p.postDays
  number label := label

theorem template_eq (p : ReleaseRegressionParams) :
    p.template = (labels p.metricColumn.isSome).template.map (Piece.fill p.fill) := by
  obtain ⟨table, release, anchor, comparison, date, event, metric, pre, transition, post⟩ := p
  cases metric <;> rfl

end ReleaseRegressionParams

namespace LandingParamShiftParams

/-- Holes in place of the arguments. -/
def labels (channel sourceMedium : Bool) : LandingParamShiftParams where
  normalizedTableName := ['t']
  releaseDate := ['r']
  dateColumn := ['d']
  landingUrlColumn := ['u']
  channelColumn := if channel then some ['c'] else none
  sourceMediumColumn := if sourceMedium then some ['s'] else none
  preDays := 0
  transitionDays := 1
  postDays := 2
  topN := 0

/-- The label of `postWindowDays` is the sum of two others. -/
def fill (p : LandingParamShiftParams) : Fill where
  name
    | ['t'] => p.normalizedTableName
    | ['d'] => p.dateColumn
    | ['u'] => p.landingUrlColumn
    | ['c'] => p.channelColumn.getD []
    | ['s'] => p.sourceMediumColumn.getD []
    | label => label
  literal
    | ['r'] => p.releaseDate
    | label => label
  days
    | 0 => p.preDays
    | 1 => p.transitionDays
    | 2 => p.postDays
    | _ => p.postWindowDays
  number _ := p.topN

theorem template_eq (p : LandingParamShiftParams) :
    p.template = (labels p.channelColumn.isSome p.sourceMediumColumn.isSome).template.map
      (Piece.fill p.fill) := by
  obtain ⟨table, release, date, url, channel, source, pre, transition, post, top⟩ := p
  cases channel <;> cases source <;> rfl

end LandingParamShiftParams

end Ga4Mcp.Tools
