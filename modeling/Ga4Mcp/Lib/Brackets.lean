/-
  LIBRARY. Matching brackets in a list.

  * `closeIndex`: where the bracket opened just before the list is closed.
  * `Balanced`: every closing bracket has an opening one before it, and none is left open.
  * `closeIndex_append_iff`: a closing bracket put after `xs` closes the outer one exactly
    when `xs` is balanced.
-/
import Mathlib.Data.List.Basic
import Mathlib.Tactic.Common

namespace Ga4Mcp.Lib

variable {α : Type*} [DecidableEq α] (opening closing : α)

/-- The index that closes the bracket opened before the list, with `depth` more brackets
    open in it. -/
def closeIndex : Nat → List α → Option Nat
  | _, [] => none
  | depth, a :: rest =>
      if a = opening then (closeIndex (depth + 1) rest).map (· + 1)
      else if a = closing then
        match depth with
        | 0 => some 0
        | depth + 1 => (closeIndex depth rest).map (· + 1)
      else (closeIndex depth rest).map (· + 1)

/-- The brackets of the list match, when `depth` are open before it. -/
def balancedFrom : Nat → List α → Bool
  | depth, [] => depth = 0
  | depth, a :: rest =>
      if a = opening then balancedFrom (depth + 1) rest
      else if a = closing then
        match depth with
        | 0 => false
        | depth + 1 => balancedFrom depth rest
      else balancedFrom depth rest

/-- Every opening bracket is closed, and none before it was opened. -/
def Balanced (xs : List α) : Prop := balancedFrom opening closing 0 xs

instance (xs : List α) : Decidable (Balanced opening closing xs) :=
  inferInstanceAs (Decidable (_ = true))

variable {opening closing}

theorem closeIndex_append_iff (hne : opening ≠ closing) (xs post : List α) (depth : Nat) :
    closeIndex opening closing depth (xs ++ closing :: post) = some xs.length ↔
      balancedFrom opening closing depth xs := by
  induction xs generalizing depth with
  | nil => cases depth <;> simp [closeIndex, balancedFrom, hne.symm]
  | cons a xs ih =>
      simp only [List.cons_append, closeIndex, balancedFrom, List.length_cons]
      split
      · simpa using ih (depth + 1)
      · split
        · cases depth with
          | zero => simp
          | succ depth => simpa using ih depth
        · simpa using ih depth

end Ga4Mcp.Lib
