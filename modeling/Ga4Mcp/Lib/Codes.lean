/-
  Texts that can be told from what follows them.

  * `PrefixCode.flatMap_inj`: a list in a prefix code, up to a mark that no item begins with.
  * `munch_inj`: a text of some characters, before another character or at the end.
-/
import Mathlib.Data.List.TakeWhile

namespace Ga4Mcp.Lib

section

variable {α β : Type}

/-- What is written tells where it ends. -/
def PrefixCode (code : α → List β) : Prop :=
  ∀ a b x y, code a ++ x = code b ++ y → a = b ∧ x = y

theorem PrefixCode.flatMap_inj {code : α → List β} {mark : β} (hcode : PrefixCode code)
    (hmark : ∀ a x y, code a ++ x ≠ mark :: y) {as bs : List α} {x y : List β}
    (h : as.flatMap code ++ mark :: x = bs.flatMap code ++ mark :: y) : as = bs ∧ x = y := by
  induction as generalizing bs with
  | nil =>
      cases bs with
      | nil => exact ⟨rfl, (List.cons.inj h).2⟩
      | cons b bs =>
          rw [List.flatMap_cons, List.append_assoc] at h
          exact absurd h.symm (hmark b _ x)
  | cons a as ih =>
      cases bs with
      | nil =>
          rw [List.flatMap_cons, List.append_assoc] at h
          exact absurd h (hmark a _ y)
      | cons b bs =>
          rw [List.flatMap_cons, List.flatMap_cons, List.append_assoc, List.append_assoc] at h
          obtain ⟨rfl, hrest⟩ := hcode a b _ _ h
          obtain ⟨rfl, htail⟩ := ih hrest
          exact ⟨rfl, htail⟩

/-- The text does not go on with a character of the kind. -/
def Stops (p : β → Bool) (t : List β) : Prop := ∀ b ∈ t.head?, p b = false

theorem stops_nil (p : β → Bool) : Stops p [] := fun b h => by cases h

theorem stops_cons {p : β → Bool} {b : β} (h : p b = false) (t : List β) : Stops p (b :: t) := by
  intro c hc
  obtain rfl := Option.some.inj hc
  exact h

theorem takeWhile_append_of_stops {p : β → Bool} {a x : List β} (ha : ∀ c ∈ a, p c = true)
    (hx : Stops p x) : (a ++ x).takeWhile p = a := by
  rw [List.takeWhile_append_of_pos ha]
  cases x with
  | nil => exact List.append_nil a
  | cons b x =>
      rw [List.takeWhile_cons_of_neg (by rw [hx b rfl]; exact Bool.false_ne_true), List.append_nil]

theorem munch_inj {p : β → Bool} {a b x y : List β} (ha : ∀ c ∈ a, p c = true)
    (hb : ∀ c ∈ b, p c = true) (hx : Stops p x) (hy : Stops p y) (h : a ++ x = b ++ y) :
    a = b ∧ x = y := by
  have hab : a = b := by
    rw [← takeWhile_append_of_stops ha hx, h, takeWhile_append_of_stops hb hy]
  subst hab
  exact ⟨rfl, List.append_cancel_left h⟩

end

end Ga4Mcp.Lib
