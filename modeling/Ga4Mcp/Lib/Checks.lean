/-
  LIBRARY. Fallible computations in `Except`: early refusals, and how a successful run
  comes apart.

  * `refuseIf`: a check that ends the computation with an error; `ifSome`: a check of an
    optional value.
  * `bind_eq_ok`, `refuseIf_eq_ok`: every step of a successful computation succeeded;
    `mapM_eq_ok`: so did the step of every element.
-/
import Mathlib.Data.List.Forall2

namespace Ga4Mcp.Lib

universe u v

variable {ε : Type u} {α β : Type v}

/-- An early return with an error. -/
def refuseIf (c : Prop) [Decidable c] (err : ε) : Except ε Unit :=
  if c then .error err else .ok ()

theorem refuseIf_eq_ok {c : Prop} [Decidable c] {err : ε} {u : Unit} :
    refuseIf c err = .ok u ↔ ¬ c := by
  unfold refuseIf
  by_cases h : c <;> simp [h]

/-- A check of a value that may be missing. -/
def ifSome (value : Option α) (check : α → Except ε Unit) : Except ε Unit :=
  value.elim (.ok ()) check

/-- A value that must be there. -/
def okOr (value : Option α) (err : ε) : Except ε α := value.elim (.error err) .ok

theorem okOr_eq_ok {value : Option α} {err : ε} {a : α} :
    okOr value err = .ok a ↔ value = some a := by
  cases value <;> simp [okOr]

theorem ifSome_eq_ok {value : Option α} {check : α → Except ε Unit} {u : Unit} :
    ifSome value check = .ok u ↔ ∀ a ∈ value, check a = .ok () := by
  cases value with
  | none => simp [ifSome]
  | some a => simp [ifSome]

theorem bind_eq_ok {x : Except ε α} {f : α → Except ε β} {b : β} :
    x >>= f = .ok b ↔ ∃ a, x = .ok a ∧ f a = .ok b := by
  cases x with
  | error err =>
      refine ⟨fun h => ?_, fun ⟨a, h, _⟩ => ?_⟩ <;> cases h
  | ok a =>
      refine ⟨fun h => ⟨a, rfl, h⟩, fun ⟨a', h, h'⟩ => ?_⟩
      cases h
      exact h'

theorem pure_eq_ok {a b : α} : (pure a : Except ε α) = .ok b ↔ a = b :=
  Except.ok.injEq a b ▸ Iff.rfl

theorem map_eq_ok {x : Except ε α} {f : α → β} {b : β} :
    x.map f = .ok b ↔ ∃ a, x = .ok a ∧ f a = b := by
  cases x <;> simp [Except.map]

theorem mapError_eq_ok {ε' : Type u} {f : ε → ε'} {x : Except ε α} {a : α} :
    x.mapError f = .ok a ↔ x = .ok a := by
  cases x <;> simp [Except.mapError]

theorem toOption_eq_some {x : Except ε α} {a : α} : x.toOption = some a ↔ x = .ok a := by
  cases x <;> simp [Except.toOption]

theorem mapM_eq_ok {f : α → Except ε β} {xs : List α} {ys : List β} :
    xs.mapM f = .ok ys ↔ List.Forall₂ (fun x y => f x = .ok y) xs ys := by
  induction xs generalizing ys with
  | nil =>
      rw [List.mapM_nil, pure_eq_ok, List.forall₂_nil_left_iff]
      exact eq_comm
  | cons x xs ih =>
      rw [List.mapM_cons, List.forall₂_cons_left_iff]
      constructor
      · intro h
        obtain ⟨y, hy, h⟩ := bind_eq_ok.mp h
        obtain ⟨ys', hys, h⟩ := bind_eq_ok.mp h
        exact ⟨y, ys', hy, ih.mp hys, (pure_eq_ok.mp h).symm⟩
      · rintro ⟨y, ys', hy, hys, rfl⟩
        rw [hy, ih.mpr hys]
        rfl

theorem forM_eq_ok {f : α → Except ε Unit} {xs : List α} :
    xs.forM f = .ok () ↔ ∀ x ∈ xs, f x = .ok () := by
  induction xs with
  | nil => exact iff_of_true rfl (by simp)
  | cons x xs ih =>
      rw [List.forall_mem_cons, ← ih]
      change (f x >>= fun _ => xs.forM f) = .ok () ↔ _
      constructor
      · intro h
        obtain ⟨⟨⟩, hx, hxs⟩ := bind_eq_ok.mp h
        exact ⟨hx, hxs⟩
      · rintro ⟨hx, hxs⟩
        exact bind_eq_ok.mpr ⟨(), hx, hxs⟩

theorem forall₂_getElem? {R : α → β → Prop} {xs : List α} {ys : List β}
    (h : List.Forall₂ R xs ys) {i : Nat} {y : β} (hy : ys[i]? = some y) :
    ∃ x, xs[i]? = some x ∧ R x y := by
  induction h generalizing i with
  | nil => simp at hy
  | cons hxy _ ih =>
      cases i with
      | zero => exact ⟨_, rfl, Option.some.inj hy ▸ hxy⟩
      | succ i => exact ih hy

/-- One element is changed, and its partner with it. -/
theorem forall₂_modify {R : α × Nat → β → Prop} {xs : List α} {ys : List β}
    (h : List.Forall₂ R xs.zipIdx ys) {f : α → α} {i : Nat} {y : β}
    (hnew : ∀ x, xs[i]? = some x → R (f x, i) y) :
    List.Forall₂ R (xs.modify i f).zipIdx (ys.set i y) := by
  rw [List.forall₂_iff_get] at h ⊢
  obtain ⟨hlength, hget⟩ := h
  refine ⟨by simpa using hlength, fun j hj hj' => ?_⟩
  have hold := hget j (by simpa using hj) (by simpa using hj')
  simp only [List.get_eq_getElem, List.getElem_zipIdx, Nat.zero_add, List.getElem_modify,
    List.getElem_set] at hold ⊢
  split
  · next heq =>
      subst heq
      exact hnew _ (List.getElem?_eq_getElem _)
  · exact hold

/-- A change that the function does not see. -/
theorem zipWith_modify {γ : Type v} {g : α → β → γ} {f : α → α} (h : ∀ x y, g (f x) y = g x y)
    (i : Nat) (xs : List α) (ys : List β) :
    List.zipWith g (xs.modify i f) ys = List.zipWith g xs ys := by
  induction xs generalizing i ys with
  | nil => rw [List.modify_nil]
  | cons x xs ih =>
      cases ys with
      | nil => rw [List.zipWith_nil_right, List.zipWith_nil_right]
      | cons y ys =>
          cases i with
          | zero => rw [List.modify_zero_cons, List.zipWith_cons_cons, h, List.zipWith_cons_cons]
          | succ i =>
              rw [List.modify_succ_cons, List.zipWith_cons_cons, ih, List.zipWith_cons_cons]

end Ga4Mcp.Lib
