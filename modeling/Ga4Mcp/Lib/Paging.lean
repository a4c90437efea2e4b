/-
  LIBRARY. Reading a list page by page with cursors.

  A client asks with a request `k`; the reply may name a cursor, and then the client asks
  again with the request that the cursor makes of `k`. `Walk` is the list of replies up to
  the first one without a cursor.

  `exists_walk`: when every reply shows a beginning of the rows that remain, names a
  cursor only after a row and leaves it out only at the end, the walk ends, and its pages
  are together the rows that remained at its start.
-/
import Mathlib.Data.List.Forall2
import Mathlib.Tactic.Common

namespace Ga4Mcp.Lib

universe u v

section

variable {κ : Type u} {ρ ν : Type v}

/-- The replies of a client that follows cursors until there is none. -/
inductive Walk (ask : κ → Option ρ) (cursor : ρ → Option ν) (resume : ν → κ → κ) :
    κ → List ρ → Prop where
  | last {k : κ} {reply : ρ} (hask : ask k = some reply) (hend : cursor reply = none) :
      Walk ask cursor resume k [reply]
  | more {k : κ} {reply : ρ} {c : ν} {replies : List ρ} (hask : ask k = some reply)
      (hcursor : cursor reply = some c)
      (hrest : Walk ask cursor resume (resume c k) replies) :
      Walk ask cursor resume k (reply :: replies)

/-- A walk has a first reply, and goes on if it has a cursor. -/
theorem Walk.head {ask : κ → Option ρ} {cursor : ρ → Option ν} {resume : ν → κ → κ} {k : κ}
    {replies : List ρ} (h : Walk ask cursor resume k replies) :
    ∃ reply, ask k = some reply ∧
      ∀ c, cursor reply = some c → ∃ rest, Walk ask cursor resume (resume c k) rest := by
  cases h with
  | last hask hend =>
      refine ⟨_, hask, fun c hc => ?_⟩
      rw [hend] at hc
      cases hc
  | more hask hcursor hrest =>
      refine ⟨_, hask, fun c hc => ?_⟩
      rw [hcursor] at hc
      cases hc
      exact ⟨_, hrest⟩

end

section

variable {κ : Type u} {ρ ν α : Type v} {ask : κ → Option ρ} {cursor : ρ → Option ν}
  {resume : ν → κ → κ}

/-- What one reply does for a request at position `n`. -/
structure StepOk (resume : ν → κ → κ) (cursor : ρ → Option ν) (At : κ → Nat → Prop)
    (rows : List α) (k : κ) (n : Nat) (reply : ρ) (page : List α) : Prop where
  isPrefix : page <+: rows.drop n
  atEnd : cursor reply = none → rows.length ≤ n + page.length
  goesOn : ∀ c, cursor reply = some c → page ≠ [] ∧ At (resume c k) (n + page.length)

/-- **A walk reads what remains, once and in order.** -/
theorem exists_walk {At : κ → Nat → Prop} {rows : List α} {Shows : ρ → List α → Prop}
    (hstep : ∀ k n, At k n → ∃ reply page, ask k = some reply ∧ Shows reply page ∧
      StepOk resume cursor At rows k n reply page) :
    ∀ k n, At k n → ∃ replies pages, Walk ask cursor resume k replies ∧
      List.Forall₂ Shows replies pages ∧ pages.flatten = rows.drop n := by
  -- on the number of rows that remain
  suffices h : ∀ remaining k n, At k n → rows.length - n = remaining →
      ∃ replies pages, Walk ask cursor resume k replies ∧
        List.Forall₂ Shows replies pages ∧ pages.flatten = rows.drop n from
    fun k n hat => h _ k n hat rfl
  intro remaining
  induction remaining using Nat.strongRecOn with
  | ind remaining ih =>
      intro k n hat hremaining
      obtain ⟨reply, page, hask, hshows, hok⟩ := hstep k n hat
      obtain ⟨rest, hrest⟩ := hok.isPrefix
      have hafter : rows.drop (n + page.length) = rest := by
        rw [← List.drop_drop, ← hrest, List.drop_left]
      cases hcursor : cursor reply with
      | none =>
          have hnil : rest = [] := by
            rw [← hafter]
            exact List.drop_eq_nil_of_le (hok.atEnd hcursor)
          refine ⟨[reply], [page], .last hask hcursor, .cons hshows .nil, ?_⟩
          rw [← hrest, hnil, List.flatten_singleton, List.append_nil]
      | some c =>
          obtain ⟨hne, hnext⟩ := hok.goesOn c hcursor
          have hpos : 0 < page.length := List.length_pos_iff.mpr hne
          have hfits : page.length ≤ rows.length - n := by
            have hle := hok.isPrefix.length_le
            rwa [List.length_drop] at hle
          obtain ⟨replies, pages, hwalk, hall, hflat⟩ :=
            ih (rows.length - (n + page.length)) (by omega) (resume c k) (n + page.length) hnext rfl
          refine ⟨reply :: replies, page :: pages, .more hask hcursor hwalk, .cons hshows hall, ?_⟩
          rw [List.flatten_cons, hflat, hafter, hrest]

end

end Ga4Mcp.Lib
