/-
  What a request's token can look like, of `src/ga_client.rs`.

  A value without the Bearer scheme must be one word; what follows the scheme need not, and
  the scheme's own word is a token too.

  * `parse_eq_ok`: the two ways in which a value is accepted.
  * `takenWhole_of_scheme`: what is taken after the scheme is the end of the value.
  * `acceptedToken_iff`: when an accepted token is a single one.
-/
import Ga4Mcp.Auth.Credentials

namespace Ga4Mcp.Auth

open Ga4Mcp.Lib

/-! ## Tokens -/

/-- The word of the scheme, in any case. -/
def IsScheme (t : Text) : Prop := Text.eqIgnoreAsciiCase t (text "bearer") = true

instance (t : Text) : Decidable (IsScheme t) := inferInstanceAs (Decidable (_ = _))

/-- A text without blanks. -/
def IsWord (t : Text) : Prop := ∀ c ∈ t, Text.isWhitespace c = false

instance (t : Text) : Decidable (IsWord t) :=
  inferInstanceAs (Decidable (∀ c ∈ t, Text.isWhitespace c = false))

/-- The value itself, or the part after the scheme and the space that follows it. -/
def TakenWhole (raw t : Text) : Prop :=
  t = Text.trim raw ∨ ∃ scheme space, Text.trim raw = scheme ++ space ++ t ∧ IsScheme scheme ∧
    space ≠ [] ∧ ∀ c ∈ space, Text.isWhitespace c = true

/-- One word that is not the scheme's, taken whole from a value. -/
structure SingleToken (raw t : Text) : Prop where
  ne_nil : t ≠ []
  word : IsWord t
  not_scheme : ¬ IsScheme t
  whole : TakenWhole raw t

/-- The value is not the scheme's word; and after the scheme comes one word, not the scheme's
    again, or nothing. -/
def PlainlyWritten (raw : Text) : Prop :=
  match stripBearerScheme (Text.trim raw) with
  | some rest => IsWord (Text.trim rest) ∧ ¬ IsScheme (Text.trim rest)
  | none => ¬ IsScheme (Text.trim raw)

/-! ## What is accepted -/

section

variable {raw headerName t rest : Text}

theorem parse_some_eq_ok :
    parseRequestTokenHeaderValue (some raw) headerName = .ok (some t) ↔
      Text.trim raw ≠ [] ∧ normalizeRequestTokenValue (Text.trim raw) headerName = .ok t := by
  unfold parseRequestTokenHeaderValue
  by_cases hnil : Text.trim raw = []
  · simp [hnil, Option.filter]
  · have hfilter : ((some raw).map Text.trim).filter (fun value => ¬ value.isEmpty) =
        some (Text.trim raw) := by
      simp [hnil, Option.filter]
    rw [hfilter, and_iff_right hnil]
    dsimp only
    rw [mapError_eq_ok, map_eq_ok]
    simp

theorem ne_nil_of_stripBearerScheme {value : Text} (h : stripBearerScheme value = some rest) :
    value ≠ [] := by
  rintro rfl
  cases h

/-- **What is accepted**: what follows the scheme, or a word without the scheme. -/
theorem parse_eq_ok :
    parseRequestTokenHeaderValue (some raw) headerName = .ok (some t) ↔
      t ≠ [] ∧ ((∃ rest, stripBearerScheme (Text.trim raw) = some rest ∧ t = Text.trim rest) ∨
        stripBearerScheme (Text.trim raw) = none ∧ IsWord (Text.trim raw) ∧ t = Text.trim raw) := by
  rw [parse_some_eq_ok, normalizeRequestTokenValue]
  cases hstrip : stripBearerScheme (Text.trim raw) with
  | some rest =>
      rw [and_iff_right (ne_nil_of_stripBearerScheme hstrip)]
      by_cases hrest : Text.trim rest = []
      · simp [hrest]
      · simp only [List.isEmpty_iff, hrest, if_false, Except.ok.injEq, Option.some.injEq,
          exists_eq_left', reduceCtorEq, false_and, or_false]
        exact ⟨fun h => ⟨h ▸ hrest, h.symm⟩, fun h => h.2.symm⟩
  | none =>
      by_cases hword : IsWord (Text.trim raw)
      · have hany : (Text.trim raw).any Text.isWhitespace = false := by
          simpa [IsWord] using hword
        simp only [hany, Bool.false_eq_true, if_false, Except.ok.injEq, reduceCtorEq, false_and,
          exists_false, false_or, true_and, and_iff_right hword]
        exact ⟨fun h => ⟨h.2 ▸ h.1, h.2.symm⟩, fun h => ⟨h.2 ▸ h.1, h.2.symm⟩⟩
      · have hany : (Text.trim raw).any Text.isWhitespace = true := by
          simpa [IsWord] using hword
        simp only [hany, if_true, hword, false_and, and_false, reduceCtorEq, exists_false, or_false,
          iff_false, not_and]
        intro _
        split
        · exact fun h => by cases h
        · exact fun h => by cases h

/-- The end of a trimmed text is not trimmed at its end. -/
theorem trimEnd_of_suffix {part : Text} (h : part <:+ Text.trim raw) :
    Text.trimEnd part = part := by
  refine List.rdropWhile_eq_self_iff.mpr fun hne => ?_
  obtain ⟨before, hbefore⟩ := h
  have hraw : Text.trim raw ≠ [] := by
    rw [← hbefore]
    exact List.append_ne_nil_of_right_ne_nil _ hne
  have hlast : (Text.trim raw).getLast hraw = part.getLast hne := by
    simp only [← hbefore]
    exact List.getLast_append_of_ne_nil _ hne
  rw [← hlast]
  exact List.rdropWhile_last_not _ _ hraw

theorem IsScheme.word (h : IsScheme t) : IsWord t := by
  intro c hc
  have hlower : Text.toAsciiLowercase t = text "bearer" := by
    have := of_decide_eq_true h
    rw [this]
    decide
  have hmem : c.toLower ∈ text "bearer" := hlower ▸ List.mem_map_of_mem hc
  refine Text.not_isWhitespace_of_toLower ?_
  have hbearer : ∀ d ∈ text "bearer", Text.isWhitespace d = false :=
    List.forall_iff_forall_mem.mp (by decide)
  exact hbearer _ hmem

/-- **After the scheme** everything is taken but the space. -/
theorem takenWhole_of_scheme (h : stripBearerScheme (Text.trim raw) = some rest) :
    TakenWhole raw (Text.trim rest) := by
  rw [stripBearerScheme_eq] at h
  cases hsplit : Text.splitOnce ' ' (Text.trim raw) with
  | none =>
      rw [hsplit] at h
      cases h
  | some parts =>
      obtain ⟨scheme, rest'⟩ := parts
      rw [hsplit] at h
      dsimp only at h
      split at h
      case isFalse => cases h
      case isTrue hscheme =>
        obtain rfl := Option.some.inj h
        have hraw := (Text.splitOnce_eq_some hsplit).1
        have hsuffix : rest' <:+ Text.trim raw := by
          rw [hraw]
          exact (List.suffix_cons ' ' rest').trans (List.suffix_append scheme _)
        have htrim : Text.trim rest' = Text.trimStart rest' :=
          trimEnd_of_suffix ((List.dropWhile_suffix _).trans hsuffix)
        refine .inr ⟨scheme, ' ' :: rest'.takeWhile Text.isWhitespace, ?_, hscheme, by simp, ?_⟩
        · rw [hraw, htrim, List.append_assoc, List.cons_append]
          exact congrArg (fun t => scheme ++ ' ' :: t) List.takeWhile_append_dropWhile.symm
        · intro c hc
          rcases List.mem_cons.mp hc with rfl | hc
          · rfl
          · exact List.mem_takeWhile_imp hc

/-- **An accepted token is a single one** when the value is plainly written. -/
theorem accepted_single_iff :
    (∀ t, parseRequestTokenHeaderValue (some raw) headerName = .ok (some t) → SingleToken raw t) ↔
      PlainlyWritten raw := by
  unfold PlainlyWritten
  cases hstrip : stripBearerScheme (Text.trim raw) with
  | some rest =>
      have hok : ∀ t, parseRequestTokenHeaderValue (some raw) headerName = .ok (some t) ↔
          t ≠ [] ∧ t = Text.trim rest := by
        intro t
        rw [parse_eq_ok, hstrip]
        simp
      simp only [hok]
      constructor
      · intro hsingle
        by_cases hnil : Text.trim rest = []
        · rw [hnil]
          exact ⟨by simp [IsWord], by decide⟩
        · have := hsingle _ ⟨hnil, rfl⟩
          exact ⟨this.word, this.not_scheme⟩
      · rintro ⟨hword, hscheme⟩ t ⟨hne, rfl⟩
        exact ⟨hne, hword, hscheme, takenWhole_of_scheme hstrip⟩
  | none =>
      have hok : ∀ t, parseRequestTokenHeaderValue (some raw) headerName = .ok (some t) ↔
          t ≠ [] ∧ IsWord (Text.trim raw) ∧ t = Text.trim raw := by
        intro t
        rw [parse_eq_ok, hstrip]
        simp
      simp only [hok]
      constructor
      · intro hsingle hscheme
        have hne : Text.trim raw ≠ [] := by
          intro hnil
          rw [hnil] at hscheme
          exact absurd hscheme (by decide)
        exact (hsingle _ ⟨hne, hscheme.word, rfl⟩).not_scheme hscheme
      · rintro hscheme t ⟨hne, hword, rfl⟩
        exact ⟨hne, hword, hscheme, .inl rfl⟩

/-- A word is accepted alone and after the scheme. -/
theorem parse_word (hne : t ≠ []) (hword : IsWord t) (headerName : Text) :
    parseRequestTokenHeaderValue (some t) headerName = .ok (some t) := by
  have htrim : Text.trim t = t := Text.trim_of_not_isWhitespace hword
  have hspace : ' ' ∉ t := fun hmem => absurd (hword ' ' hmem) (by decide)
  have hstrip : stripBearerScheme t = none := by
    rw [stripBearerScheme_eq, Text.splitOnce, if_neg hspace]
  rw [parse_eq_ok, htrim]
  exact ⟨hne, .inr ⟨hstrip, hword, rfl⟩⟩

/-- However many spaces follow the scheme. -/
theorem parse_after_scheme {scheme spaces : Text} (hscheme : IsScheme scheme)
    (hspaces : ∀ c ∈ spaces, Text.isWhitespace c = true) (hne : t ≠ []) (hword : IsWord t)
    (headerName : Text) :
    parseRequestTokenHeaderValue (some (scheme ++ ' ' :: (spaces ++ t))) headerName =
      .ok (some t) := by
  have htrim : Text.trim (scheme ++ ' ' :: (spaces ++ t)) = scheme ++ ' ' :: (spaces ++ t) := by
    obtain ⟨c, rest, rfl⟩ : ∃ c rest, scheme = c :: rest := by
      refine List.exists_cons_of_ne_nil ?_
      rintro rfl
      exact absurd hscheme (by decide)
    obtain ⟨init, last, rfl⟩ : ∃ init last, t = init ++ [last] :=
      (List.eq_nil_or_concat' t).resolve_left hne
    have hcut := Text.trim_cons_concat (hscheme.word c List.mem_cons_self)
      (hword last (by simp)) (rest ++ ' ' :: (spaces ++ init))
    simpa using hcut
  have hspace : ' ' ∉ scheme := fun hmem => absurd (hscheme.word ' ' hmem) (by decide)
  have hstrip : stripBearerScheme (scheme ++ ' ' :: (spaces ++ t)) = some (spaces ++ t) := by
    rw [stripBearerScheme_eq, Text.splitOnce_append hspace]
    exact if_pos hscheme
  have hrest : Text.trim (spaces ++ t) = t := by
    rw [Text.trim, Text.trimStart, List.dropWhile_append_of_pos hspaces]
    exact Text.trim_of_not_isWhitespace hword
  rw [parse_eq_ok, htrim]
  exact ⟨hne, .inl ⟨_, hstrip, hrest.symm⟩⟩

/-- **An accepted token is a single one** exactly when the value is plainly written; and every
    word but the scheme's is accepted, alone and after the scheme. -/
theorem acceptedToken_iff (raw headerName : Text) :
    ((∀ t, parseRequestTokenHeaderValue (some raw) headerName = .ok (some t) →
        SingleToken raw t) ↔ PlainlyWritten raw) ∧
    ∀ t, t ≠ [] → IsWord t → ¬ IsScheme t →
      parseRequestTokenHeaderValue (some t) headerName = .ok (some t) ∧
      parseRequestTokenHeaderValue (some (text "Bearer " ++ t)) headerName = .ok (some t) ∧
      parseRequestTokenHeaderValue (some (text "bearer  " ++ t)) headerName = .ok (some t) := by
  refine ⟨accepted_single_iff, fun t hne hword _ => ?_⟩
  refine ⟨parse_word hne hword headerName, ?_, ?_⟩
  · exact @parse_after_scheme t (text "Bearer") [] (by decide) (by simp) hne hword headerName
  · exact @parse_after_scheme t (text "bearer") [' '] (by decide)
      (List.forall_iff_forall_mem.mp (by decide)) hne hword headerName

theorem acceptedToken_iff_authorization :
    SingleToken (text "Bearer ya29.x") (text "ya29.x") ∧
      parseRequestTokenHeaderValue (some (text "bearer  ya29.x")) (text "authorization") =
        .ok (some (text "ya29.x")) := by
  obtain ⟨hsingle, hforms⟩ := acceptedToken_iff (text "Bearer ya29.x") (text "authorization")
  have hword : IsWord (text "ya29.x") := List.forall_iff_forall_mem.mp (by decide)
  obtain ⟨-, hbearer, hspaced⟩ := hforms (text "ya29.x") (by decide) hword (by decide)
  refine ⟨hsingle.mpr ?_ _ hbearer, hspaced⟩
  have hstrip : stripBearerScheme (Text.trim (text "Bearer ya29.x")) = some (text "ya29.x") := by
    decide
  rw [PlainlyWritten, hstrip]
  exact ⟨hword, by decide⟩

/-- `Bearer a b` is accepted with a token of two words, and `Bearer` alone as a token. -/
theorem not_acceptedToken :
    (parseRequestTokenHeaderValue (some (text "Bearer a b")) (text "authorization") =
        .ok (some (text "a b")) ∧ ¬ SingleToken (text "Bearer a b") (text "a b")) ∧
      parseRequestTokenHeaderValue (some (text "Bearer")) (text "authorization") =
        .ok (some (text "Bearer")) ∧ ¬ SingleToken (text "Bearer") (text "Bearer") := by
  refine ⟨⟨by decide, fun h => ?_⟩, by decide, fun h => ?_⟩
  · exact absurd (h.word ' ' (by decide)) (by decide)
  · exact h.not_scheme (by decide)

end

end Ga4Mcp.Auth
