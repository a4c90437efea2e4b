/-
  The text of a JSON value tells the value.

  What `serde_json` writes of a value can be told from what follows it: strings are in a
  prefix code, numbers end before the next character that is in no number.

  * `Json.render_inj`: where the text of a value ends.
  * `Json.render_injective`: different values are written differently.
-/
import Ga4Mcp.Lib.Codes
import Ga4Mcp.Tools.JsonMaps

namespace Ga4Mcp.Tools

open Ga4Mcp.Lib

/-! ## Texts -/

namespace Json

/-- The escape of a character that is not written as it is, behind its backslash. -/
def escapeTail (c : Char) : Text := (escapeChar c).tail

theorem escapeChar_cases (c : Char) :
    escapeChar c = [c] ∧ c ≠ '"' ∧ c ≠ '\\' ∧ 32 ≤ c.toNat ∨
      c.toNat < 93 ∧ escapeChar c = '\\' :: escapeTail c := by
  unfold escapeTail escapeChar
  split
  case isTrue h => exact .inr ⟨by rw [h]; decide, rfl⟩
  case isFalse hquote =>
    split
    case isTrue h => exact .inr ⟨by rw [h]; decide, rfl⟩
    case isFalse hbackslash =>
      split_ifs
      all_goals
        first
          | exact .inr ⟨by omega, rfl⟩
          | exact .inl ⟨rfl, hquote, hbackslash, by omega⟩

/-- Escapes differ before either of them ends. -/
theorem escapeTail_inj : ∀ m n : Fin 93,
    (escapeChar (Char.ofNat m)).head? = some '\\' → (escapeChar (Char.ofNat n)).head? = some '\\' →
      (escapeTail (Char.ofNat m) <+: escapeTail (Char.ofNat n)) → m = n := by
  decide +kernel

theorem prefixCode_escapeChar : PrefixCode escapeChar := by
  intro c d x y h
  rcases escapeChar_cases c with ⟨hc, -, hcb, -⟩ | ⟨hclt, hc⟩ <;>
    rcases escapeChar_cases d with ⟨hd, -, hdb, -⟩ | ⟨hdlt, hd⟩
  case inl.inl =>
    rw [hc, hd] at h
    exact List.cons.inj h
  case inl.inr =>
    rw [hc, hd] at h
    exact absurd (List.cons.inj h).1 hcb
  case inr.inl =>
    rw [hc, hd] at h
    exact absurd (List.cons.inj h).1.symm hdb
  case inr.inr =>
    rw [hc, hd] at h
    have htail : escapeTail c ++ x = escapeTail d ++ y := (List.cons.inj h).2
    have hcd : c = d := by
      have hc' : (escapeChar (Char.ofNat c.toNat)).head? = some '\\' := by
        rw [Char.ofNat_toNat, hc]
        rfl
      have hd' : (escapeChar (Char.ofNat d.toNat)).head? = some '\\' := by
        rw [Char.ofNat_toNat, hd]
        rfl
      have hprefix := List.prefix_or_prefix_of_prefix (List.prefix_append (escapeTail c) x)
        (htail ▸ List.prefix_append (escapeTail d) y)
      have hnat : c.toNat = d.toNat := by
        rcases hprefix with hprefix | hprefix
        · have heq := escapeTail_inj ⟨c.toNat, hclt⟩ ⟨d.toNat, hdlt⟩ hc' hd'
            (by simpa only [Char.ofNat_toNat] using hprefix)
          exact Fin.mk.inj heq
        · have heq := escapeTail_inj ⟨d.toNat, hdlt⟩ ⟨c.toNat, hclt⟩ hd' hc'
            (by simpa only [Char.ofNat_toNat] using hprefix)
          exact (Fin.mk.inj heq).symm
      exact Char.toNat_inj.mp hnat
    subst hcd
    exact ⟨rfl, List.append_cancel_left htail⟩

theorem prefixCode_renderString : PrefixCode renderString := by
  intro v w x y h
  have hmark : ∀ c x y, escapeChar c ++ x ≠ '"' :: y := by
    intro c x y h
    rcases escapeChar_cases c with ⟨hc, hquote, -, -⟩ | ⟨-, hc⟩
    · rw [hc] at h
      exact hquote (List.cons.inj h).1
    · rw [hc] at h
      exact absurd (List.cons.inj h).1 (by decide)
  simp only [renderString, List.append_assoc, List.singleton_append] at h
  exact prefixCode_escapeChar.flatMap_inj hmark (List.cons.inj h).2

/-! ## Numbers -/

theorem isNumberChar_of_mem {n : JsonNumber} (h : n.Valid) :
    ∀ c ∈ renderNumber n, isNumberChar c = true := by
  have hdecimal : ∀ value, ∀ c ∈ Text.decimal value, isNumberChar c = true := by
    intro value c hc
    rw [isNumberChar, Text.isDigit_of_mem_decimal hc, Bool.true_or]
  cases n with
  | posInt value => exact hdecimal value
  | negInt magnitude =>
      intro c hc
      rcases List.mem_cons.mp hc with rfl | hc
      · decide
      · exact hdecimal magnitude c hc
  | float written =>
      simp only [JsonNumber.Valid, isFloatText, Bool.and_eq_true, List.all_eq_true] at h
      exact h.1.2

/-- Integers have neither a point nor an exponent. -/
theorem float_iff_any {n : JsonNumber} (h : n.Valid) :
    (renderNumber n).any (· ∈ ['.', 'e']) = true ↔ ∃ written, n = .float written := by
  have hdecimal : ∀ value, (Text.decimal value).any (· ∈ ['.', 'e']) = false := by
    intro value
    refine List.any_eq_false.mpr fun c hc hmark => ?_
    have hdigit := Text.isDigit_of_mem_decimal hc
    have hcases : c = '.' ∨ c = 'e' := by simpa using hmark
    rcases hcases with rfl | rfl <;> exact absurd hdigit (by decide)
  cases n with
  | posInt value =>
      rw [renderNumber, hdecimal]
      simp
  | negInt magnitude =>
      rw [renderNumber, List.any_cons, hdecimal]
      simp
  | float written =>
      simp only [JsonNumber.Valid, isFloatText, Bool.and_eq_true] at h
      exact iff_of_true h.2 ⟨written, rfl⟩

theorem renderNumber_injective {n k : JsonNumber} (hn : n.Valid) (hk : k.Valid)
    (h : renderNumber n = renderNumber k) : n = k := by
  have hfloat := float_iff_any hn
  rw [h, float_iff_any hk] at hfloat
  have hminus : ∀ value rest, Text.decimal value ≠ '-' :: rest := by
    intro value rest heq
    have hdigit : ('-').isDigit :=
      Text.isDigit_of_mem_decimal (n := value) (heq ▸ List.mem_cons_self)
    exact absurd hdigit (by decide)
  cases n with
  | float written =>
      obtain ⟨other, rfl⟩ := hfloat.mpr ⟨written, rfl⟩
      exact congrArg JsonNumber.float h
  | posInt value =>
      cases k with
      | float other => exact absurd (hfloat.mp ⟨other, rfl⟩) (by simp)
      | posInt other => exact congrArg JsonNumber.posInt (Text.decimal_injective h)
      | negInt other => exact absurd h (hminus value _)
  | negInt magnitude =>
      cases k with
      | float other => exact absurd (hfloat.mp ⟨other, rfl⟩) (by simp)
      | posInt other => exact absurd h.symm (hminus other _)
      | negInt other =>
          exact congrArg JsonNumber.negInt (Text.decimal_injective (List.cons.inj h).2)

/-! ## Values and their texts -/

/-- The first character of a text. -/
def lead : Json → Char
  | null => 'n'
  | bool value => if value then 't' else 'f'
  | number value => (renderNumber value).headD '0'
  | string _ => '"'
  | array _ => '['
  | object _ => '{'

theorem render_eq_lead (value : Json) (h : value.Valid) :
    ∃ rest, render value = lead value :: rest := by
  cases value with
  | null => exact ⟨_, rfl⟩
  | bool value => cases value <;> exact ⟨_, rfl⟩
  | string value => exact ⟨_, rfl⟩
  | array values => exact ⟨_, rfl⟩
  | object fields => exact ⟨_, rfl⟩
  | number value =>
      have hne : renderNumber value ≠ [] := by
        cases value with
        | posInt value => exact Nat.toDigits_ne_nil
        | negInt magnitude => exact List.cons_ne_nil _ _
        | float written =>
            rintro rfl
            cases h
      obtain ⟨c, rest, hcons⟩ := List.exists_cons_of_ne_nil hne
      refine ⟨rest, ?_⟩
      rw [render, lead, hcons]
      rfl

/-- What a first character begins. -/
def kindOfLead (c : Char) : Option Nat :=
  if c.isDigit ∨ c = '-' then some 0
  else [('n', 1), ('t', 2), ('f', 2), ('"', 3), ('[', 4), ('{', 5)].lookup c

/-- The kind of a value, by a number. -/
def kind : Json → Nat
  | number _ => 0
  | null => 1
  | bool _ => 2
  | string _ => 3
  | array _ => 4
  | object _ => 5

theorem kindOfLead_lead (value : Json) (h : value.Valid) :
    kindOfLead (lead value) = some (kind value) := by
  cases value with
  | null => rfl
  | bool value => cases value <;> rfl
  | string value => rfl
  | array values => rfl
  | object fields => rfl
  | number value =>
      have hlead : (lead (number value)).isDigit ∨ lead (number value) = '-' := by
        cases value with
        | posInt value =>
            obtain ⟨c, rest, hcons⟩ := List.exists_cons_of_ne_nil
              (Nat.toDigits_ne_nil (n := value) (b := 10))
            have hlead : lead (number (.posInt value)) = c := congrArg (List.headD · '0') hcons
            rw [hlead]
            exact .inl (Text.isDigit_of_mem_decimal (n := value)
              (by rw [Text.decimal, hcons]; exact List.mem_cons_self))
        | negInt magnitude => exact .inr rfl
        | float written =>
            cases written with
            | nil => cases h
            | cons c rest =>
                simp only [Valid, JsonNumber.Valid, isFloatText, Bool.and_eq_true] at h
                have hfirst : c.isDigit ∨ c = '-' := by simpa using h.1.1
                exact hfirst
      rw [kindOfLead, if_pos hlead]
      rfl

theorem kind_eq {a b : Json} (ha : a.Valid) (hb : b.Valid) {x y : Text}
    (h : render a ++ x = render b ++ y) : kind a = kind b := by
  obtain ⟨s, hs⟩ := render_eq_lead a ha
  obtain ⟨t, ht⟩ := render_eq_lead b hb
  rw [hs, ht] at h
  rw [← Option.some_inj, ← kindOfLead_lead a ha, ← kindOfLead_lead b hb, (List.cons.inj h).1]

/-- A value does not begin with the end of an array. -/
theorem render_append_ne {value : Json} (h : value.Valid) {c : Char} (hc : kindOfLead c = none)
    (x y : Text) : render value ++ x ≠ c :: y := by
  obtain ⟨s, hs⟩ := render_eq_lead value h
  intro heq
  rw [hs] at heq
  have hkind := kindOfLead_lead value h
  rw [(List.cons.inj heq).1, hc] at hkind
  cases hkind

/-- What follows the first value of an array. -/
def moreValues : List Json → Text
  | [] => []
  | value :: values => ',' :: renderValues (value :: values)

theorem renderValues_cons (value : Json) (values : List Json) :
    renderValues (value :: values) = render value ++ moreValues values := by
  cases values with
  | nil => exact (List.append_nil _).symm
  | cons next values => simp [renderValues, moreValues]

/-- The fields behind the first one. -/
def moreFields : List (Text × Json) → Text
  | [] => []
  | field :: fields => ',' :: renderFields (field :: fields)

theorem renderFields_cons (key : Text) (value : Json) (fields : List (Text × Json)) :
    renderFields ((key, value) :: fields) =
      renderString key ++ ':' :: (render value ++ moreFields fields) := by
  cases fields with
  | nil => simp [renderFields, moreFields]
  | cons next fields => simp [renderFields, moreFields]

theorem stops_more {more : Text} (x : Text) {c : Char} (hc : isNumberChar c = false)
    (h : more = [] ∨ ∃ rest, more = ',' :: rest) : Stops isNumberChar (more ++ c :: x) := by
  rcases h with rfl | ⟨rest, rfl⟩
  · exact stops_cons hc x
  · exact stops_cons (by decide) _

mutual

/-- **The text of a value** tells where the value ends. -/
theorem render_inj : ∀ (a b : Json) (x y : Text), a.Valid → b.Valid → Stops isNumberChar x →
    Stops isNumberChar y → render a ++ x = render b ++ y → a = b ∧ x = y
  | null, b, x, y, ha, hb, _, _, h => by
      have hkind := kind_eq ha hb h
      cases b with
      | null => exact ⟨rfl, List.append_cancel_left h⟩
      | _ => cases hkind
  | bool value, b, x, y, ha, hb, _, _, h => by
      have hkind := kind_eq ha hb h
      cases b with
      | bool other =>
          cases value <;> cases other
          · exact ⟨rfl, List.append_cancel_left h⟩
          · exact absurd (List.cons.inj h).1 (by decide)
          · exact absurd (List.cons.inj h).1 (by decide)
          · exact ⟨rfl, List.append_cancel_left h⟩
      | _ => cases hkind
  | number value, b, x, y, ha, hb, hx, hy, h => by
      have hkind := kind_eq ha hb h
      cases b with
      | number other =>
          obtain ⟨htext, hrest⟩ := munch_inj (isNumberChar_of_mem ha) (isNumberChar_of_mem hb) hx
            hy h
          exact ⟨congrArg number (renderNumber_injective ha hb htext), hrest⟩
      | _ => cases hkind
  | string value, b, x, y, ha, hb, _, _, h => by
      have hkind := kind_eq ha hb h
      cases b with
      | string other =>
          obtain ⟨rfl, hrest⟩ := prefixCode_renderString value other x y h
          exact ⟨rfl, hrest⟩
      | _ => cases hkind
  | array values, b, x, y, ha, hb, _, _, h => by
      have hkind := kind_eq ha hb h
      cases b with
      | array others =>
          simp only [render, List.append_assoc, List.singleton_append] at h
          obtain ⟨rfl, hrest⟩ := renderValues_inj values others x y ha hb (List.cons.inj h).2
          exact ⟨rfl, hrest⟩
      | _ => cases hkind
  | object fields, b, x, y, ha, hb, _, _, h => by
      have hkind := kind_eq ha hb h
      cases b with
      | object others =>
          simp only [render, List.append_assoc, List.singleton_append] at h
          obtain ⟨rfl, hrest⟩ := renderFields_inj fields others x y ha.2 hb.2 (List.cons.inj h).2
          exact ⟨rfl, hrest⟩
      | _ => cases hkind

theorem renderValues_inj : ∀ (values others : List Json) (x y : Text), ValidValues values →
    ValidValues others → renderValues values ++ ']' :: x = renderValues others ++ ']' :: y →
      values = others ∧ x = y
  | [], others, x, y, _, hothers, h => by
      cases others with
      | nil => exact ⟨rfl, (List.cons.inj h).2⟩
      | cons other others =>
          rw [renderValues_cons, List.append_assoc] at h
          exact absurd h.symm (render_append_ne hothers.1 (by decide) _ x)
  | value :: values, others, x, y, hvalues, hothers, h => by
      cases others with
      | nil =>
          rw [renderValues_cons, List.append_assoc] at h
          exact absurd h (render_append_ne hvalues.1 (by decide) _ y)
      | cons other others =>
          have ih := renderValues_inj values others x y hvalues.2 hothers.2
          rw [renderValues_cons, renderValues_cons, List.append_assoc, List.append_assoc] at h
          have hstops : ∀ (values : List Json) x,
              Stops isNumberChar (moreValues values ++ ']' :: x) := by
            intro values x
            refine stops_more x (by decide) ?_
            cases values with
            | nil => exact .inl rfl
            | cons value values => exact .inr ⟨_, rfl⟩
          obtain ⟨rfl, hmore⟩ := render_inj value other _ _ hvalues.1 hothers.1 (hstops values x)
            (hstops others y) h
          cases values with
          | nil =>
              cases others with
              | nil => exact ⟨rfl, (List.cons.inj hmore).2⟩
              | cons next others => exact absurd (List.cons.inj hmore).1 (by decide)
          | cons first values =>
              cases others with
              | nil => exact absurd (List.cons.inj hmore).1 (by decide)
              | cons next others =>
                  obtain ⟨hvalues, hrest⟩ := ih (List.cons.inj hmore).2
                  exact ⟨by rw [hvalues], hrest⟩

theorem renderFields_inj : ∀ (fields others : List (Text × Json)) (x y : Text),
    ValidFields fields → ValidFields others →
      renderFields fields ++ '}' :: x = renderFields others ++ '}' :: y → fields = others ∧ x = y
  | [], others, x, y, _, _, h => by
      cases others with
      | nil => exact ⟨rfl, (List.cons.inj h).2⟩
      | cons other others =>
          rw [renderFields_cons] at h
          exact absurd (List.cons.inj h).1 (by decide)
  | (key, value) :: fields, others, x, y, hfields, hothers, h => by
      cases others with
      | nil =>
          rw [renderFields_cons] at h
          exact absurd (List.cons.inj h).1 (by decide)
      | cons other others =>
          have ih := renderFields_inj fields others x y hfields.2 hothers.2
          rw [renderFields_cons, renderFields_cons, List.append_assoc, List.append_assoc] at h
          have hstops : ∀ (fields : List (Text × Json)) x,
              Stops isNumberChar (moreFields fields ++ '}' :: x) := by
            intro fields x
            refine stops_more x (by decide) ?_
            cases fields with
            | nil => exact .inl rfl
            | cons field fields => exact .inr ⟨_, rfl⟩
          obtain ⟨hkey, hvalue⟩ := prefixCode_renderString key other.1 _ _ h
          rw [List.cons_append, List.cons_append, List.append_assoc, List.append_assoc] at hvalue
          obtain ⟨hvalue, hmore⟩ := render_inj value other.2 _ _ hfields.1 hothers.1
            (hstops fields x) (hstops others y) (List.cons.inj hvalue).2
          have hfield : (key, value) = other := Prod.ext hkey hvalue
          cases fields with
          | nil =>
              cases others with
              | nil => exact ⟨by rw [hfield], (List.cons.inj hmore).2⟩
              | cons next others => exact absurd (List.cons.inj hmore).1 (by decide)
          | cons first fields =>
              cases others with
              | nil => exact absurd (List.cons.inj hmore).1 (by decide)
              | cons next others =>
                  obtain ⟨hfields, hrest⟩ := ih (List.cons.inj hmore).2
                  exact ⟨by rw [hfield, hfields], hrest⟩

end

/-- **Different values** are written differently. -/
theorem render_injective {a b : Json} (ha : a.Valid) (hb : b.Valid) (h : render a = render b) :
    a = b := by
  refine (render_inj a b [] [] ha hb (stops_nil _) (stops_nil _) ?_).1
  rw [h]

end Json

end Ga4Mcp.Tools
