/-
  The filter shorthand of `src/tools.rs`, and what is parsed from it.

  The operator `==` is looked for in the whole text, and `=` only in a text without `==`.
  A quoted value after `=` is thus split where it contains `==`, and a field name ends at the
  first `==`, not at the first `=`.

  * `parseSimpleDimensionFilterExpression_eq_ok`: what is accepted, and the filter.
  * `readAs_double`, `readAs_single_iff`: the two forms with a quoted value.
  * `namesField_iff`: what is accepted from a string.
  * `shorthandAsWritten_iff`: when the shorthand is read as it is written.
-/
import Ga4Mcp.Tools.ReportViews

namespace Ga4Mcp.Tools

open Ga4Mcp.Lib

/-! ## Splitting -/

/-- What comes before the first character of the separator is kept. -/
theorem splitOnceAt_append {c : Char} {a : Text} (h : c ∉ a) (sep rest : Text) :
    splitOnceAt (c :: sep) (a ++ rest) =
      (splitOnceAt (c :: sep) rest).map fun parts => (a ++ parts.1, parts.2) := by
  induction a with
  | nil => simp
  | cons d a ih =>
      obtain ⟨hd, ha⟩ := not_or.mp (mt List.mem_cons.mpr h)
      have hnot : List.isPrefixOf (c :: sep) (d :: (a ++ rest)) = false := by
        simp [List.isPrefixOf, hd]
      rw [List.cons_append, splitOnceAt, hnot, ih ha]
      simp [Function.comp_def]

theorem splitOnceAt_self (c : Char) (sep rest : Text) :
    splitOnceAt (c :: sep) (c :: sep ++ rest) = some ([], rest) := by
  have hstarts : List.isPrefixOf (c :: sep) (c :: sep ++ rest) = true :=
    List.isPrefixOf_iff_prefix.mpr (List.prefix_append _ _)
  rw [List.cons_append, splitOnceAt, ← List.cons_append, hstarts, if_pos rfl]
  simp

theorem splitOnceAt_eq_none_iff {c : Char} {sep t : Text} :
    splitOnceAt (c :: sep) t = none ↔ ¬ (c :: sep) <:+: t := by
  induction t with
  | nil => simp [splitOnceAt]
  | cons d t ih =>
      rw [splitOnceAt, List.infix_cons_iff, ← List.isPrefixOf_iff_prefix]
      by_cases hstarts : List.isPrefixOf (c :: sep) (d :: t) = true
      · simp [hstarts]
      · simp [hstarts, ih]

/-! ## The filter -/

/-- The filter of a field and a value. -/
def exactFilter (fieldName value : Text) : Json :=
  .ofFields [("filter", .ofFields [
    ("field_name", .string fieldName),
    ("string_filter", .ofFields [
      ("match_type", .string (text "EXACT")),
      ("value", .string value)])])]

/-- The field name and the value of a string filter. -/
def filterParts (filter : Json) : Option (Text × Text) := do
  let inner ← filter.get (text "filter")
  let fieldName ← (← inner.get (text "field_name")).asStr
  let value ← (← (← inner.get (text "string_filter")).get (text "value")).asStr
  return (fieldName, value)

theorem filterParts_exactFilter (fieldName value : Text) :
    filterParts (exactFilter fieldName value) = some (fieldName, value) := by
  simp [filterParts, exactFilter, Json.ofFields, Json.get, JsonMap.ofFields, text_inj, Json.asStr]

theorem exactFilter_inj {fieldName value fieldName' value' : Text} :
    exactFilter fieldName value = exactFilter fieldName' value' ↔
      fieldName = fieldName' ∧ value = value' := by
  constructor
  · intro h
    have hparts := congrArg filterParts h
    rw [filterParts_exactFilter, filterParts_exactFilter] at hparts
    exact Prod.mk.inj (Option.some.inj hparts)
  · rintro ⟨rfl, rfl⟩
    rfl

/-- **The shorthand is accepted** with a field name, and with a value that is quoted where it
    has spaces. -/
theorem parseSimpleDimensionFilterExpression_eq_ok {raw field : Text} {filter : Json} :
    parseSimpleDimensionFilterExpression raw field = .ok filter ↔
      ∃ name value operator, splitFilterExpression raw field = .ok (name, value, operator) ∧
        Text.trim name ≠ [] ∧
        ((Text.trim value).any Text.isWhitespace → isWrappedInMatchingQuotes (Text.trim value)) ∧
        stripOptionalQuotes (Text.trim value) ≠ [] ∧
        filter = exactFilter (Text.trim name) (stripOptionalQuotes (Text.trim value)) := by
  constructor
  · intro h
    obtain ⟨⟨name, value, operator⟩, hsplit, h⟩ := bind_eq_ok.mp h
    obtain ⟨⟨⟩, hname, h⟩ := bind_eq_ok.mp h
    obtain ⟨⟨⟩, hquoted, h⟩ := bind_eq_ok.mp h
    obtain ⟨⟨⟩, hvalue, h⟩ := bind_eq_ok.mp h
    refine ⟨name, value, operator, hsplit, ?_, ?_, ?_, (pure_eq_ok.mp h).symm⟩
    · simpa using refuseIf_eq_ok.mp hname
    · simpa using refuseIf_eq_ok.mp hquoted
    · simpa using refuseIf_eq_ok.mp hvalue
  · rintro ⟨name, value, operator, hsplit, hname, hquoted, hvalue, rfl⟩
    refine bind_eq_ok.mpr ⟨_, hsplit, bind_eq_ok.mpr ⟨(), refuseIf_eq_ok.mpr ?_,
      bind_eq_ok.mpr ⟨(), refuseIf_eq_ok.mpr ?_,
        bind_eq_ok.mpr ⟨(), refuseIf_eq_ok.mpr ?_, pure_eq_ok.mpr rfl⟩⟩⟩⟩
    · simpa using hname
    · simpa using hquoted
    · simpa using hvalue

/-! ## The forms with a quoted value -/

/-- A field name that can stand before the operator. -/
structure IsFieldName (name : Text) : Prop where
  ne_nil : name ≠ []
  trimmed : Text.trim name = name
  plain : '=' ∉ name

theorem isWrappedInMatchingQuotes_quoted (value : Text) :
    isWrappedInMatchingQuotes ('"' :: (value ++ ['"'])) = true := by
  have hlen : Text.len ('"' :: (value ++ ['"'])) = 1 + Text.len (value ++ ['"']) := by
    rw [← List.singleton_append, Text.len, Text.utf8_append, List.length_append]
    rfl
  have hpos : 0 < Text.len (value ++ ['"']) := Text.len_pos (by simp)
  have hge : 2 ≤ Text.len ('"' :: (value ++ ['"'])) := by omega
  have hlast : ('"' :: (value ++ ['"'])).getLast? = some '"' := by
    rw [← List.cons_append, List.getLast?_concat]
  simp [isWrappedInMatchingQuotes, hge, hlast]

theorem stripOptionalQuotes_quoted (value : Text) :
    stripOptionalQuotes ('"' :: (value ++ ['"'])) = value := by
  rw [stripOptionalQuotes, if_pos (isWrappedInMatchingQuotes_quoted value), List.tail_cons,
    List.dropLast_concat]

/-- What is accepted with a quoted value after the operator. -/
theorem parse_quoted {raw field name value operator : Text}
    (hsplit : splitFilterExpression raw field = .ok (name, '"' :: (value ++ ['"']), operator))
    (hname : IsFieldName name) (hvalue : value ≠ []) :
    parseSimpleDimensionFilterExpression raw field = .ok (exactFilter name value) := by
  have htrim : Text.trim ('"' :: (value ++ ['"'])) = '"' :: (value ++ ['"']) :=
    Text.trim_cons_concat rfl rfl value
  refine parseSimpleDimensionFilterExpression_eq_ok.mpr ⟨_, _, _, hsplit, ?_, ?_, ?_, ?_⟩
  · rw [hname.trimmed]
    exact hname.ne_nil
  · rw [htrim]
    exact fun _ => isWrappedInMatchingQuotes_quoted value
  · rwa [htrim, stripOptionalQuotes_quoted]
  · rw [htrim, stripOptionalQuotes_quoted, hname.trimmed]

/-- `field=="value"`. -/
def doubleForm (name value : Text) : Text := name ++ text "==" ++ '"' :: (value ++ ['"'])

/-- `field="value"`. -/
def singleForm (name value : Text) : Text := name ++ text "=" ++ '"' :: (value ++ ['"'])

theorem splitFilterExpression_double {name : Text} (h : IsFieldName name) (value field : Text) :
    splitFilterExpression (doubleForm name value) field =
      .ok (name, '"' :: (value ++ ['"']), text "==") := by
  have hsplit : splitOnceAt (text "==") (doubleForm name value) =
      some (name, '"' :: (value ++ ['"'])) := by
    have hself : splitOnceAt (text "==") (text "==" ++ '"' :: (value ++ ['"'])) =
      some ([], '"' :: (value ++ ['"'])) := splitOnceAt_self '=' ['='] _
    have happend := splitOnceAt_append h.plain ['='] (text "==" ++ '"' :: (value ++ ['"']))
    rw [doubleForm, List.append_assoc]
    refine happend.trans ?_
    change (splitOnceAt (text "==") _).map _ = _
    rw [hself]
    simp
  rw [splitFilterExpression, hsplit]

/-- `==` is found in the single form only after the opening quote. -/
theorem splitOnceAt_singleForm {name : Text} (h : IsFieldName name) (value : Text) :
    splitOnceAt (text "==") (singleForm name value) =
      (splitOnceAt (text "==") (value ++ ['"'])).map fun parts =>
        (name ++ '=' :: '"' :: parts.1, parts.2) := by
  have hname := splitOnceAt_append h.plain ['='] (text "=" ++ '"' :: (value ++ ['"']))
  have hquote : splitOnceAt (text "==") ('"' :: (value ++ ['"'])) =
      (splitOnceAt (text "==") (value ++ ['"'])).map fun parts => ('"' :: parts.1, parts.2) :=
    splitOnceAt_append (a := ['"']) (by decide) ['='] (value ++ ['"'])
  have hequals : splitOnceAt (text "==") (text "=" ++ '"' :: (value ++ ['"'])) =
      (splitOnceAt (text "==") ('"' :: (value ++ ['"']))).map fun parts =>
        ('=' :: parts.1, parts.2) := by rfl
  rw [singleForm, List.append_assoc]
  refine hname.trans ?_
  change (splitOnceAt (text "==") _).map _ = _
  rw [hequals, hquote]
  simp [Function.comp_def]

theorem splitOnceAt_value {value : Text} :
    splitOnceAt (text "==") (value ++ ['"']) = none ↔ ¬ text "==" <:+: value := by
  refine splitOnceAt_eq_none_iff.trans (not_congr ?_)
  change ['=', '='] <:+: value ++ ['"'] ↔ ['=', '='] <:+: value
  refine ⟨fun h => ?_, fun h => h.trans (List.prefix_append _ _).isInfix⟩
  rcases List.infix_concat_iff.mp h with hsuffix | hinfix
  · -- `==` does not end in a quote
    rcases List.suffix_concat_iff.mp hsuffix with hnil | ⟨t, ht, -⟩
    · cases hnil
    · have hlast := congrArg List.getLast? ht
      simp at hlast
  · exact hinfix

/-- **The single form** is split at its first `=` when the value has no `==`. -/
theorem splitFilterExpression_single {name : Text} (h : IsFieldName name) {value : Text}
    (hvalue : ¬ text "==" <:+: value) (field : Text) :
    splitFilterExpression (singleForm name value) field =
      .ok (name, '"' :: (value ++ ['"']), text "=") := by
  have hdouble : splitOnceAt (text "==") (singleForm name value) = none := by
    rw [splitOnceAt_singleForm h, splitOnceAt_value.mpr hvalue]
    rfl
  have hsingle : Text.splitOnce '=' (singleForm name value) =
      some (name, '"' :: (value ++ ['"'])) := by
    rw [singleForm, List.append_assoc]
    exact Text.splitOnce_append h.plain _
  rw [splitFilterExpression, hdouble, hsingle]

/-- Otherwise it is split at the `==` of the value, and the name keeps the `=`. -/
theorem splitFilterExpression_single_of_infix {name : Text} (h : IsFieldName name) {value : Text}
    (hvalue : text "==" <:+: value) (field : Text) :
    ∃ before after, splitFilterExpression (singleForm name value) field =
      .ok (name ++ '=' :: before, after, text "==") := by
  obtain ⟨parts, hparts⟩ :=
    Option.ne_none_iff_exists'.mp (mt splitOnceAt_value.mp (not_not.mpr hvalue))
  refine ⟨'"' :: parts.1, parts.2, ?_⟩
  rw [splitFilterExpression, splitOnceAt_singleForm h, hparts]
  rfl

/-! ## The filter that is received -/

/-- A filter with a proper field name and a value. -/
def NamesField (filter : Json) : Prop :=
  ∃ name value, filterParts filter = some (name, value) ∧ IsFieldName name ∧ value ≠ []

theorem namesField_exactFilter {name value : Text} :
    NamesField (exactFilter name value) ↔ IsFieldName name ∧ value ≠ [] := by
  constructor
  · rintro ⟨name', value', hparts, hname, hvalue⟩
    rw [filterParts_exactFilter] at hparts
    obtain ⟨rfl, rfl⟩ := Prod.mk.inj (Option.some.inj hparts)
    exact ⟨hname, hvalue⟩
  · rintro ⟨hname, hvalue⟩
    exact ⟨name, value, filterParts_exactFilter name value, hname, hvalue⟩

section

variable (parse : Text → Except Text Json)

/-- `raw` as `dimension_filter` is received as the filter of the field and the value. -/
def ReadAs (raw name value : Text) : Prop :=
  deserializeOptionalDimensionFilter parse (some (.string raw)) =
    .ok (some (exactFilter name value))

/-- The shorthand is read as it is written: both quoted forms, and whatever is accepted. -/
def ShorthandAsWritten : Prop :=
  (∀ name value, IsFieldName name → ¬ Text.startsWith name (text "\x7b") → value ≠ [] →
    ReadAs parse (doubleForm name value) name value ∧
      ReadAs parse (singleForm name value) name value) ∧
  ∀ raw field allow filter, ¬ Text.startsWith raw (text "\x7b") →
    parseFilterStringValue parse raw field allow = .ok filter → NamesField filter

/-- The part before the first `==`, if any, has no `=`; and a text that is trimmed to an
    object is one of a field and a value. -/
def OperatorPlain (raw : Text) : Prop :=
  if Text.startsWith (Text.trim raw) (text "\x7b") then
    ∃ filter, parse (Text.trim raw) = .ok filter ∧ NamesField filter
  else ∀ parts, splitOnceAt (text "==") (Text.trim raw) = some parts → '=' ∉ parts.1

variable {parse}

/-- A quoted form is not trimmed, and it is no object. -/
theorem readAs_iff {name : Text} (h : IsFieldName name)
    (hobject : ¬ Text.startsWith name (text "\x7b")) (operator value name' value' : Text) :
    ReadAs parse (name ++ operator ++ '"' :: (value ++ ['"'])) name' value' ↔
      parseSimpleDimensionFilterExpression (name ++ operator ++ '"' :: (value ++ ['"']))
        (text "dimension_filter") = .ok (exactFilter name' value') := by
  obtain ⟨c, rest, rfl⟩ := List.exists_cons_of_ne_nil h.ne_nil
  have htrim : Text.trim (c :: rest ++ operator ++ '"' :: (value ++ ['"'])) =
      c :: rest ++ operator ++ '"' :: (value ++ ['"']) := by
    have := Text.trim_cons_concat (Text.head_not_isWhitespace h.trimmed) (b := '"') rfl
      (rest ++ operator ++ '"' :: value)
    simpa using this
  have hbrace : Text.startsWith (c :: rest ++ operator ++ '"' :: (value ++ ['"']))
      (text "\x7b") = false := by
    simpa [Text.startsWith, text, List.isPrefixOf] using hobject
  have hparse : parseFilterStringValue parse (c :: rest ++ operator ++ '"' :: (value ++ ['"']))
      (text "dimension_filter") true = parseSimpleDimensionFilterExpression
        (c :: rest ++ operator ++ '"' :: (value ++ ['"'])) (text "dimension_filter") := by
    unfold parseFilterStringValue
    dsimp only
    rw [htrim, if_neg (by simp), if_neg (by rw [hbrace]; exact Bool.false_ne_true), if_pos rfl]
  rw [ReadAs, deserializeOptionalDimensionFilter, normalizeOptionalFilter, hparse, map_eq_ok]
  constructor
  · rintro ⟨filter, hfilter, hsome⟩
    rw [hfilter, Option.some.inj hsome]
  · intro hfilter
    exact ⟨_, hfilter, rfl⟩

theorem readAs_double {name value : Text} (h : IsFieldName name)
    (hobject : ¬ Text.startsWith name (text "\x7b")) (hvalue : value ≠ []) :
    ReadAs parse (doubleForm name value) name value :=
  (readAs_iff h hobject _ _ _ _).mpr
    (parse_quoted (splitFilterExpression_double h value _) h hvalue)

/-- **The single form** is read as it is written when the value has no `==`. -/
theorem readAs_single_iff {name value : Text} (h : IsFieldName name)
    (hobject : ¬ Text.startsWith name (text "\x7b")) (hvalue : value ≠ []) :
    ReadAs parse (singleForm name value) name value ↔ ¬ text "==" <:+: value := by
  refine (readAs_iff h hobject _ _ _ _).trans ⟨fun hparse hinfix => ?_, fun hinfix => ?_⟩
  · obtain ⟨before, after, hsplit⟩ :=
      splitFilterExpression_single_of_infix h hinfix (text "dimension_filter")
    obtain ⟨name', value', operator, hsplit', -, -, -, hfilter⟩ :=
      parseSimpleDimensionFilterExpression_eq_ok.mp hparse
    obtain ⟨rfl, -⟩ := Prod.mk.inj (Except.ok.inj (hsplit.symm.trans hsplit'))
    -- the name that is read keeps the operator
    obtain ⟨hname, -⟩ := exactFilter_inj.mp hfilter
    refine h.plain ?_
    rw [hname]
    exact Text.mem_trim (by simp) (by decide)
  · exact parse_quoted (splitFilterExpression_single h hinfix _) h hvalue

/-- **What is accepted** from the shorthand has a field name and a value, when the part before
    the operator has no `=`. -/
theorem namesField_of_parse {raw field : Text} {filter : Json}
    (h : parseSimpleDimensionFilterExpression raw field = .ok filter) :
    NamesField filter ↔ ∀ parts, splitOnceAt (text "==") raw = some parts → '=' ∉ parts.1 := by
  obtain ⟨name, value, operator, hsplit, hname, -, hvalue, rfl⟩ :=
    parseSimpleDimensionFilterExpression_eq_ok.mp h
  have hplain : IsFieldName (Text.trim name) ↔ '=' ∉ name := by
    constructor
    · intro hfield hmem
      exact hfield.plain (Text.mem_trim hmem (by decide))
    · intro hmem
      exact ⟨hname, Text.trim_trim name, fun htrim => hmem ((Text.trim_infix name).subset htrim)⟩
  rw [namesField_exactFilter, hplain, and_iff_left hvalue]
  unfold splitFilterExpression at hsplit
  split at hsplit
  case h_1 before after hdouble =>
    obtain ⟨rfl, -⟩ := Prod.mk.inj (Except.ok.inj hsplit)
    rw [hdouble]
    exact ⟨fun hmem parts hparts => Option.some.inj hparts ▸ hmem, fun hall => hall _ rfl⟩
  case h_2 hdouble =>
    split at hsplit
    case h_1 before after hsingle =>
      obtain ⟨rfl, -⟩ := Prod.mk.inj (Except.ok.inj hsplit)
      rw [hdouble]
      exact ⟨fun _ _ hparts => absurd hparts (by simp),
        fun _ => (Text.splitOnce_eq_some hsingle).2⟩
    case h_2 => cases hsplit

/-- **What is accepted** from a string. -/
theorem namesField_iff {raw field : Text} {allow : Bool} {filter : Json}
    (h : parseFilterStringValue parse raw field allow = .ok filter) :
    NamesField filter ↔ OperatorPlain parse raw := by
  unfold parseFilterStringValue at h
  unfold OperatorPlain
  dsimp only at h
  split at h
  case isTrue => cases h
  case isFalse =>
    split at h
    case isTrue hbrace =>
      rw [if_pos hbrace]
      unfold parseFilterJsonString at h
      split at h
      case h_1 => cases h
      case h_2 parsed hparsed =>
        split at h
        case isTrue =>
          obtain rfl := Except.ok.inj h
          rw [hparsed]
          simp
        case isFalse => cases h
    case isFalse hbrace =>
      rw [if_neg hbrace]
      split at h
      case isTrue => exact namesField_of_parse h
      case isFalse => cases h

/-- **When the shorthand is read as it is written**: the double form always, the single form
    when the value has no `==`; and what is accepted has a proper field name when the part
    before the first `==` has no `=`. -/
theorem shorthandAsWritten_iff (parse : Text → Except Text Json) :
    (∀ name value, IsFieldName name → ¬ Text.startsWith name (text "\x7b") → value ≠ [] →
      ReadAs parse (doubleForm name value) name value ∧
        (ReadAs parse (singleForm name value) name value ↔ ¬ text "==" <:+: value)) ∧
    ∀ raw field allow filter, ¬ Text.startsWith raw (text "\x7b") →
      parseFilterStringValue parse raw field allow = .ok filter →
        (NamesField filter ↔ OperatorPlain parse raw) := by
  refine ⟨fun name value hname hobject hvalue => ?_, fun raw field allow filter _ h => ?_⟩
  · exact ⟨readAs_double hname hobject hvalue, readAs_single_iff hname hobject hvalue⟩
  · exact namesField_iff h

theorem shorthandAsWritten_iff_country :
    ReadAs (fun _ => .error []) (doubleForm (text "country") (text "a==b")) (text "country")
        (text "a==b") ∧
      ∃ filter, parseFilterStringValue (fun _ => .error []) (text "country=\"x=1\"") [] true =
        .ok filter ∧ NamesField filter := by
  obtain ⟨hforms, haccepted⟩ := shorthandAsWritten_iff fun _ => .error []
  refine ⟨(hforms _ _ ⟨by decide, by decide, by decide⟩ (by decide) (by decide)).1, ?_⟩
  refine ⟨exactFilter (text "country") (text "x=1"), by rfl, ?_⟩
  refine (haccepted (text "country=\"x=1\"") [] true _ (by decide) (by rfl)).mpr ?_
  have hnone : splitOnceAt (text "==") (Text.trim (text "country=\"x=1\"")) = none := by rfl
  have hbrace : ¬ Text.startsWith (Text.trim (text "country=\"x=1\"")) (text "\x7b") := by decide
  rw [OperatorPlain, if_neg hbrace, hnone]
  exact fun _ hparts => absurd hparts (by simp)

/-- `f="a==b"` is read as the field `f="a` with the value `b"`; and `a=b==c` names a field with
    an operator. -/
theorem not_shorthandAsWritten :
    ¬ ShorthandAsWritten (fun _ => .error []) ∧
      ReadAs (fun _ => .error []) (singleForm (text "f") (text "a==b")) (text "f=\"a")
        (text "b\"") ∧
      ReadAs (fun _ => .error []) (text "a=b==c") (text "a=b") (text "c") := by
  have hread : ReadAs (fun _ => .error []) (singleForm (text "f") (text "a==b")) (text "f=\"a")
      (text "b\"") := by rfl
  refine ⟨fun h => ?_, hread, by rfl⟩
  have hname : IsFieldName (text "f") := ⟨by decide, by decide, by decide⟩
  have hwritten := (h.1 (text "f") (text "a==b") hname (by decide) (by decide)).2
  have heq := Option.some.inj (Except.ok.inj (hread.symm.trans hwritten))
  exact absurd (exactFilter_inj.mp heq).1 (by decide)

end

end Ga4Mcp.Tools
