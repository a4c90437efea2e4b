/-
  The landing report: its common table expressions are well scoped, and its counts are the
  ones of the query strings for plain URLs only.

  * `LandingParamShiftParams.cte_eq`: what `normalized` and `scored` stand for.
  * `LandingParamShiftParams.scored_of_report`: the report shows rows of `scored`, and hands on
    their counts as they are.
  * `pairsCounted_iff`: every value is counted as often as it occurs exactly when the URLs of
    both windows are plain.
-/
import Ga4Mcp.Tools.LandingCounts

namespace Ga4Mcp.Tools

open Ga4Mcp.Lib.Sql

/-! ## Scope -/

/-- The table has the columns that the arguments name. -/
structure LandingHasColumns (p : LandingParamShiftParams) (table : Relation) : Prop where
  date : p.dateColumn ∈ table.columns
  url : p.landingUrlColumn ∈ table.columns
  channel : ∀ column, p.channelColumn = some column → column ∈ table.columns
  sourceMedium : ∀ column, p.sourceMediumColumn = some column → column ∈ table.columns

/-- The columns of `normalized`. -/
def landingColumns : List Name :=
  [text "event_date", text "landing_url", text "channel", text "source_medium"]

/-- The columns of `windowed`. -/
def landingWindowed : List Name :=
  [text "period", text "channel", text "source_medium", text "landing_path", text "query_string"]

/-- The columns of `exploded`. -/
def landingExploded : List Name :=
  [text "period", text "channel", text "source_medium", text "landing_path", text "param_key",
    text "param_value"]

/-- The columns of `aggregated`. -/
def landingAggregated : List Name :=
  [text "channel", text "source_medium", text "landing_path", text "param_key",
    text "param_value", text "pre_rows", text "post_rows"]

/-- The columns of `scored`. -/
def landingScored : List Name :=
  [text "channel", text "source_medium", text "landing_path", text "param_key",
    text "param_value", text "param_signature", text "pre_rows", text "post_rows",
    text "delta_rows", text "delta_pct", text "shift_type"]

/-- Every select names columns of the one before it; the names do not depend on the arguments. -/
theorem landing_scopes :
    let slots := sampleLandingParams.slots
    (∀ name ∈ slots.windowed.names, name ∈ landingColumns) ∧
      (∀ name ∈ slots.pairs.columns, name ∈ landingWindowed) ∧
      (∀ name ∈ slots.exploded.names, name ∈ landingWindowed ++ [text "param_pair"]) ∧
      (∀ name ∈ slots.aggregated.names, name ∈ landingExploded) ∧
      (∀ name ∈ slots.scored.names, name ∈ landingAggregated) ∧
      (∀ name ∈ (LandingSlots.ranked : Select Text).names, name ∈ landingScored) ∧
      ∀ name ∈ slots.shown.names, name ∈ landingScored ++ [text "rank_by_abs_delta"] := by
  decide +kernel

namespace LandingParamShiftParams

variable {e : Engine} {tables : Tables} {p : LandingParamShiftParams} {table : Relation}

theorem mem_columns_groupedBy {column : Option Text} {columns : List Name}
    (h : ∀ c, column = some c → c ∈ columns) {name : Name}
    (hname : name ∈ (groupedBy text (text "all") column).columns) : name ∈ columns := by
  cases column with
  | none => cases hname
  | some c =>
      have heq : name ∈ [c] := hname
      rw [List.mem_singleton.mp heq]
      exact h c rfl

theorem run_normalized (htable : tables p.normalizedTableName = some table)
    (hcolumns : LandingHasColumns p table) :
    p.slots.normalized.run e tables = .ok (p.slots.normalized.eval e table) := by
  refine Select.run_ok (Select.source_table rfl htable) fun name hname => ?_
  change name ∈ ([p.dateColumn, p.dateColumn, p.dateColumn] ++ ([p.landingUrlColumn] ++
    ((groupedBy text (text "all") p.channelColumn).columns ++
      ((groupedBy text (text "all") p.sourceMediumColumn).columns ++ [])))) ++ [] ++ [] ++ []
    at hname
  simp only [List.append_nil, List.mem_append] at hname
  rcases hname with hdate | hurl | hchannel | hsource
  · have heq : name = p.dateColumn := by simpa using hdate
    exact heq ▸ hcolumns.date
  · have heq : name = p.landingUrlColumn := by simpa using hurl
    exact heq ▸ hcolumns.url
  · exact mem_columns_groupedBy hcolumns.channel hchannel
  · exact mem_columns_groupedBy hcolumns.sourceMedium hsource

theorem run_windowed {normalized : Relation} (hcolumns : normalized.columns = landingColumns)
    (htable : tables (text "normalized") = some normalized) :
    p.slots.windowed.run e tables = .ok (p.slots.windowed.eval e normalized) := by
  refine Select.run_ok (Select.source_table rfl htable) ?_
  rw [hcolumns]
  exact landing_scopes.1

theorem run_exploded {windowed : Relation} (hcolumns : windowed.columns = landingWindowed)
    (htable : tables (text "windowed") = some windowed) :
    p.slots.exploded.run e tables =
      .ok (p.slots.exploded.eval e (unnest e windowed p.slots.pairs (text "param_pair"))) := by
  have hpairs : ∀ name ∈ p.slots.pairs.columns, name ∈ windowed.columns := by
    rw [hcolumns]
    exact landing_scopes.2.1
  refine Select.run_ok (Select.source_unnest rfl htable hpairs) ?_
  rw [unnest, hcolumns]
  exact landing_scopes.2.2.1

theorem run_aggregated {exploded : Relation} (hcolumns : exploded.columns = landingExploded)
    (htable : tables (text "exploded") = some exploded) :
    p.slots.aggregated.run e tables = .ok (p.slots.aggregated.eval e exploded) := by
  refine Select.run_ok (Select.source_table rfl htable) ?_
  rw [hcolumns]
  exact landing_scopes.2.2.2.1

theorem run_scored {aggregated : Relation} (hcolumns : aggregated.columns = landingAggregated)
    (htable : tables (text "aggregated") = some aggregated) :
    p.slots.scored.run e tables = .ok (p.slots.scored.eval e aggregated) := by
  refine Select.run_ok (Select.source_table rfl htable) ?_
  rw [hcolumns]
  exact landing_scopes.2.2.2.2.1

theorem run_ranked {scored : Relation} (hcolumns : scored.columns = landingScored)
    (htable : tables (text "scored") = some scored) :
    (LandingSlots.ranked : Select Text).run e tables = .ok (LandingSlots.ranked.eval e scored) := by
  refine Select.run_ok (Select.source_table rfl htable) ?_
  rw [hcolumns]
  exact landing_scopes.2.2.2.2.2.1

theorem run_shown {ranked : Relation}
    (hcolumns : ranked.columns = landingScored ++ [text "rank_by_abs_delta"])
    (htable : tables (text "ranked") = some ranked) :
    p.slots.shown.run e tables = .ok (p.slots.shown.eval e ranked) := by
  refine Select.run_ok (Select.source_table rfl htable) ?_
  rw [hcolumns]
  exact landing_scopes.2.2.2.2.2.2

/-- What the text of the report makes of a common table expression. -/
def cteOf (e : Engine) (tables : Tables) (p : LandingParamShiftParams) (name : String) :
    Option (Except ScopeError Relation) :=
  (readQuery (buildLandingParamShiftSql p)).map (·.cte e tables (text name))

/-- What the text of the report answers. -/
def reportOf (e : Engine) (tables : Tables) (p : LandingParamShiftParams) :
    Option (Except ScopeError Relation) :=
  (readQuery (buildLandingParamShiftSql p)).map (·.run e tables)

/-- The common table expressions over the rows of `normalized`, the last one first. -/
def relations (e : Engine) (p : LandingParamShiftParams) (normalized : Relation) :
    List (Name × Relation) :=
  [(text "ranked", LandingSlots.ranked.eval e (scoredOf e p normalized)),
    (text "scored", scoredOf e p normalized),
    (text "aggregated", p.slots.aggregated.eval e (explodedOf e p normalized)),
    (text "exploded", explodedOf e p normalized),
    (text "windowed", p.slots.windowed.eval e normalized), (text "normalized", normalized)]

theorem runCtes_eq (htable : tables p.normalizedTableName = some table)
    (hcolumns : LandingHasColumns p table) :
    runCtes e tables p.slots.ctes [] =
      .ok (relations e p (p.slots.normalized.eval e table)) := by
  have hnormalized := run_normalized (e := e) htable hcolumns
  rw [LandingSlots.ctes, runCtes_cons_ok hnormalized, runCtes_cons_ok (run_windowed rfl rfl),
    runCtes_cons_ok (run_exploded rfl rfl), runCtes_cons_ok (run_aggregated rfl rfl),
    runCtes_cons_ok (run_scored rfl rfl), runCtes_cons_ok (run_ranked rfl rfl)]
  rfl

/-- **Binding the text** succeeds. -/
theorem cte_eq (htable : tables p.normalizedTableName = some table)
    (hcolumns : LandingHasColumns p table) :
    cteOf e tables p "normalized" = some (.ok (p.slots.normalized.eval e table)) ∧
      cteOf e tables p "scored" =
        some (.ok (scoredOf e p (p.slots.normalized.eval e table))) := by
  have hrun := runCtes_eq (e := e) htable hcolumns
  constructor
  · rw [cteOf, p.readQuery_eq, Option.map_some, Query.cte, hrun]
    rfl
  · rw [cteOf, p.readQuery_eq, Option.map_some, Query.cte, hrun]
    rfl

theorem report_eq (htable : tables p.normalizedTableName = some table)
    (hcolumns : LandingHasColumns p table) :
    reportOf e tables p = some (.ok (p.slots.shown.eval e
      (LandingSlots.ranked.eval e (scoredOf e p (p.slots.normalized.eval e table))))) := by
  have hrun := runCtes_eq (e := e) htable hcolumns
  have hshown : p.slots.shown.run e (withCtes (relations e p (p.slots.normalized.eval e table))
      tables) = .ok (p.slots.shown.eval e (LandingSlots.ranked.eval e
        (scoredOf e p (p.slots.normalized.eval e table)))) := run_shown rfl rfl
  rw [reportOf, p.readQuery_eq, Option.map_some, Query.run, hrun]
  exact congrArg some hshown

/-- **What the report shows** are rows of `scored`: their keys, their counts before and after the
    release, and what was computed of these, all as they are there. -/
theorem scored_of_report (htable : tables p.normalizedTableName = some table)
    (hcolumns : LandingHasColumns p table) {report : Relation}
    (hreport : reportOf e tables p = some (.ok report)) :
    ∃ scored, cteOf e tables p "scored" = some (.ok scored) ∧
      ∀ row ∈ report.rows, ∃ r ∈ scored.rows, ∀ name ∈ landingScored, row name = r name := by
  refine ⟨_, (cte_eq htable hcolumns).2, fun row hrow => ?_⟩
  rw [report_eq htable hcolumns] at hreport
  cases hreport
  obtain ⟨group, ranked, hranked, rfl⟩ := Select.exists_of_mem_eval rfl hrow
  obtain ⟨group', r, hr, rfl⟩ := Select.exists_of_mem_eval rfl hranked
  refine ⟨r, hr, fun name hname => ?_⟩
  simp only [landingScored, List.mem_cons, List.not_mem_nil, or_false] at hname
  rcases hname with rfl | rfl | rfl | rfl | rfl | rfl | rfl | rfl | rfl | rfl | rfl
  all_goals rfl

end LandingParamShiftParams

/-! ## What the report is meant to say -/

section

variable (lower : Text → Text)

/-- The pairs `key=value` in the query strings of URLs, keys in lower case. -/
def occurrences (urls : List Text) (key value : Text) : Nat :=
  (urls.flatMap queryPairs).countP fun pair =>
    match Text.splitOnce '=' pair with
    | some (k, v) => lower k = lower key && v = value
    | none => false

variable {lower}

theorem occurrences_eq (urls : List Text) (key : Text) {value : Text}
    (hvalue : counts value = true) :
    occurrences lower urls key value =
      (urls.flatMap (specPairs lower)).count (lower key, value) := by
  have hpairs : urls.flatMap (specPairs lower) =
      (urls.flatMap queryPairs).filterMap (specPair lower) :=
    List.filterMap_flatMap.symm
  rw [occurrences, hpairs, List.count_filterMap]
  refine List.countP_congr fun pair _ => ?_
  rw [specPair]
  cases Text.splitOnce '=' pair with
  | none => simp
  | some kv =>
      rw [Option.bind_some]
      by_cases hcounts : counts kv.2 = true
      · simp [hcounts]
      · have hne : kv.2 ≠ value := by
          rintro rfl
          exact hcounts hvalue
        simp [hcounts, hne]

theorem exists_of_mem_specPairs {url : Text} {pair : Text × Text}
    (h : pair ∈ specPairs lower url) : ∃ key, pair.1 = lower key ∧ counts pair.2 = true := by
  obtain ⟨_, -, hspec⟩ := List.mem_filterMap.mp h
  obtain ⟨kv, -, hkv⟩ := Option.bind_eq_some_iff.mp hspec
  split at hkv
  case isTrue hcounts =>
    obtain rfl := Option.some.inj hkv
    exact ⟨kv.1, rfl, hcounts⟩
  case isFalse => cases hkv

theorem exists_of_mem_codePairs {url : Text} {pair : Text × Text}
    (h : pair ∈ codePairs lower url) : ∃ key, pair.1 = lower key ∧ counts pair.2 = true := by
  obtain ⟨_, -, hcode⟩ := List.mem_filterMap.mp h
  obtain ⟨kv, -, hkv⟩ := Option.bind_eq_some_iff.mp hcode
  dsimp only at hkv
  split at hkv
  case isTrue hcounts =>
    obtain rfl := Option.some.inj hkv
    rw [Bool.and_eq_true] at hcounts
    exact ⟨kv.1, rfl, hcounts.1⟩
  case isFalse => cases hkv

/-- Counts of keys in lower case and values that count are all that matter. -/
theorem counts_eq_iff_keys (urls : List Text) :
    (∀ key value, counts value = true →
      (urls.flatMap (codePairs lower)).count (lower key, value) =
        (urls.flatMap (specPairs lower)).count (lower key, value)) ↔
      ∀ url ∈ urls, PlainUrl lower url := by
  rw [← counts_eq_iff]
  constructor
  · intro h pair
    by_cases hpair : ∃ key, pair.1 = lower key ∧ counts pair.2 = true
    · obtain ⟨key, hkey, hcounts⟩ := hpair
      have heq := h key pair.2 hcounts
      rw [← hkey] at heq
      exact heq
    · have hcode : pair ∉ urls.flatMap (codePairs lower) := by
        intro hmem
        obtain ⟨url, -, hurl⟩ := List.mem_flatMap.mp hmem
        exact hpair (exists_of_mem_codePairs hurl)
      have hspec : pair ∉ urls.flatMap (specPairs lower) := by
        intro hmem
        obtain ⟨url, -, hurl⟩ := List.mem_flatMap.mp hmem
        exact hpair (exists_of_mem_specPairs hurl)
      rw [List.count_eq_zero.mpr hcode, List.count_eq_zero.mpr hspec]
  · intro h key value _
    exact h (lower key, value)

end

section

variable (e : Engine) (p : LandingParamShiftParams) (tables : Tables)

/-- Every group of `scored` has the number of its pairs in the window. -/
def PairsCounted : Prop :=
  ∃ normalized scored, p.cteOf e tables "normalized" = some (.ok normalized) ∧
    p.cteOf e tables "scored" = some (.ok scored) ∧
    ∀ (g : LandingGroup) (key value : Text), value ≠ [] → value ≠ text "(empty)" →
      numberIn scored (g.keys (e.lower key) value) g.window.column =
        .number (occurrences e.lower (g.urls e p normalized.rows) key value)

/-- The URLs of the rows in the windows. -/
def PlainRows (rows : List Row) : Prop :=
  ∀ row ∈ rows, ∀ w : LandingWindow, w.landsIn e p row = true → ∀ url, urlOf row = some url →
    PlainUrl e.lower url

variable {e p tables}

theorem plainRows_iff (rows : List Row) :
    PlainRows e p rows ↔ ∀ (g : LandingGroup), ∀ url ∈ g.urls e p rows, PlainUrl e.lower url := by
  constructor
  · intro h g url hurl
    obtain ⟨row, hrow, hurl⟩ := List.mem_filterMap.mp hurl
    obtain ⟨hmem, hholds⟩ := List.mem_filter.mp hrow
    simp only [LandingGroup.holds, Bool.and_eq_true] at hholds
    exact h row hmem g.window hholds.1.1.1 url hurl
  · intro h row hrow w hw url hurl
    refine h ⟨w, row (text "channel"), row (text "source_medium"), pathOf (urlOf row)⟩ url ?_
    refine List.mem_filterMap.mpr ⟨row, List.mem_filter.mpr ⟨hrow, ?_⟩, hurl⟩
    simp [LandingGroup.holds, hw]

theorem counts_iff_ne {value : Text} :
    counts value = true ↔ value ≠ [] ∧ value ≠ text "(empty)" := by
  simp [counts]

theorem pairsCounted_iff_plainRows {table : Relation}
    (htable : tables p.normalizedTableName = some table) (hcolumns : LandingHasColumns p table) :
    PairsCounted e p tables ↔ PlainRows e p (p.slots.normalized.eval e table).rows := by
  obtain ⟨hnormalized, hscored⟩ := LandingParamShiftParams.cte_eq (e := e) htable hcolumns
  have hnumber : ∀ (g : LandingGroup) (key value : Text), counts value = true →
      (numberIn (scoredOf e p (p.slots.normalized.eval e table)) (g.keys (e.lower key) value)
          g.window.column =
        .number (occurrences e.lower (g.urls e p (p.slots.normalized.eval e table).rows) key
          value) ↔
        ((g.urls e p (p.slots.normalized.eval e table).rows).flatMap (codePairs e.lower)).count
            (e.lower key, value) =
          ((g.urls e p (p.slots.normalized.eval e table).rows).flatMap (specPairs e.lower)).count
            (e.lower key, value)) := by
    intro g key value hvalue
    rw [g.numberIn_scoredOf hvalue, occurrences_eq _ _ hvalue, Value.number.injEq, Nat.cast_inj]
  rw [plainRows_iff]
  constructor
  · rintro ⟨normalized, scored, hn, hs, hcounted⟩ g
    obtain rfl := Except.ok.inj (Option.some.inj (hnormalized.symm.trans hn))
    obtain rfl := Except.ok.inj (Option.some.inj (hscored.symm.trans hs))
    refine (counts_eq_iff_keys _).mp fun key value hvalue => ?_
    obtain ⟨hnil, hempty⟩ := counts_iff_ne.mp hvalue
    exact (hnumber g key value hvalue).mp (hcounted g key value hnil hempty)
  · intro hplain
    refine ⟨_, _, hnormalized, hscored, fun g key value hnil hempty => ?_⟩
    have hvalue := counts_iff_ne.mpr ⟨hnil, hempty⟩
    exact (hnumber g key value hvalue).mpr
      ((counts_eq_iff_keys _).mpr (hplain g) key value hvalue)

end

/-- **The landing report** counts every value as often as it occurs exactly when the URLs of
    both windows are plain. -/
theorem pairsCounted_iff (e : Engine) (tables : Tables) (p : LandingParamShiftParams)
    (table : Relation) (htable : tables p.normalizedTableName = some table)
    (hcolumns : LandingHasColumns p table) :
    PairsCounted e p tables ↔
      ∀ row ∈ (p.slots.normalized.eval e table).rows, ∀ w : LandingWindow,
        w.landsIn e p row = true → ∀ url, urlOf row = some url → PlainUrl e.lower url :=
  pairsCounted_iff_plainRows htable hcolumns

/-! ## A sample -/

/-- One visit on the day before the release. -/
def sampleVisit (url : Text) : Relation where
  columns := [text "date_parsed", text "landingpageplusquerystring"]
  rows := [fun name =>
    if name = text "date_parsed" then .date 20453
    else if name = text "landingpageplusquerystring" then .text url else .null]

/-- A session with one visit. -/
def visitTables (url : Text) : Tables :=
  fun name => if name = text "events" then some (sampleVisit url) else none

theorem sampleVisit_columns (url : Text) :
    LandingHasColumns sampleLandingParams (sampleVisit url) where
  date := List.mem_cons_self
  url := List.mem_cons_of_mem _ List.mem_cons_self
  channel _ h := by cases h
  sourceMedium _ h := by cases h

theorem visitTables_events (url : Text) :
    visitTables url sampleLandingParams.normalizedTableName = some (sampleVisit url) :=
  if_pos rfl

theorem pairsCounted_iff_visit :
    PairsCounted sampleEngine sampleLandingParams (visitTables (text "/p?k=YQ==")) ↔
      ∀ row ∈ (sampleLandingParams.slots.normalized.eval sampleEngine
          (sampleVisit (text "/p?k=YQ=="))).rows,
        ∀ w : LandingWindow, w.landsIn sampleEngine sampleLandingParams row = true →
          ∀ url, urlOf row = some url → PlainUrl sampleEngine.lower url :=
  pairsCounted_iff sampleEngine (visitTables (text "/p?k=YQ==")) sampleLandingParams
    (sampleVisit (text "/p?k=YQ==")) (visitTables_events _) (sampleVisit_columns _)

theorem sampleVisit_row :
    ((sampleLandingParams.slots.normalized.eval sampleEngine
      (sampleVisit (text "/p?k=YQ=="))).rows.any fun row =>
        LandingWindow.pre.landsIn sampleEngine sampleLandingParams row &&
          urlOf row = some (text "/p?k=YQ==")) = true := by
  decide +kernel

/-- Accepted arguments, and a padded value that loses its padding. -/
theorem not_pairsCounted :
    (landingParamShiftParams sampleLandingArgs).toOption = some sampleLandingParams ∧
      ¬ PairsCounted sampleEngine sampleLandingParams (visitTables (text "/p?k=YQ==")) := by
  constructor
  · decide +kernel
  · rw [pairsCounted_iff_plainRows (visitTables_events _) (sampleVisit_columns _)]
    intro hplain
    obtain ⟨row, hrow, hvisit⟩ := List.any_eq_true.mp sampleVisit_row
    rw [Bool.and_eq_true, decide_eq_true_iff] at hvisit
    obtain ⟨hpair, -⟩ := hplain row hrow .pre hvisit.1 _ hvisit.2
    have hkv := hpair (text "k", text "YQ==") rfl rfl
    exact hkv.2.1 (by decide)

end Ga4Mcp.Tools
