/-
  Three laws of the cursors, over every paginated call and whatever the upstream or the
  engine answers, of `src/tools.rs`. Each is settled by the page that the emitter gets.

  * `cursorAccepted_iff`: a cursor is accepted back exactly up to the ceiling of the
    offset, which the emitters do not look at.
  * `cursorProgress_iff`: a cursor goes forward, except after an empty page of a
    scratchpad query whose count is larger.
  * `hintMatchesCursor_iff`: the continuation hint looks at the page alone, and so stays
    on the last page of a walk.
-/
import Ga4Mcp.Tools.PagedCalls

namespace Ga4Mcp.Tools

open Ga4Mcp.Lib Ga4Mcp.Scratchpad

/-! ## The laws -/

/-- The cursor of a reply is accepted by the same query, at the offset written in it. -/
def CursorAccepted (server : AnalyticsMcp) (call : PagedCall) : Prop :=
  ∀ reply cursor, call.reply server = some reply → nextCursor reply.2 = some cursor →
    ∃ token args limit, decodeCursor cursor = .ok token ∧
      (call.withCursor cursor).windowArgs server = .ok args ∧
      args.resolve = .ok (token.offset, limit)

/-- Cursors over the hashes of the server are read back as they were written. -/
def CursorsRoundTrip (server : AnalyticsMcp) : Prop :=
  ∀ signature offset, offset ≤ usizeMax →
    decodeCursor (encodeCursor (stableQueryHash server.hasher signature) offset) =
      .ok ⟨stableQueryHash server.hasher signature, offset⟩

/-- The cursor of a reply is ahead of the offset of the request. -/
def CursorProgress (server : AnalyticsMcp) (call : PagedCall) : Prop :=
  ∀ reply cursor, call.reply server = some reply → nextCursor reply.2 = some cursor →
    ∃ token args offset limit, decodeCursor cursor = .ok token ∧
      call.windowArgs server = .ok args ∧ args.resolve = .ok (offset, limit) ∧
      offset < token.offset

/-- A reply has the continuation hint exactly when it has a cursor. -/
def HintMatchesCursor (server : AnalyticsMcp) (call : PagedCall) : Prop :=
  ∀ reply, call.reply server = some reply →
    (continuationHint ∈ queryHints reply.2 ↔ (nextCursor reply.2).isSome)

/-! ## Servers with fixed answers -/

/-- The upstream gives one response, and the engine one count and one page of rows. -/
def fixedServer (response : Json) (count : Nat) (page : List DuckRow) : AnalyticsMcp where
  client := ⟨text "https://data", text "https://admin", fun _ _ => .ok response⟩
  hasher := fun _ => 0
  debug := id
  config := defaultConfig
  toolkit := ⟨fun _ => none, fun _ => ⟨true, none⟩⟩
  openConnection := fun _ => .ok ⟨fun sql => .ok ⟨.ok
    (if Text.startsWith sql countOpening then
      ⟨some [(text "row_count_total", .int64)], [fun _ => .ok (.bigInt count)], none⟩
    else ⟨some [(text "n", .int64)], page, none⟩)⟩⟩
  interruption := none

/-- A response with so many empty rows and this `rowCount`. -/
def fixedResponse (rows rowCount : Nat) : Json :=
  .ofFields [("rows", .array (List.replicate rows (.object []))), ("rowCount", .ofNat rowCount)]

/-- A report over one property, from an offset. -/
def reportFrom (offset : Nat) : PagedCall :=
  .runReport
    { dateRanges := [.ofFields [("start_date", .string (text "2026-02-01")),
        ("end_date", .string (text "2026-02-07"))]]
      dimensions := [text "country"]
      metrics := [text "activeUsers"]
      dimensionFilter := none
      metricFilter := none
      orderBys := none
      maxRows := none
      cursor := none
      outputMode := none
      summaryOnly := false
      maxCellChars := none
      limit := none
      offset := some offset
      currencyCode := none
      returnPropertyQuota := true
      propertyId := .number 1 }

/-- A scratchpad query whose rows are drawn anew in each execution. -/
def sampledQuery : PagedCall :=
  .scratchpadQuery
    { toolName := text "scratchpad_query"
      sessionId := text "s"
      sql := text "SELECT * FROM visits WHERE random() < 0.5"
      controls := ⟨none, none, none, false, none⟩
      sourceMeta := none }

/-! ## From the reply to the page -/

section Page

variable {server : AnalyticsMcp} {call : PagedCall} {page : CallPage}

theorem nextCursor_eq_some {reply : Json × Json} {cursor : Text}
    (h : call.page server = some page) (hreply : call.reply server = some reply)
    (hcursor : nextCursor reply.2 = some cursor) :
    page.Continues ∧ cursor = encodeCursor page.queryHash page.nextOffset := by
  rw [PagedCall.reply_eq, h] at hreply
  obtain rfl := Option.some.inj hreply
  rw [PagedCall.nextCursor_write h] at hcursor
  split at hcursor
  · next hcontinues => exact ⟨hcontinues, (Option.some.inj hcursor).symm⟩
  · cases hcursor

/-- A page that continues comes with its cursor. -/
theorem exists_reply (h : call.page server = some page) (hcontinues : page.Continues) :
    ∃ reply, call.reply server = some reply ∧
      nextCursor reply.2 = some (encodeCursor page.queryHash page.nextOffset) := by
  refine ⟨call.write page, ?_, ?_⟩
  · rw [PagedCall.reply_eq, h]
    rfl
  · rw [PagedCall.nextCursor_write h, if_pos hcontinues]

theorem decodeCursor_page (h : call.page server = some page) :
    decodeCursor (encodeCursor page.queryHash page.nextOffset) =
      .ok ⟨page.queryHash, page.nextOffset⟩ :=
  decodeCursor_encodeCursor (PagedCall.page_facts h).soundHash (saturatingAdd_le _ _)

/-- The window that the cursor of a page asks for. -/
theorem resolve_withCursor (h : call.page server = some page) :
    ∃ args, (call.withCursor (encodeCursor page.queryHash page.nextOffset)).windowArgs server =
        .ok args ∧
      ∀ offset limit, args.resolve = .ok (offset, limit) ↔
        page.nextOffset ≤ maxReportLimit * 10 ∧ offset = page.nextOffset ∧
          limit = resolvePageSize args.maxRows args.requestedLimit := by
  have hfacts := PagedCall.page_facts h
  obtain ⟨args, -, hargs, hhash, -⟩ := hfacts.window
  refine ⟨_, PagedCall.windowArgs_withCursor hargs _, fun offset limit => ?_⟩
  have hresolved : resolveCursorOffset page.queryHash
      (some (encodeCursor page.queryHash page.nextOffset)) none =
        if page.nextOffset ≤ maxReportLimit * 10 then .ok page.nextOffset
        else .error offsetTooHigh :=
    resolveCursorOffset_encodeCursor hfacts.soundHash (saturatingAdd_le _ _)
  unfold WindowArgs.resolve
  dsimp only
  rw [resolveCursorWindow_eq_ok, hhash, hresolved]
  split
  · next hle => simp [hle, eq_comm]
  · next hle => simp [hle]

end Page

/-! ## Cursors are accepted back -/

section Laws

variable {server : AnalyticsMcp} {call : PagedCall} {page : CallPage}

theorem cursorsRoundTrip (server : AnalyticsMcp) : CursorsRoundTrip server :=
  fun signature _ hoffset => decodeCursor_encodeCursor (stableQueryHash_sound _ signature) hoffset

theorem nextOffset_le_iff :
    page.nextOffset ≤ maxReportLimit * 10 ↔
      page.offset + page.rows.length ≤ maxReportLimit * 10 := by
  unfold CallPage.nextOffset saturatingAdd maxReportLimit usizeMax
  omega

/-- **Cursors are read back and accepted** exactly when no rows remain after the page, or
    the page ends at most at the ceiling of the offset. -/
theorem cursorAccepted_iff (h : call.page server = some page) :
    (CursorAccepted server call ∧ CursorsRoundTrip server) ↔
      (page.Continues → page.offset + page.rows.length ≤ maxReportLimit * 10) := by
  obtain ⟨args, hargs, hresolve⟩ := resolve_withCursor h
  rw [← nextOffset_le_iff]
  constructor
  · rintro ⟨haccepted, -⟩ hcontinues
    obtain ⟨reply, hreply, hcursor⟩ := exists_reply h hcontinues
    obtain ⟨token, args', limit, -, hargs', hresolved⟩ := haccepted _ _ hreply hcursor
    rw [hargs] at hargs'
    cases hargs'
    exact ((hresolve _ _).mp hresolved).1
  · intro hle
    refine ⟨fun reply cursor hreply hcursor => ?_, cursorsRoundTrip server⟩
    obtain ⟨hcontinues, rfl⟩ := nextCursor_eq_some h hreply hcursor
    exact ⟨_, args, _, decodeCursor_page h, hargs,
      (hresolve _ _).mpr ⟨hle hcontinues, rfl, rfl⟩⟩

/-- A report of 3,000,000 rows: the page at 2,499,000 has a cursor that is accepted. -/
theorem cursorAccepted_belowCeiling :
    ∃ page, (reportFrom 2499000).page (fixedServer (fixedResponse 3 3000000) 0 []) = some page ∧
      ((CursorAccepted (fixedServer (fixedResponse 3 3000000) 0 []) (reportFrom 2499000) ∧
        CursorsRoundTrip (fixedServer (fixedResponse 3 3000000) 0 [])) ↔
          (page.Continues → page.offset + page.rows.length ≤ maxReportLimit * 10)) ∧
      page.Continues ∧ page.offset + page.rows.length ≤ maxReportLimit * 10 := by
  have hpage : ((reportFrom 2499000).page (fixedServer (fixedResponse 3 3000000) 0 [])).map
      (fun page => (decide page.Continues, page.offset + page.rows.length)) =
        some (true, 2499003) := by
    decide +kernel
  obtain ⟨page, hpage, hshape⟩ := Option.map_eq_some_iff.mp hpage
  obtain ⟨hcontinues, hend⟩ := Prod.mk.inj hshape
  refine ⟨page, hpage, cursorAccepted_iff hpage, of_decide_eq_true hcontinues, ?_⟩
  rw [hend]
  decide

/-- The page at 2,500,000, which the validators still accept, has one that is not. -/
theorem not_cursorAccepted :
    ¬ CursorAccepted (fixedServer (fixedResponse 1 3000000) 0 []) (reportFrom 2500000) := by
  intro haccepted
  have hpage : ((reportFrom 2500000).page (fixedServer (fixedResponse 1 3000000) 0 [])).map
      (fun page => (decide page.Continues, page.nextOffset)) = some (true, 2500001) := by
    decide +kernel
  obtain ⟨page, hpage, hshape⟩ := Option.map_eq_some_iff.mp hpage
  obtain ⟨hcontinues, hnext⟩ := Prod.mk.inj hshape
  obtain ⟨args, hargs, hresolve⟩ := resolve_withCursor hpage
  obtain ⟨reply, hreply, hcursor⟩ := exists_reply hpage (of_decide_eq_true hcontinues)
  obtain ⟨token, args', limit, -, hargs', hresolved⟩ := haccepted _ _ hreply hcursor
  rw [hargs] at hargs'
  cases hargs'
  have hle := ((hresolve _ _).mp hresolved).1
  rw [hnext] at hle
  exact absurd hle (by decide)

/-! ## Cursors go forward -/

/-- **A cursor is ahead of its request** exactly when the call is a report call, or the
    page has rows, or the count does not exceed the offset. -/
theorem cursorProgress_iff (h : call.page server = some page) :
    CursorProgress server call ↔
      (∃ p, page = .report p) ∨ 0 < page.rows.length ∨ page.rowCountTotal ≤ page.offset := by
  have hfacts := PagedCall.page_facts h
  obtain ⟨args, limit, hargs, -, hresolved⟩ := hfacts.window
  have hceiling := hfacts.offset_le
  have hnext : page.offset < page.nextOffset ↔ 0 < page.rows.length := by
    unfold CallPage.nextOffset saturatingAdd usizeMax
    unfold maxReportLimit at hceiling
    omega
  have hprogress : CursorProgress server call ↔
      (page.Continues → page.offset < page.nextOffset) := by
    constructor
    · intro hp hcontinues
      obtain ⟨reply, hreply, hcursor⟩ := exists_reply h hcontinues
      obtain ⟨token, args', offset, limit', hdecode, hargs', hresolved', hlt⟩ :=
        hp _ _ hreply hcursor
      rw [decodeCursor_page h] at hdecode
      rw [hargs] at hargs'
      cases hdecode
      cases hargs'
      rw [hresolved] at hresolved'
      cases hresolved'
      exact hlt
    · intro hlt reply cursor hreply hcursor
      obtain ⟨hcontinues, rfl⟩ := nextCursor_eq_some h hreply hcursor
      exact ⟨_, args, _, limit, decodeCursor_page h, hargs, hresolved, hlt hcontinues⟩
  rw [hprogress, hnext]
  cases page with
  | report p => exact iff_of_true (fun hcontinues => hcontinues.1) (.inl ⟨p, rfl⟩)
  | scratchpad p =>
      have hempty : (CallPage.scratchpad p).rows.length = 0 →
          (CallPage.scratchpad p).nextOffset = (CallPage.scratchpad p).offset := by
        intro hzero
        unfold CallPage.nextOffset saturatingAdd usizeMax
        unfold maxReportLimit at hceiling
        omega
      constructor
      · intro hp
        by_cases hpos : 0 < (CallPage.scratchpad p).rows.length
        · exact .inr (.inl hpos)
        · refine .inr (.inr (Nat.le_of_not_lt fun hlt => hpos (hp ?_)))
          change (CallPage.scratchpad p).nextOffset < _
          rw [hempty (by omega)]
          exact hlt
      · rintro (⟨p', hreport⟩ | hpos | hle) hcontinues
        · cases hreport
        · exact hpos
        · by_contra hpos
          change (CallPage.scratchpad p).nextOffset < _ at hcontinues
          rw [hempty (by omega)] at hcontinues
          exact absurd hcontinues (Nat.not_lt.mpr hle)

/-- A page of a scratchpad query with one row of five goes forward. -/
theorem cursorProgress_oneRow :
    ∃ page, sampledQuery.page (fixedServer .null 5 [fun _ => .ok .null]) = some page ∧
      (CursorProgress (fixedServer .null 5 [fun _ => .ok .null]) sampledQuery ↔
        (∃ p, page = .report p) ∨ 0 < page.rows.length ∨ page.rowCountTotal ≤ page.offset) ∧
      0 < page.rows.length := by
  have hpage : (sampledQuery.page (fixedServer .null 5 [fun _ => .ok .null])).map
      (fun page => page.rows.length) = some 1 := by
    decide +kernel
  obtain ⟨page, hpage, hlength⟩ := Option.map_eq_some_iff.mp hpage
  exact ⟨page, hpage, cursorProgress_iff hpage, by omega⟩

/-- The count finds five rows and the page none: the cursor is the offset of the request. -/
theorem not_cursorProgress : ¬ CursorProgress (fixedServer .null 5 []) sampledQuery := by
  intro hprogress
  have hpage : (sampledQuery.page (fixedServer .null 5 [])).map
      (fun page => (decide page.Continues, page.offset, page.nextOffset)) =
        some (true, 0, 0) := by
    decide +kernel
  obtain ⟨page, hpage, hshape⟩ := Option.map_eq_some_iff.mp hpage
  obtain ⟨hcontinues, hoffsets⟩ := Prod.mk.inj hshape
  obtain ⟨hoffset, hnext⟩ := Prod.mk.inj hoffsets
  obtain ⟨args, limit, hargs, -, hresolved⟩ := (PagedCall.page_facts hpage).window
  obtain ⟨reply, hreply, hcursor⟩ := exists_reply hpage (of_decide_eq_true hcontinues)
  obtain ⟨token, args', offset, limit', hdecode, hargs', hresolved', hlt⟩ :=
    hprogress _ _ hreply hcursor
  rw [decodeCursor_page hpage] at hdecode
  rw [hargs] at hargs'
  cases hdecode
  cases hargs'
  rw [hresolved] at hresolved'
  cases hresolved'
  rw [hoffset, hnext] at hlt
  exact Nat.lt_irrefl 0 hlt

/-! ## The hint and the cursor -/

/-- **The continuation hint comes with a cursor** exactly when the page reaches the total by
    itself, or rows remain after it. A page is a `Vec`, whose length is a `usize`. -/
theorem hintMatchesCursor_iff (h : call.page server = some page)
    (hlength : page.rows.length ≤ usizeMax) :
    HintMatchesCursor server call ↔
      page.rowCountTotal ≤ page.rows.length ∨ page.Continues := by
  have hmatch : HintMatchesCursor server call ↔
      (page.rows.length < page.rowCountTotal ↔ page.Continues) := by
    have hcursor : (nextCursor (call.write page).2).isSome ↔ page.Continues := by
      rw [PagedCall.nextCursor_write h]
      split
      · next hcontinues => exact iff_of_true rfl hcontinues
      · next hcontinues => exact iff_of_false (by simp) hcontinues
    rw [← PagedCall.continuationHint_mem_write h, ← hcursor]
    constructor
    · intro hm
      exact hm _ (by rw [PagedCall.reply_eq, h]; rfl)
    · intro hm reply hreply
      rw [PagedCall.reply_eq, h] at hreply
      obtain rfl := Option.some.inj hreply
      exact hm
  have hmore : page.Continues → page.rows.length < page.rowCountTotal := by
    have hnext : page.nextOffset < page.rowCountTotal → page.rows.length < page.rowCountTotal := by
      unfold CallPage.nextOffset saturatingAdd
      omega
    cases page with
    | report p => exact fun hcontinues => hnext hcontinues.2
    | scratchpad p => exact hnext
  rw [hmatch]
  constructor
  · intro hiff
    rcases Nat.lt_or_ge page.rows.length page.rowCountTotal with hlt | hle
    · exact .inr (hiff.mp hlt)
    · exact .inl hle
  · rintro (hle | hcontinues)
    · exact iff_of_false (Nat.not_lt.mpr hle) fun hcontinues => absurd (hmore hcontinues)
        (Nat.not_lt.mpr hle)
    · exact iff_of_true (hmore hcontinues) hcontinues

/-- On the first page of a walk the two agree. -/
theorem hintMatchesCursor_firstPage :
    ∃ page, (reportFrom 0).page (fixedServer (fixedResponse 3 5) 0 []) = some page ∧
      (HintMatchesCursor (fixedServer (fixedResponse 3 5) 0 []) (reportFrom 0) ↔
        page.rowCountTotal ≤ page.rows.length ∨ page.Continues) ∧ page.Continues := by
  have hpage : ((reportFrom 0).page (fixedServer (fixedResponse 3 5) 0 [])).map
      (fun page => (decide page.Continues, page.rows.length)) = some (true, 3) := by
    decide +kernel
  obtain ⟨page, hpage, hshape⟩ := Option.map_eq_some_iff.mp hpage
  obtain ⟨hcontinues, hlength⟩ := Prod.mk.inj hshape
  have hfits : page.rows.length ≤ usizeMax := by
    rw [hlength]
    decide
  exact ⟨page, hpage, hintMatchesCursor_iff hpage hfits, of_decide_eq_true hcontinues⟩

/-- On the last page, two rows at offset 3 of 5, there is a hint and no cursor. -/
theorem not_hintMatchesCursor :
    ¬ HintMatchesCursor (fixedServer (fixedResponse 2 5) 0 []) (reportFrom 3) := by
  intro hmatch
  have hpage : ((reportFrom 3).page (fixedServer (fixedResponse 2 5) 0 [])).map
      (fun page => (decide page.Continues, page.rows.length, page.rowCountTotal)) =
        some (false, 2, 5) := by
    decide +kernel
  obtain ⟨page, hpage, hshape⟩ := Option.map_eq_some_iff.mp hpage
  obtain ⟨hcontinues, hcounts⟩ := Prod.mk.inj hshape
  obtain ⟨hlength, htotal⟩ := Prod.mk.inj hcounts
  have hhint := (PagedCall.continuationHint_mem_write hpage).mpr (by omega)
  have hcursor := (hmatch _ (by rw [PagedCall.reply_eq, hpage]; rfl)).mp hhint
  rw [PagedCall.nextCursor_write hpage, if_neg (of_decide_eq_false hcontinues)] at hcursor
  exact Bool.false_ne_true hcursor

end Laws

end Ga4Mcp.Tools
