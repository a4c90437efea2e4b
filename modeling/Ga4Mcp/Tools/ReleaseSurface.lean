/-
  The surfaces of the two release texts: what `lexical_surface` leaves of them.

  * `run_quoted`: a quoted argument is masked to one gap, whatever it holds.
  * `run_pieces`: templates that differ in names and literals only have the same words.
  * `releaseSurfaces_independent`: the two reports.
-/
import Ga4Mcp.SqlSafety.Gaps
import Ga4Mcp.SqlSafety.SurfaceRuns
import Ga4Mcp.Tools.ReleaseTemplates
import Ga4Mcp.Tools.Wrapping

namespace Ga4Mcp.Tools

open Ga4Mcp.Lib Ga4Mcp.SqlSafety

/-! ## Quoted arguments -/

/-- A character that opens and closes a token, and stands for itself when it is doubled. -/
structure Quotes (c : Char) (q : UInt8) (state : State) : Prop where
  isAscii : c.toNat < 128
  byte : UInt8.ofNat c.toNat = q
  encode : String.utf8EncodeChar c = [q]
  opens : ∀ rest, surfaceStep Vars.start q rest = ([Byte.space], ⟨state, none⟩, rest)
  inside : ∀ b rest, surfaceStep ⟨state, none⟩ b rest =
    if b = q then
      if startsWith rest [q] then ([Byte.space, Byte.space], ⟨state, none⟩, rest.drop 1)
      else ([Byte.space], Vars.start, rest)
    else ([maskHiddenByte b], ⟨state, none⟩, rest)

theorem quotes_single : Quotes '\'' Byte.quote .singleQuote where
  isAscii := by decide
  byte := by decide
  encode := by decide
  opens _ := rfl
  inside _ _ := rfl

theorem quotes_double : Quotes '"' Byte.doubleQuote .doubleQuote where
  isAscii := by decide
  byte := by decide
  encode := by decide
  opens _ := rfl
  inside _ _ := rfl

namespace Quotes

variable {c : Char} {q : UInt8} {state : State}

theorem run_hidden (h : Quotes c q state) {bytes : List UInt8} (hbytes : q ∉ bytes)
    (tail : List UInt8) :
    surface.run ⟨state, none⟩ (bytes ++ tail) =
      (bytes.map maskHiddenByte ++ (surface.run ⟨state, none⟩ tail).1,
        (surface.run ⟨state, none⟩ tail).2) := by
  rw [surface.run_flatMap (fun b => [maskHiddenByte b]) bytes tail, List.map_eq_flatMap]
  intro b rest hb
  have hne : b ≠ q := fun heq => hbytes (heq ▸ hb.mem List.mem_cons_self)
  exact (h.inside _ _).trans (if_neg hne)

/-- Inside the quotes, the argument is masked. -/
theorem run_doubled (h : Quotes c q state) (raw : Text) :
    ∃ gap, (∀ b ∈ gap, isAsciiWhitespace b) ∧ ∀ tail,
      surface.run ⟨state, none⟩ (Text.utf8 (doubled c raw) ++ tail) =
        (gap ++ (surface.run ⟨state, none⟩ tail).1, (surface.run ⟨state, none⟩ tail).2) := by
  induction raw with
  | nil => exact ⟨[], fun b hb => absurd hb List.not_mem_nil, fun tail => rfl⟩
  | cons d raw ih =>
      obtain ⟨gap, hgap, hrun⟩ := ih
      have hcons : Text.utf8 (doubled c (d :: raw)) =
          Text.utf8 (if d = c then [c, c] else [d]) ++ Text.utf8 (doubled c raw) := by
        rw [doubled, List.flatMap_cons, Text.utf8_append, ← doubled]
      by_cases hd : d = c
      · refine ⟨[Byte.space, Byte.space] ++ gap, fun b hb => ?_, fun tail => ?_⟩
        · rcases List.mem_append.mp hb with hb | hb
          · rcases List.mem_pair.mp hb with rfl | rfl <;> rfl
          · exact hgap b hb
        · have hpair : Text.utf8 [c, c] = [q, q] := by
            rw [Text.utf8, List.flatMap_cons, List.flatMap_cons, h.encode]
            rfl
          have hstep : surface.step ⟨state, none⟩ q
              (q :: (Text.utf8 (doubled c raw) ++ tail)) =
              ([Byte.space, Byte.space], ⟨state, none⟩, Text.utf8 (doubled c raw) ++ tail) := by
            refine (h.inside _ _).trans ?_
            rw [if_pos rfl, if_pos (startsWith_one.mpr ⟨_, rfl⟩)]
            rfl
          rw [hcons, if_pos hd, hpair]
          change surface.run ⟨state, none⟩ (q :: q :: (Text.utf8 (doubled c raw) ++ tail)) = _
          rw [surface.run_step hstep, hrun]
          rfl
      · refine ⟨(Text.utf8 [d]).map maskHiddenByte ++ gap, fun b hb => ?_, fun tail => ?_⟩
        · rcases List.mem_append.mp hb with hb | hb
          · obtain ⟨b, -, rfl⟩ := List.mem_map.mp hb
            exact isAsciiWhitespace_maskHiddenByte b
          · exact hgap b hb
        · have hother : q ∉ Text.utf8 [d] := by
            rw [Text.utf8, List.flatMap_singleton]
            intro hmem
            refine hd (Text.eq_of_mem_utf8EncodeChar h.isAscii ?_)
            rwa [h.byte]
          rw [hcons, if_neg hd, List.append_assoc, h.run_hidden hother, hrun, List.append_assoc]

/-- **A quoted argument** is masked to a gap. -/
theorem run_quoted (h : Quotes c q state) (raw : Text) :
    ∃ gap, Gap gap ∧ ∀ tail, startsWith tail [q] = false →
      surface.run Vars.start (Text.utf8 ([c] ++ doubled c raw ++ [c]) ++ tail) =
        (gap ++ (surface.run Vars.start tail).1, (surface.run Vars.start tail).2) := by
  obtain ⟨gap, hgap, hrun⟩ := h.run_doubled raw
  refine ⟨Byte.space :: (gap ++ [Byte.space]), ⟨List.cons_ne_nil _ _, fun b hb => ?_⟩,
    fun tail htail => ?_⟩
  · rcases List.mem_cons.mp hb with rfl | hb
    · rfl
    · rcases List.mem_append.mp hb with hb | hb
      · exact hgap b hb
      · rw [List.mem_singleton.mp hb]
        rfl
  · have hquote : Text.utf8 [c] = [q] := by
      rw [Text.utf8, List.flatMap_singleton, h.encode]
    have hopen : surface.step Vars.start q (Text.utf8 (doubled c raw) ++ (q :: tail)) =
        ([Byte.space], ⟨state, none⟩, Text.utf8 (doubled c raw) ++ (q :: tail)) := h.opens _
    have hclose : surface.step ⟨state, none⟩ q tail = ([Byte.space], Vars.start, tail) := by
      refine (h.inside _ _).trans ?_
      rw [if_pos rfl, if_neg (by rw [htail]; exact Bool.false_ne_true)]
    have htext : Text.utf8 ([c] ++ doubled c raw ++ [c]) ++ tail =
        q :: (Text.utf8 (doubled c raw) ++ (q :: tail)) := by
      rw [Text.utf8_append, Text.utf8_append, hquote]
      simp only [List.append_assoc, List.cons_append, List.nil_append]
    rw [htext, surface.run_step hopen, hrun, surface.run_step hclose]
    simp only [List.append_assoc, List.cons_append, List.nil_append]

end Quotes

/-! ## Fixed text -/

/-- A step that looks at nothing behind the bytes that remain. -/
def localStep (v : Vars) (b : UInt8) (rest : List UInt8) : Bool :=
  v.dollarTag.isNone &&
    match v.state with
    | .normal => b ≠ Byte.dollar && (rest ≠ [] || (b ≠ Byte.minus && b ≠ Byte.slash))
    | .singleQuote => rest ≠ [] || b ≠ Byte.quote
    | _ => false

theorem surfaceStep_local {v : Vars} {b : UInt8} {rest : List UInt8}
    (h : localStep v b rest = true) (tail : List UInt8) :
    surfaceStep v b (rest ++ tail) =
      ((surfaceStep v b rest).1, (surfaceStep v b rest).2.1,
        (surfaceStep v b rest).2.2 ++ tail) := by
  obtain ⟨state, dollarTag⟩ := v
  rw [localStep, Bool.and_eq_true, Option.isNone_iff_eq_none] at h
  obtain ⟨rfl, h⟩ := h
  cases state with
  | normal =>
      simp only [Bool.and_eq_true, Bool.or_eq_true, decide_eq_true_eq, ne_eq] at h
      obtain ⟨hdollar, hlook⟩ := h
      have hpair : ∀ {x y : UInt8}, (rest ≠ [] ∨ b ≠ x) →
          startsWith (b :: (rest ++ tail)) [x, y] = startsWith (b :: rest) [x, y] := by
        intro x y hxy
        cases rest with
        | nil =>
            have hb := hxy.resolve_left fun h => h rfl
            simp [startsWith, List.isPrefixOf, Ne.symm hb]
        | cons c rest => simp [startsWith, List.isPrefixOf]
      have hdrop : ∀ {x y : UInt8}, startsWith (b :: rest) [x, y] = true →
          (rest ++ tail).drop 1 = rest.drop 1 ++ tail := fun hxy =>
        List.drop_append_of_le_length (one_le_of_pair hxy)
      unfold surfaceStep
      simp only [hpair (hlook.imp_right And.left), hpair (hlook.imp_right And.right),
        parseDollarTag_ne hdollar]
      repeat' split
      all_goals first | rfl | exact congrArg (_, _, ·) (hdrop ‹_›)
  | singleQuote =>
      simp only [Bool.or_eq_true, decide_eq_true_eq, ne_eq] at h
      unfold surfaceStep
      dsimp only
      by_cases hb : b = Byte.quote
      · obtain ⟨c, rest, rfl⟩ := List.exists_cons_of_ne_nil (h.resolve_right fun hne => hne hb)
        have hnext : startsWith (c :: rest ++ tail) [Byte.quote] =
            startsWith (c :: rest) [Byte.quote] := by simp [startsWith, List.isPrefixOf]
        rw [if_pos hb, if_pos hb, hnext]
        split <;> rfl
      · rw [if_neg hb, if_neg hb]
  | doubleQuote => cases h
  | lineComment => cases h
  | blockComment depth => cases h

/-- Fixed text that begins and ends outside tokens, with no token across its end. -/
def plain (bytes : List UInt8) : Bool :=
  decide (surface.Always (fun v b rest => localStep v b rest = true) Vars.start bytes) &&
    (surface.run Vars.start bytes).2 = Vars.start

theorem run_plain {bytes : List UInt8} (h : plain bytes = true) (tail : List UInt8) :
    surface.run Vars.start (bytes ++ tail) =
      ((surface.run Vars.start bytes).1 ++ (surface.run Vars.start tail).1,
        (surface.run Vars.start tail).2) := by
  rw [plain, Bool.and_eq_true, decide_eq_true_iff, decide_eq_true_iff] at h
  rw [surface.run_append_of_always tail (fun v b rest hlocal => surfaceStep_local hlocal tail)
    Vars.start bytes h.1, h.2]

/-! ## Templates -/

/-- No quote at once. -/
def quietHead : List Shape → Bool
  | .fixed (c :: _) :: _ => c ≠ '\'' && c ≠ '"'
  | _ => false

/-- Fixed text is plain, and after each quoted argument comes fixed text. -/
def wellPlaced : List Shape → Bool
  | [] => true
  | .fixed chars :: rest => plain (Text.utf8 chars) && wellPlaced rest
  | .name _ :: rest => quietHead rest && wellPlaced rest
  | .literal _ :: rest => quietHead rest && wellPlaced rest
  | .days _ :: rest => quietHead rest && wellPlaced rest
  | .number _ :: rest => wellPlaced rest

theorem quietHead_append {shapes : List Shape} (h : quietHead shapes = true) (tail : List Shape) :
    quietHead (shapes ++ tail) = true := by
  cases shapes with
  | nil => cases h
  | cons shape rest =>
      cases shape with
      | fixed chars => cases chars <;> exact h
      | _ => cases h

theorem wellPlaced_append {shapes tail : List Shape} (h : wellPlaced shapes = true)
    (htail : wellPlaced tail = true) : wellPlaced (shapes ++ tail) = true := by
  induction shapes with
  | nil => exact htail
  | cons shape rest ih =>
      cases shape with
      | number label => exact ih h
      | fixed chars =>
          rw [wellPlaced, Bool.and_eq_true] at h
          rw [List.cons_append, wellPlaced, Bool.and_eq_true]
          exact ⟨h.1, ih h.2⟩
      | _ =>
          rw [wellPlaced, Bool.and_eq_true] at h
          rw [List.cons_append, wellPlaced, Bool.and_eq_true]
          exact ⟨quietHead_append h.1 tail, ih h.2⟩

/-- Text that begins with another character does not go on with the quote. -/
theorem Quotes.startsWith_eq_false {c d : Char} {q : UInt8} {state : State} (h : Quotes c q state)
    (hd : d ≠ c) (rest : Text) : startsWith (Text.utf8 (d :: rest)) [q] = false := by
  rw [Bool.eq_false_iff]
  intro hstart
  obtain ⟨tail, htail⟩ := startsWith_one.mp hstart
  have hmem : q ∈ String.utf8EncodeChar d := by
    rw [Text.utf8, List.flatMap_cons] at htail
    have hpos : 0 < (String.utf8EncodeChar d).length := by
      rw [String.length_utf8EncodeChar]
      exact Char.utf8Size_pos d
    obtain ⟨b, bytes, hbytes⟩ := List.exists_cons_of_length_pos hpos
    rw [hbytes, List.cons_append] at htail
    rw [hbytes, (List.cons.inj htail).1]
    exact List.mem_cons_self
  refine hd (Text.eq_of_mem_utf8EncodeChar h.isAscii ?_)
  rwa [h.byte]

theorem startsWith_of_quietHead {pieces : List Piece} {shapes : List Shape}
    (hspell : List.Forall₂ Spells pieces shapes) (h : quietHead shapes = true) (f : Fill) :
    startsWith (Text.utf8 (writePieces (pieces.map (Piece.fill f)))) [Byte.quote] = false ∧
      startsWith (Text.utf8 (writePieces (pieces.map (Piece.fill f)))) [Byte.doubleQuote] =
        false := by
  cases hspell with
  | nil => cases h
  | cons hpiece hrest =>
      cases hpiece with
      | sql chars =>
          cases chars with
          | nil => cases h
          | cons c chars =>
              simp only [quietHead, Bool.and_eq_true, decide_eq_true_eq] at h
              rw [List.map_cons, writePieces, List.flatMap_cons]
              change startsWith (Text.utf8 (text (String.ofList (c :: chars)) ++ _)) _ = _ ∧
                startsWith (Text.utf8 (text (String.ofList (c :: chars)) ++ _)) _ = _
              rw [text, String.toList_ofList, List.cons_append]
              exact ⟨quotes_single.startsWith_eq_false h.1 _,
                quotes_double.startsWith_eq_false h.2 _⟩
      | _ => cases h

/-- What a quoted argument leaves, before anything that does not go on with its quote. -/
def MasksTo (written gap : List UInt8) : Prop :=
  ∀ tail, startsWith tail [Byte.quote] = false → startsWith tail [Byte.doubleQuote] = false →
    surface.run Vars.start (written ++ tail) =
      (gap ++ (surface.run Vars.start tail).1, (surface.run Vars.start tail).2)

theorem masksTo_name (identifier : Text) :
    ∃ gap, Gap gap ∧ MasksTo (Text.utf8 (Piece.name identifier).write) gap := by
  obtain ⟨gap, hgap, hrun⟩ := quotes_double.run_quoted identifier
  exact ⟨gap, hgap, fun tail _ htail => hrun tail htail⟩

theorem masksTo_literal (raw : Text) :
    ∃ gap, Gap gap ∧ MasksTo (Text.utf8 (Piece.literal raw).write) gap := by
  obtain ⟨gap, hgap, hrun⟩ := quotes_single.run_quoted raw
  exact ⟨gap, hgap, fun tail htail _ => hrun tail htail⟩

theorem masksTo_days (count : Nat) :
    ∃ gap, Gap gap ∧ MasksTo (Text.utf8 (Piece.days count).write) gap := by
  rw [write_days]
  exact masksTo_literal _

/-- Two texts that are scanned to their ends, with the same words. -/
structure SameRuns (sql sql' : List UInt8) : Prop where
  words : SameWords (surface.run Vars.start sql).1 (surface.run Vars.start sql').1
  ends : (surface.run Vars.start sql).2 = Vars.start
  ends' : (surface.run Vars.start sql').2 = Vars.start

/-- **Templates** that differ in names and literals only have the same words. -/
theorem run_pieces {pieces : List Piece} {shapes : List Shape}
    (hspell : List.Forall₂ Spells pieces shapes) (hplaced : wellPlaced shapes = true) {f g : Fill}
    (hnumber : f.number = g.number) :
    SameRuns (Text.utf8 (writePieces (pieces.map (Piece.fill f))))
      (Text.utf8 (writePieces (pieces.map (Piece.fill g)))) := by
  induction hspell with
  | nil => exact ⟨.nil, rfl, rfl⟩
  | @cons piece shape rest shapes hpiece hrest ih =>
      have hwrite : ∀ f : Fill, Text.utf8 (writePieces ((piece :: rest).map (Piece.fill f))) =
          Text.utf8 (piece.fill f).write ++
            Text.utf8 (writePieces (rest.map (Piece.fill f))) := by
        intro f
        rw [List.map_cons, writePieces, List.flatMap_cons, Text.utf8_append, ← writePieces]
      rw [hwrite, hwrite]
      -- a quoted argument in both texts
      have hmasked : (∀ f : Fill, ∃ gap, Gap gap ∧ MasksTo (Text.utf8 (piece.fill f).write) gap) →
          quietHead shapes = true → wellPlaced shapes = true →
          SameRuns
            (Text.utf8 (piece.fill f).write ++ Text.utf8 (writePieces (rest.map (Piece.fill f))))
            (Text.utf8 (piece.fill g).write ++
              Text.utf8 (writePieces (rest.map (Piece.fill g)))) := by
        intro hmask hquiet hwell
        obtain ⟨gap, hgap, hrun⟩ := hmask f
        obtain ⟨gap', hgap', hrun'⟩ := hmask g
        obtain ⟨hsame, hend, hend'⟩ := ih hwell
        obtain ⟨hsingle, hdouble⟩ := startsWith_of_quietHead hrest hquiet f
        obtain ⟨hsingle', hdouble'⟩ := startsWith_of_quietHead hrest hquiet g
        have hscan := hrun _ hsingle hdouble
        have hscan' := hrun' _ hsingle' hdouble'
        refine ⟨?_, by rw [hscan]; exact hend, by rw [hscan']; exact hend'⟩
        rw [hscan, hscan']
        exact .gap hgap hgap' hsame
      -- the same inert or plain text in both
      have hcopied : ∀ {out : List UInt8}, piece.fill f = piece.fill g → wellPlaced shapes = true →
          (∀ tail, surface.run Vars.start (Text.utf8 (piece.fill f).write ++ tail) =
            (out ++ (surface.run Vars.start tail).1, (surface.run Vars.start tail).2)) →
          SameRuns
            (Text.utf8 (piece.fill f).write ++ Text.utf8 (writePieces (rest.map (Piece.fill f))))
            (Text.utf8 (piece.fill g).write ++
              Text.utf8 (writePieces (rest.map (Piece.fill g)))) := by
        intro out heq hwell hrun
        obtain ⟨hsame, hend, hend'⟩ := ih hwell
        rw [← heq]
        refine ⟨?_, by rw [hrun]; exact hend, by rw [hrun]; exact hend'⟩
        rw [hrun, hrun]
        exact (SameWords.refl out).append hsame
      cases hpiece with
      | sql chars =>
          rw [wellPlaced, Bool.and_eq_true] at hplaced
          refine hcopied rfl hplaced.2 (run_plain ?_)
          change plain (Text.utf8 (text (String.ofList chars))) = true
          rw [text, String.toList_ofList, hplaced.1]
      | name label =>
          rw [wellPlaced, Bool.and_eq_true] at hplaced
          exact hmasked (fun f => masksTo_name (f.name label)) hplaced.1 hplaced.2
      | literal label =>
          rw [wellPlaced, Bool.and_eq_true] at hplaced
          exact hmasked (fun f => masksTo_literal (f.literal label)) hplaced.1 hplaced.2
      | days label =>
          rw [wellPlaced, Bool.and_eq_true] at hplaced
          exact hmasked (fun f => masksTo_days (f.days label)) hplaced.1 hplaced.2
      | number label =>
          exact hcopied (by rw [Piece.fill, Piece.fill, hnumber]) hplaced
            (run_inert (inert_decimal (f.number label)))

/-! ## The two reports -/

/-- Spelled pieces that are well placed. -/
def Placed (pieces : List Piece) : Prop :=
  ∃ shapes, List.Forall₂ Spells pieces shapes ∧ wellPlaced shapes = true

theorem Placed.append {first second : List Piece} (h : Placed first) (h' : Placed second) :
    Placed (first ++ second) := by
  obtain ⟨shapes, hspell, hplaced⟩ := h
  obtain ⟨shapes', hspell', hplaced'⟩ := h'
  exact ⟨shapes ++ shapes', List.rel_append hspell hspell', wellPlaced_append hplaced hplaced'⟩

set_option maxRecDepth 4000 in
theorem ReleaseRegressionParams.placed_template (metric : Bool) :
    Placed (labels metric).template := by
  have hnormalized : Placed (labels metric).normalizedSql := by
    cases metric
    all_goals
      apply Exists.intro
      apply And.intro
      · repeat' constructor
      · decide +kernel
  have hrest : Placed (labels true).windowedSql ∧ Placed (labels true).dailySql ∧
      Placed dailyRatioSql ∧ Placed statsSql ∧ Placed (labels true).aggregatedSql ∧
      Placed rolledSql ∧ Placed ratioedSql ∧ Placed (labels true).bodySql := by
    refine ⟨?_, ?_, ?_, ?_, ?_, ?_, ?_, ?_⟩
    all_goals
      apply Exists.intro
      apply And.intro
      · repeat' constructor
      · decide +kernel
  obtain ⟨hwindowed, hdaily, hratio, hstats, haggregated, hrolled, hratioed, hbody⟩ := hrest
  exact (((((((hnormalized.append hwindowed).append hdaily).append hratio).append
    hstats).append haggregated).append hrolled).append hratioed).append hbody

set_option maxRecDepth 4000 in
theorem LandingParamShiftParams.placed_template (channel sourceMedium : Bool) :
    Placed (labels channel sourceMedium).template := by
  have hnormalized : Placed (labels channel sourceMedium).normalizedSql := by
    cases channel <;> cases sourceMedium
    all_goals
      apply Exists.intro
      apply And.intro
      · repeat' constructor
      · decide +kernel
  have hrest : Placed (labels true true).windowedSql ∧ Placed explodedSql ∧
      Placed aggregatedSql ∧ Placed scoredSql ∧ Placed rankedSql ∧
      Placed (labels true true).bodySql := by
    refine ⟨?_, ?_, ?_, ?_, ?_, ?_⟩
    all_goals
      apply Exists.intro
      apply And.intro
      · repeat' constructor
      · decide +kernel
  obtain ⟨hwindowed, hexploded, haggregated, hscored, hranked, hbody⟩ := hrest
  exact (((((hnormalized.append hwindowed).append hexploded).append haggregated).append
    hscored).append hranked).append hbody

/-- Both texts have a surface, and the checks of the policy on it cannot tell them apart. -/
def SurfacesAgree (sql sql' : List UInt8) : Prop :=
  ∃ lexical lexical', lexicalSurface sql = .ok lexical ∧ lexicalSurface sql' = .ok lexical' ∧
    SameWords lexical lexical' ∧
    lexical.filter (fun b => ¬ isAsciiWhitespace b) =
      lexical'.filter (fun b => ¬ isAsciiWhitespace b) ∧
    containsForbiddenKeyword (upperSurface lexical) =
      containsForbiddenKeyword (upperSurface lexical') ∧
    containsForbiddenFunctionCall (upperSurface lexical) =
      containsForbiddenFunctionCall (upperSurface lexical')

theorem SameRuns.surfacesAgree {sql sql' : List UInt8} (h : SameRuns sql sql') :
    SurfacesAgree sql sql' := by
  refine ⟨_, _, lexicalSurface_ok_iff.mpr ⟨?_, rfl⟩, lexicalSurface_ok_iff.mpr ⟨?_, rfl⟩, h.words,
    h.words.filter_eq, h.words.upperSurface.containsForbiddenKeyword_eq,
    h.words.upperSurface.containsForbiddenFunctionCall_eq⟩
  · rw [h.ends]
    rfl
  · rw [h.ends']
    rfl

/-- **What the user names never becomes SQL**: with the same optional columns, the surfaces
    of the texts agree, whatever the names, dates, events and window lengths are. -/
theorem releaseSurfaces_independent :
    (∀ p p' : ReleaseRegressionParams, p.metricColumn.isSome = p'.metricColumn.isSome →
      SurfacesAgree (Text.utf8 (buildReleaseRegressionSql p))
        (Text.utf8 (buildReleaseRegressionSql p'))) ∧
    ∀ p p' : LandingParamShiftParams, p.channelColumn.isSome = p'.channelColumn.isSome →
      p.sourceMediumColumn.isSome = p'.sourceMediumColumn.isSome → p.topN = p'.topN →
      SurfacesAgree (Text.utf8 (buildLandingParamShiftSql p))
        (Text.utf8 (buildLandingParamShiftSql p')) := by
  constructor
  · intro p p' hmetric
    obtain ⟨shapes, hspell, hplaced⟩ :=
      ReleaseRegressionParams.placed_template p.metricColumn.isSome
    rw [buildReleaseRegressionSql, buildReleaseRegressionSql, p.template_eq, p'.template_eq,
      ← hmetric]
    have hruns := run_pieces hspell hplaced (f := p.fill) (g := p'.fill) rfl
    exact hruns.surfacesAgree
  · intro p p' hchannel hsource htop
    obtain ⟨shapes, hspell, hplaced⟩ :=
      LandingParamShiftParams.placed_template p.channelColumn.isSome p.sourceMediumColumn.isSome
    rw [buildLandingParamShiftSql, buildLandingParamShiftSql, p.template_eq, p'.template_eq,
      ← hchannel, ← hsource]
    have hnumber : p.fill.number = p'.fill.number := funext fun _ => htop
    exact (run_pieces hspell hplaced hnumber).surfacesAgree

/-- Quotes, comment marks and dollar signs in every argument. -/
theorem releaseSurfaces_independent_marks :
    SurfacesAgree
      (Text.utf8 (buildReleaseRegressionSql
        ⟨text "t\"; DROP", text "'$$", text "a'--", text "'/*", text "\"", text "e",
          some (text "m\n"), 7, 1, 7⟩))
      (Text.utf8 (buildReleaseRegressionSql
        ⟨text "t", text "2026-01-01", text "a", text "c", text "d", text "e",
          some (text "m"), 7, 1, 7⟩)) ∧
    SurfacesAgree
      (Text.utf8 (buildLandingParamShiftSql
        ⟨text "\"\"", text "'''", text "--", text "$a$", some (text "/*\""), none, 7, 1, 7, 100⟩))
      (Text.utf8 (buildLandingParamShiftSql
        ⟨text "t", text "2026-01-01", text "d", text "u", some (text "c"), none, 7, 1, 7, 100⟩)) :=
  ⟨releaseSurfaces_independent.1 _ _ rfl, releaseSurfaces_independent.2 _ _ rfl rfl rfl⟩

end Ga4Mcp.Tools
