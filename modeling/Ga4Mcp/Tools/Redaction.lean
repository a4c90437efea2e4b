/-
  The redaction of error texts, of `src/contract.rs`.

  A text is split at its spaces, and a word that looks like a secret is replaced as a whole. A
  token is found at the start of a word only, the names of secrets anywhere in it.

  * `splitWhitespace_redactSecretText`: the words of what is returned.
  * `hasToken_iff_words`: a token lies in one word.
  * `redactsTokens_iff`: when no token is left, and every other word is kept.
-/
import Ga4Mcp.Lib.Words
import Ga4Mcp.Text
import Mathlib.Data.List.Forall2

namespace Ga4Mcp

open Ga4Mcp.Lib

namespace Text

/-- `str::contains` with a text. -/
def contains (t pat : Text) : Bool := pat <:+: t

/-- `str::split_whitespace`. -/
def splitWhitespace (t : Text) : List Text := words isWhitespace t

/-- A line without the mark of another system. -/
def stripCarriageReturn (line : Text) : Text :=
  if line.getLast? = some '\r' then line.dropLast else line

/-- `str::lines`: a line break ends a line, so nothing follows the last one. -/
def lines (t : Text) : List Text :=
  let pieces := t.splitOn '\n'
  pieces.dropLast.map stripCarriageReturn ++
    pieces.getLast?.toList.filter fun line => ¬ line.isEmpty

end Text

namespace Tools

/-! ## The source -/

def looksSecretBearing (token : Text) : Bool :=
  let lower := Text.toAsciiLowercase token
  Text.contains lower (text "refresh_token") || Text.contains lower (text "access_token") ||
    Text.contains lower (text "client_secret") || Text.contains lower (text "private_key") ||
    Text.startsWith lower (text "ya29.") || Text.startsWith lower (text "1//") ||
    Text.contains lower (text "1%2f%2f")

/-- A word, or what stands for a secret. -/
def redactToken (token : Text) : Text :=
  if looksSecretBearing token then text "[redacted]" else token

/-- The words of a line. -/
def redactLine (line : Text) : Text :=
  List.intercalate [' '] ((Text.splitWhitespace line).map redactToken)

def redactSecretText (input : Text) : Text :=
  List.intercalate ['\n'] ((Text.lines input).map redactLine)

/-! ## Words -/

theorem splitWhitespace_stripCarriageReturn (line : Text) :
    Text.splitWhitespace (Text.stripCarriageReturn line) = Text.splitWhitespace line := by
  unfold Text.stripCarriageReturn
  split
  case isTrue hlast =>
    obtain ⟨init, rfl⟩ := List.getLast?_eq_some_iff.mp hlast
    rw [List.dropLast_concat, Text.splitWhitespace, Text.splitWhitespace,
      words_append_cons (by decide), words_nil, List.append_nil]
  case isFalse => rfl

/-- The words of a text are the words of its lines. -/
theorem splitWhitespace_lines (t : Text) :
    (Text.lines t).flatMap Text.splitWhitespace = Text.splitWhitespace t := by
  have hjoin : List.intercalate ['\n'] (t.splitOn '\n') = t := List.intercalate_splitOn '\n'
  have hpieces : (t.splitOn '\n').flatMap Text.splitWhitespace = Text.splitWhitespace t := by
    conv_rhs => rw [← hjoin, Text.splitWhitespace, words_intercalate (by decide)]
    rfl
  obtain ⟨init, last, hlast⟩ : ∃ init last, t.splitOn '\n' = init ++ [last] := by
    rcases List.eq_nil_or_concat (t.splitOn '\n') with hnil | ⟨init, last, hconcat⟩
    · exact absurd hnil (List.splitOn_ne_nil _ _)
    · exact ⟨init, last, by rw [hconcat, List.concat_eq_append]⟩
  have hinit : (init.map Text.stripCarriageReturn).flatMap Text.splitWhitespace =
      init.flatMap Text.splitWhitespace := by
    rw [List.flatMap_map]
    exact List.flatMap_congr fun line _ => splitWhitespace_stripCarriageReturn line
  have htail : ([last].filter fun line => ¬ line.isEmpty).flatMap Text.splitWhitespace =
      [last].flatMap Text.splitWhitespace := by
    cases last with
    | nil => rfl
    | cons c rest => rfl
  rw [← hpieces, Text.lines, hlast, List.dropLast_concat, List.getLast?_concat,
    List.flatMap_append, List.flatMap_append, hinit]
  exact congrArg _ htail

theorem redactToken_word {word : Text}
    (h : word ≠ [] ∧ ∀ c ∈ word, Text.isWhitespace c = false) :
    redactToken word ≠ [] ∧ ∀ c ∈ redactToken word, Text.isWhitespace c = false := by
  unfold redactToken
  split
  case isTrue => exact ⟨by decide, List.forall_iff_forall_mem.mp (by decide)⟩
  case isFalse => exact h

theorem splitWhitespace_redactLine (line : Text) :
    Text.splitWhitespace (redactLine line) = (Text.splitWhitespace line).map redactToken := by
  refine words_intercalate_words (by decide) ?_
  intro word hword
  obtain ⟨word, hmem, rfl⟩ := List.mem_map.mp hword
  exact redactToken_word (words_spec word hmem)

/-- **The words of what is returned** are the words of the input, with the redacted ones
    replaced. -/
theorem splitWhitespace_redactSecretText (input : Text) :
    Text.splitWhitespace (redactSecretText input) =
      (Text.splitWhitespace input).map redactToken := by
  calc Text.splitWhitespace (redactSecretText input)
      = ((Text.lines input).map redactLine).flatMap Text.splitWhitespace :=
        words_intercalate (by decide) _
    _ = (Text.lines input).flatMap fun line => (Text.splitWhitespace line).map redactToken := by
        rw [List.flatMap_map]
        exact List.flatMap_congr fun line _ => splitWhitespace_redactLine line
    _ = ((Text.lines input).flatMap Text.splitWhitespace).map redactToken :=
        List.map_flatMap.symm
    _ = (Text.splitWhitespace input).map redactToken := by rw [splitWhitespace_lines]

/-! ## Tokens -/

/-- A character of a token: base64 for URLs. -/
def isTokenChar (c : Char) : Bool := c.isAlphanum || c = '-' || c = '_'

/-- The start of an access token, in any case, or of a refresh token, with one character. -/
def IsToken (found : Text) : Prop :=
  ∃ head c, found = head ++ [c] ∧
    (Text.toAsciiLowercase head = text "ya29." ∨ head = text "1//") ∧ isTokenChar c = true

/-- The names, and the encoded start of a refresh token, that are looked for anywhere. -/
def listedSecrets : List Text :=
  ["refresh_token", "access_token", "client_secret", "private_key", "1%2f%2f"].map text

/-- The word has a listed name in it. -/
def NamesSecret (word : Text) : Prop :=
  ∃ name ∈ listedSecrets, name <:+: Text.toAsciiLowercase word

/-- The starts that are looked for at the start of a word. -/
def HasTokenPrefix (word : Text) : Prop :=
  text "ya29." <+: Text.toAsciiLowercase word ∨ text "1//" <+: Text.toAsciiLowercase word

theorem looksSecretBearing_iff (word : Text) :
    looksSecretBearing word = true ↔ HasTokenPrefix word ∨ NamesSecret word := by
  simp only [looksSecretBearing, Text.contains, Text.startsWith, Bool.or_eq_true,
    decide_eq_true_eq, List.isPrefixOf_iff_prefix, NamesSecret, HasTokenPrefix, listedSecrets,
    List.map_cons, List.map_nil, List.mem_cons, List.not_mem_nil, or_false, exists_eq_or_imp,
    exists_eq_left]
  have hreorder : ∀ a b c d e p q : Prop,
      ((((((a ∨ b) ∨ c) ∨ d) ∨ p) ∨ q) ∨ e) ↔ (p ∨ q) ∨ a ∨ b ∨ c ∨ d ∨ e := by tauto
  exact hreorder _ _ _ _ _ _ _

section

-- `char::is_alphanumeric`
variable (isAlphanumeric : Char → Bool)

/-- Where a token may begin: after a space or a character that is neither letter nor digit. -/
def IsBoundary (c : Char) : Prop := Text.isWhitespace c = true ∨ isAlphanumeric c = false

/-- A token at the start of a word or after a character that is neither letter nor digit. -/
def HasToken (t : Text) : Prop := Occurs IsToken (IsBoundary isAlphanumeric) t

/-- No token is left, and the words without one and without a listed text are kept. -/
def RedactsTokens (input : Text) : Prop :=
  ¬ HasToken isAlphanumeric (redactSecretText input) ∧
    List.Forall₂ (fun word kept => ¬ HasToken isAlphanumeric word → ¬ NamesSecret word →
      kept = word) (Text.splitWhitespace input) (Text.splitWhitespace (redactSecretText input))

/-- A word with a token after other characters, which nothing else gives away. -/
def GluedToken (word : Text) : Prop :=
  HasToken isAlphanumeric word ∧ ¬ HasTokenPrefix word ∧ ¬ NamesSecret word

/-- A word that starts as a token does, and has none. -/
def BarePrefix (word : Text) : Prop :=
  HasTokenPrefix word ∧ ¬ HasToken isAlphanumeric word ∧ ¬ NamesSecret word

/-! ## What is left -/

variable {isAlphanumeric}

theorem not_isWhitespace_of_isTokenChar {c : Char} (h : isTokenChar c = true) :
    Text.isWhitespace c = false := by
  simp only [isTokenChar, Bool.or_eq_true, decide_eq_true_eq] at h
  rcases h with (h | rfl) | rfl
  · exact Text.not_isWhitespace_of_isAlphanum h
  · rfl
  · rfl

/-- A token has no spaces. -/
theorem IsToken.free {found : Text} (h : IsToken found) :
    found ≠ [] ∧ ∀ c ∈ found, Text.isWhitespace c = false := by
  obtain ⟨head, c, rfl, hhead, hc⟩ := h
  have hprefixes : (text "ya29.").Forall (Text.isWhitespace · = false) ∧
      (text "1//").Forall (Text.isWhitespace · = false) := by decide
  refine ⟨by simp, fun d hd => ?_⟩
  rcases List.mem_append.mp hd with hd | hd
  · rcases hhead with hlower | rfl
    · have hmem : d.toLower ∈ text "ya29." := hlower ▸ List.mem_map_of_mem hd
      refine Text.not_isWhitespace_of_toLower ?_
      exact List.forall_iff_forall_mem.mp hprefixes.1 _ hmem
    · exact List.forall_iff_forall_mem.mp hprefixes.2 _ hd
  · obtain rfl := List.mem_singleton.mp hd
    exact not_isWhitespace_of_isTokenChar hc

/-- **A token** lies in one word. -/
theorem hasToken_iff_words (t : Text) :
    HasToken isAlphanumeric t ↔ ∃ word ∈ Text.splitWhitespace t, HasToken isAlphanumeric word :=
  occurs_iff_words (fun _ hc => .inl hc) (fun _ hfound => hfound.free) t

/-- What replaces a word has no token. -/
theorem not_hasToken_redacted : ¬ HasToken isAlphanumeric (text "[redacted]") := by
  rintro ⟨before, found, after, hsplit, ⟨head, c, rfl, hhead, -⟩, -⟩
  have hhead' : head <:+: text "[redacted]" := ⟨before, c :: after, by rw [hsplit]; simp⟩
  rcases hhead with hlower | rfl
  · have hinfix := hhead'.map Char.toLower
    rw [show head.map Char.toLower = text "ya29." from hlower] at hinfix
    exact absurd hinfix (by decide)
  · exact absurd hhead' (by decide)

theorem hasToken_redactToken (word : Text) :
    HasToken isAlphanumeric (redactToken word) ↔
      HasToken isAlphanumeric word ∧ looksSecretBearing word = false := by
  unfold redactToken
  split
  case isTrue h => simp [h, not_hasToken_redacted]
  case isFalse h => simp [h]

/-- A word is kept when it does not look like a secret. -/
theorem redactToken_eq_self_iff (word : Text) :
    redactToken word = word ↔ looksSecretBearing word = false := by
  have hplain : looksSecretBearing (text "[redacted]") = false := by decide
  unfold redactToken
  split
  case isTrue h =>
    refine iff_of_false ?_ (by simp [h])
    rintro rfl
    rw [hplain] at h
    cases h
  case isFalse h => simp [h]

/-- **The redaction is right** when no word has a token glued to other characters, and none
    starts as a token does without being one. -/
theorem redactsTokens_iff (isAlphanumeric : Char → Bool) (input : Text) :
    RedactsTokens isAlphanumeric input ↔ ∀ word ∈ Text.splitWhitespace input,
      ¬ GluedToken isAlphanumeric word ∧ ¬ BarePrefix isAlphanumeric word := by
  have hleft : ¬ HasToken isAlphanumeric (redactSecretText input) ↔
      ∀ word ∈ Text.splitWhitespace input, ¬ GluedToken isAlphanumeric word := by
    rw [hasToken_iff_words, splitWhitespace_redactSecretText]
    simp only [List.mem_map, exists_exists_and_eq_and, hasToken_redactToken, not_exists, not_and]
    refine forall₂_congr fun word _ => ?_
    rw [← Bool.not_eq_true, looksSecretBearing_iff, GluedToken]
    tauto
  have hkept : List.Forall₂ (fun word kept => ¬ HasToken isAlphanumeric word →
        ¬ NamesSecret word → kept = word) (Text.splitWhitespace input)
        (Text.splitWhitespace (redactSecretText input)) ↔
      ∀ word ∈ Text.splitWhitespace input, ¬ BarePrefix isAlphanumeric word := by
    rw [splitWhitespace_redactSecretText, List.forall₂_map_right_iff, List.forall₂_same]
    refine forall₂_congr fun word _ => ?_
    rw [redactToken_eq_self_iff, ← Bool.not_eq_true, looksSecretBearing_iff, BarePrefix]
    tauto
  rw [RedactsTokens, hleft, hkept]
  exact forall₂_and.symm

/-- A quoted access token is returned as it came. -/
theorem not_redactsTokens :
    redactSecretText (text "token=\"ya29.secret\"") = text "token=\"ya29.secret\"" ∧
      ¬ RedactsTokens Char.isAlphanum (text "token=\"ya29.secret\"") := by
  have hout : redactSecretText (text "token=\"ya29.secret\"") = text "token=\"ya29.secret\"" := by
    decide
  have htoken : IsToken (text "ya29.s") :=
    ⟨text "ya29.", 's', by decide, .inl (by decide), by decide⟩
  have hbefore : ∀ c ∈ (text "token=\"").getLast?, IsBoundary Char.isAlphanum c := by
    intro c hc
    obtain rfl : '"' = c := Option.some.inj hc
    exact .inr (by decide)
  refine ⟨hout, fun h => h.1 ?_⟩
  rw [hout]
  exact ⟨text "token=\"", text "ya29.s", text "ecret\"", by decide, htoken, hbefore⟩

end

end Tools

end Ga4Mcp
