/-
  Strings of the source. A `str` is the list of its characters; its bytes are their UTF-8
  encodings, one after the other.
-/
import Mathlib.Data.List.DropRight
import Mathlib.Data.Nat.Digits.Defs

namespace Ga4Mcp

/-- A text, as its characters. -/
abbrev Text := List Char

instance : LawfulBEq Text := List.instLawfulBEq

/-- The text of a literal. -/
def text (s : String) : Text := s.toList

namespace Text

/-- `as_bytes`. -/
def utf8 (t : Text) : List UInt8 := t.flatMap String.utf8EncodeChar

/-- `str::len`. -/
def len (t : Text) : Nat := (utf8 t).length

/-- `char::is_whitespace`: the characters with the property White_Space. -/
def isWhitespace (c : Char) : Bool :=
  (0x09 ≤ c.toNat && c.toNat ≤ 0x0D) || c.toNat = 0x20 || c.toNat = 0x85 || c.toNat = 0xA0 ||
    c.toNat = 0x1680 || (0x2000 ≤ c.toNat && c.toNat ≤ 0x200A) || c.toNat = 0x2028 ||
    c.toNat = 0x2029 || c.toNat = 0x202F || c.toNat = 0x205F || c.toNat = 0x3000

def trimStart (t : Text) : Text := t.dropWhile isWhitespace

def trimEnd (t : Text) : Text := t.rdropWhile isWhitespace

def trim (t : Text) : Text := trimEnd (trimStart t)

def startsWith (t pat : Text) : Bool := pat.isPrefixOf t

def stripPrefix (t pat : Text) : Option Text :=
  if startsWith t pat then some (t.drop pat.length) else none

def toAsciiUppercase (t : Text) : Text := t.map Char.toUpper

def toAsciiLowercase (t : Text) : Text := t.map Char.toLower

def eqIgnoreAsciiCase (a b : Text) : Bool := toAsciiLowercase a = toAsciiLowercase b

/-- `str::split_once` with a single character. -/
def splitOnce (sep : Char) (t : Text) : Option (Text × Text) :=
  if sep ∈ t then some (t.takeWhile (· ≠ sep), (t.dropWhile (· ≠ sep)).tail) else none

/-- `str::splitn` with a single character. -/
def splitn : Nat → Char → Text → List Text
  | 0, _, _ => []
  | 1, _, t => [t]
  | n + 2, sep, t =>
      if sep ∈ t then t.takeWhile (· ≠ sep) :: splitn (n + 1) sep (t.dropWhile (· ≠ sep)).tail
      else [t]

/-- A number as `format!` writes it. -/
def decimal (n : Nat) : Text := Nat.toDigits 10 n

/-- A decidable property of the characters below a bound is checked one by one. -/
theorem forall_char_lt {p : Char → Prop} (bound : Nat) (h : ∀ n : Fin bound, p (Char.ofNat n))
    (c : Char) (hc : c.toNat < bound) : p c := by
  simpa only [Char.ofNat_toNat] using h ⟨c.toNat, hc⟩

theorem toNat_lt_of_isDigit {c : Char} (h : c.isDigit) : c.toNat < 58 := by
  simp only [Char.isDigit, Bool.and_eq_true, decide_eq_true_eq, UInt32.le_iff_toNat_le] at h
  exact Nat.lt_succ_of_le h.2

theorem toNat_lt_of_isAlphanum {c : Char} (h : c.isAlphanum) : c.toNat < 123 := by
  rcases Bool.or_eq_true_iff.mp h with halpha | hdigit
  · rcases Bool.or_eq_true_iff.mp halpha with hupper | hlower
    · have hle : c.val ≤ 'Z'.val := (of_decide_eq_true hupper).2
      exact (UInt32.le_iff_toNat_le.mp hle).trans_lt (by decide)
    · have hle : c.val ≤ 'z'.val := of_decide_eq_true (Bool.and_eq_true_iff.mp hlower).2
      exact (UInt32.le_iff_toNat_le.mp hle).trans_lt (by decide)
  · exact (toNat_lt_of_isDigit hdigit).trans (by decide)

theorem not_isWhitespace_of_isAlphanum {c : Char} (h : c.isAlphanum) : isWhitespace c = false := by
  refine forall_char_lt (p := fun c => c.isAlphanum → isWhitespace c = false) 123 ?_ c
    (toNat_lt_of_isAlphanum h) h
  decide +kernel

theorem not_isWhitespace_of_toLower {c : Char} (h : isWhitespace c.toLower = false) :
    isWhitespace c = false := by
  by_cases hupper : c.isUpper
  · have halpha : c.isAlpha = true := Bool.or_eq_true_iff.mpr (.inl hupper)
    exact not_isWhitespace_of_isAlphanum (Bool.or_eq_true_iff.mpr (.inl halpha))
  · have hlower : c.toLower = c := dif_neg fun h => hupper (decide_eq_true h)
    rwa [hlower] at h

theorem isDigit_of_mem_decimal {n : Nat} {c : Char} (h : c ∈ decimal n) : c.isDigit :=
  Nat.isDigit_of_mem_toDigits (by decide) (by decide) h

theorem decimal_injective : Function.Injective decimal := by
  intro n k h
  have hn : Nat.ofDigitChars 10 (decimal n) 0 = n := Nat.ofDigitChars_ten_toDigits
  have hk : Nat.ofDigitChars 10 (decimal k) 0 = k := Nat.ofDigitChars_ten_toDigits
  rw [← hn, ← hk, h]

/-- The first piece, when it is free of the separator. -/
theorem splitn_append {sep : Char} {a : Text} (h : sep ∉ a) (n : Nat) (b : Text) :
    splitn (n + 2) sep (a ++ sep :: b) = a :: splitn (n + 1) sep b := by
  have hall : ∀ c ∈ a, decide (c ≠ sep) = true := by
    intro c hc
    exact decide_eq_true fun heq => h (heq ▸ hc)
  have hstop : ∀ rest : Text, (sep :: rest).takeWhile (· ≠ sep) = [] := by simp
  rw [splitn, if_pos (List.mem_append_right _ List.mem_cons_self),
    List.takeWhile_append_of_pos hall, List.dropWhile_append_of_pos hall, hstop, List.append_nil]
  simp

/-- Nothing is trimmed from a text without spaces. -/
theorem trim_of_not_isWhitespace {t : Text} (h : ∀ c ∈ t, isWhitespace c = false) : trim t = t := by
  have hstart : trimStart t = t := by
    cases t with
    | nil => rfl
    | cons c rest => exact List.dropWhile_cons_of_neg (by simp [h c List.mem_cons_self])
  have hend : trimEnd t = t := by
    rcases List.eq_nil_or_concat t with rfl | ⟨rest, c, rfl⟩
    · rfl
    · rw [List.concat_eq_append] at h ⊢
      exact List.rdropWhile_concat_neg _ _ _ (by simp [h c (by simp)])
  rw [trim, hstart, hend]

theorem trim_infix (t : Text) : trim t <:+: t :=
  (List.rdropWhile_prefix _ _).isInfix.trans (List.dropWhile_suffix _).isInfix

theorem trim_eq_nil_iff {t : Text} : trim t = [] ↔ ∀ c ∈ t, isWhitespace c := by
  constructor
  · intro hnil c hc
    have hall := List.rdropWhile_eq_nil_iff.mp hnil
    rw [← List.takeWhile_append_dropWhile (p := isWhitespace) (l := t)] at hc
    rcases List.mem_append.mp hc with hbefore | hafter
    · exact List.mem_takeWhile_imp hbefore
    · exact hall c hafter
  · intro h
    have hstart : trimStart t = [] := List.dropWhile_eq_nil_iff.mpr h
    rw [trim, hstart]
    rfl

theorem trim_trim (t : Text) : trim (trim t) = trim t := by
  have hstart : trimStart (trim t) = trim t := by
    cases h : trim t with
    | nil => rfl
    | cons c rest =>
        obtain ⟨post, hpost⟩ : trim t <+: trimStart t := List.rdropWhile_prefix _ _
        rw [h, List.cons_append] at hpost
        have hne : trimStart t ≠ [] := by simp [← hpost]
        have hhead := List.head_dropWhile_not isWhitespace hne
        simp only [trimStart] at hpost hhead
        simp only [← hpost, List.head_cons] at hhead
        exact List.dropWhile_cons_of_neg (by simp [hhead])
  rw [trim, hstart]
  exact List.rdropWhile_idempotent isWhitespace (trimStart t)

theorem mem_trim {t : Text} {c : Char} (hmem : c ∈ t) (hc : isWhitespace c = false) :
    c ∈ trim t := by
  have hstart : c ∈ trimStart t := by
    rw [← List.takeWhile_append_dropWhile (p := isWhitespace) (l := t)] at hmem
    rcases List.mem_append.mp hmem with hbefore | hafter
    · rw [List.mem_takeWhile_imp hbefore] at hc
      cases hc
    · exact hafter
  rw [← List.rdropWhile_append_rtakeWhile (p := isWhitespace) (l := trimStart t)] at hstart
  rcases List.mem_append.mp hstart with hbefore | hafter
  · exact hbefore
  · rw [List.mem_rtakeWhile_imp hafter] at hc
    cases hc

/-- A text between two characters that are not trimmed. -/
theorem trim_cons_concat {a b : Char} (ha : isWhitespace a = false) (hb : isWhitespace b = false)
    (t : Text) : trim (a :: (t ++ [b])) = a :: (t ++ [b]) := by
  have hstart : trimStart (a :: (t ++ [b])) = a :: (t ++ [b]) :=
    List.dropWhile_cons_of_neg (by simp [ha])
  rw [trim, hstart, ← List.cons_append]
  exact List.rdropWhile_concat_neg _ _ _ (by simp [hb])

theorem head_not_isWhitespace {c : Char} {rest : Text} (h : trim (c :: rest) = c :: rest) :
    isWhitespace c = false := by
  by_contra hc
  have hstart : trimStart (c :: rest) = trimStart rest :=
    List.dropWhile_cons_of_pos (by simpa using hc)
  have hshort : (trim (c :: rest)).length ≤ rest.length := by
    rw [trim, hstart]
    exact (List.rdropWhile_prefix _ _).length_le.trans (List.dropWhile_suffix _).length_le
  rw [h] at hshort
  exact absurd hshort (by simp)

theorem splitOnce_append {sep : Char} {a : Text} (h : sep ∉ a) (b : Text) :
    splitOnce sep (a ++ sep :: b) = some (a, b) := by
  have hall : ∀ c ∈ a, decide (c ≠ sep) = true := by
    intro c hc
    exact decide_eq_true fun heq => h (heq ▸ hc)
  rw [splitOnce, if_pos (List.mem_append_right _ List.mem_cons_self),
    List.takeWhile_append_of_pos hall, List.dropWhile_append_of_pos hall]
  simp

theorem splitOnce_eq_some {sep : Char} {t a b : Text} (h : splitOnce sep t = some (a, b)) :
    t = a ++ sep :: b ∧ sep ∉ a := by
  unfold splitOnce at h
  split at h
  case isFalse => cases h
  case isTrue hmem =>
    obtain ⟨rfl, rfl⟩ := Prod.mk.inj (Option.some.inj h)
    have hne : t.dropWhile (· ≠ sep) ≠ [] := by
      intro hnil
      have hall := List.dropWhile_eq_nil_iff.mp hnil sep hmem
      simp at hall
    have hhead : (t.dropWhile (· ≠ sep)).head hne = sep := by
      simpa using List.head_dropWhile_not (· ≠ sep) hne
    refine ⟨?_, fun hin => by simpa using List.mem_takeWhile_imp hin⟩
    conv_lhs => rw [← List.takeWhile_append_dropWhile (p := (· ≠ sep)) (l := t),
      ← List.cons_head_tail hne, hhead]

theorem trim_ne_nil {t : Text} {c : Char} (hmem : c ∈ t) (hc : isWhitespace c = false) :
    trim t ≠ [] := by
  intro hnil
  rw [trim_eq_nil_iff.mp hnil c hmem] at hc
  cases hc

theorem utf8_append (a b : Text) : utf8 (a ++ b) = utf8 a ++ utf8 b := List.flatMap_append

/-- An ASCII byte is the encoding of its own character only. -/
theorem eq_of_mem_utf8EncodeChar {c d : Char} (hc : c.toNat < 128)
    (h : UInt8.ofNat c.toNat ∈ String.utf8EncodeChar d) : d = c := by
  have hbyte : ∀ n, UInt8.ofNat c.toNat = UInt8.ofNat n → n < 256 → n = c.toNat := by
    intro n hn hlt
    have heq := congrArg UInt8.toNat hn
    rw [UInt8.toNat_ofNat', UInt8.toNat_ofNat', Nat.mod_eq_of_lt (by omega),
      Nat.mod_eq_of_lt hlt] at heq
    exact heq.symm
  have hval : d.val.toNat = d.toNat := rfl
  unfold String.utf8EncodeChar at h
  dsimp only at h
  split at h
  case isTrue hd =>
    exact Char.toNat_inj.mp (hbyte _ (List.mem_singleton.mp h) (by omega))
  case isFalse =>
    -- the other encodings have bytes from 128 on
    split at h
    · rcases List.mem_pair.mp h with h | h
      · have := hbyte _ h (by omega)
        omega
      · have := hbyte _ h (by omega)
        omega
    · split at h
      all_goals
        simp only [List.mem_cons, List.not_mem_nil, or_false] at h
      · rcases h with h | h | h
        all_goals
          have := hbyte _ h (by omega)
          omega
      · rcases h with h | h | h | h
        all_goals
          have := hbyte _ h (by omega)
          omega

theorem len_pos {t : Text} (h : t ≠ []) : 0 < len t := by
  obtain ⟨c, rest, rfl⟩ := List.exists_cons_of_ne_nil h
  have hsize : (String.utf8EncodeChar c).length = c.utf8Size := String.length_utf8EncodeChar c
  have hpos := Char.utf8Size_pos c
  rw [len, utf8, List.flatMap_cons, List.length_append]
  omega

end Text

end Ga4Mcp
