import OpenFsd.Go.Decimal
import OpenFsd.Go.JsonText

namespace OpenFsd
namespace JsonText

/-!
# JSON as it is written

What `json.Marshal` writes: no spaces, and in a string an escape for each byte
that HTML or JavaScript could take for something else.  A byte that starts no
character is written as the escape of the replacement character.

The reader reads every text that is written as the value it was written for,
with valid UTF-8 in its strings.
-/

/-! ## Strings -/

/-- A digit of the package's table. -/
def hexDigit (value : Nat) : UInt8 :=
  if value < 10 then UInt8.ofNat (48 + value) else UInt8.ofNat (87 + value)

/-- `htmlSafeSet` -/
def htmlSafe (b : UInt8) : Bool :=
  0x20 ≤ b && !(bytes "\"&<>\\").contains b

/-- A byte below `utf8.RuneSelf`. -/
def escapeByte (b : UInt8) : Bytes :=
  if htmlSafe b then [b]
  else if b = backslash ∨ b = quote then [backslash, b]
  else if b = 8 then [backslash, byte 'b']
  else if b = 12 then [backslash, byte 'f']
  else if b = 10 then [backslash, byte 'n']
  else if b = 13 then [backslash, byte 'r']
  else if b = 9 then [backslash, byte 't']
  else [backslash, byte 'u', byte '0', byte '0', hexDigit (b.toNat / 16), hexDigit (b.toNat % 16)]

/-- U+2028 or U+2029. -/
def isSeparator (first second third : UInt8) : Bool :=
  first = 0xE2 && second = 0x80 && (third = 0xA8 || third = 0xA9)

/-- `appendString`, between the quotes, where so many bytes are left of the
current character. -/
def escapeRunes : Nat -> Bytes -> Bytes
  | _, [] => []
  | pending + 1, head :: rest => head :: escapeRunes pending rest
  | 0, head :: rest =>
      if head < 0x80 then escapeByte head ++ escapeRunes 0 rest
      else
        match runeWidth (head :: rest), rest with
        | 0, rest => bytes "\\ufffd" ++ escapeRunes 0 rest
        | width + 1, second :: third :: others =>
            if isSeparator head second third then
              [backslash, byte 'u', byte '2', byte '0', byte '2', hexDigit (third.toNat % 16)] ++
                escapeRunes 0 others
            else head :: escapeRunes width (second :: third :: others)
        | width + 1, rest => head :: escapeRunes width rest

def writeText (text : Bytes) : Bytes :=
  quote :: (escapeRunes 0 text ++ [quote])

example : writeText (bytes "a<b\n\"" ++ [0xE2, 0x80, 0xA8, 0xC3, 0xA9, 0xC3]) =
    bytes "\"a\\u003cb\\n\\\"\\u2028" ++ [0xC3, 0xA9] ++ bytes "\\ufffd\"" := by
  decide +kernel

/-! ## What an escape stands for -/

/-- A byte as it is, a one-letter escape, or the number of a character that is no half
of a surrogate pair. -/
inductive Escape : Bytes -> Bytes -> Prop
  | plain (b : UInt8) (visible : 0x20 ≤ b) (ascii : b < 0x80) (noQuote : b ≠ quote)
      (noEscape : b ≠ backslash) : Escape [b] [b]
  | letter (letter : UInt8) (listed : letter ∈ bytes "bfnrt\\/\"") :
      Escape [escaped letter] [backslash, letter]
  | numbered (a b c d : UInt8) (digits : forall digit, digit ∈ [a, b, c, d] -> isHex digit = true)
      (low : getu4 a b c d < 0xD800 ∨ 0xE000 ≤ getu4 a b c d) :
      Escape (encodeRune (getu4 a b c d)) [backslash, byte 'u', a, b, c, d]

theorem lt_of_isHex {digit : UInt8} (hex : isHex digit = true) : digit < 0x80 := by
  simp only [isHex, isDigit, Bool.or_eq_true, Bool.and_eq_true, decide_eq_true_eq] at hex
  have ends : byte '9' < 0x80 ∧ byte 'f' < 0x80 ∧ byte 'F' < 0x80 := by decide
  rcases hex with (⟨_, below⟩ | ⟨_, below⟩) | ⟨_, below⟩
  · exact UInt8.lt_of_le_of_lt below ends.1
  · exact UInt8.lt_of_le_of_lt below ends.2.1
  · exact UInt8.lt_of_le_of_lt below ends.2.2

theorem isHex_hexDigit (value : Nat) (low : value < 16) : isHex (hexDigit value) = true := by
  have table : forall value, value < 16 -> isHex (hexDigit value) = true := by decide +kernel
  exact table value low

namespace Escape

variable {value spelling : Bytes}

theorem ascii (escape : Escape value spelling) : forall b, b ∈ spelling -> b < 0x80 := by
  cases escape with
  | plain b visible ascii noQuote noEscape =>
      intro other member
      rw [List.mem_singleton.mp member]
      exact ascii
  | letter letter listed =>
      have table : forall b, b ∈ backslash :: bytes "bfnrt\\/\"" -> b < 0x80 := by decide +kernel
      intro other member
      apply table
      rcases List.mem_cons.mp member with same | second
      · exact List.mem_cons.mpr (Or.inl same)
      · rw [List.mem_singleton.mp second]
        exact List.mem_cons_of_mem _ listed
  | numbered a b c d digits low =>
      intro other member
      rcases List.mem_cons.mp member with rfl | member
      · decide
      · rcases List.mem_cons.mp member with rfl | digit
        · decide
        · exact lt_of_isHex (digits other digit)

/-- The scanner stays inside the string. -/
theorem scans (escape : Escape value spelling) :
    spelling.foldlM scanner.step .inString = some .inString := by
  cases escape with
  | plain b visible ascii noQuote noEscape =>
      simp [scanner, ScanState.step, ScanState.expect, noQuote, noEscape, visible]
  | letter letter listed =>
      have table : forall letter, letter ∈ bytes "bfnrt\\/\"" ->
          [backslash, letter].foldlM scanner.step .inString = some ScanState.inString := by
        decide +kernel
      exact table letter listed
  | numbered a b c d digits low =>
      have first := digits a (by simp)
      have second := digits b (by simp)
      have third := digits c (by simp)
      have fourth := digits d (by simp)
      have opened : [backslash, byte 'u'].foldlM scanner.step .inString =
          some ScanState.inStringEscU := by decide +kernel
      have split : [backslash, byte 'u', a, b, c, d] = [backslash, byte 'u'] ++ [a, b, c, d] := rfl
      rw [split, List.foldlM_append, opened]
      simp [scanner, ScanState.step, ScanState.expect, first, second, third, fourth]

/-- The reader puts the value for the escape, whatever follows. -/
theorem unescape_append (escape : Escape value spelling) (rest : Bytes) :
    unescape (spelling ++ rest) = value ++ unescape rest := by
  cases escape with
  | plain b visible ascii noQuote noEscape =>
      rw [List.singleton_append, unescape.eq_def]
      simp only [if_neg noEscape, List.singleton_append]
  | letter letter listed =>
      have table : forall letter, letter ∈ bytes "bfnrt\\/\"" -> letter ≠ byte 'u' := by
        decide +kernel
      rw [List.cons_append, List.cons_append, List.nil_append, unescape.eq_def]
      simp only [if_true, if_neg (table letter listed), List.singleton_append]
  | numbered a b c d digits low =>
      have single : forall low, decodeRune (getu4 a b c d) low = none := by
        intro other
        unfold decodeRune
        exact if_neg fun pair => by omega
      simp only [List.cons_append, List.nil_append]
      rw [unescape.eq_def]
      simp only [if_true]
      split
      · next first second a' b' c' d' others => simp only [single, ite_self]
      · rfl

end Escape

/-- An ASCII byte is escaped as itself. -/
theorem escape_escapeByte {b : UInt8} (ascii : b < 0x80) : Escape [b] (escapeByte b) := by
  have safe : htmlSafe b = true -> 0x20 ≤ b ∧ b ≠ quote ∧ b ≠ backslash := by
    have table : forall b, b ∈ [quote, backslash] -> htmlSafe b = false := by decide +kernel
    intro shown
    have visible := (Bool.and_eq_true_iff.mp shown).1
    refine ⟨of_decide_eq_true visible, ?_, ?_⟩
    · rintro rfl
      cases shown.symm.trans (table quote (by decide))
    · rintro rfl
      cases shown.symm.trans (table backslash (by decide))
  have number : getu4 (byte '0') (byte '0') (hexDigit (b.toNat / 16)) (hexDigit (b.toNat % 16)) =
      b.toNat := by
    have table : forall value, value < 128 ->
        getu4 (byte '0') (byte '0') (hexDigit (value / 16)) (hexDigit (value % 16)) = value := by
      decide +kernel
    exact table b.toNat ascii
  unfold escapeByte
  split_ifs with shown special backspace formFeed newline carriage tab
  · exact .plain b (safe shown).1 ascii (safe shown).2.1 (safe shown).2.2
  · rcases special with rfl | rfl
    · exact .letter backslash (by decide +kernel)
    · exact .letter quote (by decide +kernel)
  · rw [backspace]
    exact .letter (byte 'b') (by decide +kernel)
  · rw [formFeed]
    exact .letter (byte 'f') (by decide +kernel)
  · rw [newline]
    exact .letter (byte 'n') (by decide +kernel)
  · rw [carriage]
    exact .letter (byte 'r') (by decide +kernel)
  · rw [tab]
    exact .letter (byte 't') (by decide +kernel)
  · have below : b.toNat < 0x80 := ascii
    have digits : forall digit, digit ∈ [byte '0', byte '0', hexDigit (b.toNat / 16),
        hexDigit (b.toNat % 16)] -> isHex digit = true := by
      have first := isHex_hexDigit (b.toNat / 16) (by omega)
      have second := isHex_hexDigit (b.toNat % 16) (by omega)
      have zero : isHex (byte '0') = true := by decide
      simp [first, second, zero]
    have escape := Escape.numbered _ _ _ _ digits (by omega)
    rw [number, encodeRune, if_pos below, UInt8.ofNat_toNat] at escape
    exact escape

theorem escape_replacement : Escape replacement (bytes "\\ufffd") := by
  have digits : forall digit, digit ∈ [byte 'f', byte 'f', byte 'f', byte 'd'] ->
      isHex digit = true := by decide +kernel
  exact .numbered (byte 'f') (byte 'f') (byte 'f') (byte 'd') digits (by decide +kernel)

theorem escape_separator {first second third : UInt8}
    (separator : isSeparator first second third = true) :
    Escape [first, second, third]
      [backslash, byte 'u', byte '2', byte '0', byte '2', hexDigit (third.toNat % 16)] := by
  simp only [isSeparator, Bool.and_eq_true, Bool.or_eq_true, decide_eq_true_eq] at separator
  rcases separator with ⟨⟨rfl, rfl⟩, rfl | rfl⟩
  · have digits : forall digit, digit ∈ [byte '2', byte '0', byte '2', byte '8'] ->
        isHex digit = true := by decide +kernel
    exact .numbered (byte '2') (byte '0') (byte '2') (byte '8') digits (by decide +kernel)
  · have digits : forall digit, digit ∈ [byte '2', byte '0', byte '2', byte '9'] ->
        isHex digit = true := by decide +kernel
    exact .numbered (byte '2') (byte '0') (byte '2') (byte '9') digits (by decide +kernel)

/-! ## Characters -/

theorem toValidUTF8_ascii_append {text : Bytes} (ascii : forall b, b ∈ text -> b < 0x80)
    (rest : Bytes) : toValidUTF8 (text ++ rest) = text ++ toValidUTF8 rest := by
  induction text with
  | nil => rfl
  | cons head tail inductionHypothesis =>
      have low : head < 0x80 := ascii head List.mem_cons_self
      have width : runeWidth (head :: (tail ++ rest)) = 1 := by
        unfold runeWidth
        exact if_pos low
      rw [List.cons_append, toValidUTF8, keepRunes, width]
      exact congrArg (List.cons head)
        (inductionHypothesis fun b member => ascii b (List.mem_cons_of_mem head member))

/-- The later bytes of a character, which are no ASCII and determine its width. -/
structure Later (head : UInt8) (width : Nat) (later : Bytes) : Prop where
  length : later.length = width
  high : forall b, b ∈ later -> 0x80 ≤ b
  width : forall rest, runeWidth (head :: (later ++ rest)) = width + 1

theorem later_of_runeWidth {head : UInt8} {text : Bytes} {width : Nat}
    (measured : runeWidth (head :: text) = width + 1) :
    Exists fun later => Exists fun rest => text = later ++ rest ∧ Later head width later := by
  have high : forall {b : UInt8}, isTail b = true -> 0x80 ≤ b := by
    intro b tail
    exact of_decide_eq_true (Bool.and_eq_true_iff.mp tail).1
  have above : forall {limited : Prop} [Decidable limited] {low b : UInt8}, 0x80 ≤ low ->
      (if limited then low else 0x80) ≤ b -> 0x80 ≤ b := by
    intro limited _ low b floor bounded
    split at bounded
    · exact UInt8.le_trans floor bounded
    · exact bounded
  rw [runeWidth.eq_def] at measured
  dsimp only at measured
  by_cases ascii : head < 0x80
  · rw [if_pos ascii] at measured
    cases measured
    exact ⟨[], text, rfl, rfl, nofun, fun rest => by unfold runeWidth; exact if_pos ascii⟩
  rw [if_neg ascii] at measured
  rcases text with _ | ⟨second, text⟩
  · cases measured
  dsimp only at measured
  by_cases two : 0xC2 ≤ head ∧ head ≤ 0xDF ∧ isTail second = true
  · rw [if_pos two] at measured
    cases measured
    refine ⟨[second], text, rfl, rfl, ?_, ?_⟩
    · intro b member
      rw [List.mem_singleton.mp member]
      exact high two.2.2
    · intro rest
      simp only [runeWidth, List.cons_append, List.nil_append, if_neg ascii, if_pos two]
  rw [if_neg two] at measured
  rcases text with _ | ⟨third, text⟩
  · cases measured
  dsimp only at measured
  by_cases three : 0xE0 ≤ head ∧ head ≤ 0xEF ∧ (if head = 0xE0 then 0xA0 else 0x80) ≤ second ∧
      second ≤ (if head = 0xED then 0x9F else 0xBF) ∧ isTail third = true
  · rw [if_pos three] at measured
    cases measured
    refine ⟨[second, third], text, rfl, rfl, ?_, ?_⟩
    · have bounds : 0x80 ≤ second ∧ 0x80 ≤ third :=
        ⟨above (by decide) three.2.2.1, high three.2.2.2.2⟩
      simpa using bounds
    · intro rest
      simp only [runeWidth, List.cons_append, List.nil_append, if_neg ascii, if_neg two,
        if_pos three]
  rw [if_neg three] at measured
  rcases text with _ | ⟨fourth, text⟩
  · cases measured
  dsimp only at measured
  by_cases four : 0xF0 ≤ head ∧ head ≤ 0xF4 ∧ (if head = 0xF0 then 0x90 else 0x80) ≤ second ∧
      second ≤ (if head = 0xF4 then 0x8F else 0xBF) ∧ isTail third = true ∧ isTail fourth = true
  · rw [if_pos four] at measured
    cases measured
    refine ⟨[second, third, fourth], text, rfl, rfl, ?_, ?_⟩
    · have bounds : 0x80 ≤ second ∧ 0x80 ≤ third ∧ 0x80 ≤ fourth :=
        ⟨above (by decide) four.2.2.1, high four.2.2.2.2.1, high four.2.2.2.2.2⟩
      simpa using bounds
    · intro rest
      simp only [runeWidth, List.cons_append, List.nil_append, if_neg ascii, if_neg two,
        if_neg three, if_pos four]
  · rw [if_neg four] at measured
    cases measured

theorem keepRunes_append (kept rest : Bytes) :
    keepRunes kept.length (kept ++ rest) = kept ++ keepRunes 0 rest := by
  induction kept with
  | nil => rfl
  | cons head tail inductionHypothesis => exact congrArg (List.cons head) inductionHypothesis

theorem escapeRunes_append (kept rest : Bytes) :
    escapeRunes kept.length (kept ++ rest) = kept ++ escapeRunes 0 rest := by
  induction kept with
  | nil => rfl
  | cons head tail inductionHypothesis => exact congrArg (List.cons head) inductionHypothesis

/-! ## What is between the quotes -/

/-- Between the quotes the text stands for the value. -/
structure Quotes (value text : Bytes) : Prop where
  valid : toValidUTF8 text = text
  scans : text.foldlM scanner.step .inString = some .inString
  reads : unescape text = value

namespace Quotes

theorem nil : Quotes [] [] :=
  ⟨rfl, rfl, rfl⟩

theorem escape {value spelling others text : Bytes} (escape : Escape value spelling)
    (later : Quotes others text) : Quotes (value ++ others) (spelling ++ text) := by
  constructor
  · rw [toValidUTF8_ascii_append escape.ascii, later.valid]
  · rw [List.foldlM_append, escape.scans]
    exact later.scans
  · rw [escape.unescape_append, later.reads]

/-- The bytes of other characters stand for themselves. -/
theorem scans_high {high text : Bytes} (all : forall b, b ∈ high -> 0x80 ≤ b)
    (scans : text.foldlM scanner.step .inString = some .inString) :
    (high ++ text).foldlM scanner.step .inString = some .inString := by
  induction high with
  | nil => exact scans
  | cons head rest inductionHypothesis =>
      have bound := all head List.mem_cons_self
      have noQuote : head ≠ quote := by
        rintro rfl
        exact absurd bound (by decide)
      have noEscape : head ≠ backslash := by
        rintro rfl
        exact absurd bound (by decide)
      have visible : 0x20 ≤ head := UInt8.le_trans (by decide) bound
      have stepped : scanner.step .inString head = some .inString := by
        simp [scanner, ScanState.step, ScanState.expect, noQuote, noEscape, visible]
      rw [List.cons_append, List.foldlM_cons, stepped]
      exact inductionHypothesis fun b member => all b (List.mem_cons_of_mem head member)

theorem unescape_high {high : Bytes} (all : forall b, b ∈ high -> 0x80 ≤ b) (text : Bytes) :
    unescape (high ++ text) = high ++ unescape text := by
  induction high with
  | nil => rfl
  | cons head rest inductionHypothesis =>
      have noEscape : head ≠ backslash := by
        rintro rfl
        exact absurd (all backslash List.mem_cons_self) (by decide)
      rw [List.cons_append, unescape.eq_def]
      simp only [if_neg noEscape, List.cons_append, List.cons.injEq, true_and]
      exact inductionHypothesis fun b member => all b (List.mem_cons_of_mem head member)

/-- A character of more than one byte stands for itself. -/
theorem character {head : UInt8} {later others text : Bytes} {width : Nat} (high : 0x80 ≤ head)
    (whole : Later head width later) (rest : Quotes others text) :
    Quotes (head :: (later ++ others)) (head :: (later ++ text)) := by
  have all : forall b, b ∈ head :: later -> 0x80 ≤ b :=
    List.forall_mem_cons.mpr ⟨high, whole.high⟩
  constructor
  · rw [toValidUTF8, keepRunes, whole.width]
    dsimp only
    rw [← whole.length, keepRunes_append]
    exact congrArg (fun tail => head :: (later ++ tail)) rest.valid
  · exact scans_high all rest.scans
  · exact (unescape_high all text).trans (congrArg (head :: later ++ ·) rest.reads)

end Quotes

theorem toValidUTF8_character {head : UInt8} {later : Bytes} {width : Nat}
    (whole : Later head width later) (rest : Bytes) :
    toValidUTF8 (head :: (later ++ rest)) = head :: (later ++ toValidUTF8 rest) := by
  rw [toValidUTF8, keepRunes, whole.width]
  dsimp only
  rw [← whole.length, keepRunes_append]
  rfl

/-- A separator is a character of its own. -/
theorem later_separator {first second third : UInt8}
    (separator : isSeparator first second third = true) : Later first 2 [second, third] := by
  simp only [isSeparator, Bool.and_eq_true, Bool.or_eq_true, decide_eq_true_eq] at separator
  rcases separator with ⟨⟨rfl, rfl⟩, rfl | rfl⟩
  · exact ⟨rfl, by simp, fun _ => rfl⟩
  · exact ⟨rfl, by simp, fun _ => rfl⟩

/-! ## The loop over the characters -/

section Loop

variable {head : UInt8} {rest : Bytes}

theorem escapeRunes_ascii (ascii : head < 0x80) :
    escapeRunes 0 (head :: rest) = escapeByte head ++ escapeRunes 0 rest := by
  rw [escapeRunes.eq_def]
  simp only [if_pos ascii]

theorem escapeRunes_broken (high : ¬ head < 0x80) (measured : runeWidth (head :: rest) = 0) :
    escapeRunes 0 (head :: rest) = bytes "\\ufffd" ++ escapeRunes 0 rest := by
  rw [escapeRunes.eq_def]
  simp only [if_neg high, measured]

theorem escapeRunes_separator {second third : UInt8}
    (separator : isSeparator head second third = true) :
    escapeRunes 0 (head :: second :: third :: rest) =
      [backslash, byte 'u', byte '2', byte '0', byte '2', hexDigit (third.toNat % 16)] ++
        escapeRunes 0 rest := by
  have whole := later_separator separator
  have measured : runeWidth (head :: second :: third :: rest) = 3 := whole.width rest
  have high : ¬ head < 0x80 := by
    rw [of_decide_eq_true (Bool.and_eq_true_iff.mp (Bool.and_eq_true_iff.mp separator).1).1]
    decide
  rw [escapeRunes.eq_def]
  simp only [if_neg high, measured, if_pos separator]

/-- The other characters are copied. -/
theorem escapeRunes_character {width : Nat} (high : ¬ head < 0x80)
    (measured : runeWidth (head :: rest) = width + 1)
    (plain : forall second third others, rest = second :: third :: others ->
      isSeparator head second third = false) :
    escapeRunes 0 (head :: rest) = head :: escapeRunes width rest := by
  rw [escapeRunes.eq_def]
  simp only [if_neg high, measured]
  rcases rest with _ | ⟨second, _ | ⟨third, others⟩⟩
  · rfl
  · rfl
  · simp only [plain second third others rfl, Bool.false_eq_true, if_false]

end Loop

/-- What the package writes for a string is read as the string in valid UTF-8. -/
theorem quotes_escapeRunes (text : Bytes) : Quotes (toValidUTF8 text) (escapeRunes 0 text) := by
  induction size : text.length using Nat.strong_induction_on generalizing text with
  | _ size inductionHypothesis =>
      cases text with
      | nil => exact .nil
      | cons head rest =>
          have shorter : forall tail : Bytes, tail.length ≤ rest.length ->
              Quotes (toValidUTF8 tail) (escapeRunes 0 tail) := by
            intro tail le
            rw [List.length_cons] at size
            exact inductionHypothesis tail.length (by omega) tail rfl
          by_cases ascii : head < 0x80
          · have single : forall b, b ∈ [head] -> b < 0x80 := by
              intro b member
              rwa [List.mem_singleton.mp member]
            have valid : toValidUTF8 (head :: rest) = [head] ++ toValidUTF8 rest :=
              toValidUTF8_ascii_append single rest
            rw [escapeRunes_ascii ascii, valid]
            exact .escape (escape_escapeByte ascii) (shorter rest (Nat.le_refl _))
          cases measured : runeWidth (head :: rest) with
          | zero =>
              have valid : toValidUTF8 (head :: rest) = replacement ++ toValidUTF8 rest := by
                rw [toValidUTF8, keepRunes, measured]
                rfl
              rw [escapeRunes_broken ascii measured, valid]
              exact .escape escape_replacement (shorter rest (Nat.le_refl _))
          | succ width =>
              by_cases special : Exists fun second => Exists fun third => Exists fun others =>
                  rest = second :: third :: others ∧ isSeparator head second third = true
              · rcases special with ⟨second, third, others, rfl, separator⟩
                have valid := toValidUTF8_character (later_separator separator) others
                rw [escapeRunes_separator separator]
                have le : others.length ≤ (second :: third :: others).length := by
                  simp only [List.length_cons]
                  omega
                have escaped := Quotes.escape (escape_separator separator) (shorter others le)
                exact valid ▸ escaped
              · rcases later_of_runeWidth measured with ⟨later, others, same, whole⟩
                have copied : escapeRunes 0 (head :: rest) = head :: escapeRunes width rest := by
                  apply escapeRunes_character ascii measured
                  intro second third others same
                  exact Bool.eq_false_iff.mpr fun separator =>
                    special ⟨second, third, others, same, separator⟩
                have le : others.length ≤ rest.length := by
                  rw [same, List.length_append]
                  exact Nat.le_add_left _ _
                rw [copied, same, ← whole.length, escapeRunes_append, toValidUTF8_character whole]
                exact .character (UInt8.not_lt.mp ascii) whole (shorter others le)

/-- The text of a string is the literal of the string in valid UTF-8. -/
theorem literal_writeText (text : Bytes) : Literal (.text (toValidUTF8 text)) (writeText text) := by
  have quotes := quotes_escapeRunes text
  constructor
  · refine ⟨.endValue, ?_, rfl⟩
    have opened : scanner.step .beginValue quote = some .inString := by decide
    have closed : [quote].foldlM scanner.step .inString = some ScanState.endValue := by decide
    rw [writeText, List.foldlM_cons, opened]
    show (escapeRunes 0 text ++ [quote]).foldlM scanner.step .inString = some .endValue
    rw [List.foldlM_append, quotes.scans]
    exact closed
  · have dropped : (escapeRunes 0 text ++ [quote]).dropLast = escapeRunes 0 text :=
      List.dropLast_concat
    rw [writeText, literalValue, if_neg (by decide), if_neg (by decide), if_neg (by decide),
      if_pos rfl, dropped, unquote, quotes.valid, quotes.reads]

/-! ## Numbers -/

/-- A positive number starts with a digit that is not zero. -/
theorem digits_eq_cons {number : Nat} (positive : 0 < number) :
    Exists fun head => Exists fun tail => digits number = head :: tail ∧ 49 ≤ head.toNat ∧
      head.toNat ≤ 57 ∧ forall b, b ∈ tail -> isDigit b = true := by
  induction number using Nat.strong_induction_on with
  | _ number inductionHypothesis =>
      by_cases small : number < 10
      · have table : forall number, number < 10 -> 0 < number ->
            49 ≤ (byte number.digitChar).toNat ∧ (byte number.digitChar).toNat ≤ 57 := by
          decide +kernel
        refine ⟨_, [], digits_of_lt small, ?_⟩
        exact ⟨(table number small positive).1, (table number small positive).2, nofun⟩
      · have table : forall digit, digit < 10 -> isDigit (byte digit.digitChar) = true := by
          decide +kernel
        rcases inductionHypothesis (number / 10) (by omega) (by omega) with
          ⟨head, tail, same, low, high, all⟩
        refine ⟨head, tail ++ [byte (number % 10).digitChar], ?_, low, high, ?_⟩
        · rw [digits_of_le (Nat.not_lt.mp small), same, List.cons_append]
        · intro b member
          rcases List.mem_append.mp member with earlier | last
          · exact all b earlier
          · rw [List.mem_singleton.mp last]
            exact table _ (Nat.mod_lt _ (by decide))

theorem scans_digits {text : Bytes} (all : forall b, b ∈ text -> isDigit b = true) :
    text.foldlM scanner.step .digits = some .digits := by
  induction text with
  | nil => rfl
  | cons head rest inductionHypothesis =>
      have table : forall b, b ∈ [byte '.', byte 'e', byte 'E'] -> isDigit b = false := by
        decide +kernel
      have digit : isDigit head = true := all head List.mem_cons_self
      have plain : head ∉ [byte '.', byte 'e', byte 'E'] := by
        intro member
        rw [table head member] at digit
        cases digit
      simp only [List.mem_cons, List.not_mem_nil, or_false, not_or] at plain
      have stepped : scanner.step .digits head = some .digits := by
        simp [scanner, ScanState.step, ScanState.expect, plain.1, plain.2.1, plain.2.2, digit]
      rw [List.foldlM_cons, stepped]
      exact inductionHypothesis fun b member => all b (List.mem_cons_of_mem head member)

/-- What `Itoa` writes is a literal. -/
theorem literal_itoa (number : Int) : Literal (.number (itoa number)) (itoa number) := by
  have firsts : forall value, 49 ≤ value -> value < 58 ->
      scanner.step .beginValue (UInt8.ofNat value) = some .digits ∧
        scanner.step .neg (UInt8.ofNat value) = some .digits ∧
          UInt8.ofNat value ∉ [byte 'n', byte 't', byte 'f', quote] := by decide +kernel
  rcases Nat.eq_zero_or_pos number.natAbs with zero | positive
  · rw [Int.natAbs_eq_zero.mp zero]
    exact ⟨⟨.zero, by decide +kernel, rfl⟩, by rfl⟩
  · rcases digits_eq_cons positive with ⟨head, tail, same, low, high, all⟩
    have first := firsts head.toNat low (by omega)
    rw [UInt8.ofNat_toNat] at first
    simp only [List.mem_cons, List.not_mem_nil, or_false, not_or] at first
    have scanned := scans_digits all
    unfold itoa
    rw [same]
    split
    · have signed : scanner.step .beginValue (byte '-') = some .neg := by decide +kernel
      refine ⟨⟨.digits, ?_, rfl⟩, rfl⟩
      rw [List.foldlM_cons, signed]
      show (head :: tail).foldlM scanner.step .neg = some .digits
      rw [List.foldlM_cons, first.2.1]
      exact scanned
    · refine ⟨⟨.digits, ?_, rfl⟩, ?_⟩
      · rw [List.foldlM_cons, first.1]
        exact scanned
      · rw [literalValue, if_neg first.2.2.1, if_neg first.2.2.2.1, if_neg first.2.2.2.2.1,
          if_neg first.2.2.2.2.2]

/-- The number that decimal digits stand for. -/
def decimalValue (text : Bytes) : Nat :=
  text.foldl (fun value b => value * 10 + (b.toNat - 48)) 0

/-- The integer that a literal without a fraction and an exponent stands for. -/
def integerValue (literal : Bytes) : Int :=
  let (negative, magnitude) := splitSign literal
  if negative then -(decimalValue magnitude : Int) else decimalValue magnitude

theorem decimalValue_digits (number : Nat) : decimalValue (digits number) = number := by
  have table : forall digit, digit < 10 -> (byte digit.digitChar).toNat - 48 = digit := by
    decide +kernel
  induction number using Nat.strong_induction_on with
  | _ number inductionHypothesis =>
      by_cases small : number < 10
      · rw [digits_of_lt small, decimalValue, List.foldl_cons, table number small]
        exact Nat.zero_add number
      · have quotient := inductionHypothesis (number / 10) (by omega)
        unfold decimalValue at quotient ⊢
        rw [digits_of_le (Nat.not_lt.mp small), List.foldl_append, quotient, List.foldl_cons,
          table _ (Nat.mod_lt _ (by decide))]
        exact Nat.div_add_mod' number 10

theorem integerValue_itoa (number : Int) : integerValue (itoa number) = number := by
  unfold itoa
  split
  · have signed : splitSign (byte '-' :: digits number.natAbs) = (true, digits number.natAbs) := rfl
    rw [integerValue, signed]
    simp only [if_true, decimalValue_digits]
    omega
  · rw [integerValue, splitSign_digits]
    simp only [Bool.false_eq_true, if_false, decimalValue_digits]
    omega

/-! ## Values -/

mutual

/-- A value as `json.Marshal` writes it.  The number is a literal already. -/
def writeValue : JsonValue -> Bytes
  | .null => bytes "null"
  | .bool true => bytes "true"
  | .bool false => bytes "false"
  | .number literal => literal
  | .text value => writeText value
  | .array items => openBracket :: (writeItems items ++ [closeBracket])
  | .object members => openBrace :: (writeMembers members ++ [closeBrace])

def writeItems : List JsonValue -> Bytes
  | [] => []
  | [item] => writeValue item
  | item :: rest => writeValue item ++ byte ',' :: writeItems rest

def writeMembers : List (Bytes × JsonValue) -> Bytes
  | [] => []
  | [member] => writeMember member
  | member :: rest => writeMember member ++ byte ',' :: writeMembers rest

def writeMember : Bytes × JsonValue -> Bytes
  | (name, value) => writeText name ++ colon :: writeValue value

end

mutual

/-- The value with valid UTF-8 in its strings and names. -/
def validValue : JsonValue -> JsonValue
  | .null => .null
  | .bool value => .bool value
  | .number literal => .number literal
  | .text value => .text (toValidUTF8 value)
  | .array items => .array (validItems items)
  | .object members => .object (validMembers members)

def validItems : List JsonValue -> List JsonValue
  | [] => []
  | item :: rest => validValue item :: validItems rest

def validMembers : List (Bytes × JsonValue) -> List (Bytes × JsonValue)
  | [] => []
  | member :: rest => validMember member :: validMembers rest

def validMember : Bytes × JsonValue -> Bytes × JsonValue
  | (name, value) => (toValidUTF8 name, validValue value)

end

example : writeValue (.object [(bytes "a", .array [.null, .number (bytes "1")]),
    (bytes "b", .text [])]) = bytes "\x7b\"a\":[null,1],\"b\":\"\"\x7d" := by
  decide +kernel

theorem writeItems_eq (items : List JsonValue) :
    writeItems items = Delimited.joined layout (items.map writeValue) := by
  induction items with
  | nil => rfl
  | cons item rest inductionHypothesis =>
      cases rest with
      | nil => rfl
      | cons second rest =>
          exact congrArg (fun later => writeValue item ++ byte ',' :: later) inductionHypothesis

theorem writeMembers_eq (members : List (Bytes × JsonValue)) :
    writeMembers members = Delimited.joined layout (members.map writeMember) := by
  induction members with
  | nil => rfl
  | cons member rest inductionHypothesis =>
      cases rest with
      | nil => rfl
      | cons second rest =>
          exact congrArg (fun later => writeMember member ++ byte ',' :: later)
            inductionHypothesis

theorem validItems_eq (items : List JsonValue) : validItems items = items.map validValue := by
  induction items with
  | nil => rfl
  | cons item rest inductionHypothesis => exact congrArg (List.cons _) inductionHypothesis

theorem validMembers_eq (members : List (Bytes × JsonValue)) :
    validMembers members = members.map validMember := by
  induction members with
  | nil => rfl
  | cons member rest inductionHypothesis => exact congrArg (List.cons _) inductionHypothesis

/-- Its numbers are literals, and its arrays and objects go no deeper than this. -/
def Writable : Nat -> JsonValue -> Prop
  | _, .number literal => Literal (.number literal) literal
  | 0, .array _ => False
  | 0, .object _ => False
  | limit + 1, .array items => forall item, item ∈ items -> Writable limit item
  | limit + 1, .object members => forall member, member ∈ members -> Writable limit member.2
  | _, _ => True

/-- The text of a value spells it. -/
theorem spells_writeValue {limit : Nat} {value : JsonValue} (writable : Writable limit value) :
    Spells limit (validValue value) (writeValue value) := by
  have null : Literal .null (bytes "null") := ⟨⟨.endValue, by decide +kernel, rfl⟩, rfl⟩
  have falsehood : Literal (.bool false) (bytes "false") :=
    ⟨⟨.endValue, by decide +kernel, rfl⟩, rfl⟩
  have truth : Literal (.bool true) (bytes "true") := ⟨⟨.endValue, by decide +kernel, rfl⟩, rfl⟩
  induction limit generalizing value with
  | zero =>
      cases value with
      | null => exact null
      | bool value =>
          cases value with
          | false => exact falsehood
          | true => exact truth
      | number literal => exact writable
      | text value => exact literal_writeText value
      | array items => exact writable.elim
      | object members => exact writable.elim
  | succ limit inductionHypothesis =>
      cases value with
      | null => exact Or.inl null
      | bool value =>
          cases value with
          | false => exact Or.inl falsehood
          | true => exact Or.inl truth
      | number literal => exact Or.inl writable
      | text value => exact Or.inl (literal_writeText value)
      | array items =>
          rw [validValue, writeValue, validItems_eq, writeItems_eq]
          refine Or.inr (.array (Delimited.bracketed_joined closeBracket ?_))
          exact fun item member => inductionHypothesis (writable item member)
      | object members =>
          rw [validValue, writeValue, validMembers_eq, writeMembers_eq]
          refine Or.inr (.object (Delimited.bracketed_joined closeBrace ?_))
          rintro ⟨name, value⟩ member
          have pair : Member (Spells limit) (toValidUTF8 name, validValue value)
              (writeText name ++ ([] ++ colon :: ([] ++ writeValue value))) :=
            .pair (literal_writeText name) nofun nofun (inductionHypothesis (writable _ member))
          exact pair

/-- What is written is read as the value with valid UTF-8 in its strings. -/
theorem readDocument_writeValue {limit higher : Nat} {value : JsonValue}
    (writable : Writable limit value) (le : limit ≤ higher) :
    readDocument higher (writeValue value) = some (validValue value) := by
  have document : Document limit (validValue value) (writeValue value) := by
    refine ⟨[], writeValue value, [], nofun, nofun, spells_writeValue writable, ?_⟩
    rw [List.nil_append, List.append_nil]
  exact readDocument_eq_some.mpr
    (document.of_nested (nestedWithin_mono le document.nested))

end JsonText
end OpenFsd
