import OpenFsd.Library.Automaton
import OpenFsd.Library.Delimited
import OpenFsd.Go.Json

namespace OpenFsd
namespace JsonText

/-!
# Texts in JSON

What `json.Unmarshal` reads: the grammar of the texts that it takes for JSON,
with the value that each of them spells, and a reader.  The reader accepts
exactly the texts of the grammar.  As in the package, the scalars are the
words of an automaton, a string is made valid UTF-8 when it is unquoted, and
the nesting of arrays and objects is limited.
-/

/-! ## Scalars -/

/-- The states of the scanner inside a scalar. -/
inductive ScanState
  | beginValue
  | inString
  | inStringEsc
  | inStringEscU
  | inStringEscU1
  | inStringEscU12
  | inStringEscU123
  | neg
  | zero
  | digits
  | dot
  | dot0
  | e
  | eSign
  | e0
  | t
  | tr
  | tru
  | f
  | fa
  | fal
  | fals
  | n
  | nu
  | nul
  | endValue
  deriving DecidableEq

def isDigit (b : UInt8) : Bool :=
  byte '0' ≤ b && b ≤ byte '9'

def isHex (b : UInt8) : Bool :=
  isDigit b || (byte 'a' ≤ b && b ≤ byte 'f') || (byte 'A' ≤ b && b ≤ byte 'F')

def quote : UInt8 := 34

def backslash : UInt8 := 92

namespace ScanState

/-- Go on if the byte is as expected. -/
def expect (expected : Bool) (next : ScanState) : Option ScanState :=
  if expected then some next else none

/-- The step functions of the scanner. -/
def step : ScanState -> UInt8 -> Option ScanState
  | beginValue, b =>
      if b = quote then some inString
      else if b = byte '-' then some neg
      else if b = byte '0' then some zero
      else if b = byte 't' then some t
      else if b = byte 'f' then some f
      else if b = byte 'n' then some n
      else expect (isDigit b) digits
  | inString, b =>
      if b = quote then some endValue
      else if b = backslash then some inStringEsc
      else expect (0x20 ≤ b) inString
  | inStringEsc, b =>
      if b = byte 'u' then some inStringEscU
      else expect ((bytes "bfnrt\\/\"").contains b) inString
  | inStringEscU, b => expect (isHex b) inStringEscU1
  | inStringEscU1, b => expect (isHex b) inStringEscU12
  | inStringEscU12, b => expect (isHex b) inStringEscU123
  | inStringEscU123, b => expect (isHex b) inString
  | neg, b => if b = byte '0' then some zero else expect (isDigit b) digits
  | zero, b =>
      if b = byte '.' then some dot
      else expect (b = byte 'e' || b = byte 'E') e
  | digits, b =>
      if b = byte '.' then some dot
      else if b = byte 'e' || b = byte 'E' then some e
      else expect (isDigit b) digits
  | dot, b => expect (isDigit b) dot0
  | dot0, b =>
      if b = byte 'e' || b = byte 'E' then some e
      else expect (isDigit b) dot0
  | e, b =>
      if b = byte '+' || b = byte '-' then some eSign
      else expect (isDigit b) e0
  | eSign, b => expect (isDigit b) e0
  | e0, b => expect (isDigit b) e0
  | t, b => expect (b = byte 'r') tr
  | tr, b => expect (b = byte 'u') tru
  | tru, b => expect (b = byte 'e') endValue
  | f, b => expect (b = byte 'a') fa
  | fa, b => expect (b = byte 'l') fal
  | fal, b => expect (b = byte 's') fals
  | fals, b => expect (b = byte 'e') endValue
  | n, b => expect (b = byte 'u') nu
  | nu, b => expect (b = byte 'l') nul
  | nul, b => expect (b = byte 'l') endValue
  | endValue, _ => none

/-- Whether a scalar may end here. -/
def accepts (state : ScanState) : Bool :=
  decide (state ∈ [zero, digits, dot0, e0, endValue])

end ScanState

def scanner : Automaton ScanState UInt8 := ⟨ScanState.step, ScanState.accepts⟩

/-! ## Strings -/

/-- The value of a hexadecimal digit. -/
def hexValue (b : UInt8) : Nat :=
  if isDigit b then b.toNat - 48
  else if byte 'a' ≤ b then b.toNat - 87
  else b.toNat - 55

/-- `getu4`, after the escape itself. -/
def getu4 (a b c d : UInt8) : Nat :=
  ((hexValue a * 16 + hexValue b) * 16 + hexValue c) * 16 + hexValue d

/-- `utf8.AppendRune` -/
def encodeRune (rune : Nat) : Bytes :=
  if rune < 0x80 then [UInt8.ofNat rune]
  else if rune < 0x800 then [UInt8.ofNat (0xC0 + rune / 64), UInt8.ofNat (0x80 + rune % 64)]
  else if 0xD800 ≤ rune ∧ rune < 0xE000 then replacement
  else if rune < 0x10000 then
    [UInt8.ofNat (0xE0 + rune / 4096), UInt8.ofNat (0x80 + rune / 64 % 64),
      UInt8.ofNat (0x80 + rune % 64)]
  else
    [UInt8.ofNat (0xF0 + rune / 262144), UInt8.ofNat (0x80 + rune / 4096 % 64),
      UInt8.ofNat (0x80 + rune / 64 % 64), UInt8.ofNat (0x80 + rune % 64)]

/-- `utf16.DecodeRune`, without a value where it gives the replacement. -/
def decodeRune (high low : Nat) : Option Nat :=
  if 0xD800 ≤ high ∧ high < 0xDC00 ∧ 0xDC00 ≤ low ∧ low < 0xE000 then
    some ((high - 0xD800) * 1024 + (low - 0xDC00) + 0x10000)
  else none

/-- The byte that a one-letter escape stands for. -/
def escaped (letter : UInt8) : UInt8 :=
  if letter = byte 'b' then 8
  else if letter = byte 'f' then 12
  else if letter = byte 'n' then 10
  else if letter = byte 'r' then 13
  else if letter = byte 't' then 9
  else letter

/-- Replace the escapes.  Two of them are one character if they are the
halves of a surrogate pair. -/
def unescape : Bytes -> Bytes
  | [] => []
  | head :: rest =>
      if head = backslash then
        match rest with
        | [] => []
        | letter :: rest =>
            if letter = byte 'u' then
              match rest with
              | a :: b :: c :: d :: rest =>
                  match rest with
                  | first :: second :: a' :: b' :: c' :: d' :: others =>
                      if first = backslash ∧ second = byte 'u' then
                        match decodeRune (getu4 a b c d) (getu4 a' b' c' d') with
                        | some rune => encodeRune rune ++ unescape others
                        | none => encodeRune (getu4 a b c d) ++
                            unescape (first :: second :: a' :: b' :: c' :: d' :: others)
                      else encodeRune (getu4 a b c d) ++
                        unescape (first :: second :: a' :: b' :: c' :: d' :: others)
                  | others => encodeRune (getu4 a b c d) ++ unescape others
              | _ => []
            else escaped letter :: unescape rest
      else head :: unescape rest

/-- `unquoteBytes`, between the quotes. -/
def unquote (body : Bytes) : Bytes :=
  unescape (toValidUTF8 body)

/-! ## Values -/

inductive JsonValue
  | null
  | bool (value : Bool)
  | number (literal : Bytes)
  | text (value : Bytes)
  | array (items : List JsonValue)
  | object (members : List (Bytes × JsonValue))

/-- The scalar that a word of the scanner spells. -/
def literalValue : Bytes -> JsonValue
  | [] => .null
  | first :: rest =>
      if first = byte 'n' then .null
      else if first = byte 't' then .bool true
      else if first = byte 'f' then .bool false
      else if first = quote then .text (unquote rest.dropLast)
      else .number (first :: rest)

example : unquote (bytes "\\u0061\\n\\uD83D\\uDE00") = [97, 10, 0xF0, 0x9F, 0x98, 0x80] := by
  decide +kernel

example : scanner.munch .beginValue (bytes "-1.5e+2,") = some (bytes "-1.5e+2", bytes ",") := by
  decide +kernel

/-! ## Grammar -/

def openBracket : UInt8 := 91

def closeBracket : UInt8 := 93

def openBrace : UInt8 := 123

def closeBrace : UInt8 := 125

def layout : Delimited.Layout UInt8 where
  space b := (bytes " \t\r\n").contains b
  separator := byte ','
  closes b := [closeBracket, closeBrace].contains b
  separator_not_space := by decide
  closing_not_space := by
    have table : forall symbol, symbol ∈ [closeBracket, closeBrace] ->
        (bytes " \t\r\n").contains symbol = false := by decide +kernel
    intro symbol closing
    exact table symbol (List.contains_iff_mem.mp closing)
  separator_not_closing := by decide

def Literal (value : JsonValue) (word : Bytes) : Prop :=
  scanner.Spells .beginValue word ∧ literalValue word = value

/-- A name, a colon, and a value. -/
inductive Member (R : JsonValue -> Bytes -> Prop) : Bytes × JsonValue -> Bytes -> Prop
  | pair {name : Bytes} {value : JsonValue} {key before after text : Bytes}
      (named : Literal (.text name) key) (spacesBefore : layout.Gap before)
      (spacesAfter : layout.Gap after) (spelled : R value text) :
      Member R (name, value) (key ++ (before ++ colon :: (after ++ text)))

/-- Arrays and objects of values in a given grammar. -/
inductive Composite (R : JsonValue -> Bytes -> Prop) : JsonValue -> Bytes -> Prop
  | array {items : List JsonValue} {text : Bytes}
      (listed : Delimited.Bracketed layout R closeBracket items text) :
      Composite R (.array items) (openBracket :: text)
  | object {members : List (Bytes × JsonValue)} {text : Bytes}
      (listed : Delimited.Bracketed layout (Member R) closeBrace members text) :
      Composite R (.object members) (openBrace :: text)

/-- The values that a text spells with at most so many levels of nesting. -/
def Spells : Nat -> JsonValue -> Bytes -> Prop
  | 0, value, text => Literal value text
  | limit + 1, value, text => Literal value text ∨ Composite (Spells limit) value text

/-- A value may have spaces around it. -/
def Document (limit : Nat) (value : JsonValue) (text : Bytes) : Prop :=
  Exists fun before => Exists fun core => Exists fun after =>
    layout.Gap before ∧ layout.Gap after ∧ Spells limit value core ∧
      text = before ++ (core ++ after)

/-! ## Reading -/

def readLiteral (input : Bytes) : Option (JsonValue × Bytes) :=
  (scanner.munch .beginValue input).map fun (word, rest) => (literalValue word, rest)

def readMember (read : Bytes -> Option (JsonValue × Bytes)) (input : Bytes) :
    Option ((Bytes × JsonValue) × Bytes) :=
  match readLiteral input with
  | some (.text name, rest) =>
      match layout.skip rest with
      | [] => none
      | symbol :: tail =>
          if symbol = colon then
            (read (layout.skip tail)).map fun (value, rest) => ((name, value), rest)
          else none
  | _ => none

def readComposite (read : Bytes -> Option (JsonValue × Bytes)) :
    Bytes -> Option (JsonValue × Bytes)
  | [] => none
  | head :: rest =>
      if head = openBracket then
        (Delimited.readBracketed layout read closeBracket rest).map fun (items, rest) =>
          (.array items, rest)
      else if head = openBrace then
        (Delimited.readBracketed layout (readMember read) closeBrace rest).map
          fun (members, rest) => (.object members, rest)
      else readLiteral (head :: rest)

def readValue : Nat -> Bytes -> Option (JsonValue × Bytes)
  | 0 => readLiteral
  | limit + 1 => readComposite (readValue limit)

/-- The value of a whole text, if it is JSON. -/
def readDocument (limit : Nat) (text : Bytes) : Option JsonValue :=
  match readValue limit (layout.skip text) with
  | none => none
  | some (value, rest) => if layout.skip rest = [] then some value else none

/-! ## The reader accepts the grammar -/

theorem mem_of_delimits {symbol : UInt8} (delimiter : layout.Delimits symbol) :
    symbol ∈ bytes " \t\r\n" ++ [byte ',', closeBracket, closeBrace] := by
  rcases delimiter with space | separator | closing
  · exact List.mem_append_left _ (List.contains_iff_mem.mp space)
  · exact List.mem_append_right _ (List.mem_cons.mpr (Or.inl separator))
  · exact List.mem_append_right _ (List.mem_cons_of_mem _ (List.contains_iff_mem.mp closing))

/-- No scalar goes on after the symbols that may follow one. -/
theorem scanner_stops {rest : Bytes}
    (follows : forall symbol, rest.head? = some symbol ->
      layout.Delimits symbol ∨ symbol = colon) : scanner.Stops rest := by
  have table : forall symbol,
      symbol ∈ colon :: (bytes " \t\r\n" ++ [byte ',', closeBracket, closeBrace]) ->
        forall state, state ∈ [ScanState.zero, .digits, .dot0, .e0, .endValue] ->
          scanner.step state symbol = none := by decide +kernel
  intro symbol first state accepting
  refine table symbol ?_ state (of_decide_eq_true accepting)
  rcases follows symbol first with delimiter | named
  · exact List.mem_cons_of_mem colon (mem_of_delimits delimiter)
  · exact List.mem_cons.mpr (Or.inl named)

theorem readLiteral_complete {value : JsonValue} {word rest : Bytes}
    (spelled : Literal value word) (stops : scanner.Stops rest) :
    readLiteral (word ++ rest) = some (value, rest) := by
  rw [readLiteral, Automaton.munch_complete spelled.1 stops, ← spelled.2]
  rfl

theorem readLiteral_sound {value : JsonValue} {input rest : Bytes}
    (accepted : readLiteral input = some (value, rest)) :
    Exists fun word => input = word ++ rest ∧ Literal value word := by
  rw [readLiteral, Option.map_eq_some_iff] at accepted
  rcases accepted with ⟨⟨word, remaining⟩, cut, same⟩
  cases same
  have sound := Automaton.munch_sound cut
  exact ⟨word, sound.1, sound.2, rfl⟩

/-- A scalar starts with none of the symbols of arrays and objects. -/
theorem Literal.starts {value : JsonValue} {word : Bytes} (spelled : Literal value word) :
    Exists fun head => Exists fun tail => word = head :: tail ∧ ¬ layout.Delimits head ∧
      head ≠ openBracket ∧ head ≠ openBrace := by
  have table : forall symbol,
      symbol ∈ openBracket :: openBrace ::
          (bytes " \t\r\n" ++ [byte ',', closeBracket, closeBrace]) ->
        scanner.step .beginValue symbol = none := by decide +kernel
  cases word with
  | nil =>
      have accepting := Automaton.spells_nil.mp spelled.1
      cases accepting
  | cons head tail =>
      rcases Automaton.spells_cons.mp spelled.1 with ⟨next, stepped, _⟩
      have unlisted : head ∉ openBracket :: openBrace ::
          (bytes " \t\r\n" ++ [byte ',', closeBracket, closeBrace]) := by
        intro member
        rw [table head member] at stepped
        cases stepped
      rw [List.mem_cons, List.mem_cons, not_or, not_or] at unlisted
      refine ⟨head, tail, rfl, ?_, unlisted.1, unlisted.2.1⟩
      exact fun delimiter => unlisted.2.2 (mem_of_delimits delimiter)

open Delimited (Reads)

theorem reads_literal : Reads layout readLiteral Literal where
  starts spelled := by
    rcases spelled.starts with ⟨head, tail, same, plain, _⟩
    exact ⟨head, tail, same, plain⟩
  complete spelled ends :=
    readLiteral_complete spelled (scanner_stops fun symbol first => Or.inl (ends symbol first))
  sound := readLiteral_sound

section Composites

variable {read : Bytes -> Option (JsonValue × Bytes)} {R : JsonValue -> Bytes -> Prop}

theorem readMember_complete (reads : Reads layout read R) {member : Bytes × JsonValue}
    {text rest : Bytes} (spelled : Member R member text) (ends : layout.Ends rest) :
    readMember read (text ++ rest) = some (member, rest) := by
  rcases spelled with @⟨name, value, key, before, after, text, named, spacesBefore, spacesAfter,
    valued⟩
  rcases reads.starts valued with ⟨head, tail, same, plain⟩
  have stops : scanner.Stops (before ++ colon :: (after ++ (text ++ rest))) := by
    refine scanner_stops fun symbol first => ?_
    cases before with
    | nil =>
        cases first
        exact Or.inr rfl
    | cons space others =>
        cases first
        exact Or.inl (Or.inl (spacesBefore symbol List.mem_cons_self))
  have skipped : layout.skip (after ++ (text ++ rest)) = text ++ rest := by
    rw [same, List.cons_append]
    exact Delimited.Layout.skip_append spacesAfter (Delimited.Layout.space_eq_false plain) _
  rw [List.append_assoc, List.append_assoc, List.cons_append, List.append_assoc, readMember,
    readLiteral_complete named stops]
  have colonVisible : layout.space colon = false := by decide
  simp only [Delimited.Layout.skip_append spacesBefore colonVisible, if_true, skipped,
    reads.complete valued ends, Option.map_some]

theorem readMember_sound (reads : Reads layout read R) {member : Bytes × JsonValue}
    {input rest : Bytes} (accepted : readMember read input = some (member, rest)) :
    Exists fun text => input = text ++ rest ∧ Member R member text := by
  unfold readMember at accepted
  split at accepted
  · next name remaining first =>
      rcases readLiteral_sound first with ⟨key, same, named⟩
      rcases layout.exists_gap remaining with ⟨before, spacesBefore, split⟩
      cases next : layout.skip remaining with
      | nil =>
          simp only [next] at accepted
          cases accepted
      | cons symbol tail =>
          simp only [next] at accepted
          rw [next] at split
          by_cases marked : symbol = colon
          · rw [if_pos marked, Option.map_eq_some_iff] at accepted
            rcases accepted with ⟨⟨value, ending⟩, valued, result⟩
            cases result
            rcases layout.exists_gap tail with ⟨after, spacesAfter, splitAfter⟩
            rcases reads.sound valued with ⟨text, rejoined, spelled⟩
            refine ⟨_, ?_, .pair named spacesBefore spacesAfter spelled⟩
            rw [same, split, marked, splitAfter, rejoined]
            simp only [List.append_assoc, List.cons_append]
          · rw [if_neg marked] at accepted
            cases accepted
  · cases accepted

theorem reads_member (reads : Reads layout read R) : Reads layout (readMember read) (Member R) where
  starts spelled := by
    rcases spelled with ⟨named, spacesBefore, spacesAfter, valued⟩
    rcases named.starts with ⟨head, tail, same, plain, _⟩
    rw [same]
    exact ⟨head, _, List.cons_append, plain⟩
  complete := readMember_complete reads
  sound := readMember_sound reads

theorem readComposite_complete (reads : Reads layout read R) {value : JsonValue}
    {text rest : Bytes} (spelled : Literal value text ∨ Composite R value text)
    (ends : layout.Ends rest) : readComposite read (text ++ rest) = some (value, rest) := by
  rcases spelled with scalar | composite
  · rcases scalar.starts with ⟨head, tail, same, _, noArray, noObject⟩
    have complete := reads_literal.complete scalar ends
    rw [same, List.cons_append] at complete
    rw [same, List.cons_append, readComposite, if_neg noArray, if_neg noObject]
    exact complete
  · cases composite with
    | array listed =>
        have complete := Delimited.readBracketed_complete reads (by decide) listed rest
        rw [List.cons_append, readComposite, if_pos rfl, complete]
        rfl
    | object listed =>
        have complete :=
          Delimited.readBracketed_complete (reads_member reads) (by decide) listed rest
        rw [List.cons_append, readComposite, if_neg (by decide), if_pos rfl, complete]
        rfl

theorem readComposite_sound (reads : Reads layout read R) {value : JsonValue}
    {input rest : Bytes} (accepted : readComposite read input = some (value, rest)) :
    Exists fun text => input = text ++ rest ∧ (Literal value text ∨ Composite R value text) := by
  cases input with
  | nil => cases accepted
  | cons head tail =>
      rw [readComposite] at accepted
      by_cases array : head = openBracket
      · rw [if_pos array, Option.map_eq_some_iff] at accepted
        rcases accepted with ⟨⟨items, remaining⟩, listed, result⟩
        cases result
        rcases Delimited.readBracketed_sound reads listed with ⟨text, same, bracketed⟩
        refine ⟨_, ?_, Or.inr (.array bracketed)⟩
        rw [array, same, List.cons_append]
      · rw [if_neg array] at accepted
        by_cases object : head = openBrace
        · rw [if_pos object, Option.map_eq_some_iff] at accepted
          rcases accepted with ⟨⟨members, remaining⟩, listed, result⟩
          cases result
          rcases Delimited.readBracketed_sound (reads_member reads) listed with
            ⟨text, same, bracketed⟩
          refine ⟨_, ?_, Or.inr (.object bracketed)⟩
          rw [object, same, List.cons_append]
        · rw [if_neg object] at accepted
          rcases readLiteral_sound accepted with ⟨word, same, scalar⟩
          exact ⟨word, same, Or.inl scalar⟩

theorem reads_composite (reads : Reads layout read R) :
    Reads layout (readComposite read)
      (fun value text => Literal value text ∨ Composite R value text) where
  starts spelled := by
    rcases spelled with scalar | composite
    · exact reads_literal.starts scalar
    · cases composite with
      | array listed => exact ⟨openBracket, _, rfl, by decide⟩
      | object listed => exact ⟨openBrace, _, rfl, by decide⟩
  complete := readComposite_complete reads
  sound := readComposite_sound reads

end Composites

/-- The reader reads exactly the values of the grammar, at any limit of nesting. -/
theorem reads_value (limit : Nat) : Reads layout (readValue limit) (Spells limit) := by
  induction limit with
  | zero => exact reads_literal
  | succ limit inductionHypothesis => exact reads_composite inductionHypothesis

/-- A text is JSON exactly if it is read, and it is read as the value it spells. -/
theorem readDocument_eq_some {limit : Nat} {text : Bytes} {value : JsonValue} :
    readDocument limit text = some value ↔ Document limit value text := by
  have reads := reads_value limit
  unfold readDocument
  constructor
  · intro accepted
    rcases layout.exists_gap text with ⟨before, spacesBefore, split⟩
    split at accepted
    · cases accepted
    · next found rest read =>
        split at accepted
        · next nothing =>
            cases accepted
            rcases reads.sound read with ⟨core, same, spelled⟩
            rcases layout.exists_gap rest with ⟨after, spacesAfter, splitAfter⟩
            rw [nothing, List.append_nil] at splitAfter
            refine ⟨before, core, after, spacesBefore, spacesAfter, spelled, ?_⟩
            rw [← splitAfter, ← same]
            exact split
        · cases accepted
  · rintro ⟨before, core, after, spacesBefore, spacesAfter, spelled, same⟩
    rcases reads.starts spelled with ⟨head, tail, shown, plain⟩
    have skipped : layout.skip text = core ++ after := by
      rw [same, shown, List.cons_append]
      exact Delimited.Layout.skip_append spacesBefore (Delimited.Layout.space_eq_false plain) _
    have ends : layout.Ends after := by
      intro symbol first
      exact Or.inl (spacesAfter symbol (List.mem_of_head? first))
    have nothing : layout.skip after = [] := by
      exact List.dropWhile_eq_nil_iff.mpr spacesAfter
    rw [skipped, reads.complete spelled ends]
    exact if_pos nothing

/-! ## Nesting -/

/-- Arrays and objects go no deeper than this. -/
def nestedWithin : Nat -> JsonValue -> Bool
  | 0, .array _ => false
  | 0, .object _ => false
  | limit + 1, .array items => items.all (nestedWithin limit)
  | limit + 1, .object members => members.all fun member => nestedWithin limit member.2
  | _, _ => true

theorem nestedWithin_mono {limit higher : Nat} (le : limit ≤ higher) {value : JsonValue}
    (nested : nestedWithin limit value = true) : nestedWithin higher value = true := by
  induction limit generalizing higher value with
  | zero =>
      cases value with
      | array items => cases nested
      | object members => cases nested
      | _ => cases higher <;> rfl
  | succ limit inductionHypothesis =>
      rcases Nat.exists_eq_add_of_le' le with ⟨extra, same⟩
      have deeper : limit ≤ extra + limit := Nat.le_add_left limit extra
      rw [same, ← Nat.add_assoc]
      cases value with
      | array items =>
          rw [nestedWithin, List.all_eq_true] at nested ⊢
          exact fun item member => inductionHypothesis deeper (nested item member)
      | object members =>
          rw [nestedWithin, List.all_eq_true] at nested ⊢
          exact fun pair member => inductionHypothesis deeper (nested pair member)
      | _ => rfl

theorem Literal.nested {value : JsonValue} {word : Bytes} (spelled : Literal value word)
    (limit : Nat) : nestedWithin limit value = true := by
  refine nestedWithin_mono (Nat.zero_le limit) ?_
  rw [← spelled.2]
  cases word with
  | nil => rfl
  | cons first rest =>
      rw [literalValue]
      split_ifs <;> rfl

theorem Literal.spells {value : JsonValue} {word : Bytes} (spelled : Literal value word)
    (limit : Nat) : Spells limit value word := by
  cases limit with
  | zero => exact spelled
  | succ limit => exact Or.inl spelled

/-- What a text spells within a limit is nested within the limit. -/
theorem Spells.nested {limit : Nat} {value : JsonValue} {text : Bytes}
    (spelled : Spells limit value text) : nestedWithin limit value = true := by
  induction limit generalizing value text with
  | zero => exact Literal.nested spelled 0
  | succ limit inductionHypothesis =>
      rcases spelled with scalar | composite
      · exact scalar.nested (limit + 1)
      · cases composite with
        | array listed =>
            rw [nestedWithin, List.all_eq_true]
            refine listed.forall_mem fun item text spelled => ?_
            exact inductionHypothesis spelled
        | object listed =>
            rw [nestedWithin, List.all_eq_true]
            refine listed.forall_mem fun member text spelled => ?_
            cases spelled with
            | pair named spacesBefore spacesAfter valued => exact inductionHypothesis valued

/-- And it is spelled within every limit that it is nested within. -/
theorem Spells.of_nested {limit other : Nat} {value : JsonValue} {text : Bytes}
    (spelled : Spells limit value text) (nested : nestedWithin other value = true) :
    Spells other value text := by
  induction limit generalizing other value text with
  | zero => exact Literal.spells spelled other
  | succ limit inductionHypothesis =>
      rcases spelled with scalar | composite
      · exact scalar.spells other
      · cases other with
        | zero => cases composite <;> cases nested
        | succ other =>
            cases composite with
            | array listed =>
                rw [nestedWithin, List.all_eq_true] at nested
                refine Or.inr (.array (listed.mono fun item member text spelled => ?_))
                exact inductionHypothesis spelled (nested item member)
            | object listed =>
                rw [nestedWithin, List.all_eq_true] at nested
                refine Or.inr (.object (listed.mono fun pair member text spelled => ?_))
                cases spelled with
                | pair named spacesBefore spacesAfter valued =>
                    exact .pair named spacesBefore spacesAfter
                      (inductionHypothesis valued (nested _ member))

theorem Document.nested {limit : Nat} {value : JsonValue} {text : Bytes}
    (document : Document limit value text) : nestedWithin limit value = true := by
  rcases document with ⟨_, _, _, _, _, spelled, _⟩
  exact spelled.nested

theorem Document.of_nested {limit other : Nat} {value : JsonValue} {text : Bytes}
    (document : Document limit value text) (nested : nestedWithin other value = true) :
    Document other value text := by
  rcases document with ⟨before, core, after, spacesBefore, spacesAfter, spelled, same⟩
  exact ⟨before, core, after, spacesBefore, spacesAfter, spelled.of_nested nested, same⟩

/-- A text is no JSON of two different values. -/
theorem Document.unique {limit other : Nat} {value found : JsonValue} {text : Bytes}
    (document : Document limit value text) (again : Document other found text) :
    value = found := by
  have first := document.of_nested (nestedWithin_mono (Nat.le_max_left limit other) document.nested)
  have second := again.of_nested (nestedWithin_mono (Nat.le_max_right limit other) again.nested)
  rw [← readDocument_eq_some] at first second
  exact Option.some.inj (first.symm.trans second)

/-- A document is read within a limit exactly if it is nested within it. -/
theorem readDocument_of_document {limit other : Nat} {value : JsonValue} {text : Bytes}
    (document : Document limit value text) :
    readDocument other text = if nestedWithin other value then some value else none := by
  by_cases nested : nestedWithin other value = true
  · rw [if_pos nested]
    exact readDocument_eq_some.mpr (document.of_nested nested)
  · rw [if_neg nested, Option.eq_none_iff_forall_ne_some]
    intro found read
    have again := readDocument_eq_some.mp read
    have same := document.unique again
    rw [same] at nested
    exact nested again.nested

end JsonText
end OpenFsd
