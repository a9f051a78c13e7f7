import Mathlib.Data.List.Basic

namespace OpenFsd

/-!
# Go byte slices and strings

A Go `string` and a Go `[]byte` are both finite byte sequences, and the
server converts freely between them, so both are `Bytes` here.  The functions
are those of the packages `bytes` and `strings` that the server calls, with
Go's conventions: `IndexByte` answers `-1` when the byte is absent, and the
`Cut` functions return the input unchanged together with `false`.
-/

/-- A byte string. -/
abbrev Bytes := List UInt8

instance : LawfulBEq Bytes := inferInstance

/-- The bytes of a literal.  Every literal of the source is ASCII, so one
character is one byte. -/
def bytes (text : String) : Bytes :=
  text.toList.map fun character => UInt8.ofNat character.toNat

/-- One ASCII character as a byte. -/
def byte (character : Char) : UInt8 :=
  UInt8.ofNat character.toNat

def colon : UInt8 := 58

def carriageReturn : UInt8 := 13

def lineFeed : UInt8 := 10

/-- The packet delimiter `"\r\n"`. -/
def crlf : Bytes := [carriageReturn, lineFeed]

/-- `bytes.IndexByte` -/
def indexByte (text : Bytes) (wanted : UInt8) : Int :=
  match text.findIdx? (fun other => other == wanted) with
  | some position => position
  | none => -1

/-- `bytes.Count` for a separator of one byte. -/
def countByte (text : Bytes) (wanted : UInt8) : Nat :=
  text.count wanted

/-- `bytes.HasPrefix` -/
def hasPrefix (text start : Bytes) : Bool :=
  start.isPrefixOf text

/-- `bytes.CutPrefix` -/
def cutPrefix (text start : Bytes) : Bytes × Bool :=
  if hasPrefix text start then (text.drop start.length, true) else (text, false)

/-- `bytes.CutSuffix` -/
def cutSuffix (text ending : Bytes) : Bytes × Bool :=
  if ending.isSuffixOf text then (text.take (text.length - ending.length), true)
  else (text, false)

/-- `strings.Split` for a separator of one byte. -/
def splitByte (separator : UInt8) : Bytes -> List Bytes
  | [] => [[]]
  | head :: tail =>
      if head == separator then [] :: splitByte separator tail
      else match splitByte separator tail with
        | [] => [[head]]
        | first :: rest => (head :: first) :: rest

end OpenFsd
