import GraphSketch.Json.Basic
import GraphSketch.Numeral

/-!
# Reading JSON

`Json.read` accepts one value with white space around it. Of two fields with one name the last
value stands in the place of the first. Numbers may be infinite or none at all. A numeral too long
for `Numeral` is refused, and so are values nested too deeply; what is wrong with a malformed text
is reported with its place.

* `Json.read` reads a text.
* `readValue`, `readItems` and `readFields` are its search, one step for each part. Their first
  argument counts the steps and is large enough for every text, so no text is refused for it.
* `readString`, `readNumber` and `readWord` read values without parts.
* `Json.Fault` says what is wrong and after how many characters; `Json.Fault.message` counts lines
  and columns too.

Two things are known of the runtime that are no part of JSON: values may lie in one another up to
`depthLimit`, and half of a pair of code units may be escaped on its own, which `unitChar` reads
as the replacement character.
-/

set_option autoImplicit false

namespace GraphSketch

namespace Json

/-- What is wrong with a text that is no JSON value. -/
inductive Flaw where
  | expectedValue
  | expectedName
  | expectedColon
  | expectedComma
  | extraData
  | unterminatedString
  | controlCharacter
  | badEscape
  | badUnicodeEscape
  | byteOrderMark
  | oversized (fault : OversizedNumeral)
  /-- An array or an object lies in too many others. -/
  | tooDeep (kind : Kind)
  deriving DecidableEq, Repr

/-- The flaw in words. -/
def Flaw.message : Flaw → Text
  | expectedValue => "Expecting value"
  | expectedName => "Expecting property name enclosed in double quotes"
  | expectedColon => "Expecting ':' delimiter"
  | expectedComma => "Expecting ',' delimiter"
  | extraData => "Extra data"
  | unterminatedString => "Unterminated string starting at"
  | controlCharacter => "Invalid control character at"
  | badEscape => "Invalid \\escape"
  | badUnicodeEscape => "Invalid \\uXXXX escape"
  | byteOrderMark => "Unexpected UTF-8 BOM (decode using utf-8-sig)"
  | oversized fault => fault.message
  | tooDeep kind =>
    "maximum recursion depth exceeded while decoding a JSON " ++
      (if kind = .arr then "array" else "object") ++ " from a unicode string"

/-- Whether a flaw is reported with its place. -/
def Flaw.isPlaced : Flaw → Bool
  | oversized _ | tooDeep _ => false
  | _ => true

/-- A flaw, and how much of the text remains where it was found. -/
structure Stop where
  flaw : Flaw
  remaining : Nat

/-- Stops at the beginning of `rest`. -/
def stopAt {α : Type} (flaw : Flaw) (rest : Text) : Except Stop α := .error ⟨flaw, rest.length⟩

/-- White space between the parts of a value. -/
def isSpace (c : Char) : Bool := c = ' ' || c = '\t' || c = '\n' || c = '\r'

/-- The text without its leading white space. -/
def skipSpace (t : Text) : Text := t.dropWhile isSpace

/-- The value of a hexadecimal digit. -/
def hexDigit? (c : Char) : Option Nat :=
  if '0' ≤ c ∧ c ≤ '9' then some (c.toNat - '0'.toNat)
  else if 'a' ≤ c ∧ c ≤ 'f' then some (c.toNat - 'a'.toNat + 10)
  else if 'A' ≤ c ∧ c ≤ 'F' then some (c.toNat - 'A'.toNat + 10)
  else none

/-- The value of four hexadecimal digits. -/
def hexUnit? (a b c d : Char) : Option Nat := do
  let a ← hexDigit? a
  let b ← hexDigit? b
  let c ← hexDigit? c
  let d ← hexDigit? d
  pure (((a * 16 + b) * 16 + c) * 16 + d)

/-- What the letter after a backslash stands for. -/
def escaped? : Char → Option Char
  | '"' => some '"'
  | '\\' => some '\\'
  | '/' => some '/'
  | 'b' => some '\x08'
  | 'f' => some '\x0c'
  | 'n' => some '\n'
  | 'r' => some '\r'
  | 't' => some '\t'
  | _ => none

/-- Whether a code unit is the first half of a pair. -/
def isHighSurrogate (n : Nat) : Bool := 0xd800 ≤ n && n < 0xdc00

/-- Whether a code unit is the second half of a pair. -/
def isLowSurrogate (n : Nat) : Bool := 0xdc00 ≤ n && n < 0xe000

/-- The character of a code unit. Half of a pair on its own is no character, so it is read as the
replacement character, and texts that differ in such halves only are read alike. What is said about
texts that are read is therefore said about texts of whole characters; files in UTF-8 hold no others,
and halves can come from escapes only. -/
def unitChar (n : Nat) : Char :=
  if isHighSurrogate n || isLowSurrogate n then '\ufffd' else Char.ofNat n

/-- The character of a pair of code units. -/
def pairChar (high low : Nat) : Char :=
  Char.ofNat (0x10000 + (high - 0xd800) * 0x400 + (low - 0xdc00))

/-- The character that an escape by code unit stands for, and its length, when `unit` was read
and `rest` follows it. Two escapes in a row may stand for one character. -/
def readUnit (unit : Nat) (rest : Text) : Except Stop (Char × Nat) :=
  match isHighSurrogate unit, rest with
  | true, '\\' :: 'u' :: a :: b :: c :: d :: e :: rest =>
    match hexUnit? a b c d with
    | none => stopAt .badUnicodeEscape ('u' :: a :: b :: c :: d :: e :: rest)
    | some low =>
      if isLowSurrogate low then .ok (pairChar unit low, 12) else .ok (unitChar unit, 6)
  | _, _ => .ok (unitChar unit, 6)

/-- The character at the beginning of a text inside a string, and the length of its spelling.
A string without end stops at its opening quote, `opening` characters before the end of the
text. -/
def readChar (opening : Nat) : Text → Except Stop (Char × Nat)
  | '\\' :: 'u' :: a :: b :: c :: d :: e :: rest =>
    match hexUnit? a b c d with
    | none => stopAt .badUnicodeEscape ('u' :: a :: b :: c :: d :: e :: rest)
    | some unit => readUnit unit (e :: rest)
  | '\\' :: 'u' :: rest => stopAt .badUnicodeEscape ('u' :: rest)
  | '\\' :: c :: rest =>
    match escaped? c with
    | none => stopAt .badEscape ('\\' :: c :: rest)
    | some x => .ok (x, 2)
  | ['\\'] => .error ⟨.unterminatedString, opening⟩
  | c :: rest => if c.toNat < 0x20 then stopAt .controlCharacter (c :: rest) else .ok (c, 1)
  | [] => .error ⟨.unterminatedString, opening⟩

/-- One more character at the beginning of a string that has been read. -/
def prepend (c : Char) (found : Text × Text) : Text × Text := (c :: found.1, found.2)

/-- A string after its opening quote, up to and with its closing one. The first `skip`
characters belong to a character already read. -/
def readString (opening : Nat) : Nat → Text → Except Stop (Text × Text)
  | _, [] => .error ⟨.unterminatedString, opening⟩
  | skip + 1, _ :: rest => readString opening skip rest
  | 0, c :: rest =>
    if c = '"' then
      .ok ([], rest)
    else
      match readChar opening (c :: rest) with
      | .error stop => .error stop
      | .ok (x, n) => (readString opening (n - 1) rest).map (prepend x)

/-- The digits at the beginning of a text, and the rest. -/
def spanDigits (t : Text) : List Nat × Text :=
  (t.takeWhile isAsciiDigit |>.filterMap asciiDigit?, t.dropWhile isAsciiDigit)

/-- The whole part of a number: a zero on its own, or digits that begin with another one. -/
def spanWhole (t : Text) : List Nat × Text :=
  match t with
  | '0' :: rest => ([0], rest)
  | _ => spanDigits t

/-- The digits after a point, if there are any. -/
def fraction? : Text → Option (List Nat × Text)
  | '.' :: rest =>
    match spanDigits rest with
    | ([], _) => none
    | found => some found
  | _ => none

/-- The power of ten after the letter `e`, if there is one. -/
def exponent? : Text → Option (Int × Text)
  | [] => none
  | e :: rest =>
    if e = 'e' ∨ e = 'E' then
      let (negative, rest) : Bool × Text :=
        match rest with
        | '-' :: rest => (true, rest)
        | '+' :: rest => (false, rest)
        | _ => (false, rest)
      match spanDigits rest with
      | ([], _) => none
      | (digits, rest) =>
        let size := Numeral.value digits
        some (if negative then -(size : Int) else size, rest)
    else
      none

/-- A number. It is an integer unless it has a fraction or an exponent. -/
def readNumber (t : Text) : Except Stop (Json × Text) :=
  let (negative, unsigned) : Bool × Text :=
    match t with
    | '-' :: rest => (true, rest)
    | _ => (false, t)
  match spanWhole unsigned with
  | ([], _) => stopAt .expectedValue t
  | (whole, rest) =>
    let places := fraction? rest
    let rest := (places.map (·.2)).getD rest
    let power := exponent? rest
    let rest := (power.map (·.2)).getD rest
    if places.isNone && power.isNone then
      match Numeral.ofDigits whole with
      | .error fault => stopAt (.oversized fault) t
      | .ok n => .ok (int (if negative then -(n : Int) else n), rest)
    else
      let places := (places.map (·.1)).getD []
      .ok (real (Binary64.ofDecimal negative {
        coefficient := Numeral.value (whole ++ places)
        exponent := (power.map (·.1)).getD 0 - places.length }), rest)

/-- The values that are written as a word. -/
def words : List (Text × Json) := [
  ("null", null),
  ("true", bool true),
  ("false", bool false),
  ("NaN", real .notANumber),
  ("Infinity", real (.infinite false)),
  ("-Infinity", real (.infinite true))]

/-- A word or a number. -/
def readWord (t : Text) : Except Stop (Json × Text) :=
  match words.findSome? fun w => (Text.after? w.1 t).map fun rest => (w.2, rest) with
  | some found => .ok found
  | none => readNumber t

/-- How many calls may be open at a time. -/
def callLimit : Nat := 1000

/-- How many calls are open when a value begins to be read: those of the program, and those between
it and the reader. The number is an estimate for the programs of this project; it is another one where
the reader is called from elsewhere. -/
def callsBefore : Nat := 11

/-- How many arrays and objects may lie in one another: each takes a call of its own, and a text that
takes too many is refused. What is proved of files that are read back needs no more of the limit than
that saved numberings and documents are far from it. -/
def depthLimit : Nat := callLimit - callsBefore

mutual

/-- A value in `depth` arrays and objects. The first argument bounds the steps of the search;
two for each character of the text, and two more, are enough. -/
def readValue : Nat → Nat → Text → Except Stop (Json × Text)
  | 0, _, t => stopAt .expectedValue t
  | fuel + 1, depth, t =>
    match t with
    | '"' :: rest => do
      let (s, r) ← readString t.length 0 rest
      pure (str s, r)
    | '{' :: rest =>
      if depthLimit ≤ depth then
        stopAt (.tooDeep .obj) t
      else
        match skipSpace rest with
        | '}' :: rest => .ok (obj [], rest)
        | rest => readFields fuel (depth + 1) [] rest
    | '[' :: rest =>
      if depthLimit ≤ depth then
        stopAt (.tooDeep .arr) t
      else
        match skipSpace rest with
        | ']' :: rest => .ok (arr [], rest)
        | rest => readItems fuel (depth + 1) [] rest
    | _ => readWord t

/-- The fields of an object after those in `fields`, and its closing brace. -/
def readFields : Nat → Nat → List (Text × Json) → Text → Except Stop (Json × Text)
  | 0, _, _, t => stopAt .expectedName t
  | fuel + 1, depth, fields, t =>
    match t with
    | '"' :: rest => do
      let (key, rest) ← readString t.length 0 rest
      match skipSpace rest with
      | ':' :: rest => do
        let (v, rest) ← readValue fuel depth (skipSpace rest)
        let fields := OrderedMap.put fields key v
        match skipSpace rest with
        | '}' :: rest => .ok (obj fields, rest)
        | ',' :: rest => readFields fuel depth fields (skipSpace rest)
        | rest => stopAt .expectedComma rest
      | rest => stopAt .expectedColon rest
    | _ => stopAt .expectedName t

/-- The items of an array after those in `items`, which are in reverse, and its closing
bracket. -/
def readItems : Nat → Nat → List Json → Text → Except Stop (Json × Text)
  | 0, _, _, t => stopAt .expectedValue t
  | fuel + 1, depth, items, t => do
    let (v, rest) ← readValue fuel depth t
    match skipSpace rest with
    | ']' :: rest => .ok (arr (v :: items).reverse, rest)
    | ',' :: rest => readItems fuel depth (v :: items) (skipSpace rest)
    | rest => stopAt .expectedComma rest

end

/-- A flaw and the number of characters before it. -/
structure Fault where
  flaw : Flaw
  offset : Nat

/-- The value that a text denotes. -/
def read (t : Text) : Except Fault Json :=
  let located {α : Type} (r : Except Stop α) : Except Fault α :=
    r.mapError fun stop => ⟨stop.flaw, t.length - stop.remaining⟩
  match t with
  | '\ufeff' :: _ => .error ⟨.byteOrderMark, 0⟩
  | _ => located do
    let (v, rest) ← readValue (2 * t.length + 2) 0 (skipSpace t)
    match skipSpace rest with
    | [] => pure v
    | rest => .error ⟨.extraData, rest.length⟩

/-- A place by the line, the column and the offset in the text `t`. -/
def placeMessage (offset : Nat) (t : Text) : Text :=
  let passed := t.take offset
  let column := (passed.reverse.takeWhile (· ≠ '\n')).length + 1
  ": line " ++ Text.ofNat (passed.count '\n' + 1) ++ " column " ++ Text.ofNat column ++
    " (char " ++ Text.ofNat offset ++ ")"

/-- The fault of the text `t` in words. -/
def Fault.message (fault : Fault) (t : Text) : Text :=
  fault.flaw.message ++ if fault.flaw.isPlaced then placeMessage fault.offset t else []

end Json

end GraphSketch
