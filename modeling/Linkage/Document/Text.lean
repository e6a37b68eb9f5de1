import Linkage.Document.Basic

namespace Linkage

/-!
# Text of documents

A document is written as one line of text and read back from it: `null`,
`true`, `false`, decimal numbers, text between double quotes, lists between
square brackets and records between braces.  A field that a record repeats
counts once, with its last value.  Neither a number beyond the range of the
number type nor a document of excessive depth can be read.
-/

namespace Document

variable {K : Type}

/-- One character of quoted text. -/
private def quotedCharacter
    (character : Char) : List Char :=
  if character = '"' then
    ['\\', '"']
  else if character = '\\' then
    ['\\', '\\']
  else if character.toNat < 0x20 then
    let digits := Nat.toDigits 16 character.toNat
    '\\' :: 'u' :: (List.replicate (4 - digits.length) '0' ++ digits)
  else
    [character]

/-- Text between double quotes. -/
def quotedText
    (text : String) : String :=
  String.ofList ('"' :: text.toList.flatMap quotedCharacter ++ ['"'])

mutual

/-- Write a document, given the text of its real numbers. -/
def write
    (realText : K → String) :
    Document K → String
  | .null => "null"
  | .bool value => if value then "true" else "false"
  | .natural value => toString value
  | .real value => realText value
  | .text value => quotedText value
  | .list items =>
      "[" ++ ",".intercalate (writeItems realText items) ++ "]"
  | .record fields =>
      "\x7b" ++ ",".intercalate (writeFields realText fields) ++ "\x7d"

/-- Write each item of a list. -/
def writeItems
    (realText : K → String) :
    List (Document K) → List String
  | [] => []
  | item :: rest => write realText item :: writeItems realText rest

/-- Write each field of a record. -/
def writeFields
    (realText : K → String) :
    List (String × Document K) → List String
  | [] => []
  | (name, value) :: rest =>
      (quotedText name ++ ":" ++ write realText value) ::
        writeFields realText rest

end

mutual

/-- Replace the real numbers of a document. -/
def replaceReals
    {L : Type}
    (replace : K → Document L) :
    Document K → Document L
  | .null => .null
  | .bool value => .bool value
  | .natural value => .natural value
  | .real value => replace value
  | .text value => .text value
  | .list items => .list (replaceRealsOfItems replace items)
  | .record fields => .record (replaceRealsOfFields replace fields)

/-- Replace the real numbers of each item of a list. -/
def replaceRealsOfItems
    {L : Type}
    (replace : K → Document L) :
    List (Document K) → List (Document L)
  | [] => []
  | item :: rest =>
      replaceReals replace item :: replaceRealsOfItems replace rest

/-- Replace the real numbers of each field of a record. -/
def replaceRealsOfFields
    {L : Type}
    (replace : K → Document L) :
    List (String × Document K) → List (String × Document L)
  | [] => []
  | (name, value) :: rest =>
      (name, replaceReals replace value) ::
        replaceRealsOfFields replace rest

end

/-- Value of a hexadecimal digit. -/
private def hexadecimalDigit?
    (character : Char) : Option Nat :=
  if '0' ≤ character ∧ character ≤ '9' then
    some (character.toNat - '0'.toNat)
  else if 'a' ≤ character ∧ character ≤ 'f' then
    some (character.toNat - 'a'.toNat + 10)
  else if 'A' ≤ character ∧ character ≤ 'F' then
    some (character.toNat - 'A'.toNat + 10)
  else
    none

/-- The character that a short escape stands for. -/
private def shortEscape? : Char → Option Char
  | '"' => some '"'
  | '\\' => some '\\'
  | '/' => some '/'
  | 'b' => some '\x08'
  | 'f' => some '\x0c'
  | 'n' => some '\n'
  | 'r' => some '\r'
  | 't' => some '\t'
  | _ => none

/--
Codes of quoted text up to the closing quote, in reverse, and the rest.  An
escaped code may be half of a surrogate pair.
-/
private def quotedCodes?
    (codes : List Nat) :
    List Char → Option (List Nat × List Char)
  | [] => none
  | '"' :: rest => some (codes, rest)
  | '\\' :: 'u' :: a :: b :: c :: d :: rest => do
      let a ← hexadecimalDigit? a
      let b ← hexadecimalDigit? b
      let c ← hexadecimalDigit? c
      let d ← hexadecimalDigit? d
      quotedCodes? ((((a * 16 + b) * 16 + c) * 16 + d) :: codes) rest
  | '\\' :: escaped :: rest => do
      let character ← shortEscape? escaped
      quotedCodes? (character.toNat :: codes) rest
  | '\\' :: [] => none
  | character :: rest => quotedCodes? (character.toNat :: codes) rest

/-- Characters of a list of codes; surrogates have to come in pairs. -/
private def joinSurrogates? : List Nat → Option (List Char)
  | [] => some []
  | high :: low :: rest =>
      if 0xD800 ≤ high ∧ high < 0xDC00 then
        if 0xDC00 ≤ low ∧ low < 0xE000 then
          let code := 0x10000 + (high - 0xD800) * 0x400 + (low - 0xDC00)
          (joinSurrogates? rest).map (Char.ofNat code :: ·)
        else
          none
      else if 0xDC00 ≤ high ∧ high < 0xE000 then
        none
      else
        (joinSurrogates? (low :: rest)).map (Char.ofNat high :: ·)
  | [code] =>
      if 0xD800 ≤ code ∧ code < 0xE000 then
        none
      else
        some [Char.ofNat code]

/-- Quoted text after its opening quote, and the rest. -/
private def quotedText?
    (characters : List Char) : Option (String × List Char) := do
  let (codes, rest) ← quotedCodes? [] characters
  let text ← joinSurrogates? codes.reverse
  return (String.ofList text, rest)

/-- Value of a run of decimal digits. -/
private def decimalValue
    (digits : List Char) : Nat :=
  digits.foldl
    (fun value digit => value * 10 + (digit.toNat - '0'.toNat)) 0

/-- A power of ten after the letter `e`, if there is one, and the rest. -/
private def tenPower? :
    List Char → Option Int × List Char
  | [] => (none, [])
  | letter :: rest =>
      if letter = 'e' ∨ letter = 'E' then
        let (negative, digits) :=
          match rest with
          | '-' :: digits => (true, digits)
          | '+' :: digits => (false, digits)
          | digits => (false, digits)
        let size := decimalValue (digits.takeWhile Char.isDigit)
        (some (if negative then -(size : Int) else size),
          digits.dropWhile Char.isDigit)
      else
        (none, letter :: rest)

/-- Digits after a decimal point, if there is one, and the rest. -/
private def fraction? :
    List Char → Option (List Char) × List Char
  | '.' :: rest =>
      (some (rest.takeWhile Char.isDigit), rest.dropWhile Char.isDigit)
  | rest => (none, rest)

/-- Numbers below this one can be whole numbers of a document. -/
def naturalBound : Nat :=
  1 <<< 64

/--
A number and the rest.  It is a whole number when it has neither sign nor point
nor power of ten, and is in range.  Any other number has to be finite.
-/
private def number?
    [Zero K] [Neg K] [Sub K] [BEq K] [OfScientific K]
    (characters : List Char) : Option (Document K × List Char) :=
  let (negative, unsigned) :=
    match characters with
    | '-' :: rest => (true, rest)
    | _ => (false, characters)
  let whole := unsigned.takeWhile Char.isDigit
  let (fraction, rest) := fraction? (unsigned.dropWhile Char.isDigit)
  let (power, rest) := tenPower? rest
  if whole.isEmpty then
    none
  else
    let digits := fraction.getD []
    let coefficient := decimalValue (whole ++ digits)
    if !negative && fraction.isNone && power.isNone &&
        coefficient < naturalBound then
      some (.natural coefficient, rest)
    else
      let exponent := power.getD 0 - (digits.length : Int)
      let size : K :=
        OfScientific.ofScientific coefficient
          (decide (exponent < 0)) exponent.natAbs
      if isFinite size then
        some (.real (if negative then -size else size), rest)
      else
        none

/-- Drop blanks and line ends. -/
private def skipBlanks
    (characters : List Char) : List Char :=
  characters.dropWhile fun character =>
    character = ' ' ∨ character = '\t' ∨
      character = '\n' ∨ character = '\r'

/-- Set a field; a field of the same name is replaced. -/
private def setField
    (fields : List (String × Document K))
    (name : String)
    (value : Document K) : List (String × Document K) :=
  if fields.any (·.1 == name) then
    fields.map fun field =>
      if field.1 == name then (name, value) else field
  else
    fields ++ [(name, value)]

/-- How deep lists and records can be nested. -/
def depthLimit : Nat :=
  127

mutual

/--
A document and the rest, in at most the given number of nested steps and
nested no deeper than the given depth.
-/
private def documentWithin?
    [Zero K] [Neg K] [Sub K] [BEq K] [OfScientific K] :
    Nat → Nat → List Char → Option (Document K × List Char)
  | 0, _, _ => none
  | steps + 1, depth, characters =>
      match skipBlanks characters with
      | 'n' :: 'u' :: 'l' :: 'l' :: rest => some (.null, rest)
      | 't' :: 'r' :: 'u' :: 'e' :: rest => some (.bool true, rest)
      | 'f' :: 'a' :: 'l' :: 's' :: 'e' :: rest => some (.bool false, rest)
      | '"' :: rest => do
          let (content, rest) ← quotedText? rest
          return (.text content, rest)
      | '[' :: rest =>
          match skipBlanks rest with
          | ']' :: rest =>
              if depth = 0 then none else some (.list [], rest)
          | rest =>
              if depth = 0 then
                none
              else
                itemsWithin? steps (depth - 1) [] rest
      | '\x7b' :: rest =>
          match skipBlanks rest with
          | '\x7d' :: rest =>
              if depth = 0 then none else some (.record [], rest)
          | rest =>
              if depth = 0 then
                none
              else
                fieldsWithin? steps (depth - 1) [] rest
      | rest => number? rest

/-- The items of a list up to its end. -/
private def itemsWithin?
    [Zero K] [Neg K] [Sub K] [BEq K] [OfScientific K] :
    Nat → Nat → List (Document K) → List Char →
      Option (Document K × List Char)
  | 0, _, _, _ => none
  | steps + 1, depth, items, characters => do
      let (item, rest) ← documentWithin? steps depth characters
      match skipBlanks rest with
      | ',' :: rest => itemsWithin? steps depth (item :: items) rest
      | ']' :: rest => return (.list (item :: items).reverse, rest)
      | _ => none

/-- The fields of a record up to its end. -/
private def fieldsWithin?
    [Zero K] [Neg K] [Sub K] [BEq K] [OfScientific K] :
    Nat → Nat → List (String × Document K) → List Char →
      Option (Document K × List Char)
  | 0, _, _, _ => none
  | steps + 1, depth, fields, characters =>
      match skipBlanks characters with
      | '"' :: rest => do
          let (name, rest) ← quotedText? rest
          match skipBlanks rest with
          | ':' :: rest => do
              let (value, rest) ← documentWithin? steps depth rest
              let fields := setField fields name value
              match skipBlanks rest with
              | ',' :: rest => fieldsWithin? steps depth fields rest
              | '\x7d' :: rest => return (.record fields, rest)
              | _ => none
          | _ => none
      | _ => none

end

/--
Read a document that takes up a whole text.  Each nested step reads at least
one character for every two steps, so the length bounds their number.
-/
def parse?
    [Zero K] [Neg K] [Sub K] [BEq K] [OfScientific K]
    (text : String) : Option (Document K) := do
  let characters := text.toList
  let (document, rest) ←
    documentWithin? (2 * characters.length + 2) depthLimit characters
  if (skipBlanks rest).isEmpty then
    return document
  else
    none

end Document

end Linkage
