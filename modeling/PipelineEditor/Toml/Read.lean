import PipelineEditor.Toml.Value
import PipelineEditor.Decimal.Read

/-!
Reading TOML documents (version 1.0).

A document is a sequence of lines, each empty, a comment, a key/value pair or a table header,
and each may end in a comment. Keys are bare (letters, digits, `_` and `-`) or quoted, and dotted
keys name nested tables. Values are strings (basic, literal, and the multi-line form of each),
integers (decimal, and hexadecimal, octal or binary without sign, all in the signed 64-bit
range), floats (finite when positive, or `inf` / `nan` with a sign), booleans, dates and times,
arrays (which may span lines) and inline tables (which may not). Arrays and inline tables nest
at most 80 deep.

Each table is defined once: a header may name a table that only earlier headers created on the
way to a deeper one, but no table twice; a dotted key may extend only tables that dotted keys
created, and only in the table it belongs to; inline tables and arrays that a value wrote are
complete. A header `[[name]]` adds a table to an array of tables, and a path that passes
through such an array continues in its last table.
-/

namespace PipelineEditor

namespace Toml

/-- What makes a text not a TOML document. -/
inductive ReadError where
  /-- Text that the grammar does not allow where it stands. -/
  | unexpected
  /-- A number, a date or an escaped character outside its range. -/
  | outOfRange
  /-- A key or a table given a second time. -/
  | duplicateKey (key : String)
  /-- A key path that runs through a value that is not a table. -/
  | notATable (key : String)
  /-- Arrays and inline tables nested too deep. -/
  | tooDeep
  deriving Repr, BEq, Inhabited

/-- How deep arrays and inline tables may nest: the eightieth level is refused. -/
def nestingLimit : Nat := 79

/-! ### Lines, blanks and comments -/

/-- Whether a character is a blank within a line. -/
def isBlank (c : Char) : Bool := c == ' ' || c == '\t'

/-- Drops the blanks at the start. -/
def skipBlanks (cs : List Char) : List Char := cs.dropWhile isBlank

/-- Whether a character may stand in a comment or in a literal string: a tab, a printable ASCII
character or any character beyond ASCII. -/
def isTextChar (c : Char) : Bool :=
  c == '\t' || (0x20 ≤ c.toNat && c.toNat ≠ 0x7F)

/-- Drops a comment, if one starts here, up to the end of its line. -/
def skipComment : List Char → Except ReadError (List Char)
  | '#' :: rest =>
    let body := rest.takeWhile fun c => c != '\n' && c != '\r'
    if body.all isTextChar then .ok (rest.drop body.length) else .error .unexpected
  | cs => .ok cs

/-- The rest after a line break, if one starts here. -/
def afterNewline? : List Char → Option (List Char)
  | '\n' :: rest => some rest
  | '\r' :: '\n' :: rest => some rest
  | _ => none

/-- Ends a line: blanks, an optional comment, then a line break or the end of the text. -/
def endLine (cs : List Char) : Except ReadError (List Char) := do
  let cs ← skipComment (skipBlanks cs)
  match cs with
  | [] => pure []
  | _ => match afterNewline? cs with
    | some rest => pure rest
    | none => throw .unexpected

/-- Drops blanks, comments and line breaks, as arrays allow between their items. -/
def skipSpaceLines : Nat → List Char → Except ReadError (List Char)
  | 0, cs => .ok cs
  | fuel + 1, cs => do
    let cs ← skipComment (skipBlanks cs)
    match afterNewline? cs with
    | some rest => skipSpaceLines fuel rest
    | none => pure cs

/-- Drops blanks and line breaks, as a backslash at the end of a line asks. -/
def dropSpaceLines : List Char → List Char
  | ' ' :: rest => dropSpaceLines rest
  | '\t' :: rest => dropSpaceLines rest
  | '\n' :: rest => dropSpaceLines rest
  | '\r' :: '\n' :: rest => dropSpaceLines rest
  | cs => cs

/-! ### Strings -/

/-- The value of a hexadecimal digit. -/
def hexValue? (c : Char) : Option Nat :=
  if '0' ≤ c && c ≤ '9' then some (c.toNat - '0'.toNat)
  else if 'a' ≤ c && c ≤ 'f' then some (c.toNat - 'a'.toNat + 10)
  else if 'A' ≤ c && c ≤ 'F' then some (c.toNat - 'A'.toNat + 10)
  else none

/-- The value of `count` hexadecimal digits. -/
def hexDigits : Nat → List Char → Nat → Except ReadError (Nat × List Char)
  | 0, cs, acc => .ok (acc, cs)
  | count + 1, c :: rest, acc =>
    match hexValue? c with
    | some d => hexDigits count rest (acc * 16 + d)
    | none => .error .unexpected
  | _ + 1, [], _ => .error .unexpected

/-- The character a code escape names; surrogates and values beyond the last code point name
none. -/
def codePoint (n : Nat) : Except ReadError Char :=
  if n.isValidChar then .ok (Char.ofNat n) else .error .outOfRange

/-- Reads an escape after its backslash. -/
def escape : List Char → Except ReadError (Char × List Char)
  | 'b' :: rest => .ok ('\x08', rest)
  | 't' :: rest => .ok ('\t', rest)
  | 'n' :: rest => .ok ('\n', rest)
  | 'f' :: rest => .ok ('\x0c', rest)
  | 'r' :: rest => .ok ('\r', rest)
  | '"' :: rest => .ok ('"', rest)
  | '\\' :: rest => .ok ('\\', rest)
  | 'u' :: rest => do
    let (n, rest) ← hexDigits 4 rest 0
    pure (← codePoint n, rest)
  | 'U' :: rest => do
    let (n, rest) ← hexDigits 8 rest 0
    pure (← codePoint n, rest)
  | _ => .error .unexpected

/-- Whether a character may stand unescaped in a basic string. -/
def isBasicChar (c : Char) : Bool := isTextChar c && c != '"' && c != '\\'

/-- Whether a character may stand in a literal string. -/
def isLiteralChar (c : Char) : Bool := isTextChar c && c != '\''

/-- The body of a one-line basic string after its opening quote, through its closing quote. -/
def basicBody : Nat → List Char → List Char → Except ReadError (String × List Char)
  | 0, _, _ => .error .unexpected
  | _ + 1, [], _ => .error .unexpected
  | _ + 1, '"' :: rest, acc => .ok (String.ofList acc.reverse, rest)
  | fuel + 1, '\\' :: rest, acc => do
    let (c, rest) ← escape rest
    basicBody fuel rest (c :: acc)
  | fuel + 1, c :: rest, acc =>
    if isBasicChar c then basicBody fuel rest (c :: acc) else .error .unexpected

/-- The body of a one-line literal string after its opening quote, through its closing quote. -/
def literalBody : Nat → List Char → List Char → Except ReadError (String × List Char)
  | 0, _, _ => .error .unexpected
  | _ + 1, [], _ => .error .unexpected
  | _ + 1, '\'' :: rest, acc => .ok (String.ofList acc.reverse, rest)
  | fuel + 1, c :: rest, acc =>
    if isLiteralChar c then literalBody fuel rest (c :: acc) else .error .unexpected

/-- The end of a multi-line string: the closing delimiter of three quotes `q` may follow one or
two quotes of the string itself, but not three. -/
def closeMultiLine (q : Char) (rest acc : List Char) : Except ReadError (String × List Char) :=
  match rest with
  | a :: b :: c :: _ =>
    if a == q && b == q && c == q then .error .unexpected
    else if a == q && b == q then .ok (String.ofList (q :: q :: acc).reverse, rest.drop 2)
    else if a == q then .ok (String.ofList (q :: acc).reverse, rest.drop 1)
    else .ok (String.ofList acc.reverse, rest)
  | [a, b] =>
    if a == q && b == q then .ok (String.ofList (q :: q :: acc).reverse, [])
    else if a == q then .ok (String.ofList (q :: acc).reverse, [b])
    else .ok (String.ofList acc.reverse, rest)
  | [a] =>
    if a == q then .ok (String.ofList (q :: acc).reverse, [])
    else .ok (String.ofList acc.reverse, rest)
  | [] => .ok (String.ofList acc.reverse, [])

/-- The body of a multi-line basic string after its opening delimiter, through its closing one.
Line breaks read as `\n`, and a backslash at the end of a line drops the blanks and line breaks
after it. -/
def multiBasicBody : Nat → List Char → List Char → Except ReadError (String × List Char)
  | 0, _, _ => .error .unexpected
  | _ + 1, [], _ => .error .unexpected
  | _ + 1, '"' :: '"' :: '"' :: rest, acc => closeMultiLine '"' rest acc
  | fuel + 1, '"' :: rest, acc => multiBasicBody fuel rest ('"' :: acc)
  | fuel + 1, '\\' :: rest, acc =>
    match afterNewline? (skipBlanks rest) with
    | some more => multiBasicBody fuel (dropSpaceLines more) acc
    | none => do
      let (c, rest) ← escape rest
      multiBasicBody fuel rest (c :: acc)
  | fuel + 1, '\n' :: rest, acc => multiBasicBody fuel rest ('\n' :: acc)
  | fuel + 1, '\r' :: '\n' :: rest, acc => multiBasicBody fuel rest ('\n' :: acc)
  | fuel + 1, c :: rest, acc =>
    if isBasicChar c then multiBasicBody fuel rest (c :: acc) else .error .unexpected

/-- The body of a multi-line literal string after its opening delimiter, through its closing
one. Line breaks read as `\n`. -/
def multiLiteralBody : Nat → List Char → List Char → Except ReadError (String × List Char)
  | 0, _, _ => .error .unexpected
  | _ + 1, [], _ => .error .unexpected
  | _ + 1, '\'' :: '\'' :: '\'' :: rest, acc => closeMultiLine '\'' rest acc
  | fuel + 1, '\'' :: rest, acc => multiLiteralBody fuel rest ('\'' :: acc)
  | fuel + 1, '\n' :: rest, acc => multiLiteralBody fuel rest ('\n' :: acc)
  | fuel + 1, '\r' :: '\n' :: rest, acc => multiLiteralBody fuel rest ('\n' :: acc)
  | fuel + 1, c :: rest, acc =>
    if isLiteralChar c then multiLiteralBody fuel rest (c :: acc) else .error .unexpected

/-- Drops the line break that may follow the opening delimiter of a multi-line string. -/
def dropFirstNewline (cs : List Char) : List Char := (afterNewline? cs).getD cs

/-- Reads a string of any of the four forms, from its opening quote. -/
def readString : List Char → Except ReadError (String × List Char)
  | '"' :: '"' :: '"' :: rest =>
    let rest := dropFirstNewline rest
    multiBasicBody (rest.length + 1) rest []
  | '"' :: rest => basicBody (rest.length + 1) rest []
  | '\'' :: '\'' :: '\'' :: rest =>
    let rest := dropFirstNewline rest
    multiLiteralBody (rest.length + 1) rest []
  | '\'' :: rest => literalBody (rest.length + 1) rest []
  | _ => .error .unexpected

/-! ### Keys -/

/-- Whether a character may stand in a bare key. -/
def isBareChar (c : Char) : Bool := c.isAlphanum || c == '_' || c == '-'

/-- Reads one key of a dotted key: bare, or quoted on one line. -/
def simpleKey : List Char → Except ReadError (String × List Char)
  | '"' :: rest => basicBody (rest.length + 1) rest []
  | '\'' :: rest => literalBody (rest.length + 1) rest []
  | cs =>
    let name := cs.takeWhile isBareChar
    if name.isEmpty then .error .unexpected else .ok (String.ofList name, cs.drop name.length)

/-- Reads the keys after the first of a dotted key, and the blanks after the last. -/
def moreKeys : Nat → List Char → List String → Except ReadError (List String × List Char)
  | 0, _, _ => .error .unexpected
  | fuel + 1, cs, acc =>
    match skipBlanks cs with
    | '.' :: rest => do
      let (key, rest) ← simpleKey (skipBlanks rest)
      moreKeys fuel rest (key :: acc)
    | rest => .ok (acc.reverse, rest)

/-- Reads a key, dotted or not, and the blanks after it. -/
def readKey (cs : List Char) : Except ReadError (List String × List Char) := do
  let (key, rest) ← simpleKey cs
  moreKeys (rest.length + 1) rest [key]

/-! ### Numbers, dates and times -/

/-- Digits that `ok` accepts, with single underscores between them, and the rest. -/
def digitRun (ok : Char → Bool) : List Char → Option (List Char × List Char)
  | c :: rest => if ok c then some (go rest [c]) else none
  | [] => none
where
  /-- Continues a run of digits. -/
  go : List Char → List Char → List Char × List Char
    | '_' :: c :: rest, acc => if ok c then go rest (c :: acc) else (acc.reverse, '_' :: c :: rest)
    | c :: rest, acc => if ok c then go rest (c :: acc) else (acc.reverse, c :: rest)
    | [], acc => (acc.reverse, [])

/-- The whole part of a decimal number: a single zero, or digits that do not start with one. -/
def wholePart : List Char → Option (List Char × List Char)
  | '0' :: rest => some (['0'], rest)
  | cs => digitRun Char.isDigit cs

/-- The value of digits in a base. -/
def digitsIn (base : Nat) (ds : List Char) : Nat :=
  ds.foldl (fun acc c => acc * base + ((hexValue? c).getD 0)) 0

/-- The largest signed 64-bit integer. -/
def maxInteger : Nat := Nat.pow 2 63 - 1

/-- Reads the digits of a prefixed integer (`0x`, `0o`, `0b`), which has no sign. -/
def prefixedInteger (base : Nat) (ok : Char → Bool) (cs : List Char) : Except ReadError (TomlValue × List Char) :=
  match digitRun ok cs with
  | none => .error .unexpected
  | some (ds, rest) =>
    let n := digitsIn base ds
    if n ≤ maxInteger then .ok (.integer n, rest) else .error .outOfRange

/-- Positive infinity. -/
def infinity : Float := Float.ofScientific 1 false 400

/-- Reads a decimal integer or a float, after its sign. -/
def unsignedNumber (negative : Bool) : List Char → Except ReadError (TomlValue × List Char)
  | 'i' :: 'n' :: 'f' :: rest => .ok (.float (if negative then -infinity else infinity), rest)
  | 'n' :: 'a' :: 'n' :: rest => .ok (.float (0 / 0), rest)
  | cs => do
    let some (whole, rest) := wholePart cs | throw .unexpected
    let (fraction, rest) ← match rest with
      | '.' :: more => match digitRun Char.isDigit more with
        | some (ds, rest) => pure (some ds, rest)
        | none => throw .unexpected
      | _ => pure (none, rest)
    let (exponent, rest) ← match rest with
      | 'e' :: more | 'E' :: more =>
        let (expNegative, more) := match more with
          | '+' :: m => (false, m)
          | '-' :: m => (true, m)
          | m => (false, m)
        match digitRun Char.isDigit more with
        | some (ds, rest) =>
          let e : Int := digitsIn 10 ds
          pure (some (if expNegative then -e else e), rest)
        | none => throw .unexpected
      | _ => pure (none, rest)
    match fraction, exponent with
    | none, none =>
      let n := digitsIn 10 whole
      if negative then
        if n ≤ maxInteger + 1 then pure (.integer (-(n : Int)), rest) else throw .outOfRange
      else if n ≤ maxInteger then pure (.integer n, rest) else throw .outOfRange
    | _, _ =>
      let fractionDigits := fraction.getD []
      let magnitude := Decimal.nearestDouble (digitsIn 10 (whole ++ fractionDigits))
        (exponent.getD 0 - fractionDigits.length)
      if negative then pure (.float (-magnitude), rest)
      else if magnitude == infinity then throw .outOfRange
      else pure (.float magnitude, rest)

/-- Reads a number, from its sign or first digit. -/
def readNumber : List Char → Except ReadError (TomlValue × List Char)
  | '0' :: 'x' :: rest => prefixedInteger 16 (fun c => (hexValue? c).isSome) rest
  | '0' :: 'o' :: rest => prefixedInteger 8 (fun c => '0' ≤ c && c ≤ '7') rest
  | '0' :: 'b' :: rest => prefixedInteger 2 (fun c => c == '0' || c == '1') rest
  | '+' :: rest => unsignedNumber false rest
  | '-' :: rest => unsignedNumber true rest
  | cs => unsignedNumber false cs

/-- Exactly `count` decimal digits and their value. -/
def fixedDigits : Nat → List Char → Nat → Option (Nat × List Char)
  | 0, cs, acc => some (acc, cs)
  | count + 1, c :: rest, acc =>
    if c.isDigit then fixedDigits count rest (acc * 10 + (c.toNat - '0'.toNat)) else none
  | _ + 1, [], _ => none

/-- A two-digit field of a date or time within `0 … max`. -/
def boundedField (low high : Nat) (cs : List Char) : Except ReadError (Nat × List Char) :=
  match fixedDigits 2 cs 0 with
  | some (n, rest) => if low ≤ n && n ≤ high then .ok (n, rest) else .error .outOfRange
  | none => .error .unexpected

/-- The number of days of a month of a year of the Gregorian calendar. -/
def daysInMonth (year month : Nat) : Nat :=
  if month == 2 then
    if year % 4 == 0 && (year % 100 != 0 || year % 400 == 0) then 29 else 28
  else if month == 4 || month == 6 || month == 9 || month == 11 then 30
  else 31

/-- Reads the rest of a time after its hour and colon: minutes, seconds and an optional
fraction of a second. -/
def restOfTime (cs : List Char) : Except ReadError (List Char) := do
  let (_, rest) ← boundedField 0 59 cs
  let rest ← match rest with
    | ':' :: rest => pure rest
    | _ => throw .unexpected
  let (_, rest) ← boundedField 0 60 rest
  match rest with
  | '.' :: more => match digitRun Char.isDigit more with
    | some _ => pure (more.dropWhile Char.isDigit)
    | none => throw .unexpected
  | _ => pure rest

/-- Reads a time if one starts here (two digits and a colon); once that start is seen the rest
must be a time. -/
def readTime? (cs : List Char) : Option (Except ReadError (List Char)) :=
  match fixedDigits 2 cs 0 with
  | some (hour, ':' :: rest) =>
    some (if hour ≤ 23 then restOfTime rest else .error .outOfRange)
  | _ => none

/-- Reads the offset of a time from UTC, if one follows. -/
def readOffset (cs : List Char) : Except ReadError (List Char) :=
  match cs with
  | 'Z' :: rest | 'z' :: rest => .ok rest
  | '+' :: rest | '-' :: rest => do
    let (_, rest) ← boundedField 0 23 rest
    match rest with
    | ':' :: rest => do
      let (_, rest) ← boundedField 0 59 rest
      pure rest
    | _ => throw .unexpected
  | _ => .ok cs

/-- Reads the rest of a date after its year and dash, and the time that may follow it. -/
def restOfDate (year : Nat) (cs : List Char) : Except ReadError (List Char) := do
  let (month, rest) ← boundedField 1 12 cs
  let rest ← match rest with
    | '-' :: rest => pure rest
    | _ => throw .unexpected
  let (_, rest) ← boundedField 1 (daysInMonth year month) rest
  match rest with
  | d :: more =>
    if d == 'T' || d == 't' || d == ' ' then
      match readTime? more with
      | some time => do readOffset (← time)
      | none => pure rest
    else pure rest
  | [] => pure rest

/-- Reads a date, a time, or a date and time, if one starts here (four digits and a dash, or two
digits and a colon), with the text it covers. -/
def readDatetime? (cs : List Char) : Option (Except ReadError (TomlValue × List Char)) :=
  let covered := fun (rest : List Char) =>
    (TomlValue.datetime (String.ofList (cs.take (cs.length - rest.length))), rest)
  match fixedDigits 4 cs 0 with
  | some (year, '-' :: rest) => some ((restOfDate year rest).map covered)
  | _ => (readTime? cs).map fun time => time.map covered

/-! ### Values -/

/-- A table entry while a document is read: a complete value, a table with how it came to be
(`implicit`: only named on the way to a deeper table; `dotted`: made by a dotted key), or an
array of tables. -/
inductive Node where
  | value (v : TomlValue)
  | table (implicit dotted : Bool) (entries : List (String × Node))
  | tables (items : List Node)
  deriving Inhabited

/-- The entries of a table being read. -/
abbrev Entries := List (String × Node)

mutual

/-- The value a node stands for. -/
def Node.freeze : Node → TomlValue
  | .value v => v
  | .table _ _ entries => .table (freezeEntries entries)
  | .tables items => .array (freezeItems items)

/-- The values of the entries of a table. -/
def freezeEntries : List (String × Node) → List (String × TomlValue)
  | [] => []
  | (key, node) :: rest => (key, node.freeze) :: freezeEntries rest

/-- The values of the tables of an array of tables. -/
def freezeItems : List Node → List TomlValue
  | [] => []
  | node :: rest => node.freeze :: freezeItems rest

end

/-- Sets the entry of a key, in place if it has one. -/
def setEntry (key : String) (node : Node) (entries : Entries) : Entries :=
  if entries.any (·.1 == key) then entries.map fun (k, n) => if k == key then (k, node) else (k, n)
  else entries ++ [(key, node)]

/-- Runs `act` on the table at the end of a key path, creating the tables missing on the way;
`act` is told whether that table was made by dotted keys. A path of dotted keys (`dotted`) may
only pass through tables that were not defined by a header or a value. -/
def alterPath (dotted : Bool) (act : Bool → Entries → Except ReadError Entries) :
    List String → Bool → Entries → Except ReadError Entries
  | [], made, entries => act made entries
  | key :: rest, _, entries =>
    match entries.lookup key with
    | none => do
      let inner ← alterPath dotted act rest dotted []
      pure (setEntry key (.table true dotted inner) entries)
    | some (.value _) => .error (.notATable key)
    | some (.tables items) =>
      match items.getLast? with
      | some (.table implicit made inner) => do
        let inner ← alterPath dotted act rest made inner
        pure (setEntry key (.tables (items.dropLast ++ [.table implicit made inner])) entries)
      | _ => .error (.notATable key)
    | some (.table implicit made inner) =>
      if dotted && !implicit then .error (.duplicateKey key)
      else do
        let inner ← alterPath dotted act rest made inner
        pure (setEntry key (.table implicit made inner) entries)

/-- Adds a key/value pair to a table; `viaDots` says whether the key was the last of a dotted
key, which may only add to a table that dotted keys made, as a plain key may only add to one
they did not. -/
def insertValue (key : String) (value : Node) (viaDots : Bool) (made : Bool)
    (entries : Entries) : Except ReadError Entries :=
  if made != viaDots then .error (.duplicateKey key)
  else if (entries.lookup key).isSome then .error (.duplicateKey key)
  else .ok (entries ++ [(key, value)])

/-- Adds a key/value pair with a key path to a table. -/
def insertPath (path : List String) (value : Node) (made : Bool) (entries : Entries) :
    Except ReadError Entries :=
  match path.getLast?, path.dropLast with
  | some key, prefixKeys =>
    alterPath true (insertValue key value !prefixKeys.isEmpty) prefixKeys made entries
  | none, _ => .error .unexpected

/-- Reads the items of an array after its opening bracket, through its closing bracket. -/
def arrayItems (value : List Char → Except ReadError (TomlValue × List Char)) : Nat → List Char → List TomlValue →
    Except ReadError (TomlValue × List Char)
  | 0, _, _ => .error .unexpected
  | fuel + 1, cs, acc => do
    let cs ← skipSpaceLines (cs.length + 1) cs
    match cs with
    | ']' :: rest => pure (.array acc.reverse, rest)
    | _ =>
      let (item, rest) ← value cs
      let rest ← skipSpaceLines (rest.length + 1) rest
      match rest with
      | ',' :: rest => arrayItems value fuel rest (item :: acc)
      | ']' :: rest => pure (.array (item :: acc).reverse, rest)
      | _ => throw .unexpected

/-- Reads the members of an inline table after its opening brace, through its closing brace;
members are separated by commas, with no comma after the last and no line break. -/
def inlineMembers (value : List Char → Except ReadError (TomlValue × List Char)) : Nat → List Char → Entries →
    Except ReadError (TomlValue × List Char)
  | 0, _, _ => .error .unexpected
  | fuel + 1, cs, entries => do
    let (path, rest) ← readKey (skipBlanks cs)
    let rest ← match rest with
      | '=' :: rest => pure (skipBlanks rest)
      | _ => throw .unexpected
    let (item, rest) ← value rest
    let entries ← insertPath path (.value item) false entries
    match skipBlanks rest with
    | ',' :: rest => inlineMembers value fuel rest entries
    | '}' :: rest => pure (.table (freezeEntries entries), rest)
    | _ => throw .unexpected

/-- Reads a value; arrays and inline tables may nest `depth` deep. -/
def readValue : Nat → List Char → Except ReadError (TomlValue × List Char)
  | _, '"' :: rest => do
    let (text, rest) ← readString ('"' :: rest)
    pure (.string text, rest)
  | _, '\'' :: rest => do
    let (text, rest) ← readString ('\'' :: rest)
    pure (.string text, rest)
  | _, 't' :: 'r' :: 'u' :: 'e' :: rest => .ok (.boolean true, rest)
  | _, 'f' :: 'a' :: 'l' :: 's' :: 'e' :: rest => .ok (.boolean false, rest)
  | 0, '[' :: _ => .error .tooDeep
  | 0, '{' :: _ => .error .tooDeep
  | depth + 1, '[' :: rest => arrayItems (readValue depth) (rest.length + 1) rest []
  | depth + 1, '{' :: rest =>
    match skipBlanks rest with
    | '}' :: rest => .ok (.table [], rest)
    | rest => inlineMembers (readValue depth) (rest.length + 1) rest []
  | _, cs =>
    match readDatetime? cs with
    | some result => result
    | none => match cs with
      | c :: _ =>
        if c.isDigit || c == '+' || c == '-' || c == 'i' || c == 'n' then readNumber cs
        else .error .unexpected
      | [] => .error .unexpected

/-! ### Documents -/

/-- A document being read: its tables, and the path of the table that key/value lines go to. -/
structure Document where
  root : Entries := []
  current : List String := []
  deriving Inhabited

namespace Document

/-- Adds a key/value line to the current table. -/
def insert (doc : Document) (path : List String) (value : TomlValue) :
    Except ReadError Document := do
  let root ← alterPath false (fun made entries => insertPath path (.value value) made entries)
    doc.current false doc.root
  pure { doc with root }

/-- Runs `act` on the table that holds the last key of a header, after the other keys. -/
def alterParent (doc : Document) (path : List String)
    (act : String → Entries → Except ReadError Entries) : Except ReadError Document :=
  match path.getLast? with
  | some key => do
    let root ← alterPath false (fun _ entries => act key entries) path.dropLast false doc.root
    pure { root, current := path }
  | none => .error .unexpected

/-- Opens a table named by a header `[path]`: a new table, or one that earlier headers only
named on the way. -/
def openTable (doc : Document) (path : List String) : Except ReadError Document :=
  doc.alterParent path fun key entries =>
    match entries.lookup key with
    | none => .ok (entries ++ [(key, .table false false [])])
    | some (.table true false inner) => .ok (setEntry key (.table false false inner) entries)
    | some _ => .error (.duplicateKey key)

/-- Opens a new table at the end of the array of tables named by a header `[[path]]`. -/
def openArrayTable (doc : Document) (path : List String) : Except ReadError Document :=
  doc.alterParent path fun key entries =>
    match entries.lookup key with
    | none => .ok (entries ++ [(key, .tables [.table false false []])])
    | some (.tables items) => .ok (setEntry key (.tables (items ++ [.table false false []])) entries)
    | some _ => .error (.duplicateKey key)

end Document

/-- Reads the lines of a document. -/
def readLines : Nat → List Char → Document → Except ReadError Document
  | 0, _, _ => .error .unexpected
  | fuel + 1, cs, doc =>
    match skipBlanks cs with
    | [] => .ok doc
    | '#' :: rest => do readLines fuel (← endLine ('#' :: rest)) doc
    | '[' :: '[' :: rest => do
      let (path, rest) ← readKey (skipBlanks rest)
      match rest with
      | ']' :: ']' :: rest => readLines fuel (← endLine rest) (← doc.openArrayTable path)
      | _ => throw .unexpected
    | '[' :: rest => do
      let (path, rest) ← readKey (skipBlanks rest)
      match rest with
      | ']' :: rest => readLines fuel (← endLine rest) (← doc.openTable path)
      | _ => throw .unexpected
    | cs => match afterNewline? cs with
      | some rest => readLines fuel rest doc
      | none => do
        let (path, rest) ← readKey cs
        match rest with
        | '=' :: rest => do
          let (value, rest) ← readValue nestingLimit (skipBlanks rest)
          readLines fuel (← endLine rest) (← doc.insert path value)
        | _ => throw .unexpected

/-- Reads a TOML document into the table it describes. -/
def parse (text : String) : Except ReadError TomlValue := do
  let cs := match text.toList with
    | '﻿' :: rest => rest
    | cs => cs
  let doc ← readLines (cs.length + 1) cs {}
  pure (.table (freezeEntries doc.root))

end Toml

end PipelineEditor
