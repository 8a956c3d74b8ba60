/-!
Well-formed regular expressions, as an automaton accepts them.

A pattern is well formed when it reads as alternatives of sequences of items, each item followed
by any number of repetitions:
* an item is a literal character, `.`, `^`, `$`, an escape, a bracketed class, or a group;
* a repetition is `*`, `+` or `?`, or a count `{n}`, `{n,}` or `{n,m}` with `n ≤ m`, each
  optionally followed by `?`; a repetition needs an item before it;
* a group is `( … )`, `(?: … )`, a named group `(?P<name> … )` or `(?<name> … )` with a name
  that starts with a letter or `_` and is not used twice, a flag group `(?flags: … )`, or a flag
  setting `(?flags)`; flags are distinct letters of `imsUuxR`, with at most one `-` before the
  last of them;
* an escape is a quoted punctuation mark, one of `\a \f \t \n \r \v`, a code point `\x…`, `\u…`
  or `\U…` (a fixed number of hexadecimal digits, or any number in braces), a class `\d \s \w`
  or its complement, a Unicode class `\pX` or `\p{…}`, or a boundary `\b \B \A \z \< \>`;
* a class is `[…]` or `[^…]` holding literals, ranges `a-z` whose ends are literals in order,
  escapes other than boundaries, named classes such as `[:alpha:]`, nested classes and the
  operators `&&`, `--` and `~~`; a `]` first in a class is a literal.

The automaton also refuses two kinds of pattern. In Unicode mode, which is on unless the flag `u`
is cleared, it has no word boundaries (`\b`, `\B`, `\<`, `\>`, `\b{…}`). Without Unicode mode,
nothing may match a byte that is not UTF-8: no `.`, no byte escape `\xHH` above `7F`, no
complement class `\D \S \W`, no Unicode class, and no bracketed class that is negated or holds
a character beyond ASCII. A flag setting holds to the end of its group; a flag group's flags hold
inside it.
-/

namespace PipelineEditor

namespace Regex

/-- Whether a character is a hexadecimal digit. -/
def isHexDigit (c : Char) : Bool :=
  c.isDigit || ('a' ≤ c && c ≤ 'f') || ('A' ≤ c && c ≤ 'F')

/-- The value of hexadecimal digits. -/
def hexValue (cs : List Char) : Nat :=
  cs.foldl (fun acc c =>
    acc * 16 + (if c.isDigit then c.toNat - '0'.toNat
      else if c ≤ 'F' then c.toNat - 'A'.toNat + 10 else c.toNat - 'a'.toNat + 10)) 0

/-- The character of a code point, if it is a Unicode scalar value. -/
def scalar? (n : Nat) : Option Char :=
  if n.isValidChar then some (Char.ofNat n) else none

/-- A code point written as `width` hexadecimal digits or as digits in braces, and the rest. -/
def hexEscape? (width : Nat) : List Char → Option (Char × List Char)
  | '{' :: rest =>
    let digits := rest.takeWhile isHexDigit
    match rest.drop digits.length with
    | '}' :: after =>
      if digits.isEmpty then none else (scalar? (hexValue digits)).map fun c => (c, after)
    | _ => none
  | cs =>
    let digits := cs.take width
    if digits.length == width && digits.all isHexDigit then
      (scalar? (hexValue digits)).map fun c => (c, cs.drop width)
    else none

/-- Whether a character may be quoted by a backslash: ASCII other than letters, digits, `<` and
`>`. -/
def isQuotable (c : Char) : Bool :=
  c.toNat < 0x80 && !c.isAlphanum && c != '<' && c != '>'

/-- The one-letter general categories. -/
def categoryLetters : List Char := ['L', 'M', 'N', 'P', 'S', 'Z', 'C']

/-- Whether a Unicode class name in braces is one: a one-letter general category, or a name of
letters, digits, blanks, `_`, `-`, `=` and `:` of more than one character. -/
def isClassName (name : List Char) : Bool :=
  match name with
  | [c] => categoryLetters.contains c
  | [] => false
  | _ => name.all fun c => c.isAlphanum || c == ' ' || c == '_' || c == '-' || c == '=' || c == ':'

/-- What an escape stands for. -/
inductive Escaped where
  /-- One character; `byte` when it is written as two hexadecimal digits after `\x`. -/
  | literal (c : Char) (byte : Bool)
  /-- A class of characters; `ascii` when it stays within ASCII without Unicode mode. -/
  | set (ascii : Bool)
  /-- A boundary, which matches no character; `word` for a word boundary. -/
  | boundary (word : Bool)

/-- The escape after a backslash, and the rest. -/
def escape? : List Char → Option (Escaped × List Char)
  | [] => none
  | c :: rest =>
    match c with
    | 'a' => some (.literal '\x07' false, rest)
    | 'f' => some (.literal '\x0c' false, rest)
    | 't' => some (.literal '\t' false, rest)
    | 'n' => some (.literal '\n' false, rest)
    | 'r' => some (.literal '\r' false, rest)
    | 'v' => some (.literal '\x0b' false, rest)
    | 'x' =>
      let byte := match rest with
        | '{' :: _ => false
        | _ => true
      (hexEscape? 2 rest).map fun (c, after) => (.literal c byte, after)
    | 'u' => (hexEscape? 4 rest).map fun (c, after) => (.literal c false, after)
    | 'U' => (hexEscape? 8 rest).map fun (c, after) => (.literal c false, after)
    | 'p' | 'P' =>
      match rest with
      | '{' :: more =>
        let name := more.takeWhile (· != '}')
        match more.drop name.length with
        | '}' :: after => if isClassName name then some (.set false, after) else none
        | _ => none
      | d :: after => if categoryLetters.contains d then some (.set false, after) else none
      | [] => none
    | 'b' =>
      match rest with
      | '{' :: more =>
        let name := more.takeWhile (· != '}')
        match more.drop name.length with
        | '}' :: after =>
          if ["start", "end", "start-half", "end-half"].contains (String.ofList name) then
            some (.boundary true, after)
          else none
        | _ => none
      | _ => some (.boundary true, rest)
    | _ =>
      if "dsw".contains c then some (.set true, rest)
      else if "DSW".contains c then some (.set false, rest)
      else if "B<>".contains c then some (.boundary true, rest)
      else if "Az".contains c then some (.boundary false, rest)
      else if isQuotable c then some (.literal c false, rest)
      else none

/-- Whether an escape outside a class is accepted in a mode: a word boundary only without
Unicode mode, and without it only escapes that match ASCII alone. -/
def Escaped.fits (unicode : Bool) : Escaped → Bool
  | .literal c byte => unicode || !byte || c.toNat < 0x80
  | .set ascii => unicode || ascii
  | .boundary word => !(unicode && word)

/-- The names of the ASCII classes written `[:name:]`. -/
def asciiClassNames : List String :=
  ["alnum", "alpha", "ascii", "blank", "cntrl", "digit", "graph", "lower", "print", "punct",
   "space", "upper", "word", "xdigit"]

/-- A named ASCII class `[:name:]` or `[:^name:]` at the front, if one stands there: whether it
is negated, and the rest. -/
def asciiClass? : List Char → Option (Bool × List Char)
  | '[' :: ':' :: rest =>
    let (negated, body) := match rest with
      | '^' :: more => (true, more)
      | _ => (false, rest)
    let name := body.takeWhile (· != ':')
    match body.drop name.length with
    | ':' :: ']' :: after =>
      if asciiClassNames.contains (String.ofList name) then some (negated, after) else none
    | _ => none
  | _ => none

/-- One item of a class, or a range end, and the rest; `none` when it is not well formed or, out
of Unicode mode, reaches beyond ASCII. -/
def classItem? (unicode : Bool) (cs : List Char) : Option (Option Char × List Char) :=
  match cs with
  | '\\' :: rest =>
    match escape? rest with
    | some (.literal c _, after) => if unicode || c.toNat < 0x80 then some (some c, after) else none
    | some (.set ascii, after) => if unicode || ascii then some (none, after) else none
    | _ => none
  | c :: rest => if unicode || c.toNat < 0x80 then some (some c, rest) else none
  | [] => none

mutual

/-- The rest after the items of a class and its closing bracket; `first` says whether no item
has been read yet. -/
def classItems (fuel : Nat) (unicode first : Bool) (cs : List Char) : Option (List Char) :=
  match fuel with
  | 0 => none
  | fuel + 1 =>
    match cs with
    | [] => none
    | ']' :: rest => if first then classItems fuel unicode false rest else some rest
    | '&' :: '&' :: rest => classItems fuel unicode false rest
    | '-' :: '-' :: rest => classItems fuel unicode false rest
    | '~' :: '~' :: rest => classItems fuel unicode false rest
    | '[' :: rest =>
      match asciiClass? cs with
      | some (negated, after) =>
        if unicode || !negated then classItems fuel unicode false after else none
      | none => do
        let after ← classBody fuel unicode rest
        classItems fuel unicode false after
    | _ => do
      let (start, after) ← classItem? unicode cs
      match after with
      | '-' :: ']' :: _ => classItems fuel unicode false after
      | '-' :: more =>
        let (finish, rest) ← classItem? unicode more
        match start, finish with
        | some a, some b => if a ≤ b then classItems fuel unicode false rest else none
        | _, _ => none
      | _ => classItems fuel unicode false after

/-- The rest after a class whose opening bracket has been read; out of Unicode mode a class may
not be negated. -/
def classBody (fuel : Nat) (unicode : Bool) (cs : List Char) : Option (List Char) :=
  match fuel with
  | 0 => none
  | fuel + 1 =>
    match cs with
    | '^' :: rest => if unicode then classItems fuel unicode true rest else none
    | _ => classItems fuel unicode true cs

end

/-- Whether a group name is one: a letter or `_`, then letters, digits, `_`, `.`, `[` and `]`. -/
def isGroupName : List Char → Bool
  | [] => false
  | c :: rest =>
    (c.isAlpha || c == '_') && rest.all fun d => d.isAlphanum || d == '_' || d == '.' || d == '[' || d == ']'

/-- Whether flags are well formed: distinct flag letters, with at most one `-`, which is not
last. -/
def isFlagList (flags : List Char) : Bool :=
  let letters := flags.filter (· != '-')
  !flags.isEmpty && letters.all (fun c => "imsUuxR".contains c) &&
    (flags.filter (· == '-')).length ≤ 1 && flags.getLast? != some '-' &&
    letters.eraseDups.length == letters.length

/-- The rest after a repetition count whose opening brace has been read. -/
def countRest? (cs : List Char) : Option (List Char) :=
  let low := cs.takeWhile Char.isDigit
  if low.isEmpty then none
  else
    match cs.drop low.length with
    | '}' :: rest => some rest
    | ',' :: more =>
      let high := more.takeWhile Char.isDigit
      match more.drop high.length with
      | '}' :: rest =>
        let value := fun (ds : List Char) => ds.foldl (fun n c => n * 10 + (c.toNat - '0'.toNat)) 0
        if high.isEmpty || value low ≤ value high then some rest else none
      | _ => none
    | _ => none

/-- The rest after any repetitions of an item, each optionally followed by `?`. -/
def repetitions (fuel : Nat) (cs : List Char) : Option (List Char) :=
  match fuel with
  | 0 => some cs
  | fuel + 1 =>
    let lazy := fun (rest : List Char) => match rest with
      | '?' :: more => more
      | _ => rest
    match cs with
    | '*' :: rest | '+' :: rest | '?' :: rest => repetitions fuel (lazy rest)
    | '{' :: rest => do
      let after ← countRest? rest
      repetitions fuel (lazy after)
    | _ => some cs

/-- Whether Unicode mode is on after flags are applied to a mode. -/
def unicodeAfter (flags : List Char) (unicode : Bool) : Bool :=
  if (flags.dropWhile (· != '-')).contains 'u' then false
  else if (flags.takeWhile (· != '-')).contains 'u' then true
  else unicode

/-- How far reading has come: the text left, the group names seen, and whether Unicode mode is
on. -/
structure Scan where
  rest : List Char
  names : List String
  unicode : Bool

mutual

/-- Reads alternatives of sequences up to a closing parenthesis or the end; the scan stops at
the parenthesis. -/
def alternatives (fuel : Nat) (s : Scan) : Option Scan :=
  match fuel with
  | 0 => none
  | fuel + 1 =>
    match s.rest with
    | [] => some s
    | ')' :: _ => some s
    | '|' :: rest => alternatives fuel { s with rest }
    | '*' :: _ | '+' :: _ | '?' :: _ | '{' :: _ => none
    | _ => do
      let s ← item fuel s
      alternatives fuel s

/-- Reads one item and its repetitions; a flag setting takes no repetition and changes the mode
for what follows. -/
def item (fuel : Nat) (s : Scan) : Option Scan :=
  match fuel with
  | 0 => none
  | fuel + 1 =>
    let repeated := fun (inner : Scan) => do
      let rest ← repetitions fuel inner.rest
      pure { inner with rest, unicode := s.unicode }
    match s.rest with
    | '(' :: '?' :: rest =>
      match rest with
      | 'P' :: '<' :: more | '<' :: more =>
        let name := more.takeWhile (· != '>')
        match more.drop name.length with
        | '>' :: body =>
          let text := String.ofList name
          if !isGroupName name || s.names.contains text then none
          else do
            repeated (← groupBody fuel { s with rest := body, names := text :: s.names })
        | _ => none
      | _ =>
        let flags := rest.takeWhile fun c => c != ':' && c != ')'
        match rest.drop flags.length with
        | ')' :: after =>
          if isFlagList flags then
            match after with
            | '*' :: _ | '+' :: _ | '?' :: _ | '{' :: _ => none
            | _ => some { s with rest := after, unicode := unicodeAfter flags s.unicode }
          else none
        | ':' :: body =>
          if flags.isEmpty || isFlagList flags then do
            repeated (← groupBody fuel
              { s with rest := body, unicode := unicodeAfter flags s.unicode })
          else none
        | _ => none
    | '(' :: body => do repeated (← groupBody fuel { s with rest := body })
    | ')' :: _ => none
    | '[' :: rest => do
      let after ← classBody fuel s.unicode rest
      repeated { s with rest := after }
    | '\\' :: rest => do
      let (escaped, after) ← escape? rest
      if escaped.fits s.unicode then repeated { s with rest := after } else none
    | '.' :: rest => if s.unicode then repeated { s with rest } else none
    | _ :: rest => repeated { s with rest }
    | [] => none

/-- Reads the body of a group and its closing parenthesis. -/
def groupBody (fuel : Nat) (s : Scan) : Option Scan :=
  match fuel with
  | 0 => none
  | fuel + 1 => do
    let s ← alternatives fuel s
    match s.rest with
    | ')' :: rest => some { s with rest }
    | _ => none

end

/-- Whether a pattern is well formed. -/
def isWellFormed (pattern : String) : Bool :=
  let cs := pattern.toList
  match alternatives (4 * cs.length + 4) ⟨cs, [], true⟩ with
  | some s => s.rest.isEmpty
  | none => false

end Regex

end PipelineEditor
