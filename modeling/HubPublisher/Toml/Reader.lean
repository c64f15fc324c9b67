import HubPublisher.Toml.Moment
import HubPublisher.Toml.Table
import HubPublisher.Text.Split

/-!
Reading TOML text, version 1.0.

Each reader takes the characters that are left and gives what it read with the characters after it,
or nothing if the text is no TOML there.
-/
namespace HubPublisher.Toml

/-- How deep values may nest, and how many parts a key may have, less one. -/
def nestingLimit : Nat := 80

abbrev Read (α : Type) := List Char → Option (α × List Char)

def isSpace (c : Char) : Bool := c == ' ' || c == '\t'

/-- A line break: a line feed, with or without a carriage return before it. -/
def lineBreak? : List Char → Option (List Char)
  | '\n' :: rest => some rest
  | '\r' :: '\n' :: rest => some rest
  | _ => none

/-- The characters that text may have besides escapes: no controls but the tab. -/
def isTextChar (c : Char) : Bool := c == '\t' || (32 ≤ c.toNat && c.toNat != 127)

/-- Passes over a comment, if one starts here. -/
def skipComment (cs : List Char) : List Char :=
  match cs with
  | '#' :: rest => rest.dropWhile isTextChar
  | cs => cs

/-- Passes over spaces, a comment and the end of a line. -/
def endLine? (cs : List Char) : Option (List Char) :=
  match skipComment (cs.dropWhile isSpace) with
  | [] => some []
  | cs => lineBreak? cs

/-- Passes over spaces, comments and line breaks. -/
def skipLines : Nat → List Char → List Char
  | 0, cs => cs
  | fuel + 1, cs =>
    let cs := skipComment (cs.dropWhile isSpace)
    match lineBreak? cs with
    | some rest => skipLines fuel rest
    | none => cs

/-- Passes over spaces and line breaks. -/
def skipBreaks : Nat → List Char → List Char
  | 0, cs => cs
  | fuel + 1, cs =>
    let cs := cs.dropWhile isSpace
    match lineBreak? cs with
    | some rest => skipBreaks fuel rest
    | none => cs

/-! ## Texts -/

/-- The character with a number, unless it is a surrogate or too large. -/
def scalar? (n : Nat) : Option Char :=
  if n < 0xD800 ∨ (0xDFFF < n ∧ n < 0x110000) then some (Char.ofNat n) else none

/-- What follows a backslash, as the character it stands for. -/
def escapeAt? : Read Char
  | 'b' :: rest => some (Char.ofNat 8, rest)
  | 't' :: rest => some ('\t', rest)
  | 'n' :: rest => some ('\n', rest)
  | 'f' :: rest => some (Char.ofNat 12, rest)
  | 'r' :: rest => some ('\r', rest)
  | '"' :: rest => some ('"', rest)
  | '\\' :: rest => some ('\\', rest)
  | 'u' :: rest =>
    if (rest.take 4).length = 4 then
      ((Text.Hex.value? (rest.take 4)).bind scalar?).map (·, rest.drop 4)
    else none
  | 'U' :: rest =>
    if (rest.take 8).length = 8 then
      ((Text.Hex.value? (rest.take 8)).bind scalar?).map (·, rest.drop 8)
    else none
  | _ => none

/-- The rest of a text on one line between quotation marks. -/
def quotedLine? : Nat → Read (List Char)
  | 0, _ => none
  | _, [] => none
  | _ + 1, '"' :: rest => some ([], rest)
  | fuel + 1, '\\' :: rest =>
    match escapeAt? rest with
    | none => none
    | some (c, rest) => (quotedLine? fuel rest).map fun r => (c :: r.1, r.2)
  | fuel + 1, c :: rest =>
    if isTextChar c then (quotedLine? fuel rest).map fun r => (c :: r.1, r.2) else none

/-- The rest of a text on one line between apostrophes. -/
def bareLine? (cs : List Char) : Option (List Char × List Char) :=
  match cs.dropWhile fun c => isTextChar c && c != '\'' with
  | '\'' :: rest => some (cs.takeWhile fun c => isTextChar c && c != '\'', rest)
  | _ => none

/-- Three to five marks end a text on several lines; those before the last three belong to it. -/
def closing? (mark : Char) (cs : List Char) : Option (List Char × List Char) :=
  let marks := (cs.take 5).takeWhile (· == mark)
  if 3 ≤ marks.length then some (List.replicate (marks.length - 3) mark, cs.drop marks.length)
  else none

/-- The rest of a text on several lines between quotation marks. A backslash before the end of a
line takes away the break and all white space after it. -/
def quotedBlock? : Nat → Read (List Char)
  | 0, _ => none
  | _, [] => none
  | fuel + 1, c :: rest =>
    if c = '"' then
      match closing? '"' (c :: rest) with
      | some r => some r
      | none => (quotedBlock? fuel rest).map fun r => (c :: r.1, r.2)
    else if c = '\\' then
      match lineBreak? (rest.dropWhile isSpace) with
      | some after => quotedBlock? fuel (skipBreaks (after.length + 1) after)
      | none =>
        match escapeAt? rest with
        | none => none
        | some (e, rest) => (quotedBlock? fuel rest).map fun r => (e :: r.1, r.2)
    else if isTextChar c then (quotedBlock? fuel rest).map fun r => (c :: r.1, r.2)
    else
      match lineBreak? (c :: rest) with
      | some rest => (quotedBlock? fuel rest).map fun r => ('\n' :: r.1, r.2)
      | none => none

/-- The rest of a text on several lines between apostrophes. -/
def bareBlock? : Nat → Read (List Char)
  | 0, _ => none
  | _, [] => none
  | fuel + 1, c :: rest =>
    if c = '\'' then
      match closing? '\'' (c :: rest) with
      | some r => some r
      | none => (bareBlock? fuel rest).map fun r => (c :: r.1, r.2)
    else if isTextChar c then (bareBlock? fuel rest).map fun r => (c :: r.1, r.2)
    else
      match lineBreak? (c :: rest) with
      | some rest => (bareBlock? fuel rest).map fun r => ('\n' :: r.1, r.2)
      | none => none

/-- Text without a line break at its start. -/
def dropBreak (cs : List Char) : List Char := (lineBreak? cs).getD cs

/-- A text in any of its four spellings. -/
def textAt? (cs : List Char) : Option (List Char × List Char) :=
  match cs with
  | '"' :: '"' :: '"' :: rest => quotedBlock? (rest.length + 1) (dropBreak rest)
  | '"' :: rest => quotedLine? (rest.length + 1) rest
  | '\'' :: '\'' :: '\'' :: rest => bareBlock? (rest.length + 1) (dropBreak rest)
  | '\'' :: rest => bareLine? rest
  | _ => none

/-! ## Numbers -/

def isDigitOf (base : Nat) (c : Char) : Bool :=
  match Text.Hex.digit? c with
  | some d => d < base
  | none => false

/-- Digits of a base, with single underscores between them that are dropped. -/
def digits? (base : Nat) (cs : List Char) : Option (List Char × List Char) :=
  let isPart (c : Char) : Bool := isDigitOf base c || c == '_'
  let groups := Text.splitBy (· == '_') (cs.takeWhile isPart)
  if groups.all (!·.isEmpty) then some (groups.flatten, cs.dropWhile isPart) else none

/-- A whole number that sixty-four bits with a sign can hold. -/
def signed? (n : Int) : Option Value :=
  if -0x8000000000000000 ≤ n ∧ n < 0x8000000000000000 then some (.integer n) else none

/-- The value of digits in a base. -/
def valueIn (base : Nat) (ds : List Char) : Nat :=
  ds.foldl (fun acc d => acc * base + (Text.Hex.digit? d).getD 0) 0

/-- The exponent of a number, if one follows. -/
def exponentAt? (cs : List Char) : Option (Option Int × List Char) :=
  let power (negative : Bool) (rest : List Char) : Option (Option Int × List Char) :=
    (digits? 10 rest).map fun r =>
      let e : Int := Nat.ofDigitChars 10 r.1 0
      (some (if negative then -e else e), r.2)
  let signed (rest : List Char) : Option (Option Int × List Char) :=
    match rest with
    | '+' :: rest => power false rest
    | '-' :: rest => power true rest
    | rest => power false rest
  match cs with
  | 'e' :: rest => signed rest
  | 'E' :: rest => signed rest
  | cs => some (none, cs)

/-- A power of ten beyond which every number is zero or infinite. -/
def clampPower (digits : Nat) (e : Int) : Int :=
  max (-(digits : Int) - 2000) (min e 2000)

/-- A floating-point number, which must not be too large unless it is negative. -/
def floatOf (negative : Bool) (ds : List Char) (e : Int) : Option Value :=
  let x := Number.Binary64.ofDecimal negative (Nat.ofDigitChars 10 ds 0) (clampPower ds.length e)
  if x.isInfinite && !x.isNegative then none else some (.float x)

/-- A number in decimal whose sign is gone. A leading zero stands alone. -/
def decimalAt? (negative : Bool) (cs : List Char) : Option (Value × List Char) :=
  let whole : Option (List Char × List Char) :=
    match cs with
    | '0' :: rest => some (['0'], rest)
    | cs => digits? 10 cs
  match whole with
  | none => none
  | some (ds, '.' :: rest) =>
    match digits? 10 rest with
    | none => none
    | some (fs, rest) =>
      match exponentAt? rest with
      | none => none
      | some (e, rest) =>
        (floatOf negative (ds ++ fs) (e.getD 0 - (fs.length : Int))).map (·, rest)
  | some (ds, rest) =>
    match exponentAt? rest with
    | none => none
    | some (some e, rest) => (floatOf negative ds e).map (·, rest)
    | some (none, rest) =>
      let n : Int := Nat.ofDigitChars 10 ds 0
      (signed? (if negative then -n else n)).map (·, rest)

/-- A floating-point number that is a word. -/
def specialAt? (negative : Bool) (cs : List Char) : Option (Value × List Char) :=
  match cs with
  | 'i' :: 'n' :: 'f' :: rest => some (.float (Number.Binary64.infinity negative), rest)
  | 'n' :: 'a' :: 'n' :: rest => some (.float Number.Binary64.nan, rest)
  | _ => none

/-- A number, a date or a time. -/
def numberAt? (cs : List Char) : Option (Value × List Char) :=
  if startsMoment cs then
    (momentAt? cs).map fun r => (.moment (String.ofList r.1), r.2)
  else
    match cs with
    | '+' :: rest => (specialAt? false rest).or (decimalAt? false rest)
    | '-' :: rest => (specialAt? true rest).or (decimalAt? true rest)
    | '0' :: 'x' :: rest => (digits? 16 rest).bind fun r => (signed? (valueIn 16 r.1)).map (·, r.2)
    | '0' :: 'o' :: rest => (digits? 8 rest).bind fun r => (signed? (valueIn 8 r.1)).map (·, r.2)
    | '0' :: 'b' :: rest => (digits? 2 rest).bind fun r => (signed? (valueIn 2 r.1)).map (·, r.2)
    | cs => (specialAt? false cs).or (decimalAt? false cs)

/-! ## Keys -/

/-- One part of a key. -/
def keyPartAt? (cs : List Char) : Option (String × List Char) :=
  match cs with
  | '"' :: rest => (quotedLine? (rest.length + 1) rest).map fun r => (String.ofList r.1, r.2)
  | '\'' :: rest => (bareLine? rest).map fun r => (String.ofList r.1, r.2)
  | cs =>
    let word := cs.takeWhile isKeyChar
    if word.isEmpty then none else some (String.ofList word, cs.dropWhile isKeyChar)

/-- The parts of a key with dots between them. Spaces around the parts are passed over. -/
def keyPartsAt? : Nat → Read (List String)
  | 0, _ => none
  | fuel + 1, cs =>
    match keyPartAt? (cs.dropWhile isSpace) with
    | none => none
    | some (part, rest) =>
      match rest.dropWhile isSpace with
      | '.' :: rest => (keyPartsAt? fuel rest).map fun r => (part :: r.1, r.2)
      | rest => some ([part], rest)

/-- A key: the parts before the last, and the last. -/
def keyAt? (cs : List Char) : Option ((List String × String) × List Char) :=
  match keyPartsAt? (cs.length + 1) cs with
  | none => none
  | some (parts, rest) =>
    if nestingLimit ≤ parts.length then none
    else parts.getLast?.map fun last => ((parts.dropLast, last), rest)

/-! ## Values -/

mutual
/-- A value, with `depth` containers around it. -/
def valueAt? : Nat → Nat → Read Value
  | 0, _, _ => none
  | fuel + 1, depth, cs =>
    match cs with
    | [] => none
    | '"' :: _ => (textAt? cs).map fun r => (.text (String.ofList r.1), r.2)
    | '\'' :: _ => (textAt? cs).map fun r => (.text (String.ofList r.1), r.2)
    | '[' :: rest =>
      if nestingLimit ≤ depth + 1 then none
      else (itemsAt? fuel (depth + 1) rest).map fun r => (.array r.1, r.2)
    | 't' :: 'r' :: 'u' :: 'e' :: rest => some (.boolean true, rest)
    | 'f' :: 'a' :: 'l' :: 's' :: 'e' :: rest => some (.boolean false, rest)
    | c :: rest =>
      if c.toNat = 0x7B then
        if nestingLimit ≤ depth + 1 then none
        else (entriesAt? fuel (depth + 1) true (.header, []) rest).map fun r =>
          (.table (finishEntries r.1.2), r.2)
      else numberAt? cs
/-- The rest of an array. -/
def itemsAt? : Nat → Nat → Read (List Value)
  | 0, _, _ => none
  | fuel + 1, depth, cs =>
    match skipLines (cs.length + 1) cs with
    | ']' :: rest => some ([], rest)
    | cs =>
      match valueAt? fuel depth cs with
      | none => none
      | some (v, rest) =>
        match skipLines (rest.length + 1) rest with
        | ',' :: rest => (itemsAt? fuel depth rest).map fun r => (v :: r.1, r.2)
        | ']' :: rest => some ([v], rest)
        | _ => none
/-- The rest of a table on one line. It may be empty, but no comma stands before its end. -/
def entriesAt? : Nat → Nat → Bool → Section → Read Section
  | 0, _, _, _, _ => none
  | fuel + 1, depth, first, s, cs =>
    match cs.dropWhile isSpace with
    | [] => none
    | c :: more =>
      if first && c.toNat == 0x7D then some (s, more)
      else
        match keyAt? (c :: more) with
        | some ((path, key), '=' :: rest) =>
          match valueAt? fuel depth (rest.dropWhile isSpace) with
          | none => none
          | some (v, rest) =>
            match addValue path key v s, rest.dropWhile isSpace with
            | some s, ',' :: rest => entriesAt? fuel depth false s rest
            | some s, e :: rest => if e.toNat = 0x7D then some (s, rest) else none
            | _, _ => none
        | _ => none
end

/-! ## Documents -/

/-- A document as far as it has been read: its tables, and the header that the next keys follow. -/
structure Draft where
  root : Section
  path : List String

/-- Reads one key with its value, or one header, at the start of a line. -/
def lineAt? (d : Draft) (cs : List Char) : Option (Draft × List Char) :=
  match cs with
  | '[' :: '[' :: rest =>
    match keyAt? rest with
    | some ((path, key), ']' :: ']' :: rest) =>
      (openTables path key d.root).map fun root => (⟨root, path ++ [key]⟩, rest)
    | _ => none
  | '[' :: rest =>
    match keyAt? rest with
    | some ((path, key), ']' :: rest) =>
      (openTable path key d.root).map fun root => (⟨root, path ++ [key]⟩, rest)
    | _ => none
  | cs =>
    match keyAt? cs with
    | some ((path, key), '=' :: rest) =>
      match valueAt? (2 * rest.length + 2) 0 (rest.dropWhile isSpace) with
      | none => none
      | some (v, rest) =>
        (changeAt .implied (addValue path key v) d.path d.root).map fun root =>
          (⟨root, d.path⟩, rest)
    | _ => none

/-- Reads lines to the end of the text. -/
def linesOf? : Nat → Draft → List Char → Option Draft
  | 0, _, _ => none
  | fuel + 1, d, cs =>
    match skipLines (cs.length + 1) cs with
    | [] => some d
    | cs =>
      match lineAt? d cs with
      | none => none
      | some (d, rest) => (endLine? rest).bind (linesOf? fuel d)

/-- The table that a text describes, or nothing if it is no TOML. A byte order mark at the start is
passed over. -/
def parse? (s : String) : Option (List (String × Value)) :=
  let cs := s.toList
  let cs := if cs.head? = some (Char.ofNat 0xFEFF) then cs.drop 1 else cs
  (linesOf? (cs.length + 1) ⟨(.header, []), []⟩ cs).map fun d => finishEntries d.root.2

end HubPublisher.Toml
