import HubPublisher.Json.Value
import HubPublisher.Text.Hex
import HubPublisher.Text.Utf8

/-!
The words of JSON text: white space, literals, quoted texts and numbers.

Every reader takes the characters that are left and gives what it read with the characters after
it. A text goes wrong in one of three ways: it breaks the grammar, it ends too early, or it is well
formed up to a value of the wrong shape.

Quoted texts and numbers have two readers each. One takes their value; the other passes over a
value that nobody asked for, and asks less of it: halves of surrogate pairs may stand alone, and a
number may have any size.
-/
namespace HubPublisher.Json

/-- What a text has not finished when it ends. -/
inductive Unfinished where
  | value
  | list
  | object
  | text
  deriving DecidableEq, Repr

def Unfinished.message : Unfinished → String
  | value => "EOF while parsing a value"
  | list => "EOF while parsing a list"
  | object => "EOF while parsing an object"
  | text => "EOF while parsing a string"

/-- How a text breaks the grammar. -/
inductive Breach where
  | expectedColon
  | expectedItemEnd
  | expectedMemberEnd
  | expectedWord
  | expectedValue
  | invalidEscape
  | invalidNumber
  | numberOutOfRange
  | controlCharacter
  | keyNotText
  | loneSurrogate
  | unfinishedEscape
  | trailingComma
  | trailingCharacters
  | tooDeep
  deriving DecidableEq, Repr

def Breach.message : Breach → String
  | expectedColon => "expected `:`"
  | expectedItemEnd => "expected `,` or `]`"
  | expectedMemberEnd => "expected `,` or `\x7d`"
  | expectedWord => "expected ident"
  | expectedValue => "expected value"
  | invalidEscape => "invalid escape"
  | invalidNumber => "invalid number"
  | numberOutOfRange => "number out of range"
  | controlCharacter => "control character (\\u0000-\\u001F) found while parsing a string"
  | keyNotText => "key must be a string"
  | loneSurrogate => "lone leading surrogate in hex escape"
  | unfinishedEscape => "unexpected end of hex escape"
  | trailingComma => "trailing comma"
  | trailingCharacters => "trailing characters"
  | tooDeep => "recursion limit exceeded"

/-- How reading goes wrong. -/
inductive Fault where
  | malformed (breach : Breach)
  | truncated (inside : Unfinished)
  /-- A well-formed value has the wrong shape. -/
  | mismatch (message : String)
  deriving DecidableEq, Repr

def Fault.message : Fault → String
  | malformed breach => breach.message
  | truncated inside => inside.message
  | mismatch message => message

abbrev Reader (α : Type) := List Char → Except Fault (α × List Char)

def isSpace (c : Char) : Bool := c == ' ' || c == '\n' || c == '\t' || c == '\r'

/-- Takes the rest of a literal whose first letter is gone. -/
def readWord : List Char → List Char → Except Fault (List Char)
  | [], cs => .ok cs
  | _ :: _, [] => .error (.truncated .value)
  | w :: word, c :: cs => if c = w then readWord word cs else .error (.malformed .expectedWord)

/-! ## Quoted texts -/

/-- What a short escape stands for. -/
def shortEscape? (c : Char) : Option Char :=
  if c = '"' then some '"'
  else if c = '\\' then some '\\'
  else if c = '/' then some '/'
  else if c = 'b' then some (Char.ofNat 8)
  else if c = 'f' then some (Char.ofNat 12)
  else if c = 'n' then some '\n'
  else if c = 'r' then some '\r'
  else if c = 't' then some '\t'
  else none

/-- What is wrong where four hexadecimal digits should stand and do not: too little is left if
fewer than four octets are. -/
def hexFault (cs : List Char) : Fault :=
  if (Text.Utf8.encode cs).length < 4 then .truncated .text else .malformed .invalidEscape

def isHighSurrogate (n : Nat) : Bool := 0xD800 ≤ n && n ≤ 0xDBFF

def isLowSurrogate (n : Nat) : Bool := 0xDC00 ≤ n && n ≤ 0xDFFF

/-- The character that a pair of surrogates names. -/
def ofSurrogates (high low : Nat) : Char :=
  Char.ofNat ((high - 0xD800) * 0x400 + (low - 0xDC00) + 0x10000)

/-- Puts a character before the text that follows it. -/
def prepend (c : Char) : Except Fault (List Char × List Char) → Except Fault (List Char × List Char)
  | .ok (cs, rest) => .ok (c :: cs, rest)
  | .error e => .error e

/-- The rest of a quoted text whose opening mark is gone. -/
def readChars : List Char → Except Fault (List Char × List Char)
  | [] => .error (.truncated .text)
  | c :: cs =>
    if c = '"' then .ok ([], cs)
    else if c = '\\' then
      match cs with
      | [] => .error (.truncated .text)
      | 'u' :: a :: b :: x :: d :: rest =>
        match Text.Hex.value? [a, b, x, d] with
        | none => .error (.malformed .invalidEscape)
        | some n =>
          if isLowSurrogate n then .error (.malformed .loneSurrogate)
          else if isHighSurrogate n then
            match rest with
            | '\\' :: 'u' :: a' :: b' :: x' :: d' :: rest' =>
              match Text.Hex.value? [a', b', x', d'] with
              | none => .error (.malformed .invalidEscape)
              | some m =>
                if isLowSurrogate m then prepend (ofSurrogates n m) (readChars rest')
                else .error (.malformed .loneSurrogate)
            | [] => .error (.truncated .text)
            | ['\\'] => .error (.truncated .text)
            | '\\' :: 'u' :: few => .error (hexFault few)
            | _ => .error (.malformed .unfinishedEscape)
          else prepend (Char.ofNat n) (readChars rest)
      | 'u' :: few => .error (hexFault few)
      | e :: rest =>
        match shortEscape? e with
        | some x => prepend x (readChars rest)
        | none => .error (.malformed .invalidEscape)
    else if c.toNat < 32 then .error (.malformed .controlCharacter)
    else prepend c (readChars cs)

/-- A quoted text whose opening mark is gone. -/
def readText : Reader String := fun cs =>
  match readChars cs with
  | .ok (s, rest) => .ok (String.ofList s, rest)
  | .error e => .error e

/-- Passes over the rest of a quoted text. -/
def skipChars : List Char → Except Fault (List Char)
  | [] => .error (.truncated .text)
  | c :: cs =>
    if c = '"' then .ok cs
    else if c = '\\' then
      match cs with
      | [] => .error (.truncated .text)
      | 'u' :: a :: b :: x :: d :: rest =>
        match Text.Hex.value? [a, b, x, d] with
        | none => .error (.malformed .invalidEscape)
        | some _ => skipChars rest
      | 'u' :: few => .error (hexFault few)
      | e :: rest =>
        match shortEscape? e with
        | some _ => skipChars rest
        | none => .error (.malformed .invalidEscape)
    else if c.toNat < 32 then .error (.malformed .controlCharacter)
    else skipChars cs

/-! ## Numbers -/

def digitValue (c : Char) : Nat := c.toNat - 48

/-- Takes digits into a significand for as long as sixty-four bits can hold it, and gives the
significand with how many digits were left over. -/
def absorb (significand : Nat) : List Char → Nat × Nat
  | [] => (significand, 0)
  | d :: ds =>
    let next := significand * 10 + digitValue d
    if next < 0x10000000000000000 then absorb next ds else (significand, ds.length + 1)

/-- Brings a far negative exponent into the reach of the powers of ten by dividing. Three divisions
take any significand to zero. -/
def divideFar : Nat → Number.Binary64 → Int → Number.Binary64 × Int
  | 0, x, e => (x, e)
  | fuel + 1, x, e =>
    if e < -308 ∧ x.isZero = false then divideFar fuel (x.div (Number.Binary64.tenTo 308)) (e + 308)
    else (x, e)

/-- The number `significand · 10 ^ exponent`, computed by one multiplication or division with a
rounded power of ten, or `none` if it is too large. -/
def scaled? (negative : Bool) (significand : Nat) (exponent : Int) : Option Number.Binary64 :=
  let (x, e) := divideFar 3 (Number.Binary64.ofNat significand) exponent
  let magnitude :=
    if x.isZero then some x
    else if 308 < e then none
    else if 0 ≤ e then
      let y := x.mul (Number.Binary64.tenTo e.toNat)
      if y.isInfinite then none else some y
    else some (x.div (Number.Binary64.tenTo (-e).toNat))
  magnitude.map fun y => if negative then y.neg else y

/-- A floating-point number from its parts. -/
def floatOf (negative : Bool) (significand : Nat) (exponent : Int) : Except Fault Value :=
  match scaled? negative significand exponent with
  | some x => .ok (.float x)
  | none => .error (.malformed .numberOutOfRange)

/-- A number without point and exponent: exact where sixty-four bits hold it. Minus zero is a
floating-point number. -/
def wholeOf (negative : Bool) (significand : Nat) : Except Fault Value :=
  if negative then
    if significand = 0 then floatOf true 0 0
    else match Integer.ofInt? (-(significand : Int)) with
      | some n => .ok (.integer n)
      | none => floatOf true significand 0
  else match Integer.ofInt? significand with
    | some n => .ok (.integer n)
    | none => floatOf false significand 0

/-- What is wrong where a digit should stand and does not. -/
def unfinishedNumber (rest : List Char) : Fault :=
  if rest.isEmpty then .truncated .value else .malformed .invalidNumber

/-- The sign of an exponent and what follows it. -/
def readSign : List Char → Bool × List Char
  | '+' :: rest => (false, rest)
  | '-' :: rest => (true, rest)
  | cs => (false, cs)

/-- The exponent after its mark, and the number it completes. An exponent past thirty-one bits
makes zero of everything or is refused. -/
def readExponent (negative : Bool) (significand : Nat) (start : Int) : Reader Value := fun cs =>
  let (down, cs) := readSign cs
  let ds := cs.takeWhile Char.isDigit
  let rest := cs.dropWhile Char.isDigit
  if ds.isEmpty then .error (unfinishedNumber rest)
  else
    let e := Nat.ofDigitChars 10 ds 0
    if e < 0x80000000 then
      (floatOf negative significand (if down then start - e else start + e)).map (·, rest)
    else if significand ≠ 0 ∧ down = false then .error (.malformed .numberOutOfRange)
    else (floatOf negative 0 0).map (·, rest)

/-- The digits after a point, and the number they complete. -/
def readFraction (negative : Bool) (significand : Nat) (start : Int) : Reader Value := fun cs =>
  let ds := cs.takeWhile Char.isDigit
  let rest := cs.dropWhile Char.isDigit
  if ds.isEmpty then .error (unfinishedNumber rest)
  else
    let (significand, left) := absorb significand ds
    let exponent := start - ((ds.length - left : Nat) : Int)
    match rest with
    | 'e' :: rest => readExponent negative significand exponent rest
    | 'E' :: rest => readExponent negative significand exponent rest
    | rest => (floatOf negative significand exponent).map (·, rest)

/-- A number whose sign is gone. Digits that the significand cannot hold count as zeros. -/
def readNumber (negative : Bool) : Reader Value := fun cs =>
  let ds := cs.takeWhile Char.isDigit
  let rest := cs.dropWhile Char.isDigit
  match ds with
  | [] => .error (unfinishedNumber rest)
  | '0' :: _ :: _ => .error (.malformed .invalidNumber)
  | _ =>
    let (significand, left) := absorb 0 ds
    match rest with
    | '.' :: rest => readFraction negative significand left rest
    | 'e' :: rest => readExponent negative significand left rest
    | 'E' :: rest => readExponent negative significand left rest
    | rest =>
      if left = 0 then (wholeOf negative significand).map (·, rest)
      else (floatOf negative significand left).map (·, rest)

/-- Passes over the exponent of a number. -/
def skipExponent (cs : List Char) : Except Fault (List Char) :=
  let cs := (readSign cs).2
  if (cs.takeWhile Char.isDigit).isEmpty then .error (.malformed .invalidNumber)
  else .ok (cs.dropWhile Char.isDigit)

/-- Passes over a number whose sign is gone. -/
def skipNumber (cs : List Char) : Except Fault (List Char) :=
  let exponent (rest : List Char) : Except Fault (List Char) :=
    match rest with
    | 'e' :: rest => skipExponent rest
    | 'E' :: rest => skipExponent rest
    | rest => .ok rest
  match cs.takeWhile Char.isDigit with
  | [] => .error (.malformed .invalidNumber)
  | '0' :: _ :: _ => .error (.malformed .invalidNumber)
  | _ =>
    match cs.dropWhile Char.isDigit with
    | '.' :: rest =>
      if (rest.takeWhile Char.isDigit).isEmpty then .error (.malformed .invalidNumber)
      else exponent (rest.dropWhile Char.isDigit)
    | rest => exponent rest

end HubPublisher.Json
