import HubPublisher.Json.Scanner
import HubPublisher.Text.Quoted

/-!
Reading JSON text from left to right.

A value that is kept is read whole and nests at most 127 containers. A value that nobody asked for
is passed over, however deep it nests. A reader of records walks an object or an array by the steps
here and reads each part as what it should be, so the first thing wrong from the left decides.
-/
namespace HubPublisher.Json

/-- How deep the containers of a text may nest. -/
def maxDepth : Nat := 127

/-! ## Walking arrays and objects -/

/-- Where the next item of an array starts, or `none` at its end. -/
def nextItem (first : Bool) (cs : List Char) : Except Fault (Option (List Char)) :=
  match cs.dropWhile isSpace with
  | [] => .error (.truncated .list)
  | ']' :: _ => .ok none
  | ',' :: rest =>
    if first then .ok (some (',' :: rest))
    else match rest.dropWhile isSpace with
      | [] => .error (.truncated .value)
      | ']' :: _ => .error (.malformed .trailingComma)
      | rest => .ok (some rest)
  | cs => if first then .ok (some cs) else .error (.malformed .expectedItemEnd)

/-- The end of an array that holds all it should. -/
def endItems (cs : List Char) : Except Fault (List Char) :=
  match cs.dropWhile isSpace with
  | [] => .error (.truncated .list)
  | ']' :: rest => .ok rest
  | ',' :: rest =>
    .error (.malformed (if (rest.dropWhile isSpace).head? = some ']' then .trailingComma
      else .trailingCharacters))
  | _ => .error (.malformed .trailingCharacters)

/-- A key whose opening mark is gone. -/
def readKey (cs : List Char) : Except Fault (Option String × List Char) :=
  (readText cs).map fun r => (some r.1, r.2)

/-- The key of the next member of an object, or `none` at its end. -/
def nextKey (first : Bool) (cs : List Char) : Except Fault (Option String × List Char) :=
  match cs.dropWhile isSpace with
  | [] => .error (.truncated .object)
  | '}' :: rest => .ok (none, rest)
  | '"' :: rest => if first then readKey rest else .error (.malformed .expectedMemberEnd)
  | ',' :: rest =>
    if first then .error (.malformed .keyNotText)
    else match rest.dropWhile isSpace with
      | [] => .error (.truncated .value)
      | '"' :: rest => readKey rest
      | '}' :: _ => .error (.malformed .trailingComma)
      | _ => .error (.malformed .keyNotText)
  | _ => .error (.malformed (if first then .keyNotText else .expectedMemberEnd))

/-- The colon between a key and its value. -/
def readColon (cs : List Char) : Except Fault (List Char) :=
  match cs.dropWhile isSpace with
  | [] => .error (.truncated .object)
  | ':' :: rest => .ok rest
  | _ => .error (.malformed .expectedColon)

/-- Walks the members of an object whose opening brace is gone. Each step gets the key and the
characters from the colon on. -/
def readMembers {σ : Type} (step : String → σ → Reader σ) : Nat → Bool → σ → Reader σ
  | 0, _, _ => fun _ => .error (.malformed .tooDeep)
  | fuel + 1, first, state => fun cs =>
    match nextKey first cs with
    | .error e => .error e
    | .ok (none, rest) => .ok (state, rest)
    | .ok (some key, rest) =>
      match step key state rest with
      | .error e => .error e
      | .ok (state, rest) => readMembers step fuel false state rest

/-- Walks the members of an object: no object has as many members as characters are left. -/
def walkMembers {σ : Type} (step : String → σ → Reader σ) (state : σ) : Reader σ := fun cs =>
  readMembers step (cs.length + 1) true state cs

/-! ## Values that are passed over -/

mutual
/-- Passes over a value. -/
def skipValueWith : Nat → List Char → Except Fault (List Char)
  | 0, _ => .error (.malformed .tooDeep)
  | fuel + 1, cs =>
    match cs.dropWhile isSpace with
    | [] => .error (.truncated .value)
    | 'n' :: rest => readWord ['u', 'l', 'l'] rest
    | 't' :: rest => readWord ['r', 'u', 'e'] rest
    | 'f' :: rest => readWord ['a', 'l', 's', 'e'] rest
    | '-' :: rest => skipNumber rest
    | '"' :: rest => skipChars rest
    | '[' :: rest => skipItemsWith fuel true rest
    | '{' :: rest => skipMembersWith fuel true rest
    | c :: rest => if c.isDigit then skipNumber (c :: rest) else .error (.malformed .expectedValue)
/-- Passes over the rest of an array. -/
def skipItemsWith : Nat → Bool → List Char → Except Fault (List Char)
  | 0, _, _ => .error (.malformed .tooDeep)
  | fuel + 1, first, cs =>
    match cs.dropWhile isSpace with
    | [] => .error (.truncated .list)
    | ']' :: rest => .ok rest
    | c :: rest =>
      let start : Except Fault (List Char) :=
        if first then .ok (c :: rest)
        else if c = ',' then .ok rest
        else .error (.malformed .expectedItemEnd)
      match start with
      | .error e => .error e
      | .ok cs =>
        match skipValueWith fuel cs with
        | .error e => .error e
        | .ok rest => skipItemsWith fuel false rest
/-- Passes over the rest of an object. -/
def skipMembersWith : Nat → Bool → List Char → Except Fault (List Char)
  | 0, _, _ => .error (.malformed .tooDeep)
  | fuel + 1, first, cs =>
    match cs.dropWhile isSpace with
    | [] => .error (.truncated .object)
    | '}' :: rest => .ok rest
    | c :: rest =>
      let start : Except Fault (List Char) :=
        if first then .ok (c :: rest)
        else if c = ',' then .ok (rest.dropWhile isSpace)
        else .error (.malformed .expectedMemberEnd)
      match start with
      | .error e => .error e
      | .ok [] => .error (.truncated .object)
      | .ok ('"' :: rest) =>
        match skipChars rest with
        | .error e => .error e
        | .ok rest =>
          match readColon rest with
          | .error e => .error e
          | .ok rest =>
            match skipValueWith fuel rest with
            | .error e => .error e
            | .ok rest => skipMembersWith fuel false rest
      | .ok _ => .error (.malformed .keyNotText)
end

/-- Passes over a value. -/
def skipValue (cs : List Char) : Except Fault (List Char) := skipValueWith (2 * cs.length + 2) cs

/-! ## Values that are kept -/

mutual
/-- Reads a value with at most `depth` more containers one in another. -/
def readValueWith : Nat → Nat → Reader Value
  | 0, _ => fun _ => .error (.malformed .tooDeep)
  | fuel + 1, depth => fun cs =>
    match cs.dropWhile isSpace with
    | [] => .error (.truncated .value)
    | 'n' :: rest => (readWord ['u', 'l', 'l'] rest).map (Value.null, ·)
    | 't' :: rest => (readWord ['r', 'u', 'e'] rest).map (Value.boolean true, ·)
    | 'f' :: rest => (readWord ['a', 'l', 's', 'e'] rest).map (Value.boolean false, ·)
    | '-' :: rest => readNumber true rest
    | '"' :: rest => (readText rest).map fun r => (Value.text r.1, r.2)
    | '[' :: rest =>
      match depth with
      | 0 => .error (.malformed .tooDeep)
      | depth + 1 => (readItemsWith fuel depth true rest).map fun r => (Value.array r.1, r.2)
    | '{' :: rest =>
      match depth with
      | 0 => .error (.malformed .tooDeep)
      | depth + 1 => (readMembersWith fuel depth true rest).map fun r => (Value.object r.1, r.2)
    | c :: rest =>
      if c.isDigit then readNumber false (c :: rest) else .error (.malformed .expectedValue)

/-- Reads the rest of an array. -/
def readItemsWith : Nat → Nat → Bool → Reader (List Value)
  | 0, _, _ => fun _ => .error (.malformed .tooDeep)
  | fuel + 1, depth, first => fun cs =>
    match nextItem first cs with
    | .error e => .error e
    | .ok none => (endItems cs).map ([], ·)
    | .ok (some rest) =>
      match readValueWith fuel depth rest with
      | .error e => .error e
      | .ok (v, rest) => (readItemsWith fuel depth false rest).map fun r => (v :: r.1, r.2)
/-- Reads the rest of an object, its members as they stand. -/
def readMembersWith : Nat → Nat → Bool → Reader (List (String × Value))
  | 0, _, _ => fun _ => .error (.malformed .tooDeep)
  | fuel + 1, depth, first => fun cs =>
    match nextKey first cs with
    | .error e => .error e
    | .ok (none, rest) => .ok ([], rest)
    | .ok (some key, rest) =>
      match readColon rest with
      | .error e => .error e
      | .ok rest =>
        match readValueWith fuel depth rest with
        | .error e => .error e
        | .ok (v, rest) =>
          (readMembersWith fuel depth false rest).map fun r => ((key, v) :: r.1, r.2)
end

/-- Reads a value with at most `depth` containers one in another, the members of its objects as
they stand. -/
def readValue (depth : Nat) : Reader Value := fun cs => readValueWith (2 * cs.length + 2) depth cs

/-! ## Values of a wanted shape -/

/-- How a message names a value of the wrong shape. -/
def Value.describe : Value → String
  | .null => "null"
  | .boolean b => "boolean `" ++ toString b ++ "`"
  | .integer n => "integer `" ++ toString n.val ++ "`"
  | .float x => "floating point `" ++ floatFormat.write x ++ "`"
  | .text s => "string " ++ Text.quoted s
  | .array _ => "sequence"
  | .object _ => "map"

def wrongType (found wanted : String) : Fault :=
  .mismatch ("invalid type: " ++ found ++ ", expected " ++ wanted)

/-- A value in the wrong place. A container is named at its first character; a value of any other
kind has to be well formed to be named. -/
def readMismatch {α : Type} (wanted : String) : Reader α := fun cs =>
  match cs.dropWhile isSpace with
  | '[' :: _ => .error (wrongType "sequence" wanted)
  | '{' :: _ => .error (wrongType "map" wanted)
  | cs =>
    match readValue 0 cs with
    | .error e => .error e
    | .ok (v, _) => .error (wrongType v.describe wanted)

/-- A quoted text. -/
def readString : Reader String := fun cs =>
  match cs.dropWhile isSpace with
  | '"' :: rest => readText rest
  | cs => readMismatch "a string" cs

/-- A value that may be `null`. -/
def readOptional {α : Type} (read : Reader α) : Reader (Option α) := fun cs =>
  match cs.dropWhile isSpace with
  | 'n' :: rest => (readWord ['u', 'l', 'l'] rest).map (none, ·)
  | cs => (read cs).map fun r => (some r.1, r.2)

/-- A value as a whole number of sixty-four bits with a sign. -/
def Value.signed? (v : Value) : Except Fault Int64 :=
  match v with
  | .integer n =>
    if n.val < 0x8000000000000000 then .ok (Int64.ofInt n.val)
    else .error (.mismatch ("invalid value: integer `" ++ toString n.val ++ "`, expected i64"))
  | v => .error (wrongType v.describe "i64")

/-- A whole number of sixty-four bits with a sign. -/
def readSigned : Reader Int64 := fun cs =>
  match cs.dropWhile isSpace with
  | '[' :: _ => .error (wrongType "sequence" "i64")
  | '{' :: _ => .error (wrongType "map" "i64")
  | cs =>
    match readValue 0 cs with
    | .error e => .error e
    | .ok (v, rest) => v.signed?.map (·, rest)

/-- An object, its members as they stand. -/
def readObject (depth : Nat) : Reader (List (String × Value)) := fun cs =>
  match cs.dropWhile isSpace with
  | '{' :: rest =>
    match depth with
    | 0 => .error (.malformed .tooDeep)
    | depth + 1 => readMembersWith (2 * rest.length + 2) depth true rest
  | cs => readMismatch "a map" cs

/-- A whole text: one value and nothing but white space after it. -/
def readWhole {α : Type} (read : Reader α) (s : String) : Except Fault α :=
  match read s.toList with
  | .error e => .error e
  | .ok (a, rest) => if (rest.dropWhile isSpace).isEmpty then .ok a
    else .error (.malformed .trailingCharacters)

/-! ## The same shapes in a value already read -/

def Value.string? : Value → Except Fault String
  | .text s => .ok s
  | v => .error (wrongType v.describe "a string")

/-- A value that may be `null`. -/
def Value.optional? {α : Type} (read : Value → Except Fault α) : Value → Except Fault (Option α)
  | .null => .ok none
  | v => (read v).map some

def Value.object? : Value → Except Fault (List (String × Value))
  | .object members => .ok members
  | v => .error (wrongType v.describe "a map")

end HubPublisher.Json
