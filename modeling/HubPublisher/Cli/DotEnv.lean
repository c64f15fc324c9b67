import HubPublisher.Text.Blank
import HubPublisher.Text.Split
import HubPublisher.Text.Utf8

/-!
Files of environment variables: one `NAME=value` a line, with quotes, comments and references to
other variables.

A value may go over several lines inside quotes. Reading stops at the first line that is malformed;
the variables before it count. A variable that is set already keeps its value.
-/
namespace HubPublisher.Cli.DotEnv

open Text

/-- Variables by name, the latest first. -/
abbrev Variables := List (String × String)

/-! ## Lines -/

/-- Where the end of a piece of text leaves the reader. -/
inductive Place where
  | complete
  | afterSpace
  | escape
  | strongQuote
  | strongEscape
  | weakQuote
  | weakEscape
  deriving DecidableEq, Repr

/-- The place after an opening character outside quotes. -/
def opened (c : Char) : Place :=
  if c = '\\' then .escape
  else if c = '"' then .weakQuote
  else if c = '\'' then .strongQuote
  else .complete

/-- The place after one more character. -/
def Place.next (p : Place) (c : Char) : Place :=
  match p with
  | .afterSpace => opened c
  | .escape => .complete
  | .complete =>
    if isBlankChar c && c != '\n' && c != '\r' then .afterSpace else opened c
  | .weakQuote => if c = '\\' then .weakEscape else if c = '"' then .complete else .weakQuote
  | .weakEscape => .weakQuote
  | .strongQuote =>
    if c = '\\' then .strongEscape else if c = '\'' then .complete else .strongQuote
  | .strongEscape => .strongQuote

/-- Follows a line to its end, or to a comment; the flag tells which, and the text is what comes
before it. -/
def follow (p : Place) : List Char → List Char × Place × Bool
  | [] => ([], p, false)
  | c :: cs =>
    if p = .afterSpace ∧ c = '#' then ([], p, true)
    else
      let (text, q, comment) := follow (p.next c) cs
      (c :: text, q, comment)

/-- The lines of octets, each with its end of line. -/
def octetLines : List UInt8 → List (List UInt8)
  | [] => []
  | b :: bs =>
    if b = 10 then [b] :: octetLines bs
    else match octetLines bs with
      | [] => [[b]]
      | line :: more => (b :: line) :: more

/-- A line without its end. -/
def dropEnd (line : List Char) : List Char :=
  match line.reverse with
  | '\n' :: '\r' :: cs => cs.reverse
  | '\n' :: cs => cs.reverse
  | _ => line

/-- Lines joined where quotes go over the end of one; `none` stands for a line that is no text, or
for an end inside quotes or after a blank. What has been read of the line in hand comes first. -/
def joinLines (held : List Char) (p : Place) :
    List (Option (List Char)) → List (Option (List Char))
  | [] => if p = .complete then [] else [none]
  | none :: _ => [none]
  | some line :: rest =>
    if ((held ++ line).dropWhile isBlankChar).head? = some '#' then
      some [] :: joinLines [] .complete rest
    else
      match follow p line with
      | (text, _, true) => some (held ++ text) :: joinLines [] .complete rest
      | (text, .complete, false) => some (dropEnd (held ++ text)) :: joinLines [] .complete rest
      | (text, q, false) => joinLines (held ++ text) q rest

/-! ## Values -/

/-- What a reference to a variable is read as far as. -/
inductive Reference where
  | none
  | plain (name : List Char)
  | braced (name : List Char)
  deriving DecidableEq, Repr

/-- A value as far as it has been read. -/
structure Value where
  text : List Char
  strong : Bool
  weak : Bool
  escaped : Bool
  /-- After a blank only a comment may follow. -/
  ended : Bool
  reference : Reference

namespace Value

def start : Value := ⟨[], false, false, false, false, .none⟩

def push (v : Value) (c : Char) : Value := { v with text := v.text ++ [c] }

/-- Puts the value of the variable in place of the reference to it. -/
def resolve (lookup : String → String) (v : Value) : Value :=
  let put (name : List Char) :=
    { v with text := v.text ++ (lookup (String.ofList name)).toList, reference := .none }
  match v.reference with
  | .none => v
  | .plain name => put name
  | .braced name => put name

/-- Whether a character can be part of a name that is referred to; every character beyond ASCII
counts as a letter. -/
def isNameChar (c : Char) : Bool := c.isAlphanum || 128 ≤ c.toNat

/-- The characters that a backslash may stand before, with what they then mean. -/
def escape? (c : Char) : Option Char :=
  if c = '\\' ∨ c = '\'' ∨ c = '"' ∨ c = '$' ∨ c = ' ' then some c
  else if c = 'n' then some '\n'
  else none

/-- One more character of a reference. -/
def refer (lookup : String → String) (v : Value) (c : Char) : Value :=
  match v.reference with
  | .none => v
  | .plain name =>
    if isNameChar c then { v with reference := .plain (name ++ [c]) }
    else if c = Char.ofNat 0x7B ∧ name = [] then { v with reference := .braced [] }
    else if c = '$' then { v.resolve lookup with reference := .plain [] }
    else (v.resolve lookup).push c
  | .braced name =>
    if c = Char.ofNat 0x7D then v.resolve lookup else { v with reference := .braced (name ++ [c]) }

/-- One more character outside strong quotes and references. -/
def char (v : Value) (c : Char) : Value :=
  if c = '$' then { v with reference := .plain [] }
  else if v.weak then
    if c = '"' then { v with weak := false }
    else if c = '\\' then { v with escaped := true }
    else v.push c
  else if c = '\'' then { v with strong := true }
  else if c = '"' then { v with weak := true }
  else if c = '\\' then { v with escaped := true }
  else if c = ' ' ∨ c = '\t' then { v with ended := true }
  else v.push c

/-- Reads on to the end of the line. -/
def readFrom (lookup : String → String) (v : Value) : List Char → Option Value
  | [] => some v
  | c :: cs =>
    if v.ended then
      if c = ' ' ∨ c = '\t' then readFrom lookup v cs
      else if c = '#' then some v
      else none
    else if v.escaped then
      match escape? c with
      | some d => readFrom lookup { v.push d with escaped := false } cs
      | none => none
    else if v.strong then
      readFrom lookup (if c = '\'' then { v with strong := false } else v.push c) cs
    else if v.reference ≠ .none then readFrom lookup (v.refer lookup c) cs
    else readFrom lookup (v.char c) cs

end Value

/-- The value at the end of a line; quotes and braces have to be closed. -/
def readValue (lookup : String → String) (cs : List Char) : Option String :=
  match Value.readFrom lookup .start cs with
  | none => none
  | some v =>
    match v.reference with
    | .braced _ => none
    | _ => if v.strong || v.weak then none else some (String.ofList (v.resolve lookup).text)

/-! ## Assignments -/

def skipBlanks (cs : List Char) : List Char := cs.dropWhile isBlankChar

def isKeyStart (c : Char) : Bool := c.isAlpha || c == '_'

def isKeyChar (c : Char) : Bool := c.isAlphanum || c == '_' || c == '.'

/-- A name and what follows it and the blanks after it. -/
def readKey (cs : List Char) : Option (List Char × List Char) :=
  match cs with
  | [] => none
  | c :: _ =>
    if isKeyStart c then some (cs.takeWhile isKeyChar, skipBlanks (cs.dropWhile isKeyChar))
    else none

/-- What follows an equals sign. -/
def dropEqual : List Char → Option (List Char)
  | '=' :: cs => some cs
  | _ => none

/-- The name in a line and what follows the equals sign; the word `export` may come before. -/
def readName (cs : List Char) : Option (List Char × List Char) :=
  match readKey cs with
  | none => none
  | some (key, rest) =>
    match dropEqual rest with
    | some rest => some (key, rest)
    | none =>
      if key = "export".toList then
        match readKey rest with
        | none => none
        | some (key, rest) => (dropEqual rest).map (key, ·)
      else none

/-- Whether a line has nothing more to read. -/
def isOver (cs : List Char) : Bool := cs.isEmpty || cs.head? == some '#'

/-- What a line says: nothing, a variable and its value, or something malformed. -/
inductive Line where
  | empty
  | assignment (name value : String)
  | malformed
  deriving DecidableEq, Repr

def Line.of (lookup : String → String) (cs : List Char) : Line :=
  let cs := skipBlanks cs
  if isOver cs then empty
  else
    match readName cs with
    | none => malformed
    | some (name, rest) =>
      let rest := skipBlanks rest
      if isOver rest then assignment (String.ofList name) ""
      else
        match readValue lookup rest with
        | some value => assignment (String.ofList name) value
        | none => malformed

/-! ## Files -/

/-- Reads lines one after the other; each sees the variables set before it. -/
def readLines (env : String → Option String) (vars : Variables) :
    List (Option (List Char)) → Variables
  | [] => vars
  | none :: _ => vars
  | some cs :: rest =>
    let lookup (name : String) := ((env name).or (vars.lookup name)).getD ""
    match Line.of lookup cs with
    | .empty => readLines env vars rest
    | .malformed => vars
    | .assignment name value => readLines env
      (if (vars.lookup name).isSome then vars else (name, value) :: vars) rest

/-- Octets without a byte order mark. -/
def withoutMark : List UInt8 → List UInt8
  | 0xEF :: 0xBB :: 0xBF :: rest => rest
  | octets => octets

/-- The lines of a file. -/
def fileLines (octets : List UInt8) : List (Option (List Char)) :=
  joinLines [] .complete ((octetLines (withoutMark octets)).map Utf8.decode?)

/-- The environment with the variables of a file added. -/
def extend (octets : List UInt8) (env : String → Option String) : String → Option String :=
  let vars := readLines env [] (fileLines octets)
  fun name => (env name).or (vars.lookup name)

end HubPublisher.Cli.DotEnv
