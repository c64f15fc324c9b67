import HubPublisher.Text.Hex
import HubPublisher.Text.Split

/-!
Numeric hosts: addresses of version 4 and of version 6, as hosts write them.

An address of version 4 has up to four parts in decimal, octal (a leading zero) or hexadecimal
(a leading `0x`); the last part fills the octets that are left. One of version 6 has eight pieces
of sixteen bits, of which a run of zeros may be left out, and may end in a version 4 address.
-/
namespace HubPublisher.Url

open Text

/-! ## Version 4 -/

/-- The value of digits in a base, or `none` if one of them is no digit of it. -/
def valueIn? (base : Nat) (cs : List Char) : Option Nat :=
  cs.foldl (fun acc c =>
    match acc, Hex.digit? c with
    | some v, some d => if d < base then some (v * base + d) else none
    | _, _ => none) (some 0)

/-- One part of an address; a base mark with nothing after it is zero. -/
def partOfAddress? : List Char → Option Nat
  | [] => none
  | '0' :: 'x' :: rest => valueIn? 16 rest
  | '0' :: 'X' :: rest => valueIn? 16 rest
  | '0' :: c :: rest => valueIn? 8 (c :: rest)
  | cs => valueIn? 10 cs

/-- The parts of a name between its dots, without the empty one after a dot at the end. -/
def dottedParts (cs : List Char) : List (List Char) :=
  let parts := splitBy (· == '.') cs
  if parts.getLast? = some [] then parts.dropLast else parts

/-- Whether the last part of a name is a number, which makes the whole name an address. -/
def endsInNumber (cs : List Char) : Bool :=
  let parts := splitBy (· == '.') cs
  let last :=
    match parts.reverse with
    | [] :: rest => rest.head?
    | part :: _ => some part
    | [] => none
  match last with
  | none => false
  | some part => (!part.isEmpty && part.all Char.isDigit) || (partOfAddress? part).isSome

/-- The number that up to four parts make: all but the last fill one octet each. -/
def joinParts (parts : List Nat) : Option Nat :=
  match parts.reverse with
  | [] => none
  | last :: before =>
    let octets := before.reverse
    if octets.length ≤ 3 ∧ octets.all (· < 256) ∧ last < Nat.pow 256 (4 - octets.length) then
      some (octets.foldl (fun acc b => acc * 256 + b) 0 * Nat.pow 256 (4 - octets.length) + last)
    else none

/-- The address of a name whose last part is a number. -/
def addressOfName? (cs : List Char) : Option Nat :=
  ((dottedParts cs).mapM partOfAddress?).bind joinParts

def writeAddress (n : Nat) : String :=
  let octets := [n / 0x1000000 % 256, n / 0x10000 % 256, n / 256 % 256, n % 256]
  String.intercalate "." (octets.map toString)

/-! ## Version 6 -/

/-- An octet in decimal, without a leading zero, and what follows it. -/
def octetAt? (cs : List Char) : Option (Nat × List Char) :=
  let ds := cs.takeWhile Char.isDigit
  match ds with
  | [] => none
  | '0' :: _ :: _ => none
  | _ =>
    if ds.length ≤ 3 then
      match valueIn? 10 ds with
      | some v => if v < 256 then some (v, cs.dropWhile Char.isDigit) else none
      | none => none
    else none

/-- Four octets with dots between them and nothing after them, as two pieces. -/
def trailingAddress? (cs : List Char) : Option (Nat × Nat) :=
  match octetAt? cs with
  | some (a, '.' :: rest) =>
    match octetAt? rest with
    | some (b, '.' :: rest) =>
      match octetAt? rest with
      | some (c, '.' :: rest) =>
        match octetAt? rest with
        | some (d, []) => some (a * 256 + b, c * 256 + d)
        | _ => none
      | _ => none
    | _ => none
  | _ => none

/-- Pieces as far as they have been read, and where a run of zeros was left out. -/
structure Pieces where
  read : List Nat
  gap : Option Nat

/-- How many pieces are accounted for: a run of zeros stands for at least one. -/
def Pieces.count (p : Pieces) : Nat := p.read.length + if p.gap.isSome then 1 else 0

def isHexDigit (c : Char) : Bool := (Hex.digit? c).isSome

/-- Reads pieces from where one may start. -/
def readPieces : Nat → Pieces → List Char → Option Pieces
  | 0, _, _ => none
  | _ + 1, p, [] => some p
  | fuel + 1, p, ':' :: rest =>
    if p.count = 8 ∨ p.gap.isSome then none
    else readPieces fuel ⟨p.read, some p.read.length⟩ rest
  | fuel + 1, p, cs =>
    if p.count = 8 then none
    else
      let ds := (cs.take 4).takeWhile isHexDigit
      let rest := cs.drop ds.length
      match rest with
      | '.' :: _ =>
        if ds.isEmpty ∨ 6 < p.count then none
        else (trailingAddress? cs).map fun t => ⟨p.read ++ [t.1, t.2], p.gap⟩
      | [] => (Hex.value? ds).map fun v => ⟨p.read ++ [v], p.gap⟩
      | ':' :: rest =>
        match rest, Hex.value? ds with
        | [], _ => none
        | rest, some v => readPieces fuel ⟨p.read ++ [v], p.gap⟩ rest
        | _, none => none
      | _ => none

/-- The eight pieces, the run of zeros put back. -/
def fillPieces (p : Pieces) : Option (List Nat) :=
  match p.gap with
  | none => if p.read.length = 8 then some p.read else none
  | some i => some (p.read.take i ++ List.replicate (8 - p.read.length) 0 ++ p.read.drop i)

/-- The pieces of an address between brackets. -/
def piecesOf? (cs : List Char) : Option (List Nat) :=
  let start : Option (Pieces × List Char) :=
    match cs with
    | ':' :: ':' :: rest => some (⟨[], some 0⟩, rest)
    | ':' :: _ => none
    | cs => some (⟨[], none⟩, cs)
  match start with
  | none => none
  | some (p, rest) => (readPieces (rest.length + 1) p rest).bind fillPieces

/-- The length of the run of zeros at the start. -/
def zeroRun (pieces : List Nat) : Nat := (pieces.takeWhile (· == 0)).length

/-- Where the longest run of zeros starts and how long it is, the first of several. -/
def longestZeroRun : Nat → List Nat → Nat × Nat
  | _, [] => (0, 0)
  | i, n :: rest =>
    let here := zeroRun (n :: rest)
    let later := longestZeroRun (i + 1) rest
    if later.2 ≤ here then (i, here) else later

def hexText (n : Nat) : String := String.ofList (Nat.toDigits 16 n)

/-- Pieces with two colons for the longest run of two or more zeros. -/
def writePieces (pieces : List Nat) : String :=
  let (i, n) := longestZeroRun 0 pieces
  if n < 2 then String.intercalate ":" (pieces.map hexText)
  else
    String.intercalate ":" ((pieces.take i).map hexText) ++ "::"
      ++ String.intercalate ":" ((pieces.drop (i + n)).map hexText)

end HubPublisher.Url
