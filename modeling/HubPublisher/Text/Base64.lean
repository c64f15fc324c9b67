/-!
Base64 as certificate bundles use it: the standard alphabet, white space anywhere, and padding at
the end that may be left out but not be wrong.
-/
namespace HubPublisher.Text.Base64

/-- The six bits a character stands for. -/
def digit? (b : UInt8) : Option Nat :=
  let n := b.toNat
  if 65 ≤ n && n ≤ 90 then some (n - 65)
  else if 97 ≤ n && n ≤ 122 then some (n - 71)
  else if 48 ≤ n && n ≤ 57 then some (n + 4)
  else if n == 43 then some 62
  else if n == 47 then some 63
  else none

/-- White space inside the text: tab to carriage return, and the space. -/
def isSpace (b : UInt8) : Bool := (9 ≤ b.toNat && b.toNat ≤ 13) || b.toNat == 32

def isPad (b : UInt8) : Bool := b.toNat == 61

/-- Whether base64 has this character. -/
def isSymbol (b : UInt8) : Bool := isSpace b || isPad b || (digit? b).isSome

/-- Three octets from each four digits; a rest of two or three digits gives one or two octets, a
rest of one digit gives none. -/
def join : List Nat → List UInt8
  | a :: b :: c :: d :: rest =>
    UInt8.ofNat (a * 4 + b / 16) :: UInt8.ofNat (b % 16 * 16 + c / 4)
      :: UInt8.ofNat (c % 4 * 64 + d) :: join rest
  | [a, b, c] => [UInt8.ofNat (a * 4 + b / 16), UInt8.ofNat (b % 16 * 16 + c / 4)]
  | [a, b] => [UInt8.ofNat (a * 4 + b / 16)]
  | _ => []

/-- How much padding may follow so many digits: none, or what fills the last group of four. -/
def paddingFits (digits pads : Nat) : Bool :=
  match digits % 4 with
  | 0 => pads == 0
  | 2 => pads == 0 || pads == 2
  | 3 => pads == 0 || pads == 1
  | _ => false

/-- The octets a base64 text stands for, or `none` if it is malformed. -/
def decode? (text : List UInt8) : Option (List UInt8) :=
  let symbols := text.filter (!isSpace ·)
  let body := symbols.takeWhile (!isPad ·)
  let padding := symbols.dropWhile (!isPad ·)
  match body.mapM digit? with
  | some digits =>
    if padding.all isPad && paddingFits digits.length padding.length then some (join digits)
    else none
  | none => none

end HubPublisher.Text.Base64
