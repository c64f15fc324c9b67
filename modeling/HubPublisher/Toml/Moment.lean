/-!
Dates and times in TOML text.

A moment is a date, a time, or a date with a time and perhaps an offset from universal time. The
normal spelling has a `T` between date and time and no zeros at the end of a fraction of a second.
-/
namespace HubPublisher.Toml

/-- So many digits, as a number within bounds, and what follows them. -/
def digitsAt? (count low high : Nat) (cs : List Char) : Option (Nat × List Char) :=
  let ds := cs.take count
  let n := Nat.ofDigitChars 10 ds 0
  if ds.length = count ∧ ds.all Char.isDigit ∧ low ≤ n ∧ n ≤ high then some (n, cs.drop count)
  else none

def padLeft (width : Nat) (n : Nat) : List Char :=
  let ds := (toString n).toList
  List.replicate (width - ds.length) '0' ++ ds

/-- How many days a month has. -/
def daysIn (year month : Nat) : Nat :=
  if month = 2 then (if year % 4 = 0 ∧ (year % 100 ≠ 0 ∨ year % 400 = 0) then 29 else 28)
  else if month = 4 ∨ month = 6 ∨ month = 9 ∨ month = 11 then 30
  else 31

/-- Text that was read, in its normal spelling, and what follows it. -/
abbrev Spelled := Option (List Char × List Char)

def dateAt? (cs : List Char) : Spelled :=
  match digitsAt? 4 0 9999 cs with
  | some (year, '-' :: rest) =>
    match digitsAt? 2 1 12 rest with
    | some (month, '-' :: rest) =>
      match digitsAt? 2 1 (daysIn year month) rest with
      | some (day, rest) =>
        some (padLeft 4 year ++ '-' :: padLeft 2 month ++ '-' :: padLeft 2 day, rest)
      | none => none
    | _ => none
  | _ => none

/-- A fraction of a second: nine digits count, and zeros at the end are dropped. -/
def fractionAt? (cs : List Char) : Spelled :=
  match cs with
  | '.' :: rest =>
    let ds := rest.takeWhile Char.isDigit
    if ds.isEmpty then none
    else
      let kept := ((ds.take 9).reverse.dropWhile (· == '0')).reverse
      some (if kept.isEmpty then [] else '.' :: kept, rest.dropWhile Char.isDigit)
  | cs => some ([], cs)

def timeAt? (cs : List Char) : Spelled :=
  match digitsAt? 2 0 23 cs with
  | some (hour, ':' :: rest) =>
    match digitsAt? 2 0 59 rest with
    | some (minute, ':' :: rest) =>
      match digitsAt? 2 0 60 rest with
      | some (second, rest) =>
        (fractionAt? rest).map fun (fraction, rest) =>
          (padLeft 2 hour ++ ':' :: padLeft 2 minute ++ ':' :: padLeft 2 second ++ fraction, rest)
      | none => none
    | _ => none
  | _ => none

/-- An offset from universal time, if one follows. -/
def offsetAt? (cs : List Char) : Spelled :=
  let shift (sign : Char) (rest : List Char) : Spelled :=
    match digitsAt? 2 0 23 rest with
    | some (hour, ':' :: rest) =>
      match digitsAt? 2 0 59 rest with
      | some (minute, rest) =>
        let sign := if hour = 0 ∧ minute = 0 then '+' else sign
        some (sign :: padLeft 2 hour ++ ':' :: padLeft 2 minute, rest)
      | none => none
    | _ => none
  match cs with
  | 'Z' :: rest => some (['Z'], rest)
  | 'z' :: rest => some (['Z'], rest)
  | '+' :: rest => shift '+' rest
  | '-' :: rest => shift '-' rest
  | cs => some ([], cs)

/-- Whether a date or a time starts here, so that nothing else can. -/
def startsMoment (cs : List Char) : Bool :=
  match digitsAt? 4 0 9999 cs, digitsAt? 2 0 23 cs with
  | some (_, '-' :: _), _ => true
  | _, some (_, ':' :: _) => true
  | _, _ => false

/-- The mark between a date and a time. -/
def isMomentMark (c : Char) : Bool := c == 'T' || c == 't' || c == ' '

/-- A date, a time, or both. A space after a date that no time follows does not belong to it. -/
def momentAt? (cs : List Char) : Spelled :=
  match digitsAt? 4 0 9999 cs with
  | some (_, '-' :: _) =>
    match dateAt? cs with
    | none => none
    | some (date, c :: rest) =>
      let timeFollows : Bool :=
        match digitsAt? 2 0 23 rest with
        | some (_, ':' :: _) => true
        | _ => false
      if isMomentMark c && timeFollows then
        match timeAt? rest with
        | none => none
        | some (time, rest) =>
          (offsetAt? rest).map fun (offset, rest) => (date ++ 'T' :: time ++ offset, rest)
      else some (date, c :: rest)
    | some (date, []) => some (date, [])
  | _ => timeAt? cs

end HubPublisher.Toml
