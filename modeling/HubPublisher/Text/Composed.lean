import HubPublisher.Text.Composites

/-!
The composed form of a text, in which letters and marks that look the same are the same.

Composed characters are taken apart, the marks of each letter are put in the order of their places,
and what can be composed is put together again. Syllables of Hangul are composed by arithmetic, all
other characters by the table.
-/
namespace HubPublisher.Text

/-! ## Hangul -/

def hangulFirst : Nat := 0xAC00
def hangulLead : Nat := 0x1100
def hangulVowel : Nat := 0x1161
/-- One less than the first tail: a syllable may have no tail. -/
def hangulTail : Nat := 0x11A7

/-- The two or three parts of a syllable. -/
def hangulParts? (c : Char) : Option (List Char) :=
  let n := c.toNat - hangulFirst
  if hangulFirst ≤ c.toNat && n < 19 * 21 * 28 then
    let pair := [Char.ofNat (hangulLead + n / 588), Char.ofNat (hangulVowel + n % 588 / 28)]
    if n % 28 = 0 then some pair else some (pair ++ [Char.ofNat (hangulTail + n % 28)])
  else none

/-- The syllable of a lead and a vowel, or of a syllable without a tail and a tail. -/
def hangulPair? (a b : Char) : Option Char :=
  let lead := a.toNat - hangulLead
  let vowel := b.toNat - hangulVowel
  let syllable := a.toNat - hangulFirst
  let tail := b.toNat - hangulTail
  if hangulLead ≤ a.toNat && lead < 19 && hangulVowel ≤ b.toNat && vowel < 21 then
    some (Char.ofNat (hangulFirst + (lead * 21 + vowel) * 28))
  else if hangulFirst ≤ a.toNat && syllable < 19 * 21 * 28 && syllable % 28 = 0
      && hangulTail < b.toNat && tail < 28 then
    some (Char.ofNat (a.toNat + tail))
  else none

/-! ## Taking apart -/

/-- The parts of a character, to a depth. No character of the table is nested deeper than two. -/
def partsTo : Nat → Char → List Char
  | 0, c => [c]
  | depth + 1, c =>
    match composites.image? c with
    | some (a :: rest) => partsTo depth a ++ rest
    | _ => [c]

def parts (c : Char) : List Char := (hangulParts? c).getD (partsTo 2 c)

/-! ## The order of marks -/

/-- Puts a character before a text whose marks are in order. -/
def insertMark (c : Char) : List Char → List Char
  | [] => [c]
  | d :: rest =>
    if placeOf d ≠ 0 ∧ placeOf d < placeOf c then d :: insertMark c rest else c :: d :: rest

def orderMarks (cs : List Char) : List Char := cs.foldr insertMark []

/-! ## Putting together -/

/-- The character that is composed of two. -/
def pair? (a b : Char) : Option Char :=
  match hangulPair? a b with
  | some c => some c
  | none =>
    (composites.rules.find? (·.image = [a.toNat, b.toNat])).map fun r => Char.ofNat r.first

/-- Composes a letter with what follows it. The marks that stayed apart are given from the last one;
a character reaches the letter past them only if its place comes after all of theirs. -/
def composeOn (letter : Char) (apart : List Char) : List Char → List Char
  | [] => letter :: apart.reverse
  | c :: rest =>
    let reaches := apart.head?.all (placeOf · < placeOf c)
    match if reaches then pair? letter c else none with
    | some d => composeOn d apart rest
    | none =>
      if placeOf c = 0 then letter :: (apart.reverse ++ composeOn c [] rest)
      else composeOn letter (c :: apart) rest

/-- Marks before the first letter stay as they are. -/
def compose (cs : List Char) : List Char :=
  cs.takeWhile (placeOf · ≠ 0) ++
    match cs.dropWhile (placeOf · ≠ 0) with
    | [] => []
    | letter :: rest => composeOn letter [] rest

def composed (cs : List Char) : List Char := compose (orderMarks (cs.flatMap parts))

end HubPublisher.Text
