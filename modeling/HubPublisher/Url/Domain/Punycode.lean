/-!
Punycode: a text of any characters written with the letters, digits and hyphens of ASCII.

The ASCII characters come first, with a hyphen after the last one. What follows says, character by
character in ascending order, where each of the others is inserted: a walk passes all places of the
growing text for one character number after the other, and the distance to the next insertion is
written as one number with 36 digits.
-/
namespace HubPublisher.Url.Punycode

/-! ## Digits -/

def digit (n : Nat) : Char := Char.ofNat (if n < 26 then 97 + n else 22 + n)

def value? (c : Char) : Option Nat :=
  let n := c.toNat
  if 97 ≤ n && n ≤ 122 then some (n - 97)
  else if 65 ≤ n && n ≤ 90 then some (n - 65)
  else if 48 ≤ n && n ≤ 57 then some (n - 22)
  else none

theorem value?_digit {n : Nat} (h : n < 36) : value? (digit n) = some n := by
  have hall : ∀ m ∈ List.range 36, value? (digit m) = some m := by decide
  exact hall n (List.mem_range.mpr h)

/-- A digit below the threshold of its position ends a number. -/
def threshold (bias position : Nat) : Nat := min 26 (max 1 (36 * (position + 1) - bias))

theorem threshold_pos (bias position : Nat) : 0 < threshold bias position := by
  unfold threshold; omega

theorem threshold_lt (bias position : Nat) : threshold bias position < 36 := by
  unfold threshold; omega

/-- How many digits a distance has above the last two, and what is left of it. -/
def scale (distance : Nat) : Nat × Nat :=
  if 455 < distance then
    let r := scale (distance / 35)
    (r.1 + 1, r.2)
  else (0, distance)
termination_by distance
decreasing_by omega

/-- The bias after an insertion into a text of some length: the next distance is expected to be
about as long as the last one. -/
def nextBias (distance length : Nat) (isFirst : Bool) : Nat :=
  let d := distance / (if isFirst then 700 else 2)
  let r := scale (d + d / (length + 1))
  36 * r.1 + 36 * r.2 / (r.2 + 38)

/-! ## Writing -/

/-- The digits of a distance, the lowest first. -/
def writeDistance (bias position distance : Nat) : List Char :=
  let t := threshold bias position
  if distance < t then [digit distance]
  else
    digit (t + (distance - t) % (36 - t))
      :: writeDistance bias (position + 1) ((distance - t) / (36 - t))
termination_by distance
decreasing_by
  have h := threshold_pos bias position
  have := Nat.div_le_self (distance - threshold bias position) (36 - threshold bias position)
  omega

/-- A place of the walk: a character number and the count of characters passed. -/
structure Place where
  code : Nat
  index : Nat
  deriving DecidableEq, Repr

/-- The first place of every walk. -/
def Place.start : Place := ⟨128, 0⟩

/-- How far it is from one place to a later one in a text of some length. -/
def Place.distance (a b : Place) (length : Nat) : Nat :=
  (b.code - a.code) * (length + 1) + b.index - a.index

/-- The places at which the characters outside ASCII are inserted, in the order of the text. A
character finds those before it in place that are not greater. -/
def placesFrom (before : List Char) : List Char → List Place
  | [] => []
  | c :: rest =>
    let later := placesFrom (c :: before) rest
    if c.toNat < 128 then later else ⟨c.toNat, before.countP (·.toNat ≤ c.toNat)⟩ :: later

def writePlaces (here : Place) (length bias : Nat) (isFirst : Bool) : List Place → List Char
  | [] => []
  | p :: rest =>
    let d := here.distance p length
    writeDistance bias 0 d ++
      writePlaces ⟨p.code, p.index + 1⟩ (length + 1) (nextBias d length isFirst) false rest

def encode (cs : List Char) : List Char :=
  let ascii := cs.filter (·.toNat < 128)
  let places := (placesFrom [] cs).mergeSort (·.code ≤ ·.code)
  ascii ++ (if ascii.isEmpty then [] else ['-']) ++ writePlaces .start ascii.length 72 true places

/-! ## Reading -/

/-- Numbers in a code have at most 32 bits. -/
def limit : Nat := 0x100000000

/-- A distance and what follows it, or `none` if its digits do not end or are too many. -/
def readDistance? (bias position weight : Nat) : List Char → Option (Nat × List Char)
  | [] => none
  | c :: rest =>
    let t := threshold bias position
    match value? c with
    | none => none
    | some v =>
      if v < t then if v * weight < limit then some (v * weight, rest) else none
      else if weight * (36 - t) < limit then
        match readDistance? bias (position + 1) (weight * (36 - t)) rest with
        | some (d, rest) => if v * weight + d < limit then some (v * weight + d, rest) else none
        | none => none
      else none

theorem length_readDistance? {bias position weight : Nat} {cs rest : List Char} {d : Nat}
    (h : readDistance? bias position weight cs = some (d, rest)) : rest.length < cs.length := by
  induction cs generalizing position weight d rest with
  | nil => simp [readDistance?] at h
  | cons c cs ih =>
    simp only [readDistance?] at h
    split at h
    · simp at h
    · split at h
      · split at h
        · simp only [Option.some.injEq, Prod.mk.injEq] at h
          simp [h.2]
        · simp at h
      · split at h
        · split at h
          · rename_i d' rest' hd
            split at h
            · simp only [Option.some.injEq, Prod.mk.injEq] at h
              have := ih hd
              simp only [List.length_cons, ← h.2]
              omega
            · simp at h
          · simp at h
        · simp at h

/-- Inserts what the distances say into a text. -/
def readPlaces? (here : Place) (bias : Nat) (isFirst : Bool) (text cs : List Char) :
    Option (List Char) :=
  match _h : cs with
  | [] => some text
  | _ :: _ =>
    match _hd : readDistance? bias 0 1 cs with
    | none => none
    | some (d, rest) =>
      let way := here.index + d
      let code := here.code + way / (text.length + 1)
      let index := way % (text.length + 1)
      if code.isValidChar ∧ way < limit then
        readPlaces? ⟨code, index + 1⟩ (nextBias d text.length isFirst) false
          (text.take index ++ Char.ofNat code :: text.drop index) rest
      else none
termination_by cs.length
decreasing_by
  have := length_readDistance? _hd
  simp_all

/-- The text that a code stands for. Everything before the last hyphen is ASCII; a hyphen at the
very start has nothing before it and belongs to no code. -/
def decode? (cs : List Char) : Option (List Char) :=
  let back := cs.reverse
  let digits := (back.takeWhile (· ≠ '-')).reverse
  let ascii := ((back.dropWhile (· ≠ '-')).drop 1).reverse
  if cs.any (128 ≤ ·.toNat) || (ascii.isEmpty && cs.contains '-') then none
  else readPlaces? .start 72 true ascii digits

end HubPublisher.Url.Punycode
