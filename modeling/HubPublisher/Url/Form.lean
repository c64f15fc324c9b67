import HubPublisher.Url.Percent
import HubPublisher.Text.Split

/-!
Form encoding: pairs of texts as `key=value&key=value`.

Letters, digits and `*-._` stand for themselves, a space is a plus sign, and everything else is
percent encoded. Reading takes any text: a part without an equals sign is a key with an empty
value, and octets that are no UTF-8 read as U+FFFD.
-/
namespace HubPublisher.Url.Form

open Text

/-- The characters that stand for themselves. -/
def isPlain (c : Char) : Bool := c.isAlphanum || c == '*' || c == '-' || c == '.' || c == '_'

def encodeChar (c : Char) : List Char :=
  if isPlain c then [c] else if c = ' ' then ['+'] else percentChar c

def encode (cs : List Char) : List Char := cs.flatMap encodeChar

def decode (cs : List Char) : List Char :=
  Utf8.decodeLossy (percentDecode (Utf8.encode (cs.map fun c => if c = '+' then ' ' else c)))

/-- The text of one pair. -/
def encodePair (p : String × String) : List Char :=
  encode p.1.toList ++ '=' :: encode p.2.toList

/-- The text of pairs, with ampersands between them. -/
def write : List (String × String) → List Char
  | [] => []
  | [p] => encodePair p
  | p :: q :: rest => encodePair p ++ '&' :: write (q :: rest)

/-- The pair that a part stands for. -/
def readPair (part : List Char) : String × String :=
  let (key, value) := splitFirst '=' part
  (String.ofList (decode key), String.ofList (decode (value.getD [])))

/-- The pairs of a text; empty parts are no pairs. -/
def read (cs : List Char) : List (String × String) :=
  ((splitBy (· == '&') cs).filter (!·.isEmpty)).map readPair

end HubPublisher.Url.Form
