import HubPublisher.Json.Reader

/-!
Records: objects with named fields.

A shape is what a value should be, with a reader for text and one for a value already read. A
record is read from an object, whose other members are passed over, or from an array of its fields
in order. A field that comes twice is refused as soon as its second key is read.
-/
namespace HubPublisher.Json

/-- What a value should be. -/
structure Shape (α : Type) where
  /-- Reads it from text, with at most so many containers one in another. -/
  read : Nat → Reader α
  /-- Takes it from a value already read. -/
  take : Value → Except Fault α

namespace Shape

def string : Shape String := ⟨fun _ => readString, Value.string?⟩

def signed : Shape Int64 := ⟨fun _ => readSigned, Value.signed?⟩

/-- The members of an object as they stand. -/
def object : Shape (List (String × Value)) := ⟨readObject, Value.object?⟩

/-- A value that may be `null`. -/
def optional {α : Type} (s : Shape α) : Shape (Option α) :=
  ⟨fun depth => readOptional (s.read depth), Value.optional? s.take⟩

end Shape

/-- A named field of a record that is being read into a state `σ`. -/
structure RecordField (σ : Type) where
  name : String
  /-- Whether the field has been read. -/
  isSet : σ → Bool
  read : Nat → σ → Reader σ
  take : σ → Value → Except Fault σ
  /-- Whether an array of fields may end before it. -/
  mayBeMissing : Bool

namespace RecordField

variable {σ α : Type}

/-- A field of some shape, kept where `get` finds it and `set` puts it. -/
def ofShape (name : String) (shape : Shape α) (get : σ → Option α) (set : σ → α → σ)
    (mayBeMissing : Bool) : RecordField σ where
  name := name
  isSet state := (get state).isSome
  read depth state cs := (shape.read depth cs).map fun r => (set state r.1, r.2)
  take state v := (shape.take v).map (set state)
  mayBeMissing := mayBeMissing

end RecordField

def duplicateField (name : String) : Fault := .mismatch ("duplicate field `" ++ name ++ "`")

def missingField (name : String) : Fault := .mismatch ("missing field `" ++ name ++ "`")

/-- A list that ends too early or too late for what is wanted. -/
def wrongLength (length : Nat) (wanted : String) : Fault :=
  .mismatch ("invalid length " ++ toString length ++ ", expected " ++ wanted)

variable {σ : Type}

/-- Reads one member of a record. -/
def readField (fields : List (RecordField σ)) (depth : Nat) (key : String) (state : σ) : Reader σ :=
  fun cs =>
    match fields.find? (·.name == key) with
    | some f =>
      if f.isSet state then .error (duplicateField key)
      else match readColon cs with
        | .error e => .error e
        | .ok rest => f.read depth state rest
    | none =>
      match readColon cs with
      | .error e => .error e
      | .ok rest => (skipValue rest).map (state, ·)

/-- Reads fields in order from an array whose opening bracket is gone. -/
def readFieldItems (what : String) (depth : Nat) : Nat → Bool → List (RecordField σ) → σ → Reader σ
  | _, _, [], state => fun cs => (endItems cs).map (state, ·)
  | index, first, f :: fields, state => fun cs =>
    match nextItem first cs with
    | .error e => .error e
    | .ok none =>
      if f.mayBeMissing then readFieldItems what depth (index + 1) first fields state cs
      else .error (wrongLength index what)
    | .ok (some rest) =>
      match f.read depth state rest with
      | .error e => .error e
      | .ok (state, rest) => readFieldItems what depth (index + 1) false fields state rest

/-- Reads a record with the given name, as an object or as an array. -/
def readRecord (name : String) (fields : List (RecordField σ)) (start : σ) (depth : Nat) :
    Reader σ :=
  fun cs =>
    match cs.dropWhile isSpace with
    | '{' :: rest =>
      match depth with
      | 0 => .error (.malformed .tooDeep)
      | depth + 1 => walkMembers (readField fields depth) start rest
    | '[' :: rest =>
      match depth with
      | 0 => .error (.malformed .tooDeep)
      | depth + 1 =>
        readFieldItems ("struct " ++ name ++ " with " ++ toString fields.length ++ " elements")
          depth 0 true fields start rest
    | cs => readMismatch ("struct " ++ name) cs

/-- Takes the fields of a record from members already read, passing over the others. -/
def takeFields (fields : List (RecordField σ)) (state : σ) : List (String × Value) → Except Fault σ
  | [] => .ok state
  | (key, v) :: rest =>
    match fields.find? (·.name == key) with
    | some f =>
      if f.isSet state then .error (duplicateField key)
      else match f.take state v with
        | .error e => .error e
        | .ok state => takeFields fields state rest
    | none => takeFields fields state rest

end HubPublisher.Json
