import WebhookSync.Json.Scan

/-!
# Reading values of known types

A reader takes a value of one type from the front of a text.  A record is read from an object, in
whatever order its members stand and with unknown members passed over, or from an array that holds
the fields in their order.  `Reader.whole` reads a text that holds one value and nothing else.
-/

namespace WebhookSync.Json

open Text (Decoded)

namespace Reader

/-- A string. -/
def string : Reader String := fun text =>
  match skipBlank text with
  | some '"' :: rest => stringBody rest
  | text => .error (unexpected "a string" text)

/-- A truth value. -/
def bool : Reader Bool := fun text =>
  match skipBlank text with
  | some 't' :: rest => (word ['r', 'u', 'e'] rest).map fun found => (true, found.2)
  | some 'f' :: rest => (word ['a', 'l', 's', 'e'] rest).map fun found => (false, found.2)
  | text => .error (unexpected "a boolean" text)

/-- Nothing. -/
def unit : Reader Unit := fun text =>
  match skipBlank text with
  | some 'n' :: rest => word ['u', 'l', 'l'] rest
  | text => .error (unexpected "unit" text)

/-- An integer between two bounds; `expected` names the range. -/
def integer (expected : String) (least greatest : Int) : Reader Int := fun text =>
  match skipBlank text with
  | some c :: rest =>
      if c == '-' || '0' ≤ c && c ≤ '9' then
        match number (some c :: rest) with
        | .error fault => .error fault
        | .ok (.float value, _) => .error (.mismatch (.wrongType (.float value) expected))
        | .ok (.integer value, rest) =>
            if least ≤ value && value ≤ greatest then .ok (value, rest)
            else .error (.mismatch (.outOfRange value expected))
      else .error (unexpected expected (some c :: rest))
  | text => .error (unexpected expected text)

/-- An integer of 64 bits. -/
def int64 : Reader Int64 := fun text =>
  (integer "i64" Int64.minValue.toInt Int64.maxValue.toInt text).map fun found =>
    (Int64.ofInt found.1, found.2)

/-- A number of 32 bits without a sign. -/
def uint32 : Reader UInt32 := fun text =>
  (integer "u32" 0 (Int.ofNat (UInt32.size - 1)) text).map fun found =>
    (UInt32.ofNat found.1.toNat, found.2)

/-- A list. -/
def list {α : Type} (item : Reader α) : Reader (List α) := fun text =>
  match skipBlank text with
  | some '[' :: rest => items item rest
  | text => .error (unexpected "a sequence" text)

/-- A value, or nothing in its place. -/
def optional {α : Type} (value : Reader α) : Reader (Option α) := fun text =>
  match skipBlank text with
  | some 'n' :: rest => (word ['u', 'l', 'l'] rest).map fun found => (none, found.2)
  | text => (value text).map fun found => (some found.1, found.2)

/-- The members of an object in the order of the text. -/
def entries {α : Type} (value : Reader α) : Reader (List (String × α)) := fun text =>
  match skipBlank text with
  | some '{' :: rest =>
      (members stringBody
        (fun found key text => (value text).map fun read => ((key, read.1) :: found, read.2))
        [] rest).map fun found => (found.1.reverse, found.2)
  | text => .error (unexpected "a map" text)

/-- One of several names, alone or as the only key of an object that holds nothing. -/
def choice {α : Type} (known : List (String × α)) : Reader α := fun text =>
  let pick (name : String) : Except Fault α :=
    match known.find? fun entry => entry.1 == name with
    | some entry => .ok entry.2
    | none => .error (.mismatch (.unknownVariant name (known.map (·.1))))
  match skipBlank text with
  | [] => .error .truncated
  | some '"' :: rest => do
      let (name, rest) ← stringBody rest
      return (← pick name, rest)
  | some '{' :: rest => do
      let (picked, rest) ← memberKey (fun text => do
        let (name, rest) ← stringBody text
        return (← pick name, rest)) rest
      let ((), rest) ← unit rest
      match skipBlank rest with
      | [] => .error .truncated
      | some '}' :: rest => return (picked, rest)
      | _ :: _ => .error .malformed
  | _ :: _ => .error .malformed

end Reader

/-! ## Records -/

/-- A field of a record that is put together in a draft. -/
structure Field (δ : Type) where
  name : String
  /-- whether the draft has the field already -/
  isSet : δ → Bool
  /-- read the field's value into the draft -/
  read : δ → Reader δ
  /-- whether the field may be missing -/
  mayMiss : Bool

/-- A field that has its own place in the draft. -/
def Field.stored {δ α : Type} (name : String) (get : δ → Option α) (set : δ → α → δ)
    (value : Reader α) (mayMiss : Bool) : Field δ where
  name := name
  isSet := fun draft => (get draft).isSome
  read := fun draft text => (value text).map fun found => (set draft found.1, found.2)
  mayMiss := mayMiss

/-- How a record is read: its name, an empty draft, its fields in order, and how a draft is
finished. -/
structure RecordShape (δ α : Type) where
  name : String
  start : δ
  fields : List (Field δ)
  finish : δ → Except Mismatch α

namespace RecordShape

/-- What a message says is expected of an array of fields. -/
def lengthText {δ α : Type} (shape : RecordShape δ α) : String :=
  "struct " ++ shape.name ++ " with " ++ toString shape.fields.length ++
    if shape.fields.length = 1 then " element" else " elements"

/-- A member of the object form.  A field may not come twice, and a member that is no field is
passed over. -/
def member {δ α : Type} (shape : RecordShape δ α) (draft : δ) (key : String) : Reader δ :=
  match shape.fields.find? fun field => field.name == key with
  | none => fun text => (skip text).map fun found => (draft, found.2)
  | some field =>
      if field.isSet draft then fun _ => .error (.mismatch (.duplicateField key))
      else field.read draft

/-- What may stand behind the last field of the array form. -/
def closeArray : Reader Unit := fun text =>
  match skipBlank text with
  | [] => .error .truncated
  | some ']' :: rest => .ok ((), rest)
  | _ :: _ => .error .malformed

/-- The fields of the array form from a position on.  Once the array has ended, a field that may
not be missing has no value. -/
def positional {δ α : Type} (shape : RecordShape δ α) (position : Nat) (draft : δ) :
    List (Field δ) → Reader δ
  | [], text => (closeArray text).map fun found => (draft, found.2)
  | field :: others, text =>
      match skipBlank text with
      | [] => .error .truncated
      | some ']' :: rest =>
          if field.mayMiss then positional shape (position + 1) draft others (some ']' :: rest)
          else .error (.mismatch (.wrongLength position shape.lengthText))
      | text => do
          let text ← if position = 0 then .ok text
            else match text with
              | some ',' :: rest => .ok rest
              | _ => .error .malformed
          let (draft, rest) ← field.read draft text
          positional shape (position + 1) draft others rest

/-- A record. -/
def reader {δ α : Type} (shape : RecordShape δ α) : Reader α := fun text => do
  let (draft, rest) ←
    match skipBlank text with
    | some '[' :: rest => positional shape 0 shape.start shape.fields rest
    | some '{' :: rest => members stringBody shape.member shape.start rest
    | text => .error (unexpected ("struct " ++ shape.name) text)
  match shape.finish draft with
  | .ok value => return (value, rest)
  | .error mismatch => throw (.mismatch mismatch)

end RecordShape

/-- A field that must be there. -/
def Mismatch.require {α : Type} (name : String) : Option α → Except Mismatch α
  | some value => .ok value
  | none => .error (.missingField name)

/-- The value of a text that holds one value, with nothing but blanks around it. -/
def Reader.whole {α : Type} (read : Reader α) (text : Decoded) : Except Fault α := do
  let (value, rest) ← read text
  if (skipBlank rest).isEmpty then return value else throw .malformed

end WebhookSync.Json
