import CatalogEntities.Json
import CatalogEntities.Shape

/-!
# `Json/Decode.lean` — taking structured data apart

Decoders for the shapes that tables and settings are made of. A record is written as an object or,
shorter, as the array of its fields in the order of declaration.

* In an **object** the fields that are present are decoded in the order of their names, and the
  first that fails is reported; only then the fields that are missing are, in the order of
  declaration. Unknown fields are ignored.
* In an **array** the fields are decoded one after the other. Fields with a default may be missing
  at the end; nothing may follow the last.

Which fault is reported when there are several is part of what a decoder does, and is why objects
are gone through by name. A field that is given twice counts once, with its later value.
-/

set_option autoImplicit false

namespace CatalogEntities.Json

open CatalogEntities.Shape (Found Fault)

def wording : Shape.Wording := ⟨"null", .compact⟩

/-- What a value is, seen from outside. -/
def found : Json → Found
  | null => .null
  | bool b => .bool b
  | integer n => .integer n
  | float d => .float d
  | string s => .string s
  | array _ => .sequence
  | object _ => .map

abbrev Decoder (α : Type) := Json → Except Fault α

variable {α : Type}

/-- A value of a kind that is not wanted. -/
def refuse (value : Json) (wanted : String) : Except Fault α :=
  .error (.invalidType value.found wanted)

def decodeString : Decoder String
  | string s => .ok s
  | value => value.refuse "a string"

/-- A path is text, but is asked for under its own name. -/
def decodePath : Decoder String
  | string s => .ok s
  | value => value.refuse "path string"

def decodeBool : Decoder Bool
  | bool b => .ok b
  | value => value.refuse "a boolean"

/-- An integer between two bounds, under the name of its type. A number that is written with a point
is not one, even if nothing but zeros stands behind it. -/
def decodeInteger (least greatest : Int) (name : String) : Decoder Int
  | integer n =>
      if least ≤ n ∧ n ≤ greatest then .ok n else .error (.invalidValue (.integer n) name)
  | value => value.refuse name

def decodeSigned32 : Decoder Int32 := fun value =>
  (decodeInteger (-2147483648) 2147483647 "i32" value).map Int32.ofInt

def decodeUnsigned16 : Decoder UInt16 := fun value =>
  (decodeInteger 0 65535 "u16" value).map fun n => UInt16.ofNat n.toNat

/-- A size in bytes: an unsigned word of 64 bits. -/
def decodeSize : Decoder Nat := fun value =>
  (decodeInteger 0 18446744073709551615 "usize" value).map Int.toNat

/-- A value, or null for none. -/
def decodeOption (decode : Decoder α) : Decoder (Option α)
  | null => .ok none
  | value => (decode value).map some

/-- A list; the first item that fails is reported. -/
def decodeList (decode : Decoder α) : Decoder (List α)
  | array items => items.mapM decode
  | value => value.refuse "a sequence"

/-- A map from names, decoded in the order of the names. -/
def decodeMap (decode : Decoder α) : Decoder (List (String × α))
  | object fields =>
      (members fields).entries.mapM fun (name, value) => (decode value).map fun x => (name, x)
  | value => value.refuse "a map"

/-! ## Records -/

/-- A field of an object; none if the object does not have it. Whether it may be missing is asked
later, when all fields that are there have been decoded. -/
def field (fields : Dictionary Json) (name : String) (decode : Decoder α) :
    Except Fault (Option α) :=
  match fields.find? name with
  | some value => (decode value).map some
  | none => .ok none

/-- A field that must be there. -/
def required (name : String) : Option α → Except Fault α
  | some x => .ok x
  | none => .error (.missingField name)

/-- An element of a record written as an array; `whole` describes the record. -/
def element (items : List Json) (index : Nat) (whole : String) (decode : Decoder α) :
    Except Fault α :=
  match items[index]? with
  | some value => decode value
  | none => .error (.invalidLength index whole)

/-- An element that may be missing. -/
def elementD (items : List Json) (index : Nat) (default : α) (decode : Decoder α) :
    Except Fault α :=
  match items[index]? with
  | some value => decode value
  | none => .ok default

/-- Nothing may follow the last element of a record. -/
def noneBeyond (items : List Json) (size : Nat) : Except Fault Unit :=
  if items.length ≤ size then .ok ()
  else .error (.invalidLength items.length "fewer elements in array")

end CatalogEntities.Json
