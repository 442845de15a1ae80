import CatalogEntities.Decimal.Layout
import CatalogEntities.Text.Shown

/-!
# `Shape.lean` — data that does not have the wanted shape

Tables and settings are read from structured data, and the data may have the wrong shape: another
kind of value, a value out of range, too few elements, a field missing or given twice. Each is a
cause of its own; the wording is shared by all formats, which only differ in how they name the
absent value and how they write a fraction.

A fault keeps what was found as data, and words are made of it only when it is told. So a fault of a
shape can be compared without its wording, and one definition of the words serves both formats.
-/

set_option autoImplicit false

namespace CatalogEntities.Shape

/-- **What stands** where something else is wanted. -/
inductive Found
  | null
  | bool (value : Bool)
  | integer (value : Int)
  | float (value : Double)
  | infinite (negative : Bool)
  | notANumber
  | string (value : String)
  | sequence
  | map
  | other (text : String)
  deriving Repr, DecidableEq

/-- **What is wrong with the shape.** What is wanted is described in words. -/
inductive Fault
  | invalidType (found : Found) (wanted : String)
  | invalidValue (found : Found) (wanted : String)
  | invalidLength (length : Nat) (wanted : String)
  | missingField (name : String)
  | duplicateField (name : String)
  deriving Repr, DecidableEq

/-- **How a format words what it found.** -/
structure Wording where
  null : String
  layout : Double.Layout

/-- A text between ticks. It is not escaped: names of fields are told so, and they are our own. -/
def ticked (text : String) : String := "`" ++ text ++ "`"

def Found.describe (w : Wording) : Found → String
  | null => w.null
  | bool b => "boolean " ++ ticked (if b then "true" else "false")
  | integer n => "integer " ++ ticked (toString n)
  | float d => "floating point " ++ ticked (d.text w.layout)
  | infinite negative => "floating point " ++ ticked (if negative then "-inf" else "inf")
  | notANumber => "floating point " ++ ticked "NaN"
  | string s => "string " ++ Text.shown s
  | sequence => "sequence"
  | map => "map"
  | other text => text

/-- **The message of a fault.** -/
def Fault.message (w : Wording) : Fault → String
  | invalidType found wanted => "invalid type: " ++ found.describe w ++ ", expected " ++ wanted
  | invalidValue found wanted => "invalid value: " ++ found.describe w ++ ", expected " ++ wanted
  | invalidLength n wanted => "invalid length " ++ toString n ++ ", expected " ++ wanted
  | missingField name => "missing field " ++ ticked name
  | duplicateField name => "duplicate field " ++ ticked name

end CatalogEntities.Shape
