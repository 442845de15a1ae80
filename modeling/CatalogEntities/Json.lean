import CatalogEntities.Decimal.Layout
import CatalogEntities.Dictionary

/-!
# `Json.lean` — structured data

The values that tables, settings and reports are exchanged in. An object keeps its members as they
are written, names repeated or not; who reads it by name takes `Json.members`, where of two members
with one name the later counts.

A number is an integer if it is written as one and fits a machine word, signed or unsigned, and a
double otherwise.

The type has more values than have a text: an integer may have any size here. What is written is
always of the right size, and the readers make no others; where it matters a statement asks for it.
-/

set_option autoImplicit false

namespace CatalogEntities

/-- **A structured value.** Two objects with the same members in another order are different values;
that they mean the same is a matter for whoever reads them. -/
inductive Json
  | null
  | bool (value : Bool)
  | integer (value : Int)
  | float (value : Double)
  | string (value : String)
  | array (items : List Json)
  | object (members : List (String × Json))
  deriving Repr, Inhabited

namespace Json

def members (fields : List (String × Json)) : Dictionary Json := Dictionary.ofList fields

def strings (xs : List String) : Json := array (xs.map string)

/-- A value, or null if there is none. -/
def orNull {α : Type} (toJson : α → Json) : Option α → Json
  | some x => toJson x
  | none => null

/-- The integers that are kept exactly: those of a signed or an unsigned word of 64 bits. -/
def fitsWord (n : Int) : Bool :=
  -(Nat.pow 2 63 : Int) ≤ n && n < (Nat.pow 2 64 : Int)

end Json

end CatalogEntities
