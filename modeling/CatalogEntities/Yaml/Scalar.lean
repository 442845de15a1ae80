import CatalogEntities.Decimal.Double
import CatalogEntities.Shape
import CatalogEntities.Text.Character
import CatalogEntities.Yaml.Fault
import CatalogEntities.Yaml.Node

/-!
# `Yaml/Scalar.lean` — what a scalar means

A plain scalar means what it looks like: nothing, a boolean, an integer, a fraction or text. Digits
that begin with a superfluous zero look like a number and are text. Quoted and block scalars are
text.

A tag can say what a scalar is to be read as; it does not make a scalar fit where it does not.
Settings ask for text, integers and booleans, and for each of them the question which scalars fit
is answered here; `found` tells what any other scalar is.
-/

set_option autoImplicit false

namespace CatalogEntities.Yaml

open CatalogEntities.Shape (Found)

/-! ## Words and numbers -/

/-- The words for nothing. -/
def isNull (text : String) : Bool := ["null", "Null", "NULL", "~"].contains text

def readBool? : String → Option Bool
  | "true" | "True" | "TRUE" => some true
  | "false" | "False" | "FALSE" => some false
  | _ => none

def isSign (c : Char) : Bool := c = '+' || c = '-'

/-- A text without a plus sign in front. -/
def withoutPlus : List Char → List Char
  | '+' :: rest => rest
  | cs => cs

def markedDigits : List Char → Option Nat
  | '0' :: 'x' :: rest => Text.readDigits? 16 rest
  | '0' :: 'o' :: rest => Text.readDigits? 8 rest
  | '0' :: 'b' :: rest => Text.readDigits? 2 rest
  | _ => none

/-- Whether decimal digits, perhaps behind a sign, begin with a superfluous zero. -/
def hasSuperfluousZero (cs : List Char) : Bool :=
  let digits := match cs with
    | c :: rest => if isSign c then rest else cs
    | [] => []
  1 < digits.length && digits.head? = some '0' && digits.all Char.isDigit

/-- A number without a minus sign. -/
def readUnsigned? (cs : List Char) : Option Nat :=
  let body := withoutPlus cs
  match markedDigits body with
  | some n => some n
  | none => if hasSuperfluousZero cs then none else Text.readDigits? 10 body

/-- A number with a minus sign, without it. -/
def readNegative? : List Char → Option Nat
  | '-' :: body =>
      match markedDigits body with
      | some n => some n
      | none => if hasSuperfluousZero body then none else Text.readDigits? 10 body
  | _ => none

/-- The integers that fit a word of 64 bits, unsigned or signed. -/
def readWord? (cs : List Char) : Option Int :=
  match (readUnsigned? cs).filter (· < Nat.pow 2 64),
      (readNegative? cs).filter (· ≤ Nat.pow 2 63) with
  | some n, _ => some n
  | none, some n => some (-n)
  | none, none => none

/-- An integer, which is described by its own text if it only fits a double word. -/
def readInteger? (cs : List Char) : Option Found :=
  let wide (n : Int) (type : String) : Found :=
    .other ("integer " ++ Shape.ticked (toString n) ++ " as " ++ type)
  match readWord? cs, (readUnsigned? cs).filter (· < Nat.pow 2 128),
      (readNegative? cs).filter (· ≤ Nat.pow 2 127) with
  | some n, _, _ => some (.integer n)
  | none, some n, _ => some (wide n "u128")
  | none, none, some n => some (wide (-n) "i128")
  | none, none, none => none

/-- The words for numbers that are none. -/
def readSpecial? (text : String) : Option Found :=
  if [".inf", ".Inf", ".INF", "+.inf", "+.Inf", "+.INF"].contains text then some (.infinite false)
  else if ["-.inf", "-.Inf", "-.INF"].contains text then some (.infinite true)
  else if [".nan", ".NaN", ".NAN"].contains text then some .notANumber
  else none

def readFraction? (text : String) : Option Found :=
  match readSpecial? text with
  | some f => some f
  | none =>
      let cs := text.toList
      if cs.head? = some '+' && (cs.drop 1).head?.any isSign then none
      else
        ((Decimal.read? (withoutPlus cs)).filter Decimal.isFinite).map fun d =>
          .float (.ofDecimal d)

/-- **What a plain scalar looks like**, in the order in which the possibilities are tried. Only
faults show the result: the decoders below ask each for one kind of scalar. -/
def foundPlain (text : String) : Found :=
  if text = "" || isNull text then .null
  else
    match readBool? text, readInteger? text.toList with
    | some b, _ => .bool b
    | none, some n => n
    | none, none =>
        if hasSuperfluousZero text.toList then .string text
        else (readFraction? text).getD (.string text)

/-! ## Tags -/

def coreTag (kind : String) : String := "tag:yaml.org,2002:" ++ kind

/-- A scalar that is to be read as something it does not look like. -/
def mismatch (text wanted : String) : Except Shape.Fault Found :=
  .error (.invalidValue (.string text) wanted)

/-- **What a scalar is found to be** where something else is wanted. A tag of the core schema makes
a demand of its own, and failing it is the fault that is reported. -/
def found (p : Properties) (style : Style) (text : String) : Except Shape.Fault Found :=
  match p.tag with
  | none => .ok (if style = .plain then foundPlain text else .string text)
  | some tag =>
      if tag = coreTag "bool" then
        (readBool? text).elim (mismatch text "a boolean") fun b => .ok (.bool b)
      else if tag = coreTag "int" then
        (readInteger? text.toList).elim (mismatch text "an integer") .ok
      else if tag = coreTag "float" then (readFraction? text).elim (mismatch text "a float") .ok
      else if tag = coreTag "null" then
        if isNull text then .ok .null else mismatch text "null"
      else if tag.toList.head? = some '!' && style = .plain then .ok (foundPlain text)
      else .ok (.string text)

/-- Whether a scalar may be read as more than text: it is plain, or a literal block with a tag that
says so. -/
def isReadAs (kind : String) (p : Properties) (style : Style) : Bool :=
  style = .plain || (style = .literal && p.tag = some (coreTag kind))

end CatalogEntities.Yaml
