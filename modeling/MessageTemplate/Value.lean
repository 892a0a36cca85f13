/-
Values for templates.

A value is an integer, a floating-point number, a text or a truth value.  It has one
text, which placeholders show and select branches compare with their keys, and it may
stand for a finite number, which is what plural branches need.  Texts stand for the
number they spell and truth values for one and zero.
-/
import MessageTemplate.Json
import MessageTemplate.Text.Blank
import Std.Data.TreeMap

namespace MessageTemplate

/-- A value that a template can show or choose by. -/
inductive Value where
  | number (n : Int64)
  | float (x : Binary64)
  | string (text : String)
  | bool (b : Bool)
deriving DecidableEq

namespace Value

/-- The number with an integer's last sixty-four bits. -/
def ofInt (n : Int) : Value :=
  .number (Int64.ofInt n)

/-- The text of a value. -/
def display : Value → String
  | number n => integerText n.toInt
  | float x => x.display
  | string text => text
  | bool b => if b then "true" else "false"

/-- The integer that a value is. -/
def asNumber? : Value → Option Int64
  | number n => some n
  | _ => none

/-- The floating-point number that a number is or rounds to. -/
def asFloat? : Value → Option Binary64
  | number n => some (Binary64.ofInt n.toInt)
  | float x => some x
  | _ => none

/-- The text that a value is. -/
def asString? : Value → Option String
  | string text => some text
  | _ => none

/-- The truth value that a value is. -/
def asBool? : Value → Option Bool
  | bool b => some b
  | _ => none

/-- The number that a value stands for, before looking whether it is finite. -/
def numeric? : Value → Option Binary64
  | number n => some (Binary64.ofInt n.toInt)
  | float x => some x
  | string text => Binary64.read? (trimBlanks text)
  | bool b => some (Binary64.ofInt (if b then 1 else 0))

/-- The number by which a plural branch chooses, if the value stands for a finite
number. -/
def pluralOperand? (value : Value) : Option Binary64 :=
  value.numeric?.filter Binary64.isFinite

/-- The JSON value without any mark of its kind. -/
def toJson : Value → Json
  | number n => .integer n.toInt
  | float x => .float x
  | string text => .string text
  | bool b => .bool b

end Value

/-- The values that a template is rendered with, by name. -/
abbrev Values : Type :=
  Std.TreeMap String Value

end MessageTemplate
