import Mathlib

/-!
# JSON values

The value type the program reads its peers' answers and its own stored actions through. An object
keeps its members in order, and a number is a non-negative integer, a negative one, or anything
else by its text: these are the distinctions the accessors below make.
-/

namespace ProxmoxMcp

/-- The characters numbers are written with. -/
def isNumberChar (c : Char) : Bool :=
  c.isDigit || c == '-' || c == '+' || c == '.' || c == 'e' || c == 'E'

/-- The text of a number that is no integer: it has a **fraction or an exponent**. -/
@[ext] structure FloatText where
  text : String
  chars : ∀ c ∈ text.toList, isNumberChar c
  isFloat : ∃ c ∈ text.toList, c = '.' ∨ c = 'e'

/-- A JSON value. -/
inductive Json where
  | null
  | bool (value : Bool)
  /-- A non-negative integer that fits 64 bits. -/
  | unsigned (value : UInt64)
  /-- The negative integer `-(pred + 1)`. -/
  | negative (pred : ℕ)
  /-- Any other number, by its text. -/
  | float (value : FloatText)
  | string (value : String)
  | array (items : List Json)
  | object (members : List (String × Json))

namespace Json

/-- The member of an object under a key; anything but an object has none. -/
def get (key : String) : Json → Option Json
  | object members => members.lookup key
  | _ => none

def asStr : Json → Option String
  | string value => some value
  | _ => none

def asU64 : Json → Option UInt64
  | unsigned value => some value
  | _ => none

def asBool : Json → Option Bool
  | bool value => some value
  | _ => none

def asArray : Json → Option (List Json)
  | array items => some items
  | _ => none

/-- The text under a key. -/
def getStr (key : String) (value : Json) : Option String := (value.get key).bind asStr

/-- The 64-bit number under a key. -/
def getU64 (key : String) (value : Json) : Option UInt64 := (value.get key).bind asU64

@[simp] theorem get_object {key : String} {members : List (String × Json)} :
    (object members).get key = members.lookup key := rfl

@[simp] theorem asStr_string {value : String} : (string value).asStr = some value := rfl

@[simp] theorem asU64_unsigned {value : UInt64} : (unsigned value).asU64 = some value := rfl

theorem asStr_eq_some {json : Json} {value : String} :
    json.asStr = some value ↔ json = string value := by
  cases json <;> simp [asStr]

end Json

end ProxmoxMcp
