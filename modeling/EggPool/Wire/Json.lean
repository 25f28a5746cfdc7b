import Mathlib

/-!
# JSON values

A value as `serde_json` holds it: objects are lists of members in the order of the text,
and a number is a natural number, a negative integer, or a float, which is a rational
number since JSON has no infinities. Reading and printing text is the library's business,
so the two directions are a parameter of everything that needs them.
-/

namespace EggPool.Wire

inductive Number where
  | posInt (n : Nat)
  | negInt (n : Int)
  | float (value : Rat)
  deriving DecidableEq, Repr

inductive Value where
  | null
  | bool (b : Bool)
  | number (n : Number)
  | string (text : String)
  | array (items : List Value)
  | object (members : List (String × Value))
  deriving Repr

abbrev Map := List (String × Value)

/-- `serde_json::from_str` and `serde_json::to_string`. -/
structure SerdeJson where
  fromStr : String → Option Value
  toText : Value → String

namespace Value

def asStr : Value → Option String
  | string text => some text
  | _ => none

def isNull : Value → Bool
  | null => true
  | _ => false

def asBool : Value → Option Bool
  | bool b => some b
  | _ => none

def asU64 : Value → Option Nat
  | number (.posInt n) => some n
  | _ => none

def asArray : Value → Option (List Value)
  | array items => some items
  | _ => none

def asObject : Value → Option Map
  | object members => some members
  | _ => none

end Value

namespace Map

def get (members : Map) (key : String) : Option Value :=
  List.lookup key members

def containsKey (members : Map) (key : String) : Bool :=
  (members.get key).isSome

/-- A new member comes last; a known one keeps its place. -/
def insert (members : Map) (key : String) (value : Value) : Map :=
  match members with
  | [] => [(key, value)]
  | (name, old) :: members =>
    if key == name then (key, value) :: members else (name, old) :: insert members key value

@[simp]
theorem get_nil (key : String) : Map.get [] key = none := rfl

@[simp]
theorem get_cons (n : String) (v : Value) (m : Map) (key : String) :
    Map.get ((n, v) :: m) key = if key = n then some v else m.get key := by
  unfold get
  rw [List.lookup_cons]
  by_cases h : key = n
  · rw [if_pos h, h, beq_self_eq_true]
  · rw [if_neg h, beq_false_of_ne h]

theorem get_append (l r : Map) (key : String) : Map.get (l ++ r) key = (l.get key).or (r.get key):=
  List.lookup_append

theorem get_insert (m : Map) (key : String) (v : Value) (name : String) :
    (m.insert key v).get name = if name == key then some v else m.get name := by
  induction m with
  | nil =>
    simp only [insert, get, List.lookup_cons]
    cases name == key <;> rfl
  | cons mem m ih =>
    obtain ⟨first, old⟩ := mem
    simp only [insert]
    unfold get at ih ⊢
    by_cases hkey : key = first
    · subst hkey
      rw [beq_self_eq_true, if_pos rfl, List.lookup_cons, List.lookup_cons]
      cases name == key <;> rfl
    · rw [if_neg (by simpa using hkey), List.lookup_cons, List.lookup_cons]
      by_cases hf : name = first
      · subst hf
        have hne : (name == key) = false := by simpa using fun h => hkey h.symm
        rw [beq_self_eq_true, hne]
        rfl
      · have hne : (name == first) = false := by simpa using hf
        rwa [hne]

end Map

variable (value : Option Value)

def string : Option String :=
  value.bind Value.asStr

def index : Option Nat :=
  value.bind Value.asU64

def token : Option Nat :=
  value.bind Value.asU64

def object : Option Map :=
  value.bind Value.asObject

def array : Option (List Value) :=
  value.bind Value.asArray

/-- The longest beginning of a text that fits into a number of bytes. -/
def takeBytes : Nat → List Char → List Char
  | _, [] => []
  | limit, c :: text =>
    if c.utf8Size ≤ limit then c :: takeBytes (limit - c.utf8Size) text else []

def boundedString (limit : Nat) : Option String :=
  (string value).map fun text =>
    if text.utf8ByteSize ≤ limit then text else String.ofList (takeBytes limit text.toList)

end EggPool.Wire
