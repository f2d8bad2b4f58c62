import FormUpload.Number.Binary64

/-!
# JSON values

A value is a scalar, an array or an object.  An object keeps its members sorted
by key and holds each key once (`insertMember`); a member put in later takes the
place of an earlier one with the same key.

Whole numbers from `-2^63` to `2^64 - 1` are exact; all other numbers are
binary64.  A whole number never equals a binary64 one, and the two binary64
zeros are equal.
-/

namespace FormUpload.Json

open FormUpload.Number (Binary64)

/-! ## §1. Numbers. -/

/-- A number as a document holds it. -/
inductive Number where
  | whole (i : Int)
  | real (x : Binary64)
deriving DecidableEq, Repr

/-- Whether a whole number is kept exactly. -/
def Number.fits (i : Int) : Prop := -0x8000000000000000 ≤ i ∧ i < 0x10000000000000000

/-- Equality of numbers as values. -/
def Number.same : Number → Number → Bool
  | .whole a, .whole b => a == b
  | .real a, .real b => a.same b
  | _, _ => false

/-! ## §2. Values. -/

/-- A JSON document. -/
inductive Value where
  | null
  | bool (b : Bool)
  | number (n : Number)
  | string (s : String)
  | array (items : List Value)
  | object (members : List (String × Value))
deriving Repr, Inhabited

/-- Puts a member at its place in the key order; a member with that key is
replaced. -/
def insertMember (k : String) (v : Value) :
    List (String × Value) → List (String × Value)
  | [] => [(k, v)]
  | (k', v') :: r =>
      if k < k' then (k, v) :: (k', v') :: r
      else if k = k' then (k, v) :: r
      else (k', v') :: insertMember k v r

/-- The members of an object as a document lists them: the last of those with
one key counts. -/
def sortMembers (ms : List (String × Value)) : List (String × Value) :=
  ms.foldl (fun acc m => insertMember m.1 m.2 acc) []

namespace Value

/-- The object with the given members. -/
def ofMembers (ms : List (String × Value)) : Value := .object (sortMembers ms)

/-! ## §3. Looking inside. -/

/-- The member of an object with the given key. -/
def get? (v : Value) (k : String) : Option Value :=
  match v with
  | .object ms => (ms.find? (·.1 == k)).map (·.2)
  | _ => none

/-- The truth value, if the value is one. -/
def asBool? : Value → Option Bool
  | .bool b => some b
  | _ => none

/-- The text, if the value is one. -/
def asString? : Value → Option String
  | .string s => some s
  | _ => none

mutual

/-- How many arrays and objects lie inside one another; a scalar has depth 0. -/
def depth : Value → Nat
  | .array items => depthOfItems items + 1
  | .object members => depthOfMembers members + 1
  | _ => 0

/-- The greatest depth among the items. -/
def depthOfItems : List Value → Nat
  | [] => 0
  | v :: r => max (depth v) (depthOfItems r)

/-- The greatest depth among the members. -/
def depthOfMembers : List (String × Value) → Nat
  | [] => 0
  | (_, v) :: r => max (depth v) (depthOfMembers r)

end

/-! ## §4. Equality. -/

mutual

/-- Equality of values, numbers compared by `Number.same`. -/
def same : Value → Value → Bool
  | .null, .null => true
  | .bool a, .bool b => a == b
  | .number a, .number b => a.same b
  | .string a, .string b => a == b
  | .array a, .array b => sameItems a b
  | .object a, .object b => sameMembers a b
  | _, _ => false

/-- Item by item equality. -/
def sameItems : List Value → List Value → Bool
  | [], [] => true
  | a :: r, b :: t => same a b && sameItems r t
  | _, _ => false

/-- Member by member equality. -/
def sameMembers : List (String × Value) → List (String × Value) → Bool
  | [], [] => true
  | (k, a) :: r, (l, b) :: t => k == l && same a b && sameMembers r t
  | _, _ => false

end

end Value

end FormUpload.Json
