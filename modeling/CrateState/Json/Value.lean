/-!
# JSON values

A JSON value as the program reads and writes it. Numbers keep the three kinds a reader
tells apart: a whole number from 0 to 2^64 − 1, a negative whole number down to −2^63,
and a double for everything else (a fraction, an exponent, or a whole number outside those
ranges). Objects keep their members in the order they were written, duplicates included;
`Json.field?` looks a key up the way a map built from the members would, so the last
occurrence wins.
-/

namespace CrateState

/-- A JSON number in one of the three kinds a reader produces. -/
inductive Number where
  /-- A whole number from 0 to 2^64 − 1. -/
  | nat (n : Nat)
  /-- A negative whole number from −2^63 to −1. -/
  | neg (n : Int)
  /-- Any other number, as a double. -/
  | float (f : Float)

/-- A JSON value. -/
inductive Json where
  /-- `null`. -/
  | null
  /-- `true` or `false`. -/
  | bool (b : Bool)
  | num (n : Number)
  | str (s : String)
  | arr (items : List Json)
  /-- An object, members in written order. -/
  | obj (members : List (String × Json))

namespace Json

/-- A whole number as JSON: non-negative numbers are `nat`, negative ones `neg`. -/
def int (i : Int) : Json :=
  if 0 ≤ i then .num (.nat i.toNat) else .num (.neg i)

def nat (n : Nat) : Json := .num (.nat n)

/-- The value of the last member named `k`. -/
def field? (j : Json) (k : String) : Option Json :=
  match j with
  | .obj members => (members.reverse.find? (·.1 == k)).map (·.2)
  | _ => none

/-- Whether the object has a member named `k`. -/
def has (j : Json) (k : String) : Bool := (j.field? k).isSome

/-- An optional value: `null` for `none`. -/
def opt {α : Type} (f : α → Json) : Option α → Json
  | some a => f a
  | none => .null

end Json

end CrateState
