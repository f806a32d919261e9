import DemurrageToken.Json.Basic
/-!
When two values count as the same. Numbers and truth values are compared by their exact quantity,
lists in order, and objects without regard to the order of their members.
-/
namespace DemurrageToken.Json

/-- What a number or a truth value amounts to: an integer, if it equals one. -/
inductive Quantity where
  | whole (n : Int)
  | broken (x : Binary64)
deriving DecidableEq

def Quantity.ofFloat (x : Binary64) : Quantity :=
  match x.toInt? with
  | some n => whole n
  | none => broken x

/-- The quantity of a value; `true` counts as one and `false` as zero. -/
def quantity? : Json → Option Quantity
  | bool b => some (.whole (if b then 1 else 0))
  | int n => some (.whole n)
  | float x => some (.ofFloat x)
  | _ => none

/-- Whether two values without parts count as the same. -/
def sameScalar (v w : Json) : Bool :=
  match v, w with
  | null, null => true
  | string s, string t => s = t
  | _, _ =>
    match quantity? v, quantity? w with
    | some p, some q => p = q
    | _, _ => false

mutual

def same : Json → Json → Bool
  | array xs, w =>
    match w with
    | array ys => sameElements xs ys
    | _ => false
  | object ms, w =>
    match w with
    | object ns => ms.length = ns.length && sameMembers ms ns
    | _ => false
  | v, w => sameScalar v w

def sameElements : List Json → List Json → Bool
  | [], [] => true
  | x :: xs, y :: ys => same x y && sameElements xs ys
  | _, _ => false

/-- Whether each member has the same value in another object. -/
def sameMembers : List (Text × Json) → List (Text × Json) → Bool
  | [], _ => true
  | (name, x) :: ms, ns =>
    (match ns.lookup name with
      | some y => same x y
      | none => false) && sameMembers ms ns

end

end DemurrageToken.Json
