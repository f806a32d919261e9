import DemurrageToken.Binary64.Basic
import DemurrageToken.Entries
/-!
JSON values. Integers are exact and kept apart from binary64 numbers; objects keep the order of
their members.
-/
namespace DemurrageToken

inductive Json where
  | null
  | bool (value : Bool)
  | int (value : Int)
  | float (value : Binary64)
  | string (value : Text)
  | array (elements : List Json)
  | object (members : List (Text × Json))
deriving Inhabited

namespace Json

mutual

/-- Equality of values: the same constructors around the same parts. -/
def decEq : (v w : Json) → Decidable (v = w)
  | null, null => isTrue rfl
  | bool a, bool b => decidable_of_iff (a = b) (by simp)
  | int a, int b => decidable_of_iff (a = b) (by simp)
  | float a, float b => decidable_of_iff (a = b) (by simp)
  | string a, string b => decidable_of_iff (a = b) (by simp)
  | array xs, array ys =>
    match elementsDecEq xs ys with
    | isTrue h => isTrue (congrArg array h)
    | isFalse h => isFalse fun e => h (array.inj e)
  | object xs, object ys =>
    match membersDecEq xs ys with
    | isTrue h => isTrue (congrArg object h)
    | isFalse h => isFalse fun e => h (object.inj e)
  | null, bool _ | null, int _ | null, float _ | null, string _ | null, array _ | null, object _
  | bool _, null | bool _, int _ | bool _, float _ | bool _, string _ | bool _, array _
  | bool _, object _
  | int _, null | int _, bool _ | int _, float _ | int _, string _ | int _, array _
  | int _, object _
  | float _, null | float _, bool _ | float _, int _ | float _, string _ | float _, array _
  | float _, object _
  | string _, null | string _, bool _ | string _, int _ | string _, float _ | string _, array _
  | string _, object _
  | array _, null | array _, bool _ | array _, int _ | array _, float _ | array _, string _
  | array _, object _
  | object _, null | object _, bool _ | object _, int _ | object _, float _ | object _, string _
  | object _, array _ => isFalse (by simp)

def elementsDecEq : (xs ys : List Json) → Decidable (xs = ys)
  | [], [] => isTrue rfl
  | [], _ :: _ => isFalse (by simp)
  | _ :: _, [] => isFalse (by simp)
  | x :: xs, y :: ys =>
    match decEq x y with
    | isTrue hx =>
      match elementsDecEq xs ys with
      | isTrue hxs => isTrue (by rw [hx, hxs])
      | isFalse h => isFalse fun e => h (List.cons.inj e).2
    | isFalse h => isFalse fun e => h (List.cons.inj e).1

def membersDecEq : (xs ys : List (Text × Json)) → Decidable (xs = ys)
  | [], [] => isTrue rfl
  | [], _ :: _ => isFalse (by simp)
  | _ :: _, [] => isFalse (by simp)
  | (k, x) :: xs, (l, y) :: ys =>
    match decEq x y with
    | isTrue hx =>
      match membersDecEq xs ys with
      | isTrue hxs => decidable_of_iff (k = l) (by simp [hx, hxs])
      | isFalse h => isFalse fun e => h (List.cons.inj e).2
    | isFalse h => isFalse fun e => h (Prod.mk.inj (List.cons.inj e).1).2

end

instance : DecidableEq Json := decEq

/-- The value of a member of an object. -/
def member? (name : Text) : Json → Option Json
  | object members => members.lookup name
  | _ => none

def isNull : Json → Bool
  | null => true
  | _ => false

/-- Members without those whose value is null. -/
def withoutNulls (members : List (Text × Json)) : List (Text × Json) :=
  members.filter fun member => !member.2.isNull

/-- An object whose values are all strings. -/
def ofTexts (entries : Entries Text) : Json :=
  object (entries.map fun entry => (entry.1, string entry.2))

end Json

end DemurrageToken
