import DemurrageToken.Settings.Environment
import DemurrageToken.Settings.File
/-!
References in values. `${NAME}` and `${NAME:-default}` stand for the value of a variable; what is
put in for one is not looked at again.
-/
namespace DemurrageToken.Settings

/-- A reference: the name, and the default where one is given. -/
structure Reference where
  name : Text
  default : Option Text
deriving DecidableEq

/-- The reference whose opening brace has just been passed, and what follows its closing one. -/
def reference? (t : Text) : Option (Reference × Text) :=
  match t.span fun c => c ≠ .scalar '}' && c ≠ .scalar ':' with
  | (name, .scalar '}' :: left) => some (⟨name, none⟩, left)
  | (name, .scalar ':' :: .scalar '-' :: rest) =>
    match rest.span (· ≠ .scalar '}') with
    | (default, _ :: left) => some (⟨name, some default⟩, left)
    | (_, []) => none
  | _ => none

/-- A part of a value: a code point that stands for itself, or a reference. -/
inductive Atom where
  | plain (c : CodePoint)
  | reference (r : Reference)
deriving DecidableEq

/-- The parts of a value from left to right, at most as many as the bound. -/
def atomsWithin : Nat → Text → List Atom
  | 0, _ => []
  | _ + 1, [] => []
  | bound + 1, c :: rest =>
    let found? := match c, rest with
      | .scalar '$', .scalar '{' :: inner => reference? inner
      | _, _ => none
    match found? with
    | some (r, left) => .reference r :: atomsWithin bound left
    | none => .plain c :: atomsWithin bound rest

/-- The parts of a value. Each takes at least one code point. -/
def atoms (t : Text) : List Atom := atomsWithin t.length t

/-- The text that a reference stands for. The environment comes first, then what the file has
bound so far, where a name without a value counts as empty, and then the default. -/
def Reference.resolve (environment : Environment) (bound : Entries (Option Text))
    (r : Reference) : Text :=
  match environment.lookup r.name with
  | some value => value
  | none =>
    match bound.lookup r.name with
    | some value? => value?.getD []
    | none => r.default.getD []

def expand (environment : Environment) (bound : Entries (Option Text)) (t : Text) : Text :=
  (atoms t).flatMap fun
    | .plain c => [c]
    | .reference r => r.resolve environment bound

/-- The names that bindings bind with their expanded values, after some that are bound already. A
name keeps its first place and takes its last value. -/
def resolveAfter (environment : Environment) (bound : Entries (Option Text)) :
    List Binding → Entries (Option Text)
  | [] => bound
  | b :: rest =>
    let value? := b.value.map (expand environment bound)
    resolveAfter environment (Entries.put b.name value? bound) rest

def resolve (environment : Environment) (bs : List Binding) : Entries (Option Text) :=
  resolveAfter environment [] bs

end DemurrageToken.Settings
