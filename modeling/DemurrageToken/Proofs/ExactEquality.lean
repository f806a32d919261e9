import DemurrageToken.Fee
import DemurrageToken.Message
import DemurrageToken.Proofs.Binary64Values
import DemurrageToken.Proofs.JsonEquality

/-! Equality of messages and fees is an equivalence relation. Field by field it
compares exact quantities, so nothing is rounded on the way from one value to a
third, and objects by their names, so that the order of members does not matter
at any depth. -/
namespace List

variable {α β : Type}

/-- Two relations that agree on the items of two lists agree on the lists, place by
place. -/
theorem forall₂_congr_of_mem {R S : α → β → Prop} {xs : List α} {ys : List β}
    (h : ∀ x ∈ xs, ∀ y ∈ ys, (R x y ↔ S x y)) : Forall₂ R xs ys ↔ Forall₂ S xs ys := by
  rw [forall₂_iff_zip, forall₂_iff_zip]
  refine and_congr_right fun _ => forall_congr' fun x => forall_congr' fun y =>
    forall_congr' fun hMem => ?_
  obtain ⟨hx, hy⟩ := of_mem_zip hMem
  exact h x hx y hy

theorem forall₂_symm {R : α → α → Prop} (hSymm : ∀ x y, R x y → R y x) {xs ys : List α}
    (h : Forall₂ R xs ys) : Forall₂ R ys xs :=
  .flip (h.imp hSymm)

/-- A relation by place is transitive if it is so item by item. -/
theorem forall₂_trans {R : α → α → Prop} (hTrans : ∀ x y z, R x y → R y z → R x z)
    {xs ys zs : List α} (hxy : Forall₂ R xs ys) (hyz : Forall₂ R ys zs) : Forall₂ R xs zs := by
  induction hxy generalizing zs with
  | nil => exact hyz
  | cons hFirst _ ih =>
      cases hyz with
      | cons hSecond rest => exact .cons (hTrans _ _ _ hFirst hSecond) (ih rest)

end List

namespace DemurrageToken

namespace Json

/-! ### The relation -/

/-- The exact quantity of a number or a truth value. -/
def value? : Json → Option ExtendedRational
  | bool b => some (.rational (if b then 1 else 0))
  | int n => some (.rational n)
  | float x => x.value?
  | _ => none

/-- Equal values, said without the comparison: numbers and truth values of one
quantity, the same text, lists that are equal place by place, and objects with
the same names that are equal name by name. -/
inductive Equal : Json → Json → Prop where
  | null : Equal null null
  | string (t : Text) : Equal (string t) (string t)
  | number {v w : Json} {q : ExtendedRational} (hv : v.value? = some q) (hw : w.value? = some q) :
      Equal v w
  | array {xs ys : List Json} (hLength : xs.length = ys.length)
      (hElements : ∀ (i : Nat) (x y : Json), xs[i]? = some x → ys[i]? = some y → Equal x y) :
      Equal (array xs) (array ys)
  | object {ms ns : List (Text × Json)}
      (hNames : ∀ name, name ∈ ms.map Prod.fst ↔ name ∈ ns.map Prod.fst)
      (hMembers : ∀ (name : Text) (x y : Json), (name, x) ∈ ms → (name, y) ∈ ns → Equal x y) :
      Equal (object ms) (object ns)

/-- What a value needs to be compared: it is not NaN, and its names differ. Its
parts are left aside. -/
structure Definite (v : Json) : Prop where
  number : v ≠ .float .nan
  names : ∀ ms, v = .object ms → (ms.map Prod.fst).Nodup

/-- The values that are compared: at no depth do they hold NaN. -/
def Comparable (v : Json) : Prop := Everywhere Definite v

/-- Whatever has an exact quantity can be compared. -/
theorem Comparable.of_value? {v : Json} {q : ExtendedRational} (h : v.value? = some q) :
    v.Comparable := by
  refine .mk ⟨?_, ?_⟩ ?_
  · rintro rfl
    cases h
  · rintro ms rfl
    cases h
  · cases v with
    | array xs => cases h
    | object ms => cases h
    | _ => simp [parts]

theorem Comparable.object {ms : List (Text × Json)} (hNames : (ms.map Prod.fst).Nodup)
    (hMembers : ∀ v ∈ ms.map Prod.snd, Comparable v) : Comparable (.object ms) := by
  refine .mk ⟨nofun, ?_⟩ hMembers
  rintro _ ⟨⟩
  exact hNames

/-- Equality of values is symmetric, at every depth. -/
theorem Equal.symm {v w : Json} (h : v.Equal w) : w.Equal v := by
  induction h with
  | null => exact .null
  | string t => exact .string t
  | number hv hw => exact .number hw hv
  | array hLength _ ih => exact .array hLength.symm fun i y x hy hx => ih i x y hx hy
  | object hNames _ ih =>
      exact .object (fun name => (hNames name).symm) fun name y x hy hx => ih name x y hx hy

/-- Equality of values is transitive, at every depth. Numbers are equal by their
quantities, and these are one and the same. -/
theorem Equal.trans {u v w : Json} (huv : u.Equal v) (hvw : v.Equal w) : u.Equal w := by
  induction huv generalizing w with
  | null => exact hvw
  | string t => exact hvw
  | number hu hv =>
      cases hvw with
      | number hv' hw =>
          rw [hv] at hv'
          cases hv'
          exact .number hu hw
      | _ => cases hv
  | @array xs ys hLength _ ih =>
      cases hvw with
      | number hv _ => cases hv
      | @array _ zs hLength' hElements =>
          refine .array (hLength.trans hLength') fun i x z hx hz => ?_
          obtain ⟨hBound, -⟩ := List.getElem?_eq_some_iff.mp hx
          rw [hLength] at hBound
          have hy : ys[i]? = some ys[i] := List.getElem?_eq_getElem hBound
          exact ih i x _ hx hy (hElements i _ z hy hz)
  | @object ms ns hNames _ ih =>
      cases hvw with
      | number hv _ => cases hv
      | @object _ os hNames' hMembers =>
          refine .object (fun name => (hNames name).trans (hNames' name)) fun name x z hx hz => ?_
          obtain ⟨⟨_, y⟩, hy, rfl⟩ := List.mem_map.mp
            ((hNames name).mp (List.mem_map_of_mem hx))
          exact ih _ x y hx hy (hMembers _ y z hy hz)

/-- A value without NaN equals itself. -/
theorem Equal.refl {v : Json} (hv : v.Comparable) : v.Equal v := by
  induction hv with
  | @mk v hDefinite _ ih =>
      cases v with
      | null => exact .null
      | bool b => exact .number rfl rfl
      | int n => exact .number rfl rfl
      | float x =>
          cases x with
          | nan => exact absurd rfl hDefinite.number
          | infinite negative => exact .number rfl rfl
          | finite negative magnitude => exact .number rfl rfl
      | string t => exact .string t
      | array xs =>
          refine .array rfl fun i x y hx hy => ?_
          obtain rfl : x = y := Option.some.inj (hx.symm.trans hy)
          exact ih x (List.mem_of_getElem? hx)
      | object ms =>
          -- As names differ, each member is the only one under its name.
          have hNodup := hDefinite.names ms rfl
          refine .object (fun _ => .rfl) fun name x y hx hy => ?_
          obtain rfl : x = y := Option.some.inj
            ((Entries.lookup_of_mem hNodup hx).symm.trans (Entries.lookup_of_mem hNodup hy))
          exact ih x (List.mem_map_of_mem hx)

/-- Arrays are compared place by place. -/
theorem equal_array_iff {xs ys : List Json} :
    (array xs).Equal (array ys) ↔ List.Forall₂ Equal xs ys := by
  rw [List.forall₂_iff_get]
  constructor
  · intro h
    cases h with
    | number hv _ => cases hv
    | array hLength hElements =>
        exact ⟨hLength, fun i hx hy => hElements i _ _ (List.getElem?_eq_getElem hx)
          (List.getElem?_eq_getElem hy)⟩
  · rintro ⟨hLength, hElements⟩
    refine .array hLength fun i x y hx hy => ?_
    obtain ⟨hx', rfl⟩ := List.getElem?_eq_some_iff.mp hx
    obtain ⟨hy', rfl⟩ := List.getElem?_eq_some_iff.mp hy
    exact hElements i hx' hy'

/-! ### Numbers -/

/-- The exact quantity of what a number or a truth value amounts to. -/
def Quantity.value? : Quantity → Option ExtendedRational
  | whole n => some (.rational n)
  | broken x => x.value?

/-- A quantity that stands for a value: only what is neither whole nor NaN is
left as a number of the format. -/
def Quantity.Reduced : Quantity → Prop
  | whole _ => True
  | broken x => x.toInt? = none ∧ x ≠ .nan

theorem Quantity.value?_ofFloat (x : Binary64) : (ofFloat x).value? = x.value? := by
  rw [ofFloat]
  cases hWhole : x.toInt? with
  | none => rfl
  | some n => exact (Binary64.toInt?_eq_some_iff.mp hWhole).symm

/-- The exact value of a number is that of its quantity. -/
theorem value?_eq_bind (v : Json) : v.value? = v.quantity?.bind Quantity.value? := by
  cases v with
  | bool b => cases b <;> simp [value?, quantity?, Quantity.value?]
  | float x => exact (Quantity.value?_ofFloat x).symm
  | _ => rfl

/-- Quantities are in lowest terms, so that equal ones are the same. -/
theorem reduced_of_quantity? {v : Json} (hv : v ≠ .float .nan) {p : Quantity}
    (h : v.quantity? = some p) : p.Reduced := by
  cases v with
  | bool b =>
      cases h
      trivial
  | int n =>
      cases h
      trivial
  | float x =>
      cases h
      rw [Quantity.ofFloat]
      cases hWhole : x.toInt? with
      | none => exact ⟨hWhole, fun hNan => hv (congrArg float hNan)⟩
      | some n => trivial
  | _ => cases h

namespace Quantity

/-- A quantity in lowest terms has an exact value. -/
theorem exists_value? {p : Quantity} (hp : p.Reduced) : ∃ q, p.value? = some q := by
  cases p with
  | whole n => exact ⟨_, rfl⟩
  | broken x =>
      cases x with
      | nan => exact absurd rfl hp.2
      | infinite negative => exact ⟨_, rfl⟩
      | finite negative magnitude => exact ⟨_, rfl⟩

/-- Nothing that is left as a number of the format is an integer. -/
theorem value?_ne_of_broken {x : Binary64} (hx : (broken x).Reduced) (n : Int) :
    x.value? ≠ some (.rational n) := by
  intro h
  rw [← Binary64.toInt?_eq_some_iff, hx.1] at h
  cases h

/-- Quantities that stand for one value are one quantity. -/
theorem eq_of_value? {p p' : Quantity} {q : ExtendedRational} (hp : p.Reduced) (hp' : p'.Reduced)
    (h : p.value? = some q) (h' : p'.value? = some q) : p = p' := by
  cases p with
  | whole n =>
      cases h
      cases p' with
      | whole n' =>
          rw [value?, Option.some_inj, ExtendedRational.rational.injEq, Int.cast_inj] at h'
          rw [h']
      | broken y => exact absurd h' (value?_ne_of_broken hp' n)
  | broken x =>
      cases p' with
      | whole n' =>
          cases h'
          exact absurd h (value?_ne_of_broken hp n')
      | broken y => rw [Binary64.eq_of_value? h h' hp.1]

end Quantity

/-- Two quantities are the same if they stand for one exact value. -/
theorem quantity?_eq_iff {v w : Json} (hv : v ≠ .float .nan) (hw : w ≠ .float .nan) :
    (∃ p, v.quantity? = some p ∧ w.quantity? = some p) ↔
      ∃ q, v.value? = some q ∧ w.value? = some q := by
  rw [value?_eq_bind, value?_eq_bind]
  simp only [Option.bind_eq_some_iff]
  constructor
  · rintro ⟨p, hp, hp'⟩
    obtain ⟨q, hq⟩ := Quantity.exists_value? (reduced_of_quantity? hv hp)
    exact ⟨q, ⟨p, hp, hq⟩, p, hp', hq⟩
  · rintro ⟨q, ⟨p, hp, hq⟩, p', hp', hq'⟩
    obtain rfl := Quantity.eq_of_value? (reduced_of_quantity? hv hp) (reduced_of_quantity? hw hp')
      hq hq'
    exact ⟨p, hp, hp'⟩

/-- Two scalars with quantities count as the same if the quantities are. -/
theorem sameScalar_iff {v w : Json} {p : Quantity} (h : v.quantity? = some p) :
    sameScalar v w = true ↔ w.quantity? = some p := by
  cases v with
  | null | string _ | array _ | object _ => cases h
  | _ =>
      cases h
      cases w <;> simp [sameScalar, quantity?, eq_comm]

/-- A number counts as the same as what has its exact quantity. -/
theorem same_iff_of_value? {v w : Json} (hv : v ≠ .float .nan) (hw : w ≠ .float .nan)
    {q : ExtendedRational} (h : v.value? = some q) : v.same w = true ↔ w.value? = some q := by
  have hQuantity := value?_eq_bind v
  rw [h, eq_comm, Option.bind_eq_some_iff] at hQuantity
  obtain ⟨p, hp, -⟩ := hQuantity
  have hScalar : v.same w = sameScalar v w := by
    cases v with
    | array xs => cases hp
    | object ms => cases hp
    | _ => simp [same]
  have hBoth := quantity?_eq_iff hv hw
  simp only [hp, h, Option.some.injEq, exists_eq_left'] at hBoth
  rw [hScalar, sameScalar_iff hp, hBoth]

/-- An integer counts as the same as a float whose exact value it is, however large. -/
theorem int_same_float_iff {n : Int} {x : Binary64} :
    (int n).same (float x) = true ↔ x.value? = some (.rational n) := by
  have hScalar : (int n).same (float x) = sameScalar (int n) (float x) := by simp [same]
  rw [hScalar, sameScalar_iff rfl, quantity?, Option.some_inj, ← Binary64.toInt?_eq_some_iff,
    Quantity.ofFloat]
  cases x.toInt? <;> simp

/-! ### Values -/

theorem string_same_iff {t : Text} {w : Json} : (string t).same w = true ↔ w = string t := by
  cases w <;> simp [same, sameScalar, quantity?, eq_comm]

theorem null_equal_iff {w : Json} : null.Equal w ↔ w = null := by
  constructor
  · intro h
    cases h with
    | null => rfl
    | number hv _ => cases hv
  · rintro rfl
    exact .null

theorem string_equal_iff {t : Text} {w : Json} : (string t).Equal w ↔ w = string t := by
  constructor
  · intro h
    cases h with
    | string => rfl
    | number hv _ => cases hv
  · rintro rfl
    exact .string t

/-- What has an exact value equals what has the same one. -/
theorem equal_iff_of_value? {v w : Json} {q : ExtendedRational} (h : v.value? = some q) :
    v.Equal w ↔ w.value? = some q := by
  constructor
  · intro hEqual
    cases hEqual with
    | number hv hw => rwa [← h, hv]
    | _ => cases h
  · exact .number h

theorem same_array_iff {xs ys : List Json}
    (ih : ∀ x ∈ xs, ∀ y ∈ ys, (x.same y = true ↔ x.Equal y)) :
    (array xs).same (array ys) = true ↔ (array xs).Equal (array ys) := by
  have hSame : (array xs).same (array ys) = true ↔ sameElements xs ys = true := by simp [same]
  rw [hSame, sameElements_iff, equal_array_iff, List.forall₂_congr_of_mem ih]

/-- Of objects, the names are compared, and the values under each of them. -/
theorem same_object_iff_equal {ms ns : List (Text × Json)} (hms : (ms.map Prod.fst).Nodup)
    (hns : (ns.map Prod.fst).Nodup)
    (ih : ∀ name x y, (name, x) ∈ ms → (name, y) ∈ ns → (x.same y = true ↔ x.Equal y)) :
    (object ms).same (object ns) = true ↔ (object ms).Equal (object ns) := by
  rw [same_object_iff hms hns]
  constructor
  · intro hSame
    refine .object (fun name => ?_) fun name x y hx hy => ?_
    · rw [Entries.mem_names_iff, Entries.mem_names_iff, (hSame name).isSome_eq]
    · have hName := hSame name
      rw [Entries.lookup_of_mem hms hx, Entries.lookup_of_mem hns hy] at hName
      cases hName with
      | some hxy => exact (ih name x y hx hy).mp hxy
  · intro hEqual name
    cases hEqual with
    | number hv _ => cases hv
    | object hNames hMembers =>
        cases hName : ms.lookup name with
        | none =>
            rw [← Entries.notMem_names_iff, hNames, Entries.notMem_names_iff] at hName
            rw [hName]
            exact .none
        | some x =>
            have hx := Entries.mem_of_lookup hName
            obtain ⟨⟨_, y⟩, hy, rfl⟩ := List.mem_map.mp ((hNames name).mp (List.mem_map_of_mem hx))
            rw [Entries.lookup_of_mem hns hy]
            exact .some ((ih _ x y hx hy).mpr (hMembers _ x y hx hy))

/-- Comparable values count as the same if and only if they are equal. -/
theorem same_iff_equal {v w : Json} (hv : v.Comparable) (hw : w.Comparable) :
    v.same w = true ↔ v.Equal w := by
  -- The comparison descends along the left value, and so does the induction.
  induction hv generalizing w with
  | @mk v hDefinite _ ih =>
      obtain ⟨hDefinite', hParts'⟩ := hw
      have hNumber : ∀ q, v.value? = some q → (v.same w = true ↔ v.Equal w) := by
        intro q hq
        rw [same_iff_of_value? hDefinite.number hDefinite'.number hq, equal_iff_of_value? hq]
      cases v with
      | null => rw [null_same_iff, null_equal_iff]
      | bool b => exact hNumber _ rfl
      | int n => exact hNumber _ rfl
      | float x =>
          cases x with
          | nan => exact absurd rfl hDefinite.number
          | infinite negative => exact hNumber _ rfl
          | finite negative magnitude => exact hNumber _ rfl
      | string t => rw [string_same_iff, string_equal_iff]
      | array xs =>
          cases w with
          | array ys => exact same_array_iff fun x hx y hy => ih x hx (hParts' y hy)
          | _ =>
              refine iff_of_false (by simp [same]) fun h => ?_
              cases h with
              | number hv _ => cases hv
      | object ms =>
          cases w with
          | object ns =>
              refine same_object_iff_equal (hDefinite.names ms rfl) (hDefinite'.names ns rfl)
                fun name x y hx hy => ?_
              exact ih x (List.mem_map_of_mem hx) (hParts' y (List.mem_map_of_mem hy))
          | _ =>
              refine iff_of_false (by simp [same]) fun h => ?_
              cases h with
              | number hv _ => cases hv

end Json

/-! ### Messages and fees -/

/-- A comparison is an equivalence on the values on which it agrees with a
relation that is one. -/
theorem equivalence_of_iff {α : Type} {p : α → Prop} {R : α → α → Prop} {same : α → α → Bool}
    (hIff : ∀ a b, p a → p b → (same a b = true ↔ R a b)) (hRefl : ∀ a, p a → R a a)
    (hSymm : ∀ a b, R a b → R b a) (hTrans : ∀ a b c, R a b → R b c → R a c) :
    Equivalence fun a b : {a // p a} => same a.val b.val = true where
  refl a := (hIff _ _ a.property a.property).mpr (hRefl _ a.property)
  symm {a b} h := by
    rw [hIff _ _ a.property b.property] at h
    rw [hIff _ _ b.property a.property]
    exact hSymm _ _ h
  trans {a b c} hab hbc := by
    rw [hIff _ _ a.property b.property] at hab
    rw [hIff _ _ b.property c.property] at hbc
    rw [hIff _ _ a.property c.property]
    exact hTrans _ _ _ hab hbc

namespace Message

def Comparable (m : Message) : Prop := ∀ v ∈ m.values, v.Comparable

/-- Messages of one operation whose fields are equal. -/
structure Equal (m n : Message) : Prop where
  operation : m.operation = n.operation
  values : List.Forall₂ Json.Equal m.values n.values

/-- The comparison of messages agrees with their equality. -/
theorem same_iff_equal {m n : Message} (hm : m.Comparable) (hn : n.Comparable) :
    m.same n = true ↔ m.Equal n := by
  rw [same, Bool.and_eq_true, decide_eq_true_eq, Json.sameElements_iff,
    List.forall₂_congr_of_mem fun x hx y hy => Json.same_iff_equal (hm x hx) (hn y hy)]
  exact ⟨fun h => ⟨h.1, h.2⟩, fun h => ⟨h.operation, h.values⟩⟩

theorem Equal.refl {m : Message} (hm : m.Comparable) : m.Equal m :=
  ⟨rfl, List.forall₂_same.mpr fun v hv => .refl (hm v hv)⟩

theorem Equal.symm {m n : Message} (h : m.Equal n) : n.Equal m :=
  ⟨h.operation.symm, List.forall₂_symm (fun _ _ => .symm) h.values⟩

theorem Equal.trans {m n o : Message} (hmn : m.Equal n) (hno : n.Equal o) : m.Equal o :=
  ⟨hmn.operation.trans hno.operation,
    List.forall₂_trans (fun _ _ _ => .trans) hmn.values hno.values⟩

end Message

namespace Coin

structure Comparable (c : Coin) : Prop where
  denom : c.denom.Comparable
  amount : c.amount.Comparable

structure Equal (c d : Coin) : Prop where
  denom : c.denom.Equal d.denom
  amount : c.amount.Equal d.amount

/-- The comparison of coins agrees with their equality. -/
theorem same_iff_equal {c d : Coin} (hc : c.Comparable) (hd : d.Comparable) :
    c.same d = true ↔ c.Equal d := by
  rw [same, Bool.and_eq_true, Json.same_iff_equal hc.denom hd.denom,
    Json.same_iff_equal hc.amount hd.amount]
  exact ⟨fun h => ⟨h.1, h.2⟩, fun h => ⟨h.denom, h.amount⟩⟩

theorem Equal.refl {c : Coin} (hc : c.Comparable) : c.Equal c := ⟨.refl hc.denom, .refl hc.amount⟩

theorem Equal.symm {c d : Coin} (h : c.Equal d) : d.Equal c := ⟨h.denom.symm, h.amount.symm⟩

theorem Equal.trans {c d e : Coin} (hcd : c.Equal d) (hde : d.Equal e) : c.Equal e :=
  ⟨hcd.denom.trans hde.denom, hcd.amount.trans hde.amount⟩

end Coin

namespace Fee

structure Comparable (f : Fee) : Prop where
  amount : ∀ c ∈ f.amount, c.Comparable
  gas : f.gas.Comparable

/-- Fees of equal gas whose coins are equal one by one. -/
structure Equal (f g : Fee) : Prop where
  amount : List.Forall₂ Coin.Equal f.amount g.amount
  gas : f.gas.Equal g.gas

/-- The comparison of fees agrees with their equality. -/
theorem same_iff_equal {f g : Fee} (hf : f.Comparable) (hg : g.Comparable) :
    f.same g = true ↔ f.Equal g := by
  have hFields : f.same g = true ↔
      List.Forall₂ (fun c d => c.same d = true) f.amount g.amount ∧ f.gas.same g.gas = true := by
    rw [same, Bool.and_eq_true, Bool.and_eq_true, decide_eq_true_eq, List.all_eq_true,
      List.forall₂_iff_zip]
    exact and_congr_left' (and_congr_right fun _ =>
      ⟨fun h _ _ hMem => h _ hMem, fun h _ hMem => h hMem⟩)
  rw [hFields, Json.same_iff_equal hf.gas hg.gas, List.forall₂_congr_of_mem fun c hc d hd =>
    Coin.same_iff_equal (hf.amount c hc) (hg.amount d hd)]
  exact ⟨fun h => ⟨h.1, h.2⟩, fun h => ⟨h.amount, h.gas⟩⟩

theorem Equal.refl {f : Fee} (hf : f.Comparable) : f.Equal f :=
  ⟨List.forall₂_same.mpr fun c hc => .refl (hf.amount c hc), .refl hf.gas⟩

theorem Equal.symm {f g : Fee} (h : f.Equal g) : g.Equal f :=
  ⟨List.forall₂_symm (fun _ _ => .symm) h.amount, h.gas.symm⟩

theorem Equal.trans {f g h : Fee} (hfg : f.Equal g) (hgh : g.Equal h) : f.Equal h :=
  ⟨List.forall₂_trans (fun _ _ _ => .trans) hfg.amount hgh.amount, hfg.gas.trans hgh.gas⟩

end Fee

/-- Equality is an equivalence relation on messages, on coins and on fees whose
values hold no NaN. They are equal if they are so field by field, by exact
quantities: no float is equal to two integers. -/
theorem same_equivalence :
    (Equivalence fun m n : {m : Message // m.Comparable} => m.val.same n.val = true) ∧
    (Equivalence fun c d : {c : Coin // c.Comparable} => c.val.same d.val = true) ∧
    (Equivalence fun f g : {f : Fee // f.Comparable} => f.val.same g.val = true) ∧
    (∀ m n : Message, m.Comparable → n.Comparable → (m.same n = true ↔ m.Equal n)) ∧
    (∀ c d : Coin, c.Comparable → d.Comparable → (c.same d = true ↔ c.Equal d)) ∧
    (∀ f g : Fee, f.Comparable → g.Comparable → (f.same g = true ↔ f.Equal g)) ∧
    ∀ (n k : Int) (x : Binary64), (Json.int n).same (.float x) = true →
      (Json.int k).same (.float x) = true → n = k := by
  refine ⟨?_, ?_, ?_, fun _ _ => Message.same_iff_equal, fun _ _ => Coin.same_iff_equal,
    fun _ _ => Fee.same_iff_equal, fun n k x hn hk => ?_⟩
  · exact equivalence_of_iff (fun _ _ => Message.same_iff_equal) (fun _ => .refl)
      (fun _ _ => .symm) (fun _ _ _ => .trans)
  · exact equivalence_of_iff (fun _ _ => Coin.same_iff_equal) (fun _ => .refl)
      (fun _ _ => .symm) (fun _ _ _ => .trans)
  · exact equivalence_of_iff (fun _ _ => Fee.same_iff_equal) (fun _ => .refl)
      (fun _ _ => .symm) (fun _ _ _ => .trans)
  · rw [Json.int_same_float_iff] at hn hk
    rw [hn, Option.some_inj, ExtendedRational.rational.injEq, Int.cast_inj] at hk
    exact hk

/-- A large integer is equal to its float, in members of another order and in
coins too, and no other integer is. -/
theorem same_equivalence_members :
    let x : Binary64 := .finite false ⟨1076 * Binary64.perExponent, by decide⟩
    let m : Message := ⟨.burn, [.object [("a", .bool true), ("b", .int (2 ^ 53))]], rfl⟩
    let n : Message := ⟨.burn, [.object [("b", .float x), ("a", .int 1)]], rfl⟩
    let f : Fee := ⟨[⟨.bool true, .int (2 ^ 53)⟩], .int 0⟩
    let g : Fee := ⟨[⟨.int 1, .float x⟩], .bool false⟩
    (m.Comparable ∧ n.Comparable ∧ m.Equal n ∧ n.same m = true) ∧
      (f.Comparable ∧ g.Comparable ∧ f.Equal g ∧ g.same f = true) ∧
      ∀ k : Int, (Json.int k).same (.float x) = true → k = 2 ^ 53 := by
  intro x m n f g
  obtain ⟨hMessages, -, hFees, hMessage, -, hFee, hFloat⟩ := same_equivalence
  have hm : m.Comparable := by
    refine List.forall_mem_singleton.mpr (.object (by decide) ?_)
    exact List.forall_mem_cons.mpr ⟨.of_value? rfl, List.forall_mem_singleton.mpr (.of_value? rfl)⟩
  have hn : n.Comparable := by
    refine List.forall_mem_singleton.mpr (.object (by decide) ?_)
    exact List.forall_mem_cons.mpr ⟨.of_value? rfl, List.forall_mem_singleton.mpr (.of_value? rfl)⟩
  have hf : f.Comparable :=
    ⟨List.forall_mem_singleton.mpr ⟨.of_value? rfl, .of_value? rfl⟩, .of_value? rfl⟩
  have hg : g.Comparable :=
    ⟨List.forall_mem_singleton.mpr ⟨.of_value? rfl, .of_value? rfl⟩, .of_value? rfl⟩
  have hmn : m.same n = true := by decide
  have hfg : f.same g = true := by decide
  refine ⟨⟨hm, hn, (hMessage m n hm hn).mp hmn, ?_⟩, ⟨hf, hg, (hFee f g hf hg).mp hfg, ?_⟩,
    fun k hk => ?_⟩
  · exact @hMessages.symm ⟨m, hm⟩ ⟨n, hn⟩ hmn
  · exact @hFees.symm ⟨f, hf⟩ ⟨g, hg⟩ hfg
  · exact hFloat k (2 ^ 53) x hk (by decide)

end DemurrageToken
