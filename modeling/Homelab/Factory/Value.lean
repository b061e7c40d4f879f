import Mathlib.Tactic.Common

/-!
# Values the factory is handed

Plans, execution contexts and outcomes reach the factory as JSON decoded into Python objects, and
its guards look at their types (`type(value) is int`, `isinstance(edit, dict)`). A `Value` is such
an object. Two conventions keep equality plain:

* a dict is the list of its items in key order, the order `dumps` writes them in;
* a float is the rational it stands for, or one of the three values JSON has no literal for.
-/

namespace Homelab.Factory

/-- A Python float. -/
inductive Number where
  | finite (q : Rat)
  | inf (negative : Bool)
  | nan
  deriving DecidableEq, Repr

/-- A Python object. -/
inductive Value where
  | null
  | bool (b : Bool)
  | int (i : Int)
  | float (x : Number)
  | str (s : String)
  | list (items : List Value)
  | dict (items : List (String × Value))
  /-- Anything else, by the name of its type. -/
  | object (type : String)

namespace Value

/-! ## Equality -/

mutual

/-- Equality of values. -/
def same : Value → Value → Bool
  | .null, .null => true
  | .bool a, .bool b => a == b
  | .int a, .int b => a == b
  | .float a, .float b => a == b
  | .str a, .str b => a == b
  | .object a, .object b => a == b
  | .list a, .list b => sameList a b
  | .dict a, .dict b => sameItems a b
  | _, _ => false

def sameList : List Value → List Value → Bool
  | [], [] => true
  | a :: as, b :: bs => same a b && sameList as bs
  | _, _ => false

def sameItems : List (String × Value) → List (String × Value) → Bool
  | [], [] => true
  | a :: as, b :: bs => sameItem a b && sameItems as bs
  | _, _ => false

def sameItem : String × Value → String × Value → Bool
  | (k, a), (l, b) => k == l && same a b

end

mutual

lemma same_iff : (a b : Value) → (same a b = true ↔ a = b)
  | .null, b => by cases b <;> simp [same]
  | .bool a, b => by cases b <;> simp [same]
  | .int a, b => by cases b <;> simp [same]
  | .float a, b => by cases b <;> simp [same]
  | .str a, b => by cases b <;> simp [same]
  | .object a, b => by cases b <;> simp [same]
  | .list a, b => by cases b <;> simp [same, sameList_iff a]
  | .dict a, b => by cases b <;> simp [same, sameItems_iff a]

lemma sameList_iff : (a b : List Value) → (sameList a b = true ↔ a = b)
  | [], b => by cases b <;> simp [sameList]
  | a :: as, b => by cases b <;> simp [sameList, same_iff a, sameList_iff as]

lemma sameItems_iff : (a b : List (String × Value)) → (sameItems a b = true ↔ a = b)
  | [], b => by cases b <;> simp [sameItems]
  | a :: as, b => by cases b <;> simp [sameItems, sameItem_iff a, sameItems_iff as]

lemma sameItem_iff : (a b : String × Value) → (sameItem a b = true ↔ a = b)
  | (k, a), (l, b) => by simp [sameItem, same_iff a]

end

instance : DecidableEq Value := fun a b => decidable_of_iff _ (same_iff a b)

/-! ## Reading -/

/-- `value.get(key)` of a dict; `None` when there is no such item. -/
def get (value : Value) (key : String) : Value :=
  match value with
  | .dict items => (items.lookup key).getD .null
  | _ => .null

/-- `isinstance(value, dict)` -/
def isDict : Value → Bool
  | .dict _ => true
  | _ => false

/-- The string, when the value is one. -/
def asStr : Value → Option String
  | .str s => some s
  | _ => none

/-- `bool(value)` -/
def truthy : Value → Bool
  | .null => false
  | .bool b => b
  | .int i => i ≠ 0
  | .float x => x ≠ .finite 0
  | .str s => s ≠ ""
  | .list items => !items.isEmpty
  | .dict items => !items.isEmpty
  | .object _ => true

mutual

/-- The value with all numbers as floats: `==` in Python, where `True == 1 == 1.0`, is equality of
these. -/
def norm : Value → Value
  | .bool b => .float (.finite b.toNat)
  | .int i => .float (.finite i)
  | .list items => .list (normList items)
  | .dict items => .dict (normItems items)
  | value => value

def normList : List Value → List Value
  | [] => []
  | v :: vs => norm v :: normList vs

def normItems : List (String × Value) → List (String × Value)
  | [] => []
  | i :: is => normItem i :: normItems is

def normItem : String × Value → String × Value
  | (k, v) => (k, norm v)

end

/-- The double nearest to a natural number, the even one of two: 53 significant bits are kept. -/
def roundNat (n : Nat) : Nat :=
  let cut := n.log2 - 52
  let unit := 1 <<< cut
  let rest := n % unit
  let kept := n >>> cut
  (if 2 * rest < unit || (2 * rest = unit && kept % 2 = 0) then kept else kept + 1) <<< cut

/-- What a float column holds after the value was written to it: an integer is rounded. -/
def asFloat : Value → Value
  | .int i => .float (.finite (i.sign * roundNat i.natAbs : Int))
  | value => value

/-- A text column takes the value. On any other one `dumps` or the binding of it raises. -/
def isText : Value → Bool
  | .null | .str _ => true
  | _ => false

/-! ## Guards -/

/-- The integers from here on overflow a float: `math.isfinite` raises on them. -/
def floatOverflow : Nat := 1 <<< 1024 - 1 <<< 970

/-- Source: `graph.py`, `_valid_cost` -/
def validCost (value : Value) (zero : Bool := false) : Bool :=
  match value with
  | .int i => i.natAbs < floatOverflow && if zero then 0 ≤ i else 0 < i
  | .float (.finite q) => if zero then 0 ≤ q.num else 0 < q.num
  | _ => false

/-- Source: `graph.py`, `_valid_bound` -/
def validBound (value : Value) (ceiling : Nat) : Bool :=
  match value with
  | .int i => 0 < i && i ≤ ceiling
  | _ => false

/-! ## What can be written -/

mutual

/-- Source: `graph.py`, `_audit_value` -/
def auditValue : Value → Value
  | .float .nan => .str "nan"
  | .float (.inf false) => .str "inf"
  | .float (.inf true) => .str "-inf"
  | .list items => .list (auditList items)
  | .dict items => .dict (auditItems items)
  | .object type => .str ("<" ++ type ++ ">")
  | value => value

def auditList : List Value → List Value
  | [] => []
  | v :: vs => auditValue v :: auditList vs

def auditItems : List (String × Value) → List (String × Value)
  | [] => []
  | i :: is => auditItem i :: auditItems is

def auditItem : String × Value → String × Value
  | (k, v) => (k, auditValue v)

end

mutual

/-- `dumps(value)` succeeds: it refuses nonfinite floats and what is not JSON. -/
def serializable : Value → Bool
  | .float (.finite _) => true
  | .float _ => false
  | .list items => serializableList items
  | .dict items => serializableItems items
  | .object _ => false
  | _ => true

def serializableList : List Value → Bool
  | [] => true
  | v :: vs => serializable v && serializableList vs

def serializableItems : List (String × Value) → Bool
  | [] => true
  | i :: is => serializableItem i && serializableItems is

def serializableItem : String × Value → Bool
  | (_, v) => serializable v

end

/-- The string or null. -/
def ofStr : Option String → Value
  | none => .null
  | some s => .str s

end Value

/-- `str.isspace` on one character: what `str.strip` removes. -/
def isSpace (c : Char) : Bool :=
  let n := c.toNat
  (9 ≤ n && n ≤ 13) || (28 ≤ n && n ≤ 32) || n = 0x85 || n = 0xa0 || n = 0x1680 ||
    (0x2000 ≤ n && n ≤ 0x200a) || n = 0x2028 || n = 0x2029 || n = 0x202f || n = 0x205f || n = 0x3000

/-- `not s.strip()` -/
def blank (s : String) : Bool := s.toList.all isSpace

/-- `s[:n]` -/
def clip (s : String) (n : Nat) : String := String.ofList (s.toList.take n)

end Homelab.Factory
