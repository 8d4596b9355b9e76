import Bulletin.Double.Layout

/-!
# JSON values

A number of JSON text is an integer as long as it is written as one and fits 64 bits, and a
double otherwise.  The members of an object have distinct keys; `Members.insert` keeps it so, the
last value given to a key being the one that stays.
-/

namespace Bulletin

/-- A number of JSON text. -/
inductive Number where
  | integer (i : Int)
  | double (x : Double)
deriving DecidableEq

/-- A JSON value. -/
inductive Json where
  | null
  | bool (b : Bool)
  | number (n : Number)
  | string (s : String)
  | array (items : List Json)
  | object (members : List (String × Json))

instance : Inhabited Json := ⟨.null⟩

/-- The members of an object, by key. -/
abbrev Members := List (String × Json)

/-- Gives a key a value, replacing the one it has. -/
def Members.insert (key : String) (value : Json) : Members → Members
  | [] => [(key, value)]
  | (k, v) :: rest =>
    if k = key then (key, value) :: rest else (k, v) :: Members.insert key value rest

/-- The members without the given key. -/
def Members.erase (key : String) (ms : Members) : Members := ms.filter fun m => m.1 ≠ key

namespace Number

/-- The text of a number. -/
def text : Number → String
  | .integer i => Text.ofInt i
  | .double x => NumberLayout.json.write x

/-- The double nearest to a number. -/
def toDouble? : Number → Option Double
  | .integer i => Double.round? (decide (i < 0)) i.natAbs 1
  | .double x => some x

end Number

namespace Json

/-- The null value. -/
def isNull : Json → Bool
  | .null => true
  | _ => false

end Json

/-- `lookup` finds the value that `insert` has put under the key. -/
@[simp] theorem Members.lookup_insert_self (key : String) (value : Json) (ms : Members) :
    (ms.insert key value).lookup key = some value := by
  induction ms with
  | nil => simp [Members.insert]
  | cons m rest ih =>
    obtain ⟨k, v⟩ := m
    by_cases h : k = key
    · simp [Members.insert, h]
    · have hb : (key == k) = false := beq_false_of_ne (Ne.symm h)
      simp [Members.insert, h, hb, ih, List.lookup_cons]

/-- `lookup` finds under other keys what was there before `insert`. -/
theorem Members.lookup_insert_of_ne {key k : String} (h : k ≠ key) (value : Json) (ms : Members) :
    (ms.insert key value).lookup k = ms.lookup k := by
  have hk : (k == key) = false := beq_false_of_ne h
  induction ms with
  | nil => simp [Members.insert, List.lookup_cons, hk]
  | cons m rest ih =>
    obtain ⟨k', v⟩ := m
    by_cases hm : k' = key
    · subst hm
      simp [Members.insert, List.lookup_cons, hk]
    · simp [Members.insert, hm, List.lookup_cons, ih]

end Bulletin
