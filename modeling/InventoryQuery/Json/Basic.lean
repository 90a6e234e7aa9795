import InventoryQuery.Keyed
import InventoryQuery.Number.Binary64

/-!
# JSON values

The values that query texts are built from and that answers are read into. A number is an integer
or a binary floating-point number, and the two are never equal; the members of an object are kept
in increasing order of their names.
-/

namespace InventoryQuery

namespace Json

/-- A number: an integer without a fraction or an exponent, or any other number. -/
inductive Number where
  | integer (value : Int)
  | double (value : Binary64)
  deriving DecidableEq, Repr

end Json

/-- A JSON value. -/
inductive Json where
  | null
  | bool (value : Bool)
  | number (value : Json.Number)
  | string (value : String)
  | array (items : List Json)
  | object (members : List (String × Json))
  deriving Inhabited, Repr

namespace Json

mutual

/-- Equality of values, decided part by part. -/
def decideEq : (a b : Json) → Decidable (a = b)
  | .null, .null => .isTrue rfl
  | .bool a, .bool b => if h : a = b then .isTrue (h ▸ rfl) else .isFalse (fun e => h (by cases e; rfl))
  | .number a, .number b =>
    if h : a = b then .isTrue (h ▸ rfl) else .isFalse (fun e => h (by cases e; rfl))
  | .string a, .string b =>
    if h : a = b then .isTrue (h ▸ rfl) else .isFalse (fun e => h (by cases e; rfl))
  | .array a, .array b =>
    match decideItemsEq a b with
    | .isTrue h => .isTrue (h ▸ rfl)
    | .isFalse h => .isFalse (fun e => h (by cases e; rfl))
  | .object a, .object b =>
    match decideMembersEq a b with
    | .isTrue h => .isTrue (h ▸ rfl)
    | .isFalse h => .isFalse (fun e => h (by cases e; rfl))
  | .null, .bool _ | .null, .number _ | .null, .string _ | .null, .array _ | .null, .object _
  | .bool _, .null | .bool _, .number _ | .bool _, .string _ | .bool _, .array _
  | .bool _, .object _ | .number _, .null | .number _, .bool _ | .number _, .string _
  | .number _, .array _ | .number _, .object _ | .string _, .null | .string _, .bool _
  | .string _, .number _ | .string _, .array _ | .string _, .object _ | .array _, .null
  | .array _, .bool _ | .array _, .number _ | .array _, .string _ | .array _, .object _
  | .object _, .null | .object _, .bool _ | .object _, .number _ | .object _, .string _
  | .object _, .array _ => .isFalse (fun e => by cases e)

/-- Equality of lists of items. -/
def decideItemsEq : (a b : List Json) → Decidable (a = b)
  | [], [] => .isTrue rfl
  | [], _ :: _ | _ :: _, [] => .isFalse (fun e => by cases e)
  | x :: xs, y :: ys =>
    match decideEq x y, decideItemsEq xs ys with
    | .isTrue h, .isTrue hs => .isTrue (by rw [h, hs])
    | .isFalse h, _ => .isFalse (fun e => h (by cases e; rfl))
    | _, .isFalse hs => .isFalse (fun e => hs (by cases e; rfl))

/-- Equality of lists of members. -/
def decideMembersEq : (a b : List (String × Json)) → Decidable (a = b)
  | [], [] => .isTrue rfl
  | [], _ :: _ | _ :: _, [] => .isFalse (fun e => by cases e)
  | (k, x) :: xs, (l, y) :: ys =>
    if hk : k = l then
      match decideEq x y, decideMembersEq xs ys with
      | .isTrue h, .isTrue hs => .isTrue (by rw [hk, h, hs])
      | .isFalse h, _ => .isFalse (fun e => h (by cases e; rfl))
      | _, .isFalse hs => .isFalse (fun e => hs (by cases e; rfl))
    else .isFalse (fun e => hk (by cases e; rfl))

end

instance : DecidableEq Json := decideEq

mutual

/-- How deep arrays and objects nest: none for a scalar, one for an empty array. -/
def depth : Json → Nat
  | .array items => depthOfItems items + 1
  | .object members => depthOfMembers members + 1
  | _ => 0

/-- The greatest depth of an item. -/
def depthOfItems : List Json → Nat
  | [] => 0
  | item :: items => max (depth item) (depthOfItems items)

/-- The greatest depth of a member's value. -/
def depthOfMembers : List (String × Json) → Nat
  | [] => 0
  | (_, value) :: members => max (depth value) (depthOfMembers members)

end

end Json

end InventoryQuery
