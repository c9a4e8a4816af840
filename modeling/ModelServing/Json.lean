import ModelServing.Json.Decimal

/-!
# JSON values

* `Json` is a value with the members of its objects in the order of the text; whole numbers of at most 64 bits are
  kept exactly, every other number as the decimal of the binary fraction that it stands for. A part of a text that is
  well formed and stands for no value is `Json.unreadable`: it may be passed over, and nothing else;
* `Json.get?` reads a member, `Json.set` writes one;
* `Json.record?` gives the members of a record by name: a record may be written as an object or as the array of its
  fields in order, and names no field twice. `Json.optional`, `Json.orElse`, `Json.require` are the three ways to treat
  a field of it that is absent: absent and null mean none, only absence means the default, and neither is allowed;
* `Json.field?` reads a field of a plain object, which may name it more than once;
* `Json.data?` is the value as data: every part of it readable, and the members of objects in order.
-/

namespace ModelServing

/-- A JSON value. -/
inductive Json where
  | null
  | bool (b : Bool)
  | int (i : Int)
  | float (d : Decimal)
  | str (s : String)
  | arr (items : List Json)
  | obj (members : List (String × Json))
  /-- What stands for no value: a number out of range, a string with half a pair of surrogates, an object with such a
  name in it, an array or object inside too many others. -/
  | unreadable
deriving Inhabited

namespace Json

/-! ### equality -/

mutual

/-- Whether two values are the same. -/
def same : Json → Json → Bool
  | .null, .null => true
  | .bool a, .bool b => a == b
  | .int a, .int b => a == b
  | .float a, .float b => a == b
  | .str a, .str b => a == b
  | .arr a, .arr b => sameItems a b
  | .obj a, .obj b => sameMembers a b
  | .unreadable, .unreadable => true
  | _, _ => false

/-- Whether two lists of items are the same. -/
def sameItems : List Json → List Json → Bool
  | [], [] => true
  | a :: as, b :: bs => same a b && sameItems as bs
  | _, _ => false

/-- Whether two lists of members are the same. -/
def sameMembers : List (String × Json) → List (String × Json) → Bool
  | [], [] => true
  | (x, a) :: as, (y, b) :: bs => x == y && same a b && sameMembers as bs
  | _, _ => false

end

mutual

theorem same_iff : ∀ a b : Json, same a b = true ↔ a = b
  | .null, b => by cases b <;> simp [same]
  | .bool _, b => by cases b <;> simp [same]
  | .int _, b => by cases b <;> simp [same]
  | .float _, b => by cases b <;> simp [same]
  | .str _, b => by cases b <;> simp [same]
  | .arr as, b => by cases b <;> simp [same, sameItems_iff as]
  | .obj as, b => by cases b <;> simp [same, sameMembers_iff as]
  | .unreadable, b => by cases b <;> simp [same]

theorem sameItems_iff : ∀ as bs : List Json, sameItems as bs = true ↔ as = bs
  | [], bs => by cases bs <;> simp [sameItems]
  | a :: as, bs => by cases bs <;> simp [sameItems, same_iff a, sameItems_iff as]

theorem sameMembers_iff : ∀ as bs : List (String × Json), sameMembers as bs = true ↔ as = bs
  | [], bs => by cases bs <;> simp [sameMembers]
  | (x, a) :: as, [] => by simp [sameMembers]
  | (x, a) :: as, (y, b) :: bs => by simp [sameMembers, same_iff a, sameMembers_iff as]

end

instance : DecidableEq Json := fun a b => decidable_of_iff (same a b = true) (same_iff a b)

/-! ### members -/

/-- The value of the last member of that name. -/
def get? (j : Json) (name : String) : Option Json :=
  match j with
  | .obj members => (members.reverse.find? (·.1 == name)).map (·.2)
  | _ => none

/-- The member of that name, null counting as absent. -/
def present? (j : Json) (name : String) : Option Json :=
  match j.get? name with
  | some .null => none
  | other => other

/-- An object with the member `name` set to `value`; anything else is left as it is. -/
def set (j : Json) (name : String) (value : Json) : Json :=
  match j with
  | .obj members =>
    if members.any (·.1 == name) then .obj (members.map fun m => if m.1 == name then (name, value) else m)
    else .obj (members ++ [(name, value)])
  | other => other

/-- An object of the members that are there. -/
def ofMembers (members : List (String × Option Json)) : Json :=
  .obj (members.filterMap fun m => m.2.map (m.1, ·))

/-- `null` for a missing value. -/
def orNull : Option Json → Json
  | some j => j
  | none => .null

/-! ### reading structures -/

/-- The one member of that name: `none` if there are two, `some none` if there is none. -/
def single? (members : List (String × Json)) (name : String) : Option (Option Json) :=
  match members.filter (·.1 == name) with
  | [] => some none
  | [m] => some (some m.2)
  | _ => none

/-- The fields of a record: an object, or the array of its first fields in order, at least `least` of them. -/
def record? (least : Nat) (names : List String) : Json → Option (List (Option Json))
  | .obj members => names.mapM (single? members)
  | .arr items =>
    if least ≤ items.length ∧ items.length ≤ names.length then
      some (items.map some ++ List.replicate (names.length - items.length) none)
    else none
  | _ => none

variable {α : Type}

/-- A field that may be absent or null. -/
def optional (read : Json → Option α) : Option Json → Option (Option α)
  | none => some none
  | some .null => some none
  | some j => (read j).map some

/-- A field that has a default when it is absent, and may not be null unless `read` takes null. -/
def orElse (read : Json → Option α) (default : α) : Option Json → Option α
  | none => some default
  | some j => read j

/-- A field that has to be there. -/
def require (read : Json → Option α) : Option Json → Option α
  | none => none
  | some j => read j

/-- A field of a plain object: every member of that name is null or readable, and the last one counts. -/
def field? (read : Json → Option α) (members : List (String × Json)) (name : String) : Option (Option α) :=
  (members.filter (·.1 == name)).foldlM (fun _ m => optional read (some m.2)) none

/-- A field of a plain object which can only have one value, and is not null where it stands. -/
def fixed? (value : String) (members : List (String × Json)) (name : String) : Option Unit :=
  if (members.filter (·.1 == name)).all (fun m => m.2 == .str value) then some () else none

/-- A string. -/
def str? : Json → Option String
  | .str s => some s
  | _ => none

/-- A whole number from `lo` to `hi`. -/
def intWithin? (lo hi : Int) : Json → Option Int
  | .int i => if lo ≤ i ∧ i ≤ hi then some i else none
  | _ => none

/-- A truth value. -/
def bool? : Json → Option Bool
  | .bool b => some b
  | _ => none

/-- The items of an array. -/
def arr? : Json → Option (List Json)
  | .arr items => some items
  | _ => none

/-- The items of an array, each of them read. -/
def list? (read : Json → Option α) (j : Json) : Option (List α) := j.arr?.bind fun items => items.mapM read

/-- The members of an object. -/
def obj? : Json → Option (List (String × Json))
  | .obj members => some members
  | _ => none

/-! ### data -/

/-- The members sorted by name; of those with one name the last one is kept. -/
def sorted (members : List (String × Json)) : List (String × Json) :=
  let last := members.foldr (fun m kept => if kept.any (·.1 == m.1) then kept else m :: kept) []
  last.mergeSort fun a b => decide (a.1 ≤ b.1)

mutual

/-- The value as data, if all of it can be read. -/
def data? : Json → Option Json
  | .unreadable => none
  | .arr items => (dataItems? items).map .arr
  | .obj members => (dataMembers? members).map fun members => .obj (sorted members)
  | j => some j

/-- The items of an array as data. -/
def dataItems? : List Json → Option (List Json)
  | [] => some []
  | x :: xs => do
    let x ← data? x
    let xs ← dataItems? xs
    some (x :: xs)

/-- The members of an object as data. -/
def dataMembers? : List (String × Json) → Option (List (String × Json))
  | [] => some []
  | (name, x) :: ms => do
    let x ← data? x
    let ms ← dataMembers? ms
    some ((name, x) :: ms)

end

/-- Whether all members but those of the given names can be read. -/
def readableBut (names : List String) (members : List (String × Json)) : Bool :=
  members.all fun m => names.contains m.1 || (data? m.2).isSome

end Json

end ModelServing
