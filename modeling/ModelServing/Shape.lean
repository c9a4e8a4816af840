import ModelServing.Metadata.Encoding

/-!
# Shapes of objects

What the fields of an object of the cluster hold, said field by field. An object whose fields do not fit cannot be read,
also where nobody looks at them.

* `Shape` says what a value may be; a shape that holds itself refers to itself by `Shape.self`;
* `Shape.accepts` decides whether a value fits: known fields may be null, unknown ones hold anything, and every item of
  a list and every value of a map has to fit.
-/

namespace ModelServing

/-- What a value may be. -/
inductive Shape where
  /-- A string. -/
  | text
  /-- A truth value. -/
  | flag
  /-- A whole number of 32 bits. -/
  | int32
  /-- A whole number of 64 bits. -/
  | int64
  /-- Any number. -/
  | number
  /-- A time. -/
  | instant
  /-- Bytes, as digits of base 64. -/
  | bytes
  /-- A whole number of 32 bits, or a string. -/
  | intOrText
  /-- Any data. -/
  | data
  /-- The metadata of an object. -/
  | metadata
  | list (item : Shape)
  | map (value : Shape)
  | record (fields : List (String × Shape))
  /-- The record that describes itself. -/
  | self
  /-- That record, or something else that is no object. -/
  | selfOr (other : Shape)

namespace Shape

/-- Several fields of one shape. -/
def each (s : Shape) (names : List String) : List (String × Shape) := names.map (·, s)

/-! ### bytes -/

/-- The value of a digit of base 64. -/
def sextet? (c : Char) : Option Nat :=
  if 'A' ≤ c ∧ c ≤ 'Z' then some (c.toNat - 'A'.toNat)
  else if 'a' ≤ c ∧ c ≤ 'z' then some (c.toNat - 'a'.toNat + 26)
  else if '0' ≤ c ∧ c ≤ '9' then some (c.toNat - '0'.toNat + 52)
  else if c = '+' then some 62
  else if c = '/' then some 63
  else none

/-- Whether the text stands for bytes: groups of four digits, the last one filled up by one or two signs of equality
behind a digit whose spare bits are zero. -/
def isBase64 : List Char → Bool
  | [] => true
  | [a, b, '=', '='] => (sextet? a).isSome && (sextet? b).any (· % 16 == 0)
  | [a, b, c, '='] => (sextet? a).isSome && (sextet? b).isSome && (sextet? c).any (· % 4 == 0)
  | a :: b :: c :: d :: r => [a, b, c, d].all (fun x => (sextet? x).isSome) && isBase64 r
  | _ => false

/-! ### fitting -/

/-- What the members of an object hold. -/
inductive Members where
  | map (value : Shape)
  | record (fields : List (String × Shape))

/-- What the member of that name holds, if anything is known of it. -/
def Members.shape? (m : Members) (name : String) : Option Shape :=
  match m with
  | .map value => some value
  | .record fields => (fields.find? (·.1 == name)).map (·.2)

/-- Whether a member may be null. -/
def Members.nullable : Members → Bool
  | .map _ => false
  | .record _ => true

/-- What the items hold where the shape is that of a list. -/
def item? : Shape → Option Shape
  | list s => some s
  | selfOr (list s) => some s
  | _ => none

/-- What the members hold where the shape is that of an object; `own` are the fields of the record that describes
itself. -/
def members? (own : List (String × Shape)) : Shape → Option Members
  | map s => some (.map s)
  | record fields => some (.record fields)
  | self => some (.record own)
  | selfOr _ => some (.record own)
  | _ => none

/-- Whether a value without parts fits. -/
def acceptsScalar : Shape → Json → Bool
  | text, .str _ => true
  | flag, .bool _ => true
  | selfOr flag, .bool _ => true
  | int32, j => (Int32.ofJson? j).isSome
  | int64, j => (Int64.ofJson? j).isSome
  | number, .int _ => true
  | number, .float _ => true
  | instant, j => (Instant.ofJson? j).isSome
  | bytes, .str s => isBase64 s.toList
  | intOrText, .str _ => true
  | intOrText, j => (Int32.ofJson? j).isSome
  | data, _ => true
  | _, _ => false

mutual

/-- Whether a value fits a shape. -/
def accepts (own : List (String × Shape)) : Json → Shape → Bool
  | .unreadable, _ => false
  | .arr items, s =>
    match s.item?, s with
    | some item, _ => acceptsItems own items item
    | none, .data => (Json.data? (.arr items)).isSome
    | none, _ => false
  | .obj members, s =>
    match s.members? own, s with
    | some m, _ => acceptsMembers own members m
    | none, .data => (Json.data? (.obj members)).isSome
    | none, .metadata => (Metadata.ofJson? (.obj members)).isSome
    | none, _ => false
  | j, s => acceptsScalar s j

/-- Whether all items fit. -/
def acceptsItems (own : List (String × Shape)) : List Json → Shape → Bool
  | [], _ => true
  | x :: xs, s => accepts own x s && acceptsItems own xs s

/-- Whether all members fit of which anything is known. -/
def acceptsMembers (own : List (String × Shape)) : List (String × Json) → Members → Bool
  | [], _ => true
  | (name, x) :: ms, m =>
    (match m.shape? name with
      | none => true
      | some s => (m.nullable && x == .null) || accepts own x s) && acceptsMembers own ms m

end

end Shape

end ModelServing
