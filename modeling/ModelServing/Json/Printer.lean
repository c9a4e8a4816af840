import ModelServing.Json

/-!
# Writing JSON

`Json.compact` writes a value without blanks and with the members of every object sorted by name. Inside strings only
the quote, the backslash and the control characters below the blank are escaped, by letter where there is one. What
stands for no value is written as null.
-/

namespace ModelServing.Json

/-- A hexadecimal digit in lower case. -/
def hexChar (n : Nat) : Char := if n < 10 then Char.ofNat ('0'.toNat + n) else Char.ofNat ('a'.toNat + (n - 10))

/-- A character inside a string. -/
def escapeChar (c : Char) : List Char :=
  match c with
  | '"' => ['\\', '"']
  | '\\' => ['\\', '\\']
  | '\n' => ['\\', 'n']
  | '\r' => ['\\', 'r']
  | '\t' => ['\\', 't']
  | '\x08' => ['\\', 'b']
  | '\x0c' => ['\\', 'f']
  | c => if c.toNat < 0x20 then ['\\', 'u', '0', '0', hexChar (c.toNat / 16), hexChar (c.toNat % 16)] else [c]

/-- A string with its quotes. -/
def quote (s : String) : String := String.ofList ('"' :: s.toList.flatMap escapeChar ++ ['"'])

mutual

/-- The value as one line without blanks. -/
def compact : Json → String
  | .null => "null"
  | .bool b => if b then "true" else "false"
  | .int i => toString i
  | .float d => d.text
  | .str s => quote s
  | .arr items => "[" ++ String.intercalate "," (compactItems items) ++ "]"
  | .obj members =>
    let sorted := (compactMembers members).mergeSort fun a b => decide (a.1 ≤ b.1)
    "\x7b" ++ String.intercalate "," (sorted.map fun m => quote m.1 ++ ":" ++ m.2) ++ "\x7d"
  | .unreadable => "null"

/-- The items of an array, written. -/
def compactItems : List Json → List String
  | [] => []
  | x :: xs => compact x :: compactItems xs

/-- The members of an object, written. -/
def compactMembers : List (String × Json) → List (String × String)
  | [] => []
  | (name, x) :: ms => (name, compact x) :: compactMembers ms

end

end ModelServing.Json
