import ModelServing.Json

/-!
# YAML documents

JSON values as block-style YAML, with members in their order. A list inside a mapping stands at the column of its key;
empty collections are written inline. A string stands plain unless it would be read as something else, and between
single quotes then. Strings are of one line.

* `Yaml.ambiguous` says which strings need quotes, `Yaml.render` writes a document.
-/

namespace ModelServing.Yaml

/-- The words that are constants when they stand plain. -/
def constants : List String :=
  ["true", "True", "TRUE", "false", "False", "FALSE", "null", "Null", "NULL", "~", ".nan", ".NaN", ".NAN", ".inf",
    ".Inf", ".INF", "-.inf", "-.Inf", "-.INF", "+.inf", "+.Inf", "+.INF"]

/-- Whether a text starts like a number: a digit behind an optional sign and an optional point. -/
def startsLikeNumber (cs : List Char) : Bool :=
  let afterSign := match cs with
    | '+' :: r => r
    | '-' :: r => r
    | r => r
  let afterPoint := match afterSign with
    | '.' :: r => r
    | r => r
  match afterPoint with
  | c :: _ => c.isDigit
  | [] => false

/-- Whether a plain text would end at a comment or turn into a key. -/
def breaksOff : List Char → Bool
  | ':' :: ' ' :: _ => true
  | ' ' :: '#' :: _ => true
  | [':'] => true
  | [' '] => true
  | _ :: r => breaksOff r
  | [] => false

/-- Whether a string would be read as something else if it stood plain. -/
def ambiguous (s : String) : Bool :=
  match s.toList with
  | [] => true
  | c :: r =>
    constants.contains s || startsLikeNumber (c :: r) || breaksOff (c :: r) ||
      ['!', '&', '*', '|', '>', '%', '@', '#', ',', '[', ']', '\'', '"', ' ', '\x7b', '\x7d', '\x60'].contains c ||
      (['-', '?', ':'].contains c && (r.head?.getD ' ' == ' '))

/-- A string as a scalar. -/
def scalar (s : String) : String :=
  if ambiguous s then
    String.ofList ('\'' :: s.toList.flatMap (fun c => if c = '\'' then ['\'', '\''] else [c]) ++ ['\''])
  else s

/-- A value that fits behind its key. -/
def inline? : Json → Option String
  | .null => some "null"
  | .bool b => some (if b then "true" else "false")
  | .int i => some (toString i)
  | .float d => some d.text
  | .str s => some (scalar s)
  | .arr [] => some "[]"
  | .obj [] => some "\x7b\x7d"
  | .unreadable => some "null"
  | _ => none

/-- Lines moved two columns to the right. -/
def indent (lines : List String) : List String := lines.map ("  " ++ ·)

/-- Lines as one item of a list. -/
def item : List String → List String
  | [] => ["-"]
  | first :: rest => ("- " ++ first) :: indent rest

mutual

/-- The lines of a value. -/
def lines : Json → List String
  | .null => ["null"]
  | .bool b => [if b then "true" else "false"]
  | .int i => [toString i]
  | .float d => [d.text]
  | .str s => [scalar s]
  | .arr items => if items.isEmpty then ["[]"] else itemLines items
  | .obj members => if members.isEmpty then ["\x7b\x7d"] else memberLines members
  | .unreadable => ["null"]

/-- The lines of the items of a list. -/
def itemLines : List Json → List String
  | [] => []
  | x :: xs => item (lines x) ++ itemLines xs

/-- The lines of the members of a mapping. -/
def memberLines : List (String × Json) → List String
  | [] => []
  | (name, x) :: ms =>
    (match inline? x with
      | some text => [scalar name ++ ": " ++ text]
      | none =>
        match x with
        | .arr items => (scalar name ++ ":") :: itemLines items
        | x => (scalar name ++ ":") :: indent (lines x)) ++ memberLines ms

end

/-- A document, every line ended. -/
def render (j : Json) : String := String.join ((lines j).map (· ++ "\n"))

end ModelServing.Yaml
