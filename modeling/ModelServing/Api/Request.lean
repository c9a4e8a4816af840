import ModelServing.Event
import ModelServing.Failure
import ModelServing.Json.Printer
import ModelServing.Json.Reader
import ModelServing.Prog
import ModelServing.Service.Encoding

/-!
# Requests to the cluster

* `Request` and `Reply` are what goes to the API of the cluster and comes back;
* `Request.ofUrl` puts a request together, if its address can stand in a request line;
* `Reply.read` is the reading of a reply: a value of the type that was asked for, or the reason why there is none.
-/

namespace ModelServing

/-- An event as the cluster keeps it: how often it was told, none meaning once, when it was told last, and by whom. -/
structure EventRecord where
  event : Event
  count : Option Nat
  time : Instant
  controller : String
  instanceName : String

/-- An event record, written. -/
def EventRecord.toJson (r : EventRecord) (name : String) : Json :=
  Json.ofMembers [
    ("apiVersion", some (.str "events.k8s.io/v1")),
    ("kind", some (.str "Event")),
    ("metadata", some (.obj [("name", .str name), ("namespace", Json.orNull (r.event.regarding.ns.map .str))])),
    ("type", some (.str r.event.type.text)),
    ("reason", some (.str r.event.reason)),
    ("action", some (.str r.event.action)),
    ("note", r.event.note.map .str),
    ("regarding", some r.event.regarding.toJson),
    ("reportingController", some (.str r.controller)),
    ("reportingInstance", some (.str r.instanceName)),
    ("eventTime", some r.time.toJson),
    ("series", r.count.map fun n => .obj [("count", .int n), ("lastObservedTime", r.time.toJson)])]

/-- What a request carries. -/
inductive Payload where
  | none
  | json (j : Json)
  /-- A record of an event, filed under a name. -/
  | event (name : String) (r : EventRecord)

/-- The body of a payload. -/
def Payload.body : Payload → Json
  | .none => .null
  | .json j => j
  | .event name r => r.toJson name

/-- A request: `query` is the raw text behind the question mark. -/
structure Request where
  method : String
  path : String
  query : String
  contentType : Option String
  payload : Payload

/-- What comes back: an answer with its code and text, or the reason why the connection broke, with what lies under
it. -/
inductive Reply where
  | answer (code : Nat) (body : String)
  | broken (message : String) (under : List String := [])

/-- Programs that exchange requests for replies. -/
abbrev Exchange (α : Type) : Type := Prog Request (fun _ => Reply) α

/-! ### addresses -/

/-- Whether a character can stand in the path of a request line. -/
def pathChar (c : Char) : Bool :=
  let n := c.toNat
  n == 0x21 || n == 0x22 || (0x24 ≤ n && n ≤ 0x3B) || n == 0x3D || (0x40 ≤ n && n ≤ 0x5F) ||
    (0x61 ≤ n && n ≤ 0x7E) || 0x80 ≤ n

/-- Whether a character can stand in the query of a request line. -/
def queryChar (c : Char) : Bool :=
  let n := c.toNat
  n == 0x21 || (0x24 ≤ n && n ≤ 0x3B) || n == 0x3D || (0x3F ≤ n && n ≤ 0x7E) || 0x80 ≤ n

/-- The parts of an address before and after the first `c`. -/
def cut (c : Char) (cs : List Char) : List Char × List Char :=
  (cs.takeWhile (· ≠ c), (cs.dropWhile (· ≠ c)).drop 1)

/-- The most bytes that an address may have. -/
def maxAddress : Nat := 65534

/-- The request to an address, if the address can be sent. What follows a `#` is not sent. -/
def Request.ofUrl (method url : String) (contentType : Option String) (payload : Payload) :
    Except AddressFault Request :=
  let (sent, _) := cut '#' url.toList
  let (path, query) := cut '?' sent
  if maxAddress < url.utf8ByteSize then .error .length
  else if path.all pathChar && query.all queryChar then
    .ok ⟨method, String.ofList path, String.ofList query, contentType, payload⟩
  else .error .character

/-- The parts of the query between the ampersands, sorted. -/
def Request.queryPairs (r : Request) : List String :=
  ((r.query.splitOn "&").filter (· ≠ "")).mergeSort fun a b => decide (a ≤ b)

/-! ### replies -/

/-- The phrases of the response codes. -/
def phrases : List (Nat × String) := [
  (400, "Bad Request"), (401, "Unauthorized"), (402, "Payment Required"), (403, "Forbidden"), (404, "Not Found"),
  (405, "Method Not Allowed"), (406, "Not Acceptable"), (407, "Proxy Authentication Required"),
  (408, "Request Timeout"), (409, "Conflict"), (410, "Gone"), (411, "Length Required"),
  (412, "Precondition Failed"), (413, "Payload Too Large"), (414, "URI Too Long"), (415, "Unsupported Media Type"),
  (416, "Range Not Satisfiable"), (417, "Expectation Failed"), (418, "I'm a teapot"), (421, "Misdirected Request"),
  (422, "Unprocessable Entity"), (423, "Locked"), (424, "Failed Dependency"), (425, "Too Early"),
  (426, "Upgrade Required"), (428, "Precondition Required"), (429, "Too Many Requests"),
  (431, "Request Header Fields Too Large"), (451, "Unavailable For Legal Reasons"), (500, "Internal Server Error"),
  (501, "Not Implemented"), (502, "Bad Gateway"), (503, "Service Unavailable"), (504, "Gateway Timeout"),
  (505, "HTTP Version Not Supported"), (506, "Variant Also Negotiates"), (507, "Insufficient Storage"),
  (508, "Loop Detected"), (510, "Not Extended"), (511, "Network Authentication Required")]

/-- The phrase of a response code. -/
def phrase (code : Nat) : String := ((phrases.find? (·.1 == code)).map (·.2)).getD "<unknown status code>"

namespace Refusal

/-- The fields of a refusal, in order. -/
def fields : List String := ["status", "message", "reason", "code"]

/-- The refusal that a body describes. -/
def ofJson? (j : Json) : Option Refusal := do
  match ← j.record? 4 fields with
  | [status, message, reason, code] =>
    let status ← Json.require Json.str? status
    let message ← Json.orElse Json.str? "" message
    let reason ← Json.orElse Json.str? "" reason
    let code ← Json.require (Json.intWithin? 0 65535) code
    some ⟨status, message, reason, code.toNat⟩
  | _ => none

/-- The refusal of an answer: what its body describes, or the body itself in quotes. -/
def ofAnswer (code : Nat) (body : String) : Refusal :=
  match (Json.parse? body).bind ofJson? with
  | some r => r
  | none => ⟨toString code ++ " " ++ phrase code, Text.quoted body, "Failed to parse error data", code⟩

/-- A refusal, written. -/
def toJson (r : Refusal) : Json :=
  .obj [("apiVersion", .str "v1"), ("kind", .str "Status"), ("status", .str r.status), ("message", .str r.message),
    ("reason", .str r.reason), ("code", .int r.code)]

end Refusal

/-- What the reader says about a body in which it finds no value of the type that was asked for. -/
def Reply.complaint (body : String) : String :=
  match Json.parse body with
  | .error .cutOff => "the text ends before the value does"
  | .error .malformed => "the text holds no value"
  | .ok _ => "the value is of another type"

/-- The value of an answer. -/
def Reply.read {α : Type} (decode : Json → Option α) : Reply → Except ClientFailure α
  | .broken m under => .error (.broken m under)
  | .answer code body =>
    if 400 ≤ code ∧ code < 600 then .error (.refused (Refusal.ofAnswer code body))
    else
      match (Json.parse? body).bind decode with
      | some a => .ok a
      | none => .error (.unreadable (complaint body))

end ModelServing
