import ModelServing.Api.Server
import ModelServing.Proofs.Prog.Path

/-!
# What the client asks, and what it makes of an answer

* `Request.eq_of_ofUrl` and `Reply.read_answer_eq_ok_iff` are about one request and one answer, `Request.path_of_ofUrl`
  about the address that is sent, and `Reply.Fails` says that a reply brings nothing;
* `Request.Writes` says that a request writes the status of an object, `Request.version?` over which version;
* `Client.only_writeStatus` says what a status write sends, `Client.exists_ask_writeStatus` that it sends something;
* `Client.version?_of_path` and `Client.writes_of_path` say that it carries the version of the object that it was given
  and goes to that object, and `Client.path_writeStatus_iff` when it succeeds;
* `Client.path_fetchService_iff` says when a fetch gives an object.
-/

namespace ModelServing

open Prog

/-- Whether none of the characters of a text ends the path of an address. -/
def inPath (text : String) : Bool := text.toList.all fun c => !(c == '#' || c == '?')

theorem inPath_append (a b : String) : inPath (a ++ b) = (inPath a && inPath b) := by
  simp [inPath, String.toList_append, List.all_append]

theorem not_mem_of_inPath {text : String} (h : inPath text = true) : '#' ∉ text.toList ∧ '?' ∉ text.toList := by
  rw [inPath, List.all_eq_true] at h
  exact ⟨fun hm => (by cases h _ hm), fun hm => (by cases h _ hm)⟩

theorem cut_append {c : Char} {cs rest : List Char} (h : c ∉ cs) : (cut c (cs ++ rest)).1 = cs ++ (cut c rest).1 := by
  apply List.takeWhile_append_of_pos
  intro x hx
  simpa using ne_of_mem_of_not_mem hx h

theorem Request.eq_of_ofUrl {method url : String} {type : Option String} {payload : Payload} {r : Request}
    (h : Request.ofUrl method url type payload = .ok r) :
    ∃ query, r = ⟨method, String.ofList (cut '?' (cut '#' url.toList).1).1, query, type, payload⟩ := by
  unfold Request.ofUrl at h
  simp only at h
  split at h
  · cases h
  · split at h
    · cases h
      exact ⟨_, rfl⟩
    · cases h

theorem Request.payload_of_ofUrl {method url : String} {type : Option String} {payload : Payload} {r : Request}
    (h : Request.ofUrl method url type payload = .ok r) : r.payload = payload := by
  obtain ⟨query, rfl⟩ := Request.eq_of_ofUrl h
  rfl

theorem Request.path_of_ofUrl {method path query : String} {type : Option String} {payload : Payload} {r : Request}
    (h : Request.ofUrl method (path ++ query) type payload = .ok r) (hp : inPath path = true)
    (hq : query.toList.head? = some '?') : r.path = path := by
  obtain ⟨_, rfl⟩ := Request.eq_of_ofUrl h
  obtain ⟨rest, hrest⟩ := List.head?_eq_some_iff.1 hq
  obtain ⟨unended, unasked⟩ := not_mem_of_inPath hp
  have nothing : (cut '?' (cut '#' ('?' :: rest)).1).1 = [] := rfl
  simp only [String.toList_append, hrest, cut_append unended, cut_append unasked, nothing, List.append_nil,
    String.ofList_toList]

theorem Request.exists_of_isOk {method url : String} {type : Option String} {payload : Payload}
    (h : (Request.ofUrl method url type payload).isOk = true) :
    ∃ r, Request.ofUrl method url type payload = .ok r := by
  cases sent : Request.ofUrl method url type payload with
  | ok r => exact ⟨r, rfl⟩
  | error fault =>
    rw [sent] at h
    cases h

theorem Reply.read_answer_eq_ok_iff {α : Type} {decode : Json → Option α} {code : Nat} {body : String} {a : α} :
    Reply.read decode (.answer code body) = .ok a ↔
      ¬ (400 ≤ code ∧ code < 600) ∧ (Json.parse? body).bind decode = some a := by
  rw [Reply.read]
  split
  · rename_i refused
    exact ⟨fun h => (by cases h), fun h => absurd refused h.1⟩
  · rename_i welcome
    split
    · rename_i value
      simp [welcome, value]
    · rename_i nothing
      simp [nothing]

/-- The request has been refused, or nothing is known of it. -/
def Reply.Fails : Reply → Prop
  | .answer code _ => 400 ≤ code ∧ code < 600
  | .broken _ _ => True

theorem Reply.not_fails_of_read {α : Type} {decode : Json → Option α} {reply : Reply} {a : α}
    (h : reply.read decode = .ok a) : ¬ reply.Fails := by
  cases reply with
  | answer code body => exact (Reply.read_answer_eq_ok_iff.1 h).1
  | broken m under => cases h

/-! ### writes of a status -/

namespace Request

/-- The version that a request is meant for. -/
def version? (r : Request) : Option String := (Server.version? r.payload.body).bind Json.str?

/-- The object that the body of a request names. -/
def key? (r : Request) : Option Key := do
  let metadata ← r.payload.body.get? "metadata"
  let ns ← (metadata.get? "namespace").bind Json.str?
  let name ← (metadata.get? "name").bind Json.str?
  some ⟨ns, name⟩

/-- The request writes the status of the object under `key`: it goes to the address of that status, and its body names
that object. -/
structure Writes (r : Request) (key : Key) : Prop where
  method : r.method = "PATCH"
  path : r.path = Manifest.path (some key.ns) ++ "/" ++ key.name ++ "/status"
  names : r.key? = some key

end Request

namespace Client

/-- A status is written in one request. -/
theorem only_writeStatus (s : Service) :
    Only (fun r => ∃ ns, s.metadata.ns = some ns ∧ statusRequest s ns = .ok r) (writeStatus s) := by
  unfold writeStatus
  split
  · exact trivial
  · rename_i ns inside
    split
    · exact trivial
    · refine Only.bind ?_ fun reply => by cases reply <;> exact trivial
      unfold send
      split
      · exact trivial
      · rename_i r request
        exact ⟨⟨ns, inside, request⟩, fun _ => trivial⟩

section Sent

variable {s : Service} {r : Request} {reply : Reply} {q : Exchange (Except Failure Unit)}

theorem statusRequest_of_path (path : Path (writeStatus s) [⟨r, reply⟩] q) :
    ∃ ns, s.metadata.ns = some ns ∧ statusRequest s ns = .ok r :=
  ((only_writeStatus s).path path).1 _ (List.mem_singleton_self _)

/-- **A write of a status is meant for the version that its object has.** -/
theorem version?_of_path (path : Path (writeStatus s) [⟨r, reply⟩] q) : r.version? = s.metadata.resourceVersion := by
  obtain ⟨ns, -, request⟩ := statusRequest_of_path path
  unfold Request.version?
  rw [Request.payload_of_ofUrl request]
  cases version : s.metadata.resourceVersion <;>
    simp [Payload.body, Server.version?, statusPatch, version, Json.get?, Json.present?, Json.orNull, Json.str?]

theorem key?_of_path (path : Path (writeStatus s) [⟨r, reply⟩] q) : r.key? = s.key? := by
  obtain ⟨ns, inside, request⟩ := statusRequest_of_path path
  unfold Request.key? Service.key?
  rw [Request.payload_of_ofUrl request, inside]
  rfl

theorem status_of_path (path : Path (writeStatus s) [⟨r, reply⟩] q) :
    r.payload.body.get? "status" = some (Json.orNull (s.status.map Status.toJson)) := by
  obtain ⟨ns, -, request⟩ := statusRequest_of_path path
  rw [Request.payload_of_ofUrl request]
  rfl

/-- **A write of a status goes to its own object**, unless a character of the key ends the path of an address. -/
theorem writes_of_path {key : Key} (path : Path (writeStatus s) [⟨r, reply⟩] q) (hs : s.key? = some key)
    (hns : inPath key.ns = true) (hname : inPath key.name = true) : r.Writes key := by
  obtain ⟨ns, inside, request⟩ := statusRequest_of_path path
  obtain rfl : (⟨ns, s.name⟩ : Key) = key := by simpa [Service.key?, inside] using hs
  refine ⟨?_, ?_, (key?_of_path path).trans hs⟩
  · obtain ⟨query, rfl⟩ := Request.eq_of_ofUrl request
    rfl
  · refine Request.path_of_ofUrl request ?_ rfl
    simp only [Manifest.path, inPath_append, hns, hname, Bool.and_true]
    rfl

end Sent

/-- **A write succeeds** if its one request is answered with an object. -/
theorem path_writeStatus_iff {s : Service} {t : List (Answered fun _ : Request => Reply)} :
    Path (writeStatus s) t (.done (.ok ())) ↔
      ∃ ns r reply s', s.metadata.ns = some ns ∧ s.name ≠ "" ∧ statusRequest s ns = .ok r ∧
        reply.read Service.ofJson? = .ok s' ∧ t = [⟨r, reply⟩] := by
  constructor
  · intro path
    unfold writeStatus at path
    split at path
    · cases path
    rename_i ns inside
    split at path
    · cases path
    rename_i named
    cases request : statusRequest s ns with
    | error fault =>
      rw [request] at path
      cases path
    | ok r =>
      rw [request, send, ask_bind, path_ask_done_iff] at path
      obtain ⟨reply, t', rfl, onwards⟩ := path
      rw [done_bind] at onwards
      split at onwards
      · rename_i s' read
        obtain ⟨rfl, -⟩ := path_done_iff.1 onwards
        exact ⟨ns, r, reply, s', inside, named, request, read, rfl⟩
      · cases onwards
  · rintro ⟨ns, r, reply, s', inside, named, request, read, rfl⟩
    rw [writeStatus, inside]
    simp only [if_neg named, request, send, ask_bind, done_bind]
    refine .cons (path_nil_iff.2 ?_)
    simp only [read]

theorem not_fails_of_path {s : Service} {t : List (Answered fun _ : Request => Reply)}
    (path : Path (writeStatus s) t (.done (.ok ()))) : ∃ m ∈ t, ¬ m.2.Fails := by
  obtain ⟨-, r, reply, s', -, -, -, read, rfl⟩ := path_writeStatus_iff.1 path
  exact ⟨⟨r, reply⟩, List.mem_singleton_self _, Reply.not_fails_of_read read⟩

theorem exists_ask_writeStatus {s : Service} {ns : String} {r : Request} (hns : s.metadata.ns = some ns)
    (named : s.name ≠ "") (request : statusRequest s ns = .ok r) : ∃ next, writeStatus s = .ask r next := by
  rw [writeStatus, hns]
  simp only [if_neg named, request, send]
  exact ⟨_, rfl⟩

/-- A fetch that is answered gives the object that the text of the answer holds. -/
theorem path_fetchService_iff {key : Key} {r : Request} {code : Nat} {text : String} {s : Service} :
    Path (fetchService key) [⟨r, .answer code text⟩] (.done (.ok (some s))) ↔
      key.name ≠ "" ∧
      Request.ofUrl "GET" (Manifest.path (some key.ns) ++ "/" ++ key.name) none .none = .ok r ∧
      ¬ (400 ≤ code ∧ code < 600) ∧ (Json.parse? text).bind Service.ofJson? = some s := by
  unfold fetchService get?
  split
  · rename_i unnamed
    exact ⟨fun path => (by cases path), fun h => absurd unnamed h.1⟩
  · rename_i named
    cases address : Request.ofUrl "GET" (Manifest.path (some key.ns) ++ "/" ++ key.name) none .none with
    | error fault => exact ⟨fun path => (by cases path), fun h => (by cases h.2.1)⟩
    | ok r' =>
      rw [← Reply.read_answer_eq_ok_iff]
      constructor
      · intro path
        rcases path with _ | onwards
        have h := path_nil_iff.1 onwards
        simp only [done_bind] at h
        split at h
        · rename_i read
          cases h
          exact ⟨named, rfl, read⟩
        · split at h <;> cases h
        · cases h
      · rintro ⟨-, same, read⟩
        cases same
        refine .cons (path_nil_iff.2 ?_)
        simp only [done_bind, read]

end Client

end ModelServing
