import ModelServing.Proofs.Api.Client
import ModelServing.Proofs.Json.Text
import ModelServing.Proofs.Pass.Steps
import ModelServing.Proofs.Service.Encoding

/-!
# Statuses written and read again

What the controller writes of a service is what it reads later, so that a pass which finds its own status has nothing to
write.

* `Json.Writable.ofMembers` and the `writable_toJson` of every type say that specs and statuses can be written as text;
* `Service.sentStatus` is what is sent of a status, and `Service.HeldIn` says that an object holds it: in any order of
  members, and null may be left out;
* `Client.parse?_statusPatch` finds it in the body of a status write;
* `Service.written_reads_back` says what comes back of a spec, of a status, of the body of a status write, and of an
  object that is fetched after it.
-/

namespace ModelServing

open Prog

/-! ### texts -/

namespace Json.Writable

variable {depth : Nat} {α : Type}

theorem ofMembers {fields : List (String × Option Json)} (h : ∀ f ∈ fields, ∀ j ∈ f.2, Writable depth j) :
    Writable (depth + 1) (ofMembers fields) := by
  refine .obj fun m hm => ?_
  obtain ⟨f, hf, there⟩ := List.mem_filterMap.1 hm
  obtain ⟨j, hj, rfl⟩ := Option.map_eq_some_iff.1 there
  exact h f hf j hj

theorem of_mem_map {write : α → Json} (h : ∀ a, Writable depth (write a)) (a : Option α) :
    ∀ j ∈ a.map write, Writable depth j := by
  intro j hj
  obtain ⟨a, -, rfl⟩ := Option.map_eq_some_iff.1 hj
  exact h a

theorem of_mem_some {j : Json} (h : Writable depth j) : ∀ j' ∈ some j, Writable depth j' := by
  rintro _ ⟨⟩
  exact h

theorem of_mem_ite {absent : Bool} {j : Json} (h : Writable depth j) :
    ∀ j' ∈ (if absent then none else some j : Option Json), Writable depth j' := by
  cases absent
  · exact of_mem_some h
  · rintro _ ⟨⟩

theorem orNull {write : α → Json} (h : ∀ a, Writable depth (write a)) {a : Option α} :
    Writable depth (orNull (a.map write)) := by
  cases a with
  | none => exact .null depth
  | some a => exact h a

end Json.Writable

open Json (Writable)

theorem Table.writable_toJson (depth : Nat) (t : Table String String) : Writable (depth + 1) t.toJson := by
  refine .obj fun m hm => ?_
  obtain ⟨e, -, rfl⟩ := List.mem_map.1 hm
  exact .str depth e.2

theorem ComponentSpec.writable_toJson (depth : Nat) (c : ComponentSpec) : Writable (depth + 2) c.toJson := by
  have number (n : UInt32) : Writable (depth + 1) (.int n.toNat) := .int _ (by omega) (by have := n.toNat_lt; omega)
  refine .ofMembers ?_
  simp only [List.forall_mem_cons]
  exact ⟨.of_mem_map number _, .of_mem_map number _, .of_mem_map (.str _) _,
    .of_mem_ite (c.parameters.writable_toJson depth), by simp⟩

theorem Spec.writable_toJson (depth : Nat) (s : Spec) : Writable (depth + 3) s.toJson := by
  refine .ofMembers ?_
  simp only [List.forall_mem_cons]
  exact ⟨.of_mem_some (s.predictor.writable_toJson depth), .of_mem_map (ComponentSpec.writable_toJson depth) _,
    .of_mem_map (ComponentSpec.writable_toJson depth) _, by simp⟩

theorem ComponentStatus.writable_toJson (depth : Nat) (c : ComponentStatus) : Writable (depth + 1) c.toJson := by
  have replicas : Writable depth (.int c.readyReplicas.toInt) := by
    have := c.readyReplicas.le_toInt
    have := c.readyReplicas.toInt_lt
    exact .int depth (by omega) (by omega)
  refine .ofMembers ?_
  simp only [List.forall_mem_cons]
  exact ⟨.of_mem_some replicas, .of_mem_map (.str depth) _, by simp⟩

theorem Condition.writable_toJson (depth : Nat) (c : Condition) : Writable (depth + 1) c.toJson := by
  refine .obj ?_
  simp only [List.forall_mem_cons]
  exact ⟨.str _ _, .str _ _, .str _ _, .str _ _, .str _ _, by simp⟩

theorem KindMap.writable_toJson {α : Type} {depth : Nat} {write : α → Json} (h : ∀ a, Writable depth (write a))
    (m : KindMap α) : Writable (depth + 1) (m.toJson write) := by
  refine .obj fun e he => ?_
  obtain ⟨e, -, rfl⟩ := List.mem_map.1 he
  exact h e.2

theorem Status.writable_toJson (depth : Nat) (s : Status) : Writable (depth + 3) s.toJson := by
  have conditions : Writable (depth + 2) (.arr (s.conditions.map Condition.toJson)) := by
    refine .arr fun j hj => ?_
    obtain ⟨c, -, rfl⟩ := List.mem_map.1 hj
    exact c.writable_toJson depth
  have generation (n : Int64) : Writable (depth + 2) (.int n.toInt) := by
    have := n.le_toInt
    have := n.toInt_lt
    exact .int _ (by omega) (by omega)
  refine .ofMembers ?_
  simp only [List.forall_mem_cons]
  exact ⟨.of_mem_ite conditions, .of_mem_map (.str _) _, .of_mem_map (.str _) _,
    .of_mem_ite (s.components.writable_toJson (ComponentStatus.writable_toJson depth)), .of_mem_map generation _,
    by simp⟩

/-! ### statuses that are sent -/

namespace Service

/-- The years of all conditions of the object can be told. -/
def InEra (s : Service) : Prop := ∀ status ∈ s.status, status.InEra

/-- What is sent of the status of an object: null if it has none. -/
def sentStatus (s : Service) : Json := Json.orNull (s.status.map Status.toJson)

/-- The object with the members `ms` holds the status as it is sent, its members in any order; a null may be left
out. -/
def HeldIn (s : Service) (ms : List (String × Json)) : Prop :=
  (∃ o, Json.single? ms "status" = some (some (s.sentStatus.arranged o))) ∨
    s.status = none ∧ Json.single? ms "status" = some none

theorem optional_sentStatus (mode : Json.Mode) {s : Service} (era : s.InEra) (o : Arrangement) :
    Json.optional (Status.read? mode) (some (s.sentStatus.arranged o)) = some s.status := by
  obtain ⟨metadata, spec, _ | status⟩ := s
  · rfl
  · show Json.optional _ (some (status.toJson.arranged o)) = _
    rw [Json.optional_of_ne_null (status.toJson_arranged_ne_null o), status.read?_arranged o mode (era status rfl)]
    rfl

/-- **A status that is held is read back.** -/
theorem status_of_heldIn (mode : Json.Mode) {s : Service} {ms : List (String × Json)} (era : s.InEra)
    (held : s.HeldIn ms) : (Json.single? ms "status").bind (Json.optional (Status.read? mode)) = some s.status := by
  obtain ⟨o, h⟩ | ⟨none, h⟩ := held
  · rw [h, Option.bind_some, optional_sentStatus mode era]
  · rw [h, none]
    rfl

/-- The status of an object is read from its member of that name. -/
theorem status_of_read? {mode : Json.Mode} {ms : List (String × Json)} {s : Service}
    (h : read? mode (.obj ms) = some s) :
    (Json.single? ms "status").bind (Json.optional (Status.read? mode)) = some s.status := by
  simp only [read?, Json.record?, fields, List.mapM_cons, List.mapM_nil, Option.bind_eq_bind,
    Option.bind_eq_some_iff] at h
  obtain ⟨_, ⟨_, -, _, ⟨_, -, _, ⟨member, hm, _, ⟨⟩, ⟨⟩⟩, ⟨⟩⟩, ⟨⟩⟩, parts⟩ := h
  simp only [Option.bind_eq_some_iff] at parts
  obtain ⟨_, -, _, -, status, hs, ⟨⟩⟩ := parts
  rw [hm, Option.bind_some, hs]

end Service

namespace Client

theorem writable_statusPatch (s : Service) (ns : String) : Writable 127 (statusPatch s ns) := by
  have status : Writable 126 (Json.orNull (s.status.map Status.toJson)) :=
    .orNull fun status => status.writable_toJson 123
  have version : Writable 125 (Json.orNull (s.metadata.resourceVersion.map .str)) := .orNull (.str 125)
  refine .obj ?_
  simp only [List.forall_mem_cons]
  refine ⟨.str _ _, .str _ _, .obj ?_, status, by simp⟩
  simp only [List.forall_mem_cons]
  exact ⟨.str _ _, .str _ _, version, by simp⟩

/-- The body of a status write, read as the receiver reads it, has the status that is sent. -/
theorem parse?_statusPatch (s : Service) (ns : String) :
    ∃ ms, Json.parse? (statusPatch s ns).compact = some (.obj ms) ∧
      Json.single? ms "status" = some (some (s.sentStatus.arranged .byName)) := by
  rw [Json.parse?_compact (writable_statusPatch s ns), statusPatch, Json.arranged_obj]
  refine ⟨_, rfl, Json.single?_of_mem (Arrangement.byName.nodup_apply (by simp)) ?_⟩
  rw [(Arrangement.byName.perm _).mem_iff]
  simp [Service.sentStatus]

end Client

/-- A commit that finds its own status has nothing to write. -/
theorem Pass.commit_of_status_eq {key : Key} {desired existing : Service} (same : existing.status = desired.status)
    {t : List (Answered Pass.Call.Answer)} {outcome : Except Failure Commit}
    (path : Path (Pass.commit key desired) (⟨.fetch key, .ok (some existing)⟩ :: t) (.done outcome)) :
    t = [] ∧ outcome = .ok .unchanged := by
  rcases path with _ | onwards
  replace onwards : Path (if existing.status = desired.status then _ else _) t (.done outcome) := onwards
  rw [if_pos same] at onwards
  obtain ⟨rfl, h⟩ := path_done_iff.1 onwards
  exact ⟨rfl, done.inj h⟩

namespace Service

/-- **What is written of a service is what is read.** The spec and the status are read back from their JSON and from
its text, where a spec may have its parameters in another order. A status write carries the status of the object, or
null. A status that was stored as it was sent is equal when the object is fetched again, so that a commit of an equal
status leaves it alone. -/
theorem written_reads_back {s : Service} (era : s.InEra) :
    (Spec.ofJson? s.spec.toJson = some s.spec ∧
      ∃ spec, (Json.parse? s.spec.toJson.compact).bind Spec.ofJson? = some spec ∧ spec.Same s.spec) ∧
    (∀ status ∈ s.status, ∀ mode, Status.read? mode status.toJson = some status ∧
      (Json.parse? status.toJson.compact).bind (Status.read? mode) = some status) ∧
    (∀ t q, Path (Client.writeStatus s) t q → ∀ m ∈ t,
      ∃ body, Json.parse? m.1.payload.body.compact = some (.obj body) ∧
        (s.status = none → Json.single? body "status" = some (some .null)) ∧
        (Json.single? body "status").bind (Json.optional Status.ofJson?) = some s.status) ∧
    ∀ key r code text ms existing, Json.parse? text = some (.obj ms) → s.HeldIn ms →
      Path (Client.fetchService key) [⟨r, .answer code text⟩] (.done (.ok (some existing))) →
      existing.status = s.status ∧
      ∀ desired t outcome, desired.status = s.status →
        Path (Pass.commit key desired) (⟨.fetch key, .ok (some existing)⟩ :: t) (.done outcome) →
        t = [] ∧ outcome = .ok .unchanged := by
  refine ⟨⟨?_, s.spec.arranged .byName, ?_, s.spec.same_arranged .byName⟩, ?_, ?_, ?_⟩
  · have := s.spec.ofJson?_arranged .asWritten
    rwa [Json.arranged_asWritten, Spec.arranged_asWritten] at this
  · rw [Json.parse?_compact (s.spec.writable_toJson 124), Option.bind_some, Spec.ofJson?_arranged]
  · intro status hs mode
    have back (o : Arrangement) := status.read?_arranged o mode (era status hs)
    refine ⟨?_, ?_⟩
    · simpa only [Json.arranged_asWritten] using back .asWritten
    · rw [Json.parse?_compact (status.writable_toJson 124), Option.bind_some, back]
  · intro t q path m hm
    obtain ⟨ns, -, request⟩ := ((Client.only_writeStatus s).path path).1 m hm
    have payload := Request.payload_of_ofUrl request
    obtain ⟨body, read, sent⟩ := Client.parse?_statusPatch s ns
    refine ⟨body, by rw [payload]; exact read, fun absent => ?_, status_of_heldIn .direct era (.inl ⟨_, sent⟩)⟩
    rw [sent, sentStatus, absent]
    rfl
  · intro key r code text ms existing read held fetched
    obtain ⟨-, -, -, fetched⟩ := Client.path_fetchService_iff.1 fetched
    rw [read, Option.bind_some] at fetched
    have same : existing.status = s.status :=
      Option.some.inj ((status_of_read? fetched).symm.trans (status_of_heldIn .direct era held))
    exact ⟨same, fun desired t outcome wanted path => Pass.commit_of_status_eq (same.trans wanted.symm) path⟩

end Service

/-! ### a shop that is fetched -/

namespace Pass.Shop

/-- The object in the shop as the cluster tells it, with no more than its name as metadata. -/
def told : Json :=
  .obj [("metadata", .obj [("name", .str "fraud")]), ("spec", (service none).spec.toJson), ("status", was.toJson)]

def known : Service := ⟨{ name := some "fraud" }, (service none).spec, some was⟩

theorem inEra : (service was).InEra := by
  rintro _ ⟨⟩
  unfold Status.InEra
  decide

theorem writable_told : Writable 127 told := by
  refine .obj ?_
  simp only [List.forall_mem_cons]
  exact ⟨.obj (by simp [Writable.str]), Spec.writable_toJson 123 _, Status.writable_toJson 123 _, by simp⟩

theorem ofJson?_told : Service.ofJson? (told.arranged .byName) = some known := by
  have members : told = Json.ofMembers [("metadata", some (.obj [("name", .str "fraud")])),
    ("spec", some (service none).spec.toJson), ("status", some was.toJson)] := rfl
  have metadata : Metadata.ofJson? ((Json.obj [("name", .str "fraud")]).arranged .byName) =
      some { name := some "fraud" } := by
    rw [Json.arranged_obj, List.map_singleton, Arrangement.apply_singleton]
    rfl
  have spec : (service none).spec.arranged .byName = (service none).spec := by
    simp [service, Spec.arranged, ComponentSpec.arranged, Table.arranged, Table.empty, Arrangement.apply_nil]
  rw [Service.ofJson?, Service.read?, members, Json.record?_arranged]
  · simp only [List.map_cons, List.map_nil, Option.bind_eq_bind, Option.bind_some, Option.map_some, Json.require,
      metadata, Spec.ofJson?_arranged, spec, Json.optional_of_ne_null (Status.toJson_arranged_ne_null .byName was),
      Status.read?_arranged .byName .direct (inEra was rfl)]
    rfl
  · rfl
  · decide

theorem parse?_told : ∃ ms, Json.parse? told.compact = some (.obj ms) ∧ (service was).HeldIn ms ∧
    Service.ofJson? (.obj ms) = some known := by
  have read := ofJson?_told
  have text := Json.parse?_compact writable_told
  rw [told, Json.arranged_obj] at read
  rw [told, Json.arranged_obj, ← told] at text
  refine ⟨_, text, .inl ⟨.byName, Json.single?_of_mem (Arrangement.byName.nodup_apply (by simp)) ?_⟩, read⟩
  rw [(Arrangement.byName.perm _).mem_iff]
  simp [Service.sentStatus, service, Json.orNull]

theorem path_fetched :
    ∃ r, Path (Client.fetchService key) [⟨r, .answer 200 told.compact⟩] (.done (.ok (some known))) := by
  obtain ⟨r, sent⟩ := Request.exists_of_isOk
    (show (Request.ofUrl "GET" (Manifest.path (some key.ns) ++ "/" ++ key.name) none .none).isOk = true by decide)
  obtain ⟨ms, read, -, fetched⟩ := parse?_told
  exact ⟨r, Client.path_fetchService_iff.2 ⟨by decide, sent, by decide, by rw [read, Option.bind_some, fetched]⟩⟩

theorem path_written (reply : Reply) : ∃ r q, Path (Client.writeStatus (service was)) [⟨r, reply⟩] q := by
  obtain ⟨r, sent⟩ := Request.exists_of_isOk
    (show (Client.statusRequest (service was) "shop").isOk = true by decide +kernel)
  obtain ⟨next, asked⟩ := Client.exists_ask_writeStatus (s := service was) rfl (by decide) sent
  rw [asked]
  exact ⟨r, _, .cons (.nil _)⟩

end Pass.Shop

namespace Service

theorem written_reads_back_shop :
    (∃ r q body, Path (Client.writeStatus (Pass.Shop.service Pass.Shop.was)) [⟨r, .answer 200 "\x7b\x7d"⟩] q ∧
      Json.parse? r.payload.body.compact = some (.obj body) ∧
      (Json.single? body "status").bind (Json.optional Status.ofJson?) = some (some Pass.Shop.was)) ∧
    ∃ r, Path (Client.fetchService Pass.Shop.key) [⟨r, .answer 200 Pass.Shop.told.compact⟩]
        (.done (.ok (some Pass.Shop.known))) ∧
      ∀ t outcome, Path (Pass.commit Pass.Shop.key (Pass.Shop.service Pass.Shop.was))
        (⟨.fetch Pass.Shop.key, .ok (some Pass.Shop.known)⟩ :: t) (.done outcome) →
        t = [] ∧ outcome = .ok .unchanged := by
  obtain ⟨-, -, sent, again⟩ := written_reads_back Pass.Shop.inEra
  obtain ⟨r, q, written⟩ := Pass.Shop.path_written (.answer 200 "\x7b\x7d")
  obtain ⟨body, read, -, status⟩ := sent _ _ written _ (List.mem_singleton_self _)
  obtain ⟨ms, readAgain, held, -⟩ := Pass.Shop.parse?_told
  obtain ⟨r', fetched⟩ := Pass.Shop.path_fetched
  exact ⟨⟨r, q, body, written, read, status⟩, r', fetched,
    fun t outcome => (again _ _ _ _ _ _ readAgain held fetched).2 _ t outcome rfl⟩

end Service

end ModelServing
