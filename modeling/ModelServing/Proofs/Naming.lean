import Mathlib.Data.List.Basic
import ModelServing.Proofs.Pass.Coherent
import ModelServing.Proofs.Pass.Stamps

/-!
# Names that tell services apart

* `Text.split_last` says that a text can be cut at the last of its separators in one way only, and
  `Text.split_last_between` that this is so behind a fixed front and in front of a fixed tail;
* `Workload.name_eq_iff`, `Workload.address_eq_iff` and `IngressConfig.url_eq_iff` say that workloads, endpoints and
  outside addresses go by different names: there is no dash in the name of a kind, and there is to be no dot in a
  namespace;
* `Publishes` says that the reconciler of a component publishes an address, `Publishes.eq_endpoint` which one it is;
* `names_differ` is all of this together.
-/

namespace ModelServing

open Prog

/-! ### texts cut at their last separator -/

namespace Text

theorem split_last_of_chars {c : Char} {a a' b b' : List Char} (hb : c ∉ b) (hb' : c ∉ b')
    (h : a ++ c :: b = a' ++ c :: b') : a = a' ∧ b = b' := by
  obtain ⟨m, ha, htail⟩ | ⟨m, ha, htail⟩ := List.append_eq_append_iff.1 h
  · cases m with
    | nil => exact ⟨by simpa using ha.symm, (List.cons.inj htail).2⟩
    | cons x m =>
      -- the separator behind the longer text would be one of those in the shorter rest
      have later : b = m ++ c :: b' := (List.cons.inj htail).2
      exact absurd (later ▸ by simp) hb
  · cases m with
    | nil => exact ⟨by simpa using ha, (List.cons.inj htail).2.symm⟩
    | cons x m =>
      have later : b' = m ++ c :: b := (List.cons.inj htail).2
      exact absurd (later ▸ by simp) hb'

/-- A text is cut at its last separator in one way only. -/
theorem split_last {sep a a' b b' : String} {c : Char} (hsep : sep.toList = [c]) (hb : c ∉ b.toList)
    (hb' : c ∉ b'.toList) (h : a ++ sep ++ b = a' ++ sep ++ b') : a = a' ∧ b = b' := by
  have chars : a.toList ++ c :: b.toList = a'.toList ++ c :: b'.toList := by
    simpa [hsep] using congrArg String.toList h
  obtain ⟨ha, hb⟩ := split_last_of_chars hb hb' chars
  exact ⟨String.toList_inj.1 ha, String.toList_inj.1 hb⟩

/-- What stands between a fixed front and a fixed tail is cut at its last dot in one way only. -/
theorem split_last_between {front tail a a' b b' : String} (hb : '.' ∉ b.toList) (hb' : '.' ∉ b'.toList)
    (h : front ++ a ++ "." ++ b ++ tail = front ++ a' ++ "." ++ b' ++ tail) : a = a' ∧ b = b' := by
  obtain ⟨fronts, same⟩ := split_last rfl hb hb' ((String.append_left_inj tail).1 h)
  exact ⟨(String.append_right_inj front).1 fronts, same⟩

end Text

namespace Workload

/-- **Workloads go by different names**, whatever the services are called. -/
theorem name_eq_iff {n n' : String} {k k' : Kind} : name n k = name n' k' ↔ n = n' ∧ k = k' := by
  constructor
  · intro h
    have plain (k : Kind) : '-' ∉ k.name.toList := by cases k <;> decide
    obtain ⟨hn, hk⟩ := Text.split_last rfl (plain k) (plain k') h
    exact ⟨hn, Kind.name_inj.1 hk⟩
  · rintro ⟨rfl, rfl⟩
    rfl

theorem address_eq_iff {domain workload workload' ns ns' : String} (hns : '.' ∉ ns.toList) (hns' : '.' ∉ ns'.toList) :
    address domain workload ns = address domain workload' ns' ↔ workload = workload' ∧ ns = ns' := by
  constructor
  · intro h
    exact Text.split_last_between hns hns' ((String.append_left_inj domain).1 h)
  · rintro ⟨rfl, rfl⟩
    rfl

end Workload

/-- **Services have different outside addresses**, if there is no dot in their namespaces. -/
theorem IngressConfig.url_eq_iff {config : IngressConfig} {n n' ns ns' : String} (hns : '.' ∉ ns.toList)
    (hns' : '.' ∉ ns'.toList) : config.url n ns = config.url n' ns' ↔ n = n' ∧ ns = ns' := by
  constructor
  · intro h
    exact Text.split_last_between hns hns' ((String.append_left_inj config.domain).1 h)
  · rintro ⟨rfl, rfl⟩
    rfl

/-- With a dot in a namespace there are two services to one address. -/
example : ({} : IngressConfig).url "fraud.beta" "shop" = ({} : IngressConfig).url "fraud" "beta.shop" := by decide

/-! ### published addresses -/

namespace Workload

/-- The reconciler of a component succeeds, and has published the address of the component. -/
def Publishes (domain : String) (k : Kind) (s : Service) (a : String) : Prop :=
  ∃ t s', Path (reconcile domain k s) t (.done ⟨s', none⟩) ∧ s'.statusOrEmpty.address? k = some a

theorem Publishes.eq_endpoint {domain a : String} {k : Kind} {s : Service} {id : Key} (h : Publishes domain k s a)
    (hid : s.key? = some id) : a = id.endpoint domain k := by
  obtain ⟨t, s', path, published⟩ := h
  obtain ⟨f, now, -, rfl⟩ := Pass.exists_note_of_path hid path
  rw [Service.statusOrEmpty_withStatus, Status.address?, get_note, if_pos rfl, Option.bind_some,
    Finding.component_address] at published
  split at published
  · exact (Option.some.inj published).symm
  · cases published

end Workload

theorem Key.endpoint_inj {domain : String} {id id' : Key} {k k' : Kind} (hns : '.' ∉ id.ns.toList)
    (hns' : '.' ∉ id'.ns.toList) (h : id.endpoint domain k = id'.endpoint domain k') : id = id' ∧ k = k' := by
  obtain ⟨ns, n⟩ := id
  obtain ⟨ns', n'⟩ := id'
  obtain ⟨names, rfl⟩ := (Workload.address_eq_iff hns hns').1 h
  obtain ⟨rfl, rfl⟩ := Workload.name_eq_iff.1 names
  exact ⟨rfl, rfl⟩

/-- **Different services never go by one name.** No two components of any services have workloads of one name, whatever
the services are called. If there is no dot in their namespaces, no two components have one endpoint inside the cluster,
and none are published at one address, and no two services have one outside address, whatever the domains and the scheme
are. -/
theorem names_differ :
    (∀ n n' k k', Workload.name n k = Workload.name n' k' → n = n' ∧ k = k') ∧
    (∀ domain n n' k k' ns ns', '.' ∉ ns.toList → '.' ∉ ns'.toList →
      Workload.address domain (Workload.name n k) ns = Workload.address domain (Workload.name n' k') ns' →
      ns = ns' ∧ n = n' ∧ k = k') ∧
    (∀ domain s s' k k' a id id', s.key? = some id → s'.key? = some id' → '.' ∉ id.ns.toList → '.' ∉ id'.ns.toList →
      Workload.Publishes domain k s a → Workload.Publishes domain k' s' a → id = id' ∧ k = k') ∧
    ∀ (config : IngressConfig) n n' ns ns', '.' ∉ ns.toList → '.' ∉ ns'.toList →
      config.url n ns = config.url n' ns' → n = n' ∧ ns = ns' := by
  refine ⟨fun n n' k k' => Workload.name_eq_iff.1, ?_, ?_, fun config n n' ns ns' hns hns' =>
    (IngressConfig.url_eq_iff hns hns').1⟩
  · intro domain n n' k k' ns ns' hns hns' h
    obtain ⟨names, same⟩ := (Workload.address_eq_iff hns hns').1 h
    exact ⟨same, Workload.name_eq_iff.1 names⟩
  · intro domain s s' k k' a id id' hid hid' hns hns' published published'
    exact Key.endpoint_inj hns hns' ((published.eq_endpoint hid).symm.trans (published'.eq_endpoint hid'))

/-- The shop and a shop of the same name with `-predictor` behind it have different workloads, endpoints and outside
addresses, and the endpoint of the shop's predictor, which is published with a status and without one, is that of one
service. -/
theorem names_differ_shop :
    Workload.name "fraud" .predictor ≠ Workload.name "fraud-predictor" .predictor ∧
    '.' ∉ "shop".toList ∧
    Workload.address "cluster.local" (Workload.name "fraud" .predictor) "shop" ≠
      Workload.address "cluster.local" (Workload.name "fraud-predictor" .predictor) "shop" ∧
    Workload.Publishes "cluster.local" .predictor (Pass.Shop.service none)
      "http://fraud-predictor.shop.svc.cluster.local" ∧
    Workload.Publishes "cluster.local" .predictor (Pass.Shop.service (some Pass.Shop.was))
      "http://fraud-predictor.shop.svc.cluster.local" ∧
    Pass.Shop.key = ⟨"shop", "fraud"⟩ ∧
    ({} : IngressConfig).url "fraud" "shop" ≠ ({} : IngressConfig).url "fraud-predictor" "shop" := by
  obtain ⟨names, addresses, published, urls⟩ := names_differ
  have plain : '.' ∉ "shop".toList := by decide
  have publishes (status : Option Status) : Workload.Publishes "cluster.local" .predictor (Pass.Shop.service status)
      "http://fraud-predictor.shop.svc.cluster.local" :=
    ⟨[⟨.deployment (Pass.Shop.key.workload .predictor), .ok (some Pass.Shop.serving)⟩, ⟨.clock, Pass.Shop.noon⟩], _,
      .cons (.cons (.nil _)), by cases status <;> rfl⟩
  refine ⟨fun h => ?_, plain, fun h => ?_, publishes none, publishes (some Pass.Shop.was), ?_, fun h => ?_⟩
  · exact absurd (names _ _ _ _ h).1 (by decide)
  · exact absurd (addresses _ _ _ _ _ _ _ plain plain h).2.1 (by decide)
  · exact (published _ _ _ _ _ _ _ ⟨"shop", "fraud"⟩ rfl rfl plain plain (publishes none) (publishes (some Pass.Shop.was))).1
  · exact absurd (urls _ _ _ _ _ plain plain h).1 (by decide)

end ModelServing
