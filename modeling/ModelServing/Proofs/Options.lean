import ModelServing.Options
import ModelServing.Proofs.Backoff
import ModelServing.Proofs.Ingress

/-!
# Configurations that work

* `Options.Workable` says which options make a configuration, `Options.config_eq_ok_iff` which one they make;
* `Config.Safe` says that nothing that depends on a configuration goes wrong under it: the reconciler of the ingress
  does not refuse its domain, and no delay is shorter than the base or longer than the maximum;
* `safe_of_config` says that every configuration that is made is safe.
-/

namespace ModelServing

open Prog

/-- There is a domain, and the first delay is at least a second and not longer than the longest. -/
structure Options.Workable (o : Options) : Prop where
  domain : ∃ c ∈ o.ingressDomain.toList, ¬ Text.Blank c
  positive : 1 ≤ o.errorRequeueBaseSecs.toNat
  bounds : o.errorRequeueBaseSecs.toNat ≤ o.errorRequeueMaxSecs.toNat

/-- Nothing that depends on the configuration goes wrong: the reconciler of the ingress always runs to its end without a
failure, whatever the service and the times are, and every key waits at least for the base, which is no less than a
second, and at most for the maximum, whatever was counted and forgotten before. -/
structure Config.Safe (c : Config) : Prop where
  runs : ∀ s : Service, s.metadata.ns ≠ none → ∀ now later, ∃ s',
    Path (Ingress.reconcile c.ingress s) [⟨.clock, now⟩, ⟨.clock, later⟩] (.done ⟨s', none⟩)
  succeeds : ∀ s : Service, s.metadata.ns ≠ none → ∀ t r,
    Path (Ingress.reconcile c.ingress s) t (.done r) → r.failure = none
  second : Duration.ofSecs 1 ≤ c.requeueBase
  waits : ∀ key asks, c.requeueBase ≤ Backoff.delayAfter c.requeueBase c.requeueMax key asks ∧
    Backoff.delayAfter c.requeueBase c.requeueMax key asks ≤ c.requeueMax

namespace Options

variable {o : Options} {c : Config}

/-- **Which options make a configuration**, and which one they make. -/
theorem config_eq_ok_iff :
    o.config = .ok c ↔ o.Workable ∧
      c = { ingress := ⟨o.ingressDomain, o.urlScheme⟩, clusterDomain := o.clusterDomain
            requeueBase := Duration.ofSecs o.errorRequeueBaseSecs
            requeueMax := Duration.ofSecs o.errorRequeueMaxSecs } := by
  have workable_iff : o.Workable ↔ Text.isBlank o.ingressDomain = false ∧ o.errorRequeueBaseSecs ≠ 0 ∧
      ¬ o.errorRequeueMaxSecs < o.errorRequeueBaseSecs := by
    rw [Text.isBlank_eq_false_iff, UInt64.lt_iff_toNat_lt, Ne, ← UInt64.toNat_inj, UInt64.toNat_zero]
    constructor
    · rintro ⟨domain, positive, bounds⟩
      exact ⟨domain, by omega, by omega⟩
    · rintro ⟨domain, positive, bounds⟩
      exact ⟨domain, by omega, by omega⟩
  rw [workable_iff]
  unfold config
  split
  · simp [*]
  · split
    · rename_i h
      rcases h with h | h <;> simp [h]
    · rename_i domain bounds
      rw [not_or] at bounds
      simp [domain, bounds, eq_comm]

/-- **The options make a configuration just if they are workable, and every configuration that they make is safe.** -/
theorem safe_of_config (o : Options) :
    ((∃ c, o.config = .ok c) ↔ o.Workable) ∧
    ∀ c, o.config = .ok c → c.Safe ∧ c.requeueBase = Duration.ofSecs o.errorRequeueBaseSecs ∧
      c.requeueMax = Duration.ofSecs o.errorRequeueMaxSecs := by
  constructor
  · simp [config_eq_ok_iff]
  · intro c made
    obtain ⟨⟨domain, positive, bounds⟩, rfl⟩ := config_eq_ok_iff.1 made
    have shown : Text.isBlank o.ingressDomain = false := Text.isBlank_eq_false_iff.2 domain
    have ordered : Duration.ofSecs o.errorRequeueBaseSecs ≤ Duration.ofSecs o.errorRequeueMaxSecs :=
      Duration.ofSecs_le_iff.2 bounds
    refine ⟨?_, rfl, rfl⟩
    constructor
    case runs => exact fun s => Ingress.exists_path_of_domain shown
    case succeeds => exact fun s hns t r => Ingress.failure_eq_none_of_domain shown hns
    case second => exact Duration.ofSecs_le_iff.2 positive
    case waits => exact fun key asks => ⟨Backoff.le_delayAfter ordered key asks, Backoff.delayAfter_le _ _ key asks⟩

/-- A domain with blanks around it and the widest bounds that there are. -/
theorem safe_of_config_shop :
    let o : Options :=
      { ingressDomain := " shops ", errorRequeueBaseSecs := 1, errorRequeueMaxSecs := 0xFFFFFFFFFFFFFFFF }
    o.Workable ∧ ∃ c, o.config = .ok c ∧ c.Safe ∧ c.requeueBase = Duration.ofSecs 1 := by
  intro o
  have workable : o.Workable := ⟨⟨'s', by decide, by decide⟩, by decide, by decide⟩
  obtain ⟨c, made⟩ := (safe_of_config o).1.2 workable
  obtain ⟨safe, base, -⟩ := (safe_of_config o).2 c made
  exact ⟨workable, c, made, safe, base⟩

end Options

end ModelServing
