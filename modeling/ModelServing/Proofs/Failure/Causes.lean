import ModelServing.Proofs.Failure

/-!
# What lies under a failure

A failure is told twice: by its text, which goes from the outermost wrapper to the root, and by the causes that are met
when one steps down from it.

* `Failure.wrap` puts wrappers around a failure, and `wrap_wrappers_root` says that every failure is its root inside its
  wrappers;
* `Cause.under?` is one step down, and `Below x l` says that `l` is all that is met under `x`;
* `Failure.RestsOn` says what lies under a root, `Below.wrap` what lies under a root inside wrappers;
* `Below.map_text` says that the texts of the causes are those of what is met, and `message_wrap` that no wrapper
  changes or cuts the text inside it;
* `Failure.traced_to_root` is all of this together.
-/

namespace ModelServing

/-! ### wrappers -/

namespace Failure

/-- What a failure may be wrapped in: the step that it stopped. -/
inductive Wrapper where
  | component (kind : Kind)
  | ingress
  | statusWrite (service : String)

/-- The failure in its wrapper. -/
def Wrapper.around : Wrapper → Failure → Failure
  | component kind, cause => .component kind cause
  | ingress, cause => .ingress cause
  | statusWrite service, cause => .statusWrite service cause

/-- What the wrapper puts in front of the text inside it. -/
def Wrapper.heading : Wrapper → String
  | component kind => "failed to reconcile " ++ kind.name ++ " component: "
  | ingress => "failed to reconcile ingress: "
  | statusWrite service => "failed to update status for " ++ service ++ ": "

/-- The failure in its wrappers, the outermost first. -/
def wrap (ws : List Wrapper) (r : Failure) : Failure := ws.foldr Wrapper.around r

/-- What each of the wrappers is around, from the outside in. -/
def inside : List Wrapper → Failure → List Failure
  | [], _ => []
  | _ :: ws, r => wrap ws r :: inside ws r

/-- The wrappers of a failure, the outermost first. -/
def wrappers : Failure → List Wrapper
  | component kind cause => .component kind :: cause.wrappers
  | ingress cause => .ingress :: cause.wrappers
  | statusWrite service cause => .statusWrite service :: cause.wrappers
  | _ => []

variable {e : Failure}

theorem wrap_wrappers_root (e : Failure) : wrap e.wrappers e.root = e := by
  induction e with
  | component kind _ ih => exact congrArg (component kind) ih
  | ingress _ ih => exact congrArg ingress ih
  | statusWrite service _ ih => exact congrArg (statusWrite service) ih
  | client | invalid | internal => rfl

/-! ### texts -/

theorem Wrapper.message_around (w : Wrapper) (e : Failure) : (w.around e).message = w.heading ++ e.message := by
  cases w <;> rfl

/-- **The text of a failure ends with that of its root**, and in front of that stand the headings of its wrappers. -/
theorem message_wrap (ws : List Wrapper) (r : Failure) :
    (wrap ws r).message = String.join (ws.map Wrapper.heading) ++ r.message := by
  induction ws with
  | nil => exact String.empty_append.symm
  | cons w ws ih =>
    calc (wrap (w :: ws) r).message
        = w.heading ++ (wrap ws r).message := w.message_around (wrap ws r)
      _ = w.heading ++ (String.join (ws.map Wrapper.heading) ++ r.message) := by rw [ih]
      _ = String.join ((w :: ws).map Wrapper.heading) ++ r.message := by
        rw [List.map_cons, String.join_cons, String.append_assoc]

theorem failedComponent?_eq_some_iff {k : Kind} :
    e.failedComponent? = some k ↔ ∃ cause, e = .component k cause := by
  constructor
  · intro h
    cases e with
    | component kind cause => exact ⟨cause, by rw [Option.some.inj h]⟩
    | _ => cases h
  · rintro ⟨cause, rfl⟩
    rfl

/-- The text of a request that failed ends that of the failure. -/
theorem message_client_suffix (c : ClientFailure) : c.message.toList <:+ (client c).message.toList :=
  ⟨"kubernetes error: ".toList, String.toList_append.symm⟩

end Failure

/-! ### causes -/

/-- What can be met under a failure: a failure that was wrapped, a request that failed, or what that one was told, of
which there are just its text and the texts under it. -/
inductive Cause where
  | failure (e : Failure)
  | request (c : ClientFailure)
  | told (text : String) (rest : List String)

namespace Cause

/-- The text of a cause. -/
def text : Cause → String
  | failure e => e.message
  | request c => c.message
  | told t _ => t

/-- What was told first, on top of the rest. -/
def ofTexts? : List String → Option Cause
  | [] => none
  | t :: rest => some (told t rest)

/-- What lies right under a cause. -/
def under? : Cause → Option Cause
  | failure (.component _ cause) | failure (.ingress cause) | failure (.statusWrite _ cause) => some (failure cause)
  | failure (.client c) => some (request c)
  | failure (.invalid _ _) | failure (.internal _ _) => none
  | request c => ofTexts? c.causes
  | told _ rest => ofTexts? rest

end Cause

/-- Stepping down from `x`, one meets what is in the list, one after the other, and nothing lies under the last. -/
inductive Below : Cause → List Cause → Prop
  | bottom {x : Cause} (h : x.under? = none) : Below x []
  | step {x y : Cause} {l : List Cause} (h : x.under? = some y) (rest : Below y l) : Below x (y :: l)

/-- What is met under a failure that is in no wrapper: nothing, or the request that failed and what lies under it. -/
inductive Failure.RestsOn : Failure → List Cause → Prop
  | invalid (service message : String) : RestsOn (.invalid service message) []
  | internal (context message : String) : RestsOn (.internal context message) []
  | client (c : ClientFailure) {l : List Cause} (h : Below (.request c) l) : RestsOn (.client c) (.request c :: l)

section Below

variable {x y : Cause} {l l' : List Cause} {texts : List String} {e r : Failure}

theorem Below.eq_nil (below : Below x l) (h : x.under? = none) : l = [] := by
  cases below with
  | bottom => rfl
  | step next => cases h.symm.trans next

theorem Below.exists_rest (below : Below x l) (h : x.under? = some y) : ∃ rest, l = y :: rest ∧ Below y rest := by
  cases below with
  | bottom last => cases last.symm.trans h
  | step next rest =>
    obtain rfl := Option.some.inj (h.symm.trans next)
    exact ⟨_, rfl, rest⟩

/-- There is one way down. -/
theorem Below.unique (below : Below x l) (below' : Below x l') : l = l' := by
  induction below generalizing l' with
  | bottom last => exact (below'.eq_nil last).symm
  | step next _ ih =>
    obtain ⟨rest, rfl, further⟩ := below'.exists_rest next
    rw [ih further]

theorem exists_below_of_texts (h : x.under? = Cause.ofTexts? texts) : ∃ l, Below x l := by
  induction texts generalizing x with
  | nil => exact ⟨[], .bottom h⟩
  | cons t texts ih =>
    obtain ⟨l, below⟩ := ih (x := .told t texts) rfl
    exact ⟨.told t texts :: l, .step h below⟩

theorem Failure.exists_restsOn (e : Failure) : ∃ own, e.root.RestsOn own := by
  induction e with
  | component _ _ ih | ingress _ ih | statusWrite _ _ ih => exact ih
  | client c =>
    obtain ⟨l, below⟩ := exists_below_of_texts (x := .request c) rfl
    exact ⟨.request c :: l, .client c below⟩
  | invalid service message => exact ⟨[], .invalid service message⟩
  | internal context message => exact ⟨[], .internal context message⟩

theorem Failure.RestsOn.below (h : r.RestsOn l) : Below (.failure r) l := by
  cases h with
  | invalid | internal => exact .bottom rfl
  | client c below => exact .step rfl below

theorem Cause.under?_around (w : Failure.Wrapper) (e : Failure) :
    (Cause.failure (w.around e)).under? = some (.failure e) := by
  cases w <;> rfl

/-- **Under a wrapped failure lie the failures inside its wrappers**, one after the other, and then what lies under the
innermost. -/
theorem Below.wrap (h : Below (.failure r) l) (ws : List Failure.Wrapper) :
    Below (.failure (Failure.wrap ws r)) ((Failure.inside ws r).map Cause.failure ++ l) := by
  induction ws with
  | nil => exact h
  | cons w ws ih => exact .step (Cause.under?_around w (Failure.wrap ws r)) ih

theorem Below.map_text_of_texts (below : Below x l) (h : x.under? = Cause.ofTexts? texts) :
    l.map Cause.text = texts := by
  induction texts generalizing x l with
  | nil =>
    rw [below.eq_nil h]
    rfl
  | cons t texts ih =>
    obtain ⟨rest, rfl, further⟩ := below.exists_rest h
    rw [List.map_cons, ih further rfl, Cause.text]

/-- **The causes of a failure are the texts of what lies under it.** -/
theorem Below.map_text (below : Below (.failure e) l) : l.map Cause.text = e.causes := by
  induction e generalizing l with
  | component _ _ ih | ingress _ ih | statusWrite _ _ ih =>
    obtain ⟨rest, rfl, further⟩ := below.exists_rest rfl
    rw [List.map_cons, ih further]
    rfl
  | client c =>
    -- from here on the texts that the request left are all that is known
    obtain ⟨rest, rfl, further⟩ := below.exists_rest rfl
    rw [List.map_cons, further.map_text_of_texts rfl]
    rfl
  | invalid | internal =>
    rw [below.eq_nil rfl]
    rfl

end Below

/-- **A failure is traced to its root.** Every failure is its root inside its wrappers. Under it lie the failures inside
the wrappers, one after the other down to the root, and then what lies under the root, which is nothing if something was
not acceptable or went wrong within, and else the request that failed and what lies under that; nothing else does, and
the causes of the failure are the texts of all this. Each wrapper puts its heading in front of the text inside it, so
that the text of the failure is that of its root behind the headings of its wrappers, in their order. The component that
failed is that of the outermost wrapper, if that one is a component's. And the text of a request that failed ends that of
the failure right above it. -/
theorem Failure.traced_to_root (e : Failure) :
    wrap e.wrappers e.root = e ∧
    (∃ own, e.root.RestsOn own ∧
      (∀ l, Below (.failure e) l ↔ l = (inside e.wrappers e.root).map Cause.failure ++ own) ∧
      e.causes = ((inside e.wrappers e.root).map Cause.failure ++ own).map Cause.text) ∧
    ((∀ w : Wrapper, (w.around e).message = w.heading ++ e.message) ∧
      e.message = String.join (e.wrappers.map Wrapper.heading) ++ e.root.message) ∧
    (∀ k, e.failedComponent? = some k ↔ ∃ cause, e = .component k cause) ∧
    ∀ c : ClientFailure, (Cause.failure (.client c)).under? = some (.request c) ∧
      c.message.toList <:+ (client c).message.toList := by
  have whole : wrap e.wrappers e.root = e := wrap_wrappers_root e
  obtain ⟨own, rests⟩ := e.exists_restsOn
  have below : Below (.failure e) ((inside e.wrappers e.root).map Cause.failure ++ own) := by
    have wrapped := rests.below.wrap e.wrappers
    rwa [whole] at wrapped
  refine ⟨whole, ⟨own, rests, fun l => ⟨fun h => h.unique below, fun h => h ▸ below⟩, below.map_text.symm⟩,
    ⟨fun w => w.message_around e, ?_⟩, fun k => failedComponent?_eq_some_iff, fun c => ⟨rfl, message_client_suffix c⟩⟩
  rw [← message_wrap, whole]

/-- A request for a shop that found no connection, in three wrappers: it lies at the bottom with all that it was told,
under the three failures inside the wrappers, and the text of the whole ends with its text. -/
theorem Failure.traced_to_root_shop :
    let c : ClientFailure := .broken "client error (Connect)" ["tcp connect error", "timed out"]
    let looked : Failure := .component .predictor (.client c)
    let e : Failure := .statusWrite "fraud" (.ingress looked)
    Below (.failure e)
      [.failure (.ingress looked), .failure looked, .failure (.client c), .request c,
        .told "client error (Connect)" ["tcp connect error", "timed out"], .told "tcp connect error" ["timed out"],
        .told "timed out" []] ∧
    e.causes = [(Failure.ingress looked).message, looked.message,
      "kubernetes error: ServiceError: client error (Connect)", "ServiceError: client error (Connect)",
      "client error (Connect)", "tcp connect error", "timed out"] ∧
    e.message = "failed to update status for fraud: failed to reconcile ingress: " ++
      "failed to reconcile predictor component: kubernetes error: ServiceError: client error (Connect)" ∧
    e.failedComponent? = none ∧ looked.failedComponent? = some .predictor ∧
    "ServiceError: client error (Connect)".toList <:+ (client c).message.toList := by
  intro c looked e
  obtain ⟨-, ⟨own, rests, chain, causes⟩, ⟨-, text⟩, component, requests⟩ := traced_to_root e
  obtain ⟨-, -, -, component', -⟩ := traced_to_root looked
  have told : Below (.request c) [.told "client error (Connect)" ["tcp connect error", "timed out"],
      .told "tcp connect error" ["timed out"], .told "timed out" []] :=
    .step rfl (.step rfl (.step rfl (.bottom rfl)))
  obtain rfl : own = .request c :: [.told "client error (Connect)" ["tcp connect error", "timed out"],
      .told "tcp connect error" ["timed out"], .told "timed out" []] := by
    cases rests with
    | client _ h => rw [h.unique told]
  refine ⟨(chain _).2 rfl, causes, text, ?_, (component' _).2 ⟨_, rfl⟩, (requests c).2⟩
  refine Option.eq_none_iff_forall_ne_some.2 fun k failed => ?_
  obtain ⟨cause, h⟩ := (component k).1 failed
  exact Failure.noConfusion h

end ModelServing
