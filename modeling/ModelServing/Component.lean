import ModelServing.Table

/-!
# Components

A service is served by up to three components: the predictor holds the model, a transformer may stand in front of it,
and an explainer may stand beside it.

* `Kind` names a component, `Kind.all` is the order in which components are taken up;
* `ComponentSpec` is what is asked of a component, `ComponentStatus` what was seen of it;
* `KindMap` is a map from kinds, with the equations `get_set` and `get_restrict`.
-/

namespace ModelServing

/-- The component of a service that something is about. -/
inductive Kind where
  | predictor
  | transformer
  | explainer
deriving DecidableEq, Inhabited

namespace Kind

/-- Every kind, the predictor first: the others send their traffic to the endpoint that it publishes. -/
def all : List Kind := [predictor, transformer, explainer]

/-- The name of the kind in object names and messages. -/
def name : Kind → String
  | predictor => "predictor"
  | transformer => "transformer"
  | explainer => "explainer"

/-- The type of the condition under which the component reports. -/
def conditionType : Kind → String
  | predictor => "PredictorReady"
  | transformer => "TransformerReady"
  | explainer => "ExplainerReady"

/-- The kind of that name. -/
def ofName? (s : String) : Option Kind := all.find? fun k => k.name == s

/-- The place of a kind in `all`. -/
def rank : Kind → Nat
  | predictor => 0
  | transformer => 1
  | explainer => 2

theorem mem_all (k : Kind) : k ∈ all := by cases k <;> decide

theorem ofName?_name (k : Kind) : ofName? k.name = some k := by cases k <;> decide

theorem name_inj {a b : Kind} : a.name = b.name ↔ a = b := by
  cases a <;> cases b <;> decide

theorem conditionType_inj {a b : Kind} : a.conditionType = b.conditionType ↔ a = b := by
  cases a <;> cases b <;> decide

end Kind

/-- What is asked of one component. -/
structure ComponentSpec where
  minReplicas : Option UInt32 := none
  maxReplicas : Option UInt32 := none
  serviceAccountName : Option String := none
  parameters : Table String String := Table.empty
deriving DecidableEq, Inhabited

/-- What was seen of one component: the ready replicas of its workload, and its endpoint once it serves. -/
structure ComponentStatus where
  readyReplicas : Int32 := 0
  address : Option String := none
deriving DecidableEq, Inhabited

/-- A map from kinds. -/
@[ext] structure KindMap (α : Type) where
  predictor : Option α := none
  transformer : Option α := none
  explainer : Option α := none
deriving DecidableEq, Inhabited

namespace KindMap

variable {α : Type}

/-- The value of a kind. -/
def get (m : KindMap α) : Kind → Option α
  | .predictor => m.predictor
  | .transformer => m.transformer
  | .explainer => m.explainer

/-- The map with the value of one kind changed. -/
def update (m : KindMap α) (k : Kind) (a : Option α) : KindMap α :=
  match k with
  | .predictor => { m with predictor := a }
  | .transformer => { m with transformer := a }
  | .explainer => { m with explainer := a }

/-- The map with `a` as the value of `k`. -/
def set (m : KindMap α) (k : Kind) (a : α) : KindMap α := m.update k (some a)

/-- The entries of the kinds in `ks`. -/
def restrict (m : KindMap α) (ks : List Kind) : KindMap α :=
  ⟨if Kind.predictor ∈ ks then m.predictor else none,
   if Kind.transformer ∈ ks then m.transformer else none,
   if Kind.explainer ∈ ks then m.explainer else none⟩

/-- The entries in the order of the kinds. -/
def toList (m : KindMap α) : List (Kind × α) := Kind.all.filterMap fun k => (m.get k).map (k, ·)

/-- Whether the map has no entries. -/
def isEmpty (m : KindMap α) : Bool := m.predictor.isNone && m.transformer.isNone && m.explainer.isNone

@[simp] theorem get_set (m : KindMap α) (k x : Kind) (a : α) :
    (m.set k a).get x = if x = k then some a else m.get x := by
  cases k <;> cases x <;> rfl

@[simp] theorem get_restrict (m : KindMap α) (ks : List Kind) (x : Kind) :
    (m.restrict ks).get x = if x ∈ ks then m.get x else none := by
  cases x <;> rfl

theorem ext_get {m n : KindMap α} (h : ∀ k, m.get k = n.get k) : m = n :=
  KindMap.ext (h .predictor) (h .transformer) (h .explainer)

end KindMap

end ModelServing
