/-!
# Programs that call

A `Prog C R α` is a computation that may make calls `c : C`, gets an answer in `R c` to each, and ends with a result in
`α`. What a call does is left open, so that one program runs against a store in memory, against a cluster, or step by
step between the steps of others.

* `Prog.call` makes one call, `Prog.bind` goes on after a program, and both make a lawful monad;
* `Prog.run` answers every call in a monad, `Prog.expand` puts a program of other calls in place of each.
-/

namespace ModelServing

/-- A computation with calls in `C`, answered in `R`, and a result in `α`. -/
inductive Prog (C : Type) (R : C → Type) (α : Type) : Type where
  | done (a : α)
  | ask (c : C) (next : R c → Prog C R α)

namespace Prog

variable {C D : Type} {R : C → Type} {S : D → Type} {α β : Type}

/-- `p`, and then `f` with its result. -/
def bind : Prog C R α → (α → Prog C R β) → Prog C R β
  | done a, f => f a
  | ask c next, f => ask c fun r => (next r).bind f

instance : Monad (Prog C R) where
  pure := done
  bind := bind

/-- One call. -/
def call (c : C) : Prog C R (R c) := ask c done

/-- The program with every call answered by `h`. -/
def run {m : Type → Type} [Monad m] (h : (c : C) → m (R c)) : Prog C R α → m α
  | done a => pure a
  | ask c next => do
    let r ← h c
    (next r).run h

/-- The program with each call expanded into a program of other calls, whose result answers it. -/
def expand (h : (c : C) → Prog D S (R c)) : Prog C R α → Prog D S α
  | done a => done a
  | ask c next => (h c).bind fun r => (next r).expand h

@[simp] theorem pure_eq (a : α) : (pure a : Prog C R α) = done a := rfl

@[simp] theorem bind_eq (p : Prog C R α) (f : α → Prog C R β) : p >>= f = p.bind f := rfl

@[simp] theorem done_bind (a : α) (f : α → Prog C R β) : (done a).bind f = f a := rfl

@[simp] theorem ask_bind (c : C) (next : R c → Prog C R α) (f : α → Prog C R β) :
    (ask c next).bind f = ask c fun r => (next r).bind f := rfl

theorem bind_done (p : Prog C R α) : p.bind done = p := by
  induction p with
  | done a => rfl
  | ask c next ih => simp only [ask_bind, ih]

theorem bind_assoc {γ : Type} (p : Prog C R α) (f : α → Prog C R β) (g : β → Prog C R γ) :
    (p.bind f).bind g = p.bind fun a => (f a).bind g := by
  induction p with
  | done a => rfl
  | ask c next ih => simp only [ask_bind, ih]

instance : LawfulMonad (Prog C R) :=
  LawfulMonad.mk' (Prog C R) (fun p => bind_done p) (fun _ _ => rfl) (fun p f g => bind_assoc p f g)

end Prog

end ModelServing
