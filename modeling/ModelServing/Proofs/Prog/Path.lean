import ModelServing.Prog

/-!
# Paths through programs

What a program does while its calls are answered, whoever answers them.

* `Answered R` is one call with its answer, `Path p t q` says that `p` has become `q` after its calls were answered as
  `t` says; a path to a `done` is a complete run;
* `path_bind_iff` cuts a path through `p.bind f` where `p` ends, `path_append_iff` cuts it anywhere;
* `Only P p` says that `p` makes no calls but those of `P`, whatever it is answered;
* `Course W w t w'` says that a world whose steps are `W` goes from `w` to `w'` through the happenings of `t`.
-/

namespace ModelServing

namespace Prog

variable {C D : Type} {R : C → Type} {S : D → Type} {α β : Type}

/-- One call with its answer. -/
abbrev Answered (R : C → Type) : Type := (c : C) × R c

/-- `p` becomes `q` when its next calls are answered as the list says. -/
inductive Path : Prog C R α → List (Answered R) → Prog C R α → Prop
  | nil (p : Prog C R α) : Path p [] p
  | cons {c : C} {next : R c → Prog C R α} {r : R c} {t : List (Answered R)} {q : Prog C R α} (h : Path (next r) t q) :
      Path (.ask c next) (⟨c, r⟩ :: t) q

/-! ### cutting a path -/

theorem path_done_iff {a : α} {t : List (Answered R)} {q : Prog C R α} :
    Path (.done a) t q ↔ t = [] ∧ q = .done a := by
  constructor
  · rintro ⟨⟩
    exact ⟨rfl, rfl⟩
  · rintro ⟨rfl, rfl⟩
    exact .nil _

theorem path_nil_iff {p q : Prog C R α} : Path p [] q ↔ q = p := by
  constructor
  · rintro ⟨⟩
    rfl
  · rintro rfl
    exact .nil _

theorem path_ask_iff {c : C} {next : R c → Prog C R α} {t : List (Answered R)} {q : Prog C R α} :
    Path (.ask c next) t q ↔
      (t = [] ∧ q = .ask c next) ∨ ∃ r t', t = ⟨c, r⟩ :: t' ∧ Path (next r) t' q := by
  constructor
  · rintro (_ | h)
    · exact .inl ⟨rfl, rfl⟩
    · exact .inr ⟨_, _, rfl, h⟩
  · rintro (⟨rfl, rfl⟩ | ⟨r, t', rfl, h⟩)
    · exact .nil _
    · exact .cons h

theorem path_cons_iff {p q : Prog C R α} {c : C} {r : R c} {t : List (Answered R)} :
    Path p (⟨c, r⟩ :: t) q ↔ ∃ next, p = .ask c next ∧ Path (next r) t q := by
  constructor
  · rintro (_ | h)
    exact ⟨_, rfl, h⟩
  · rintro ⟨next, rfl, h⟩
    exact .cons h

/-- A complete run of a program that calls has the answer to its first call. -/
theorem path_ask_done_iff {c : C} {next : R c → Prog C R α} {t : List (Answered R)} {a : α} :
    Path (.ask c next) t (.done a) ↔ ∃ r t', t = ⟨c, r⟩ :: t' ∧ Path (next r) t' (.done a) := by
  rw [path_ask_iff]
  constructor
  · rintro (⟨-, h⟩ | h)
    · cases h
    · exact h
  · exact .inr

theorem path_append_iff {p q : Prog C R α} {t₁ t₂ : List (Answered R)} :
    Path p (t₁ ++ t₂) q ↔ ∃ m, Path p t₁ m ∧ Path m t₂ q := by
  induction t₁ generalizing p with
  | nil => simp [path_nil_iff]
  | cons x t₁ ih =>
    constructor
    · rintro (_ | h)
      obtain ⟨m, h₁, h₂⟩ := ih.1 h
      exact ⟨m, .cons h₁, h₂⟩
    · rintro ⟨m, (_ | h₁), h₂⟩
      exact .cons (ih.2 ⟨m, h₁, h₂⟩)

/-- **A path through `p.bind f`** either has not left `p`, and `p` is about to call, or it is a complete run of `p` and
a path through what comes after it. -/
theorem path_bind_iff {p : Prog C R α} {f : α → Prog C R β} {t : List (Answered R)} {q : Prog C R β} :
    Path (p.bind f) t q ↔
      (∃ c next, Path p t (.ask c next) ∧ q = .ask c fun r => (next r).bind f) ∨
      ∃ t₁ a t₂, t = t₁ ++ t₂ ∧ Path p t₁ (.done a) ∧ Path (f a) t₂ q := by
  induction p generalizing t with
  | done a =>
    constructor
    · intro h
      exact .inr ⟨[], a, t, rfl, .nil _, h⟩
    · rintro (⟨c, next, h, -⟩ | ⟨t₁, b, t₂, rfl, h₁, h₂⟩)
      · cases (path_done_iff.1 h).2
      · obtain ⟨rfl, hb⟩ := path_done_iff.1 h₁
        cases hb
        exact h₂
  | ask c next ih =>
    rw [ask_bind, path_ask_iff]
    constructor
    · rintro (⟨rfl, rfl⟩ | ⟨r, t', rfl, h⟩)
      · exact .inl ⟨c, next, .nil _, rfl⟩
      · rcases (ih r).1 h with ⟨c', next', h', hq⟩ | ⟨t₁, a, t₂, rfl, h₁, h₂⟩
        · exact .inl ⟨c', next', .cons h', hq⟩
        · exact .inr ⟨⟨c, r⟩ :: t₁, a, t₂, rfl, .cons h₁, h₂⟩
    · rintro (⟨c', next', h, rfl⟩ | ⟨t₁, a, t₂, rfl, h₁, h₂⟩)
      · rcases path_ask_iff.1 h with ⟨rfl, he⟩ | ⟨r, t', rfl, h'⟩
        · cases he
          exact .inl ⟨rfl, rfl⟩
        · exact .inr ⟨r, t', rfl, (ih r).2 (.inl ⟨c', next', h', rfl⟩)⟩
      · obtain ⟨r, t', rfl, h'⟩ := path_ask_done_iff.1 h₁
        exact .inr ⟨r, t' ++ t₂, rfl, (ih r).2 (.inr ⟨t', a, t₂, rfl, h', h₂⟩)⟩

theorem path_bind_done_iff {p : Prog C R α} {f : α → Prog C R β} {t : List (Answered R)} {b : β} :
    Path (p.bind f) t (.done b) ↔
      ∃ t₁ a t₂, t = t₁ ++ t₂ ∧ Path p t₁ (.done a) ∧ Path (f a) t₂ (.done b) := by
  rw [path_bind_iff]
  constructor
  · rintro (⟨c, next, -, h⟩ | h)
    · cases h
    · exact h
  · exact .inr

/-- A complete run of a program that passes the failures of `p` on ends with one of them, or it is a complete run of `p`
that succeeds and one of what comes after it. -/
theorem path_bind_except_iff {ε γ δ : Type} {p : Prog C R (Except ε γ)} {f : Except ε γ → Prog C R (Except ε δ)}
    {t : List (Answered R)} {r : Except ε δ} (passes : ∀ e, f (.error e) = .done (.error e)) :
    Path (p.bind f) t (.done r) ↔
      (∃ e, r = .error e ∧ Path p t (.done (.error e))) ∨
      ∃ t₁ a t₂, t = t₁ ++ t₂ ∧ Path p t₁ (.done (.ok a)) ∧ Path (f (.ok a)) t₂ (.done r) := by
  rw [path_bind_done_iff]
  constructor
  · rintro ⟨t₁, e | a, t₂, rfl, h₁, h₂⟩
    · rw [passes] at h₂
      obtain ⟨rfl, hr⟩ := path_done_iff.1 h₂
      cases hr
      exact .inl ⟨e, rfl, by simpa using h₁⟩
    · exact .inr ⟨t₁, a, t₂, rfl, h₁, h₂⟩
  · rintro (⟨e, rfl, h⟩ | ⟨t₁, a, t₂, rfl, h₁, h₂⟩)
    · exact ⟨t, .error e, [], by simp, h, by rw [passes]; exact .nil _⟩
    · exact ⟨t₁, .ok a, t₂, rfl, h₁, h₂⟩

/-! ### programs in place of calls -/

theorem expand_bind (h : (c : C) → Prog D S (R c)) (p : Prog C R α) (f : α → Prog C R β) :
    (p.bind f).expand h = (p.expand h).bind fun a => (f a).expand h := by
  induction p with
  | done a => rfl
  | ask c next ih => simp only [ask_bind, expand, ih, bind_assoc]

/-! ### programs that make no other calls -/

/-- No call of `p` is outside of `P`, whatever the answers are. -/
def Only (P : C → Prop) : Prog C R α → Prop
  | .done _ => True
  | .ask c next => P c ∧ ∀ r, Only P (next r)

theorem Only.bind {P : C → Prop} {p : Prog C R α} {f : α → Prog C R β} (hp : Only P p) (hf : ∀ a, Only P (f a)) :
    Only P (p.bind f) := by
  induction p with
  | done a => exact hf a
  | ask c next ih => exact ⟨hp.1, fun r => ih r (hp.2 r)⟩

theorem Only.mono {P Q : C → Prop} {p : Prog C R α} (hp : Only P p) (h : ∀ c, P c → Q c) : Only Q p := by
  induction p with
  | done a => exact trivial
  | ask c next ih => exact ⟨h c hp.1, fun r => ih r (hp.2 r)⟩

theorem Only.expand {P : D → Prop} {Q : C → Prop} {h : (c : C) → Prog D S (R c)} {p : Prog C R α} (hp : Only Q p)
    (hh : ∀ c, Q c → Only P (h c)) : Only P (p.expand h) := by
  induction p with
  | done a => exact trivial
  | ask c next ih => exact (hh c hp.1).bind fun r => ih r (hp.2 r)

theorem Only.path {P : C → Prop} {p q : Prog C R α} {t : List (Answered R)} (hp : Only P p) (path : Path p t q) :
    (∀ m ∈ t, P m.1) ∧ Only P q := by
  induction path with
  | nil p => exact ⟨by simp, hp⟩
  | cons h ih =>
    obtain ⟨ht, hq⟩ := ih (hp.2 _)
    exact ⟨by simpa using ⟨hp.1, ht⟩, hq⟩

end Prog

/-! ### worlds -/

/-- A world with the steps `W` goes from `w` to `w'` through what happens in the list. -/
inductive Course {σ μ : Type} (W : σ → μ → σ → Prop) : σ → List μ → σ → Prop
  | nil (w : σ) : Course W w [] w
  | cons {w w' w'' : σ} {m : μ} {t : List μ} (h : W w m w') (rest : Course W w' t w'') : Course W w (m :: t) w''

namespace Course

variable {σ μ : Type} {W : σ → μ → σ → Prop} {w w' : σ}

theorem nil_iff : Course W w [] w' ↔ w' = w := by
  constructor
  · rintro ⟨⟩
    rfl
  · rintro rfl
    exact .nil _

theorem cons_iff {m : μ} {t : List μ} : Course W w (m :: t) w' ↔ ∃ v, W w m v ∧ Course W v t w' := by
  constructor
  · rintro (_ | ⟨h, rest⟩)
    exact ⟨_, h, rest⟩
  · rintro ⟨v, h, rest⟩
    exact .cons h rest

theorem append_iff {t₁ t₂ : List μ} :
    Course W w (t₁ ++ t₂) w' ↔ ∃ v, Course W w t₁ v ∧ Course W v t₂ w' := by
  induction t₁ generalizing w with
  | nil => simp [nil_iff]
  | cons m t₁ ih =>
    simp only [List.cons_append, cons_iff, ih]
    constructor
    · rintro ⟨u, h, v, h₁, h₂⟩
      exact ⟨v, ⟨u, h, h₁⟩, h₂⟩
    · rintro ⟨v, ⟨u, h, h₁⟩, h₂⟩
      exact ⟨u, h, v, h₁, h₂⟩

theorem concat_iff {m : μ} {t : List μ} : Course W w (t ++ [m]) w' ↔ ∃ v, Course W w t v ∧ W v m w' := by
  rw [append_iff]
  constructor
  · rintro ⟨v, course, last⟩
    obtain ⟨u, h, nothing⟩ := cons_iff.1 last
    obtain rfl := nil_iff.1 nothing
    exact ⟨v, course, h⟩
  · rintro ⟨v, course, h⟩
    exact ⟨v, course, .cons h (.nil _)⟩

/-- What every step keeps, for what happens in the list, is kept. -/
theorem keeps {I : σ → Prop} {t : List μ} (course : Course W w t w') (start : I w)
    (step : ∀ m ∈ t, ∀ u v, W u m v → I u → I v) : I w' := by
  induction course with
  | nil w => exact start
  | cons h rest ih =>
    exact ih (step _ (by simp) _ _ h start) fun m hm => step m (by simp [hm])

end Course

namespace Prog

variable {C : Type} {R : C → Type} {α σ : Type} {W : σ → Answered R → σ → Prop} {w w' : σ} {t : List (Answered R)}
  {a : α}

theorem course_of_done {r : α} (path : Path (.done r : Prog C R α) t (.done a)) (course : Course W w t w') :
    t = [] ∧ a = r ∧ w' = w := by
  obtain ⟨rfl, h⟩ := path_done_iff.1 path
  exact ⟨rfl, done.inj h, Course.nil_iff.1 course⟩

/-- The first call of a complete run, what it does to the world, and what is left of the run. -/
theorem course_of_ask {c : C} {next : R c → Prog C R α} (path : Path (.ask c next) t (.done a))
    (course : Course W w t w') :
    ∃ r t' v, t = ⟨c, r⟩ :: t' ∧ W w ⟨c, r⟩ v ∧ Path (next r) t' (.done a) ∧ Course W v t' w' := by
  obtain ⟨r, t', rfl, onwards⟩ := path_ask_done_iff.1 path
  obtain ⟨v, step, rest⟩ := Course.cons_iff.1 course
  exact ⟨r, t', v, rfl, step, onwards, rest⟩

end Prog

end ModelServing
