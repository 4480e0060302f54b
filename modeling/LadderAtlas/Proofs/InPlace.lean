import LadderAtlas.Failure

/-!
# Work on a thing that others hold

A computation of this kind works on the thing itself: where it fails, what it has changed by then stays changed. Its
`outcome` is the answer together with what has become of the thing, after a failure as well.
-/

namespace LadderAtlas

abbrev InPlace (σ α : Type) := ExceptT Failure (StateM σ) α

namespace InPlace
variable {σ α β : Type}

def outcome (x : InPlace σ α) (s : σ) : Except Failure α × σ := (x.run.run s).run

/-- An answer that is found without work on the thing. -/
def found (x : Except Failure α) : InPlace σ α := ExceptT.mk (pure x)

@[simp] theorem outcome_pure (a : α) (s : σ) : outcome (pure a) s = (.ok a, s) := rfl

@[simp] theorem outcome_found (x : Except Failure α) (s : σ) : outcome (found x) s = (x, s) := rfl

@[simp] theorem outcome_throw (f : Failure) (s : σ) : outcome (throw f : InPlace σ α) s = (.error f, s) := rfl

@[simp] theorem outcome_get (s : σ) : outcome (get : InPlace σ σ) s = (.ok s, s) := rfl

theorem outcome_bind (x : InPlace σ α) (f : α → InPlace σ β) (s : σ) :
    outcome (x >>= f) s = ((ExceptT.bindCont f (outcome x s).1).run (outcome x s).2).run := rfl

theorem outcome_bind_of_ok {x : InPlace σ α} {a : α} {s s' : σ} (h : outcome x s = (.ok a, s'))
    (f : α → InPlace σ β) : outcome (x >>= f) s = outcome (f a) s' := by
  rw [outcome_bind, h]
  rfl

theorem outcome_bind_of_error {x : InPlace σ α} {e : Failure} {s s' : σ} (h : outcome x s = (.error e, s'))
    (f : α → InPlace σ β) : outcome (x >>= f) s = (.error e, s') := by
  rw [outcome_bind, h]
  rfl

@[simp] theorem outcome_get_bind (f : σ → InPlace σ β) (s : σ) : outcome (get >>= f) s = outcome (f s) s :=
  outcome_bind_of_ok (outcome_get s) f

end InPlace

end LadderAtlas
