import FlutterTheme.Actions

/-!
# Calls over a part of the world

A world `τ` that has a world `σ` as a part: calls written over `σ` are calls over `τ`, which
leave the rest as it is.
-/

namespace EventLoop

variable {σ τ ℓ ℓ' : Type}

/-- A part of a world. -/
structure Part (τ σ : Type) where
  get : τ → σ
  put : σ → τ → τ

/-- The call over the part as a call over the whole world, which works on `l`. -/
def Task.embed (V : Part τ σ) (l : ℓ') : Task σ ℓ → Task τ ℓ'
  | .done => .done
  | .throw => .throw
  | .act f k => .act (fun t w => V.put (f t (V.get w)) w) fun t w => (k t (V.get w)).embed V l
  | .fork p k => .fork (p.embed V l) (k.embed V l)
  | .enter _ k => .enter l (k.embed V l)
  | .await k => .await (k.embed V l)

/-- A handler over the part as a handler over the whole world. -/
def Async.embed (V : Part τ σ) (l : ℓ') (m : Async σ ℓ Unit) : Async τ ℓ' Unit :=
  fun k => .fork (m.task.embed V l) (k ())

/-- Deeds on the part are deeds on the world. -/
theorem Task.All.embed {V : Part τ σ} {l : ℓ'} {D : Deeds σ} {D' : Deeds τ}
    (hD : ∀ t w s, D.rel t (V.get w) s → D'.rel t w (V.put s w)) {t : Task σ ℓ}
    (h : t.All D) : (t.embed V l).All D' := by
  induction t with
  | done => trivial
  | throw => trivial
  | act f k ih => exact fun t w => ⟨hD t w _ (h t (V.get w)).1, ih t _ (h t (V.get w)).2⟩
  | fork p k ihp ihk => exact ⟨ihp h.1, ihk h.2⟩
  | enter _ k ih => exact ih h
  | await k ih => exact ih h

theorem Async.All.embed {V : Part τ σ} {l : ℓ'} {D : Deeds σ} {D' : Deeds τ}
    (hD : ∀ t w s, D.rel t (V.get w) s → D'.rel t w (V.put s w)) {m : Async σ ℓ Unit}
    (h : m.All D) : (m.embed V l).All D' :=
  fun _ hk => ⟨h.task.embed hD, hk ()⟩

end EventLoop
