import Mathlib.Data.List.Induction

/-! Runs of acts that may be impossible. A run is a fold over `Option`: acts lead from one state to
another if each of them is possible in the state to which those before it have led. -/

namespace DeviceFleet.Runs

variable {σ τ α β : Type} {act : σ → α → Option σ} {acts : List α} {s s' : σ}

theorem foldlM_concat (past : List α) (a : α) (s : σ) :
    (past ++ [a]).foldlM act s = (past.foldlM act s).bind fun t => act t a := by
  simp [List.foldlM_append]

/-- What holds at the start, and after an act whenever it holds before it, holds at the end. It may speak
of the acts so far. -/
theorem holds {P : List α → σ → Prop} (done : acts.foldlM act s = some s') (first : P [] s)
    (next : ∀ past a t t', past ++ [a] <+: acts → past.foldlM act s = some t → act t a = some t' →
      P past t → P (past ++ [a]) t') : P acts s' := by
  induction acts using List.reverseRecOn generalizing s' with
  | nil =>
    cases done
    exact first
  | append_singleton past a ih =>
    rw [foldlM_concat] at done
    obtain ⟨t, reached, made⟩ := Option.bind_eq_some_iff.1 done
    refine next past a t s' (List.prefix_refl _) reached made (ih reached ?_)
    exact fun past' b t t' front => next past' b t t' (front.trans (List.prefix_append past [a]))

/-- What every act of a run keeps, the run keeps. -/
theorem keeps {P : σ → Prop} (done : acts.foldlM act s = some s') (first : P s)
    (next : ∀ a ∈ acts, ∀ t t', act t a = some t' → P t → P t') : P s' :=
  holds (P := fun _ => P) done first fun past a t t' front _ made =>
    next a (front.subset (List.mem_append_right past List.mem_cons_self)) t t' made

/-- If each act, seen through `f`, is that of `act'`, so is each run. -/
theorem simulates {act' : τ → β → Option τ} {f : σ → τ} {g : α → β}
    (same : ∀ t a, act' (f t) (g a) = (act t a).map f) (acts : List α) (s : σ) :
    (acts.map g).foldlM act' (f s) = (acts.foldlM act s).map f := by
  induction acts using List.reverseRecOn with
  | nil => rfl
  | append_singleton past a ih =>
    rw [List.map_append, List.map_singleton, foldlM_concat, foldlM_concat, ih, Option.bind_map,
      Option.map_bind]
    exact congrArg _ (funext fun t => same t a)

end DeviceFleet.Runs
