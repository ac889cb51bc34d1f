import Mathlib.Data.List.Basic

/-!
# Runs of a machine that takes events

A machine is a partial step function: `step s e` is the state after the event
`e`, or nothing when `s` cannot take `e`.  A run is a list of events, each
taken by the state before it and each allowed there by a side condition `ok`.

`Run.invariant` is the induction over a run, done once: what holds at the
start and is kept by every allowed step holds at the end.  `exec` executes a
list of events, so a run on fixed inputs is a computation.
-/

namespace Shopping

section

variable {σ ε : Type}

/-- The events `es` take `s` to the last argument, and `ok` allows each of
them in the state that takes it. -/
inductive Run (step : σ → ε → Option σ) (ok : σ → ε → Prop) (s : σ) : List ε → σ → Prop
  | nil : Run step ok s [] s
  | snoc {es : List ε} {t : σ} {e : ε} {u : σ} :
      Run step ok s es t → ok t e → step t e = some u → Run step ok s (es ++ [e]) u

/-- What the start satisfies and every allowed step keeps holds after a run. -/
theorem Run.invariant {step : σ → ε → Option σ} {ok : σ → ε → Prop} {s t : σ} {es : List ε}
    (I : σ → Prop) (h0 : I s) (hstep : ∀ t e u, I t → ok t e → step t e = some u → I u)
    (h : Run step ok s es t) : I t := by
  induction h with
  | nil => exact h0
  | snoc _ hok hs ih => exact hstep _ _ _ ih hok hs

/-- A run under a condition is one under each weaker condition. -/
theorem Run.mono {step : σ → ε → Option σ} {ok ok' : σ → ε → Prop} {s t : σ} {es : List ε}
    (h : Run step ok s es t) (hok : ∀ s e, ok s e → ok' s e) : Run step ok' s es t := by
  induction h with
  | nil => exact Run.nil
  | snoc _ hold hs ih => exact ih.snoc (hok _ _ hold) hs

/-- A run under a condition is one under each condition that follows from it
and its invariant. -/
theorem Run.mono_of_invariant {step : σ → ε → Option σ} {ok ok' : σ → ε → Prop} {s t : σ}
    {es : List ε} (I : σ → Prop) (h0 : I s)
    (hstep : ∀ t e u, I t → ok t e → step t e = some u → I u)
    (himp : ∀ t e, I t → ok t e → ok' t e) (h : Run step ok s es t) : Run step ok' s es t := by
  induction h with
  | nil => exact Run.nil
  | snoc hrun hok hs ih =>
    have hI : I _ := hrun.invariant I h0 hstep
    exact ih.snoc (himp _ _ hI hok) hs

/-- Two conditions that agree wherever the invariant of the first one holds
allow the same runs. -/
theorem Run.iff_of_invariant {step : σ → ε → Option σ} {ok ok' : σ → ε → Prop} {s t : σ}
    {es : List ε} (I : σ → Prop) (h0 : I s)
    (hstep : ∀ t e u, I t → ok t e → step t e = some u → I u)
    (hiff : ∀ t e, I t → (ok t e ↔ ok' t e)) : Run step ok s es t ↔ Run step ok' s es t := by
  constructor
  · exact Run.mono_of_invariant I h0 hstep fun t e hI hok => (hiff t e hI).mp hok
  · refine Run.mono_of_invariant I h0 (fun t e u hI hok hs => ?_) fun t e hI hok => ?_
    · exact hstep t e u hI ((hiff t e hI).mpr hok) hs
    · exact (hiff t e hI).mpr hok

/-- Execute a list of events. -/
def exec (step : σ → ε → Option σ) (s : σ) : List ε → Option σ
  | [] => some s
  | e :: es => (step s e).bind fun t => exec step t es

/-- Two runs, one after the other. -/
theorem Run.append {step : σ → ε → Option σ} {ok : σ → ε → Prop} {s t u : σ} {es fs : List ε}
    (h₁ : Run step ok s es t) (h₂ : Run step ok t fs u) : Run step ok s (es ++ fs) u := by
  induction h₂ with
  | nil => rwa [List.append_nil]
  | snoc _ hok hs ih =>
    rw [← List.append_assoc]
    exact ih.snoc hok hs

/-- An execution in which every event is allowed where it is taken is a run. -/
theorem Run.of_exec {step : σ → ε → Option σ} {ok : σ → ε → Prop} {s t : σ} {es : List ε}
    (hok : ∀ s e, ok s e) (h : exec step s es = some t) : Run step ok s es t := by
  induction es generalizing s with
  | nil =>
    cases h
    exact Run.nil
  | cons e es ih =>
    rw [exec, Option.bind_eq_some_iff] at h
    obtain ⟨u, hu, h⟩ := h
    have hone : Run step ok s [e] u := Run.nil.snoc (hok s e) hu
    exact hone.append (ih h)

/-- An execution of events that are allowed everywhere is a run. -/
theorem Run.of_exec_mem {step : σ → ε → Option σ} {ok : σ → ε → Prop} {s t : σ} {es : List ε}
    (hok : ∀ e ∈ es, ∀ s, ok s e) (h : exec step s es = some t) : Run step ok s es t := by
  induction es generalizing s with
  | nil =>
    cases h
    exact Run.nil
  | cons e es ih =>
    rw [exec, Option.bind_eq_some_iff] at h
    obtain ⟨u, hu, h⟩ := h
    have hone : Run step ok s [e] u := Run.nil.snoc (hok e List.mem_cons_self s) hu
    exact hone.append (ih (fun e' he => hok e' (List.mem_cons_of_mem e he)) h)

/-- Execute a list of events, as long as `ok` allows the next one. -/
def execIf (step : σ → ε → Option σ) (ok : σ → ε → Bool) (s : σ) : List ε → Option σ
  | [] => some s
  | e :: es => if ok s e then (step s e).bind fun t => execIf step ok t es else none

theorem Run.of_execIf {step : σ → ε → Option σ} {ok : σ → ε → Bool} {s t : σ} {es : List ε}
    (h : execIf step ok s es = some t) : Run step (fun s e => ok s e = true) s es t := by
  induction es generalizing s with
  | nil =>
    cases h
    exact Run.nil
  | cons e es ih =>
    rw [execIf] at h
    by_cases hok : ok s e = true
    · rw [if_pos hok, Option.bind_eq_some_iff] at h
      obtain ⟨u, hu, h⟩ := h
      have hone : Run step (fun s e => ok s e = true) s [e] u := Run.nil.snoc hok hu
      exact hone.append (ih h)
    · rw [if_neg hok] at h
      cases h

/-- A run that a computation finds, with a property of its end. -/
theorem Run.exists_of_execIf {step : σ → ε → Option σ} {ok : σ → ε → Bool} {s : σ}
    {es : List ε} {P : σ → Bool} (h : (execIf step ok s es).any P = true) :
    ∃ t, Run step (fun s e => ok s e = true) s es t ∧ P t = true := by
  obtain ⟨t, ht, hP⟩ := (Option.any_eq_true _ _).mp h
  exact ⟨t, Run.of_execIf ht, hP⟩

/-! ## What the steps of a run do -/

variable {β : Type}

/-- What `f` makes of each step of an execution, in order. -/
def gather (step : σ → ε → Option σ) (f : σ → σ → List β) (s : σ) : List ε → List β
  | [] => []
  | e :: es =>
    match step s e with
    | none => []
    | some t => f s t ++ gather step f t es

theorem gather_append {step : σ → ε → Option σ} (f : σ → σ → List β) {s t : σ} {es : List ε}
    (h : exec step s es = some t) (fs : List ε) :
    gather step f s (es ++ fs) = gather step f s es ++ gather step f t fs := by
  induction es generalizing s with
  | nil =>
    cases h
    rfl
  | cons e es ih =>
    rw [exec, Option.bind_eq_some_iff] at h
    obtain ⟨u, hu, h⟩ := h
    simp only [List.cons_append, gather, hu, ih h, List.append_assoc]

theorem exec_append {step : σ → ε → Option σ} (s : σ) (es fs : List ε) :
    exec step s (es ++ fs) = (exec step s es).bind fun t => exec step t fs := by
  induction es generalizing s with
  | nil => rfl
  | cons e es ih => simp only [List.cons_append, exec, ih, Option.bind_assoc]

theorem Run.exec {step : σ → ε → Option σ} {ok : σ → ε → Prop} {s t : σ} {es : List ε}
    (h : Run step ok s es t) : exec step s es = some t := by
  induction h with
  | nil => rfl
  | snoc _ _ hs ih => simp [exec_append, ih, Shopping.exec, hs]

/-- The events of a run determine its end. -/
theorem Run.unique {step : σ → ε → Option σ} {ok ok' : σ → ε → Prop} {s t t' : σ} {es : List ε}
    (h : Run step ok s es t) (h' : Run step ok' s es t') : t = t' :=
  Option.some.inj (h.exec.symm.trans h'.exec)

/-- The last step of a run. -/
theorem Run.last {step : σ → ε → Option σ} {ok : σ → ε → Prop} {s u : σ} {es : List ε} {e : ε}
    (h : Run step ok s (es ++ [e]) u) :
    ∃ t, Run step ok s es t ∧ ok t e ∧ step t e = some u := by
  generalize hall : es ++ [e] = all at h
  cases h with
  | nil => simp at hall
  | snoc hrun hok hs =>
    obtain ⟨rfl, he⟩ := List.append_inj' hall rfl
    cases he
    exact ⟨_, hrun, hok, hs⟩

/-- When the allowed steps keep `Good`, and a step that is not allowed makes it
`Bad` for ever, a run is good exactly when all its steps are allowed. -/
theorem Run.good_or_bad {step : σ → ε → Option σ} {ok : σ → ε → Prop} {s t : σ} {es : List ε}
    (Good Bad : σ → Prop) (h0 : Good s)
    (hkeep : ∀ t e u, Good t → ok t e → step t e = some u → Good u)
    (hbreak : ∀ t e u, Good t → ¬ ok t e → step t e = some u → Bad u)
    (hbad : ∀ t e u, Bad t → step t e = some u → Bad u)
    (h : Run step (fun _ _ => True) s es t) :
    Run step ok s es t ∧ Good t ∨ ¬ Run step ok s es t ∧ Bad t := by
  induction h with
  | nil => exact Or.inl ⟨Run.nil, h0⟩
  | snoc hrun hany hs ih =>
    rename_i es t e u
    rcases ih with ⟨hallowed, hgood⟩ | ⟨hnot, hb⟩
    · by_cases hok : ok t e
      · exact Or.inl ⟨hallowed.snoc hok hs, hkeep t e u hgood hok hs⟩
      · refine Or.inr ⟨fun hall => ?_, hbreak t e u hgood hok hs⟩
        obtain ⟨t', hrun', hok', _⟩ := hall.last
        rw [hrun'.unique hrun] at hok'
        exact hok hok'
    · refine Or.inr ⟨fun hall => ?_, hbad t e u hb hs⟩
      obtain ⟨t', hrun', _, _⟩ := hall.last
      rw [hrun'.unique hrun] at hrun'
      exact hnot hrun'

/-- What a step does only where `J` fails, and makes `J` hold with it, happens
at most once in a run when every step keeps `J`. -/
theorem Run.gather_nodup {step : σ → ε → Option σ} {ok : σ → ε → Prop} {s t : σ} {es : List ε}
    {f : σ → σ → List β} (I : σ → Prop) (J : σ → β → Prop) (h0 : I s)
    (hstep : ∀ t e u, I t → ok t e → step t e = some u → I u ∧ (f t u).Nodup ∧
      (∀ b ∈ f t u, ¬ J t b ∧ J u b) ∧ ∀ b, J t b → J u b)
    (h : Run step ok s es t) : (gather step f s es).Nodup := by
  have hall : I t ∧ (gather step f s es).Nodup ∧ ∀ b ∈ gather step f s es, J t b := by
    induction h with
    | nil => exact ⟨h0, List.nodup_nil, nofun⟩
    | snoc hrun hok hs ih =>
      rename_i es t e u
      obtain ⟨hI, hnodup, hJ⟩ := ih
      obtain ⟨hI', hone, hnew, hkeeps⟩ := hstep t e u hI hok hs
      have hsnoc : gather step f s (es ++ [e]) = gather step f s es ++ f t u := by
        rw [gather_append f hrun.exec]
        simp [gather, hs]
      rw [hsnoc]
      refine ⟨hI', List.nodup_append.mpr ⟨hnodup, hone, ?_⟩, fun b hb => ?_⟩
      · rintro b hb c hc rfl
        exact (hnew b hc).1 (hJ b hb)
      · rcases List.mem_append.mp hb with hb | hb
        · exact hkeeps b (hJ b hb)
        · exact (hnew b hb).2
  exact hall.2.1

/-- What every step makes has the property, so has what the run made. -/
theorem Run.gather_all {step : σ → ε → Option σ} {ok : σ → ε → Prop} {s t : σ} {es : List ε}
    {f : σ → σ → List β} {P : β → Prop} (h : Run step ok s es t)
    (hstep : ∀ t e u, ok t e → step t e = some u → ∀ b ∈ f t u, P b) :
    ∀ b ∈ gather step f s es, P b := by
  induction h with
  | nil => exact fun b hb => absurd hb List.not_mem_nil
  | snoc hrun hok hs ih =>
    intro b hb
    rw [gather_append f hrun.exec, List.mem_append] at hb
    rcases hb with hb | hb
    · exact ih b hb
    · simp only [gather, hs, List.append_nil] at hb
      exact hstep _ _ _ hok hs b hb

/-! ## Events that leave no trace -/

/-- A run and the execution of its `own` events alone stay related, when the
other events move only the run, and within the relation. -/
theorem Run.erase {step : σ → ε → Option σ} {ok : σ → ε → Prop} {s t s' : σ} {es : List ε}
    (own : ε → Bool) (R : σ → σ → Prop) (h0 : R s s')
    (hother : ∀ t e u t', R t t' → ok t e → step t e = some u → own e = false → R u t')
    (hown : ∀ t e u t', R t t' → ok t e → step t e = some u → own e = true →
      ∃ u', step t' e = some u' ∧ R u u')
    (h : Run step ok s es t) :
    ∃ t', Shopping.exec step s' (es.filter own) = some t' ∧ R t t' := by
  induction h with
  | nil => exact ⟨s', rfl, h0⟩
  | snoc hrun hok hs ih =>
    rename_i es t e u
    obtain ⟨t', ht', hR⟩ := ih
    rw [List.filter_append, exec_append, ht']
    by_cases hev : own e = true
    · obtain ⟨u', hu', hR'⟩ := hown t e u t' hR hok hs hev
      refine ⟨u', ?_, hR'⟩
      simp [hev, Shopping.exec, hu']
    · rw [Bool.not_eq_true] at hev
      refine ⟨t', ?_, hother t e u t' hR hok hs hev⟩
      simp [hev, Shopping.exec]

end

end Shopping
