import Shopping.Lib.Run

/-!
# A cache beside its source

A request asks the cache.  When there is nothing it reads the source, stores
what it made of it for `ttl`, and answers; it fails when nothing can be made of
the source.  Changes of the source and the signals that drop the copy come at
any time, in any order, and not together, so a request can store what it read
before a change and after its signal.

What is served was right at some moment of the run (`served`), and at most
`ttl` and the time that a request takes between its read and its store ago.
After the last change, and as long after it, all answers are right, whatever
became of the signals (`settled`).
-/

namespace Shopping

/-- The run was in a state with `P`. -/
def Passed {σ ε : Type} (step : σ → ε → Option σ) (ok : σ → ε → Prop) (s : σ) (es : List ε)
    (P : σ → Prop) : Prop :=
  ∃ es₁ es₂ u, es = es₁ ++ es₂ ∧ Run step ok s es₁ u ∧ P u

theorem Passed.snoc {σ ε : Type} {step : σ → ε → Option σ} {ok : σ → ε → Prop} {s : σ}
    {es : List ε} {P : σ → Prop} (h : Passed step ok s es P) (e : ε) :
    Passed step ok s (es ++ [e]) P := by
  obtain ⟨es₁, es₂, u, rfl, hrun, hP⟩ := h
  exact ⟨es₁, es₂ ++ [e], u, List.append_assoc _ _ _, hrun, hP⟩

theorem Passed.last {σ ε : Type} {step : σ → ε → Option σ} {ok : σ → ε → Prop} {s t : σ}
    {es : List ε} {P : σ → Prop} (h : Run step ok s es t) (hP : P t) : Passed step ok s es P :=
  ⟨es, [], t, (List.append_nil es).symm, h, hP⟩

/-- A copy, and when the source was read for it. -/
structure Copy (β : Type) where
  value : β
  readAt : Nat
  deriving DecidableEq, Repr

/-- The clock, the source, the copy in the cache with the time it runs out, the
requests that found none, with what they read, and what was answered when. -/
structure CacheAside (σ β : Type) where
  now : Nat := 0
  source : σ
  entry : Option (Copy β × Nat) := none
  misses : List (Option (Copy β)) := []
  answers : List (Copy β × Nat) := []

inductive CacheEvent (σ : Type) where
  | tick (d : Nat)
  | ask
  /-- The n-th request that found nothing reads the source. -/
  | read (n : Nat)
  | store (n : Nat)
  /-- The signal of a change drops the copy. -/
  | signal
  /-- A change is committed. -/
  | commit (source : σ)

namespace CacheAside

section

variable {σ β : Type} (view : σ → Option β) (ttl : Nat)

/-- The copy that the cache still has. -/
def live (w : CacheAside σ β) : Option (Copy β) :=
  (w.entry.filter fun e => decide (w.now < e.2)).map Prod.fst

def step (w : CacheAside σ β) : CacheEvent σ → Option (CacheAside σ β)
  | .tick d => some { w with now := w.now + d }
  | .ask =>
    match w.live with
    | some copy => some { w with answers := w.answers ++ [(copy, w.now)] }
    | none => some { w with misses := w.misses ++ [none] }
  | .read n =>
    match w.misses[n]? with
    | some none =>
      match view w.source with
      | some value => some { w with misses := w.misses.set n (some ⟨value, w.now⟩) }
      | none => some { w with misses := w.misses.eraseIdx n }
    | _ => none
  | .store n =>
    match w.misses[n]? with
    | some (some copy) =>
      some { w with
        entry := some (copy, w.now + ttl)
        misses := w.misses.eraseIdx n
        answers := w.answers ++ [(copy, w.now)] }
    | _ => none
  | .signal => some { w with entry := none }
  | .commit source => some { w with source := source }

/-- A request stores soon after its read. -/
def StoresWithin (delay : Nat) (w : CacheAside σ β) : CacheEvent σ → Prop
  | .store n => ∀ copy, w.misses[n]? = some (some copy) → w.now ≤ copy.readAt + delay
  | .tick _ | .ask | .read _ | .signal | .commit _ => True

instance (delay : Nat) (w : CacheAside σ β) (e : CacheEvent σ) :
    Decidable (StoresWithin delay w e) :=
  match e with
  | .store n =>
    match h : w.misses[n]? with
    | some (some copy) =>
      decidable_of_iff (w.now ≤ copy.readAt + delay)
        ⟨fun hle c hc => by cases h.symm.trans hc; exact hle, fun hall => hall copy h⟩
    | some none => isTrue fun c hc => by cases h.symm.trans hc
    | none => isTrue fun c hc => by cases h.symm.trans hc
  | .tick _ | .ask | .read _ | .signal | .commit _ => isTrue trivial

/-- The source was like the copy when it was read. -/
def Showed (copy : Copy β) (w : CacheAside σ β) : Prop :=
  w.now = copy.readAt ∧ view w.source = some copy.value

end

section

variable {σ β : Type} {view : σ → Option β} {ttl delay : Nat} {w₀ w w' : CacheAside σ β}
  {es : List (CacheEvent σ)} {e : CacheEvent σ}

theorem live_eq_some {copy : Copy β} (h : w.live = some copy) :
    ∃ expires, w.entry = some (copy, expires) ∧ w.now < expires := by
  obtain ⟨⟨c, expires⟩, hfilter, rfl⟩ := Option.map_eq_some_iff.mp h
  obtain ⟨hentry, hlive⟩ := Option.filter_eq_some_iff.mp hfilter
  exact ⟨expires, hentry, of_decide_eq_true hlive⟩

/-- The copies of a run, and how old they can be. -/
structure Bounded (view : σ → Option β) (ttl delay : Nat) (w₀ : CacheAside σ β)
    (es : List (CacheEvent σ)) (w : CacheAside σ β) : Prop where
  entry : ∀ copy expires, w.entry = some (copy, expires) → expires ≤ copy.readAt + delay + ttl ∧
    copy.readAt ≤ w.now ∧
    Passed (step view ttl) (StoresWithin delay) w₀ es (Showed view copy)
  misses : ∀ copy, some copy ∈ w.misses → copy.readAt ≤ w.now ∧
    Passed (step view ttl) (StoresWithin delay) w₀ es (Showed view copy)
  answers : ∀ a ∈ w.answers, a.1.readAt ≤ a.2 ∧ a.2 ≤ a.1.readAt + delay + ttl ∧ a.2 ≤ w.now ∧
    Passed (step view ttl) (StoresWithin delay) w₀ es (Showed view a.1)

theorem Bounded.start (source : σ) :
    Bounded view ttl delay { source := source } [] { source := source } := by
  refine ⟨?_, ?_, ?_⟩
  · intro copy expires h
    cases h
  · intro copy h
    cases h
  · intro a h
    cases h

/-- The run goes on; what there was stays. -/
theorem Bounded.snoc (h : Bounded view ttl delay w₀ es w) (e : CacheEvent σ) :
    Bounded view ttl delay w₀ (es ++ [e]) w where
  entry copy expires hentry :=
    have hold := h.entry copy expires hentry
    ⟨hold.1, hold.2.1, hold.2.2.snoc e⟩
  misses copy hcopy :=
    have hold := h.misses copy hcopy
    ⟨hold.1, hold.2.snoc e⟩
  answers a ha :=
    have hold := h.answers a ha
    ⟨hold.1, hold.2.1, hold.2.2.1, hold.2.2.2.snoc e⟩

theorem Bounded.step (h : Bounded view ttl delay w₀ es w)
    (hrun : Run (CacheAside.step view ttl) (StoresWithin delay) w₀ es w)
    (hok : StoresWithin delay w e) (hstep : CacheAside.step view ttl w e = some w') :
    Bounded view ttl delay w₀ (es ++ [e]) w' := by
  have hon := h.snoc e
  cases e with
  | tick d =>
    cases hstep
    refine ⟨fun copy expires hentry => ?_, fun copy hcopy => ?_, fun a ha => ?_⟩
    · obtain ⟨hexpires, hread, hpassed⟩ := hon.entry copy expires hentry
      exact ⟨hexpires, Nat.le_add_right_of_le hread, hpassed⟩
    · obtain ⟨hread, hpassed⟩ := hon.misses copy hcopy
      exact ⟨Nat.le_add_right_of_le hread, hpassed⟩
    · obtain ⟨hread, hage, htime, hpassed⟩ := hon.answers a ha
      exact ⟨hread, hage, Nat.le_add_right_of_le htime, hpassed⟩
  | ask =>
    rw [CacheAside.step] at hstep
    cases hlive : w.live with
    | none =>
      rw [hlive] at hstep
      cases hstep
      refine ⟨hon.entry, fun copy hcopy => ?_, hon.answers⟩
      rcases List.mem_append.mp hcopy with hcopy | hcopy
      · exact hon.misses copy hcopy
      · cases List.mem_singleton.mp hcopy
    | some copy =>
      rw [hlive] at hstep
      cases hstep
      obtain ⟨expires, hentry, hlt⟩ := live_eq_some hlive
      obtain ⟨hexpires, hread, hpassed⟩ := hon.entry copy expires hentry
      refine ⟨hon.entry, hon.misses, fun a ha => ?_⟩
      rcases List.mem_append.mp ha with ha | ha
      · exact hon.answers a ha
      · rw [List.mem_singleton.mp ha]
        exact ⟨hread, Nat.le_trans (Nat.le_of_lt hlt) hexpires, Nat.le_refl _, hpassed⟩
  | read n =>
    rw [CacheAside.step] at hstep
    split at hstep
    · split at hstep
      · rename_i value hview
        cases hstep
        refine ⟨hon.entry, fun copy hcopy => ?_, hon.answers⟩
        rcases List.mem_or_eq_of_mem_set hcopy with hcopy | heq
        · exact hon.misses copy hcopy
        · cases heq
          have hpassed : Passed (CacheAside.step view ttl) (StoresWithin delay) w₀ es
              (Showed view ⟨value, w.now⟩) := .last hrun ⟨rfl, hview⟩
          exact ⟨Nat.le_refl _, hpassed.snoc (.read n)⟩
      · cases hstep
        exact ⟨hon.entry, fun copy hcopy => hon.misses copy (List.mem_of_mem_eraseIdx hcopy),
          hon.answers⟩
    · cases hstep
  | store n =>
    rw [CacheAside.step] at hstep
    split at hstep
    · rename_i copy hn
      cases hstep
      have hsoon := hok copy hn
      obtain ⟨hread, hpassed⟩ := hon.misses copy (List.mem_of_getElem? hn)
      refine ⟨fun c expires hentry => ?_, fun c hc => ?_, fun a ha => ?_⟩
      · cases hentry
        exact ⟨by omega, hread, hpassed⟩
      · exact hon.misses c (List.mem_of_mem_eraseIdx hc)
      · rcases List.mem_append.mp ha with ha | ha
        · exact hon.answers a ha
        · rw [List.mem_singleton.mp ha]
          exact ⟨hread, Nat.le_trans hsoon (Nat.le_add_right _ _), Nat.le_refl _, hpassed⟩
    · cases hstep
  | signal =>
    cases hstep
    refine ⟨fun copy expires hentry => ?_, hon.misses, hon.answers⟩
    cases hentry
  | commit source =>
    cases hstep
    exact ⟨hon.entry, hon.misses, hon.answers⟩

/-- What is served is what the source was at a moment of the run, and no older
than the life of a copy and the time that its request took. -/
theorem served {source : σ}
    (h : Run (CacheAside.step view ttl) (StoresWithin delay) { source := source } es w) :
    Bounded view ttl delay { source := source } es w := by
  induction h with
  | nil => exact .start source
  | snoc hrun hok hstep ih => exact ih.step hrun hok hstep

/-! ## After the last change -/

/-- Nothing is committed. -/
def NoCommit : CacheEvent σ → Prop
  | .commit _ => False
  | .tick _ | .ask | .read _ | .store _ | .signal => True

instance : DecidablePred (NoCommit (σ := σ)) := fun e =>
  match e with
  | .commit _ => isFalse id
  | .tick _ | .ask | .read _ | .store _ | .signal => isTrue trivial

/-- What is right, and what was read before `w₀` and how long it can stay. -/
structure Settling (view : σ → Option β) (ttl delay : Nat) (w₀ w : CacheAside σ β) : Prop where
  source : w.source = w₀.source
  now : w₀.now ≤ w.now
  entry : ∀ copy expires, w.entry = some (copy, expires) →
    view w₀.source = some copy.value ∨ expires ≤ w₀.now + delay + ttl
  misses : ∀ copy, some copy ∈ w.misses →
    view w₀.source = some copy.value ∨ copy.readAt ≤ w₀.now
  answers : ∀ a ∈ w.answers, view w₀.source = some a.1.value ∨ a.2 ≤ w₀.now + delay + ttl

theorem Bounded.settling (h : Bounded view ttl delay w₀ es w) : Settling view ttl delay w w where
  source := rfl
  now := Nat.le_refl _
  entry copy expires hentry := by
    obtain ⟨hexpires, hread, _⟩ := h.entry copy expires hentry
    exact Or.inr (by omega)
  misses copy hcopy := Or.inr (h.misses copy hcopy).1
  answers a ha := by
    obtain ⟨_, _, htime, _⟩ := h.answers a ha
    exact Or.inr (by omega)

theorem Settling.step (h : Settling view ttl delay w₀ w) (hok : StoresWithin delay w e)
    (hquiet : NoCommit e) (hstep : CacheAside.step view ttl w e = some w') :
    Settling view ttl delay w₀ w' := by
  cases e with
  | tick d =>
    cases hstep
    exact ⟨h.source, Nat.le_add_right_of_le h.now, h.entry, h.misses, h.answers⟩
  | ask =>
    rw [CacheAside.step] at hstep
    cases hlive : w.live with
    | none =>
      rw [hlive] at hstep
      cases hstep
      refine ⟨h.source, h.now, h.entry, fun copy hcopy => ?_, h.answers⟩
      rcases List.mem_append.mp hcopy with hcopy | hcopy
      · exact h.misses copy hcopy
      · cases List.mem_singleton.mp hcopy
    | some copy =>
      rw [hlive] at hstep
      cases hstep
      obtain ⟨expires, hentry, hlt⟩ := live_eq_some hlive
      refine ⟨h.source, h.now, h.entry, h.misses, fun a ha => ?_⟩
      rcases List.mem_append.mp ha with ha | ha
      · exact h.answers a ha
      · rw [List.mem_singleton.mp ha]
        exact (h.entry copy expires hentry).imp_right (Nat.le_trans (Nat.le_of_lt hlt))
  | read n =>
    rw [CacheAside.step] at hstep
    split at hstep
    · split at hstep
      · rename_i value hview
        cases hstep
        refine ⟨h.source, h.now, h.entry, fun copy hcopy => ?_, h.answers⟩
        rcases List.mem_or_eq_of_mem_set hcopy with hcopy | heq
        · exact h.misses copy hcopy
        · cases heq
          exact Or.inl (by rw [← h.source, hview])
      · cases hstep
        exact ⟨h.source, h.now, h.entry,
          fun copy hcopy => h.misses copy (List.mem_of_mem_eraseIdx hcopy), h.answers⟩
    · cases hstep
  | store n =>
    rw [CacheAside.step] at hstep
    split at hstep
    · rename_i copy hn
      cases hstep
      have hsoon := hok copy hn
      have hread := h.misses copy (List.mem_of_getElem? hn)
      refine ⟨h.source, h.now, fun c expires hentry => ?_, fun c hc => ?_, fun a ha => ?_⟩
      · cases hentry
        exact hread.imp_right fun hold => by omega
      · exact h.misses c (List.mem_of_mem_eraseIdx hc)
      · rcases List.mem_append.mp ha with ha | ha
        · exact h.answers a ha
        · rw [List.mem_singleton.mp ha]
          exact hread.imp_right fun hold => by
            dsimp only
            omega
    · cases hstep
  | signal =>
    cases hstep
    refine ⟨h.source, h.now, fun copy expires hentry => ?_, h.misses, h.answers⟩
    cases hentry
  | commit source => exact hquiet.elim

/-- After the last change, and after what was read before it ran out, all
answers are right. -/
theorem settled {source : σ} {fs : List (CacheEvent σ)}
    (h : Run (CacheAside.step view ttl) (StoresWithin delay) { source := source } es w)
    (hquiet : Run (CacheAside.step view ttl) (fun w e => StoresWithin delay w e ∧ NoCommit e) w
      fs w') {a : Copy β × Nat} (ha : a ∈ w'.answers) (hlate : w.now + delay + ttl < a.2) :
    view w'.source = some a.1.value := by
  have hsettling : Settling view ttl delay w w' :=
    hquiet.invariant (Settling view ttl delay w) (served h).settling fun _ _ _ hI hok hstep =>
      hI.step hok.1 hok.2 hstep
  rw [hsettling.source]
  rcases hsettling.answers a ha with hright | hold
  · exact hright
  · omega

end

end CacheAside

end Shopping
