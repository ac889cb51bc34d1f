import Shopping.Lib.Run

/-!
# A replica that is told to look

A source has a status.  When the status changes, the replica is told that
something changed, at least once, and not what.  Each time it is told it looks
at the source, and later, in a step of its own, it applies what it saw.  The
steps of different notices interleave in any order.

`Watch.Covered` is the invariant: the replica agrees with the source, or a
notice has not looked yet, or what some notice saw is still the status of the
source.  Only one step can break it, the application of the last of these, so
`covered_run` asks for an agreement there and nowhere else.
-/

namespace Shopping

/-- The source and the replica, with the notices that have not looked yet and
what the others saw and did not apply yet. -/
structure Watch (τ δ ρ : Type) where
  source : τ
  pending : Nat := 0
  reads : List δ := []
  replica : ρ

inductive WatchEvent (τ δ ι : Type) where
  /-- The status changes, with one notice or more. -/
  | change (status : τ) (more : Nat)
  /-- A notice is sent again. -/
  | resend
  | look (seen : δ)
  /-- The n-th sight is applied. -/
  | apply (n : Nat) (input : ι)

/-- How the statuses move, what a sight shows, and what the replica makes of
it. -/
structure Watched (τ δ ι ρ : Type) where
  moves : τ → τ → Bool
  shows : δ → τ → Bool
  apply : ρ → ι → δ → ρ
  agrees : ρ → τ → Bool

namespace Watch

section

variable {τ δ ι ρ : Type}

def step (W : Watched τ δ ι ρ) (w : Watch τ δ ρ) : WatchEvent τ δ ι → Option (Watch τ δ ρ)
  | .change status more =>
    if W.moves w.source status then
      some { w with source := status, pending := w.pending + more + 1 }
    else none
  | .resend => some { w with pending := w.pending + 1 }
  | .look seen =>
    if 0 < w.pending ∧ W.shows seen w.source = true then
      some { w with pending := w.pending - 1, reads := w.reads ++ [seen] }
    else none
  | .apply n input =>
    match w.reads[n]? with
    | none => none
    | some seen =>
      some { w with reads := w.reads.eraseIdx n, replica := W.apply w.replica input seen }

/-- Nothing but the n-th sight can still bring the status of the source. -/
def isLast (W : Watched τ δ ι ρ) (w : Watch τ δ ρ) (n : Nat) : Bool :=
  decide (w.pending = 0) && !(w.reads.eraseIdx n).any fun seen => W.shows seen w.source

/-- The replica agrees, or will be told. -/
def Covered (W : Watched τ δ ι ρ) (w : Watch τ δ ρ) : Prop :=
  W.agrees w.replica w.source = true ∨ 0 < w.pending ∨
    ∃ seen ∈ w.reads, W.shows seen w.source = true

/-- Every sight shows a status that the source had. -/
def Shown (W : Watched τ δ ι ρ) (w : Watch τ δ ρ) : Prop :=
  ∀ seen ∈ w.reads, ∃ status, W.shows seen status = true

variable {W : Watched τ δ ι ρ} {w w' : Watch τ δ ρ} {e : WatchEvent τ δ ι}

/-- When nothing is left to be applied, the replica agrees. -/
theorem Covered.agrees (h : Covered W w) (hpending : w.pending = 0) (hreads : w.reads = []) :
    W.agrees w.replica w.source = true := by
  rcases h with h | h | ⟨seen, hseen, _⟩
  · exact h
  · omega
  · rw [hreads] at hseen
    cases hseen

theorem Shown.step (h : Shown W w) (hstep : step W w e = some w') : Shown W w' := by
  cases e with
  | change status more =>
    simp only [Watch.step] at hstep
    split at hstep
    · cases hstep
      exact h
    · cases hstep
  | resend =>
    cases hstep
    exact h
  | look seen =>
    simp only [Watch.step] at hstep
    split at hstep
    · rename_i hlook
      cases hstep
      intro x hx
      rcases List.mem_append.mp hx with hx | hx
      · exact h x hx
      · cases List.mem_singleton.mp hx
        exact ⟨w.source, hlook.2⟩
    · cases hstep
  | apply n input =>
    simp only [Watch.step] at hstep
    split at hstep
    · cases hstep
    · cases hstep
      exact fun x hx => h x (List.mem_of_mem_eraseIdx hx)

/-- Every step but a last application leaves a notice or a sight of the
status. -/
theorem covered_step (hstep : step W w e = some w')
    (hlast : ∀ n input seen, e = .apply n input → w.reads[n]? = some seen →
      isLast W w n = true → W.agrees (W.apply w.replica input seen) w.source = true) :
    Covered W w' := by
  cases e with
  | change status more =>
    simp only [step] at hstep
    split at hstep
    · cases hstep
      exact Or.inr (Or.inl (Nat.succ_pos _))
    · cases hstep
  | resend =>
    cases hstep
    exact Or.inr (Or.inl (Nat.succ_pos _))
  | look seen =>
    simp only [step] at hstep
    split at hstep
    · rename_i hlook
      cases hstep
      exact Or.inr (Or.inr ⟨seen, List.mem_append_right _ (List.mem_singleton_self seen),
        hlook.2⟩)
    · cases hstep
  | apply n input =>
    simp only [step] at hstep
    split at hstep
    · cases hstep
    · rename_i seen hseen
      cases hstep
      cases hl : isLast W w n with
      | true => exact Or.inl (hlast n input seen rfl hseen hl)
      | false =>
        simp only [isLast, Bool.and_eq_false_iff, decide_eq_false_iff_not, Bool.not_eq_false'] at hl
        rcases hl with hpending | hfresh
        · exact Or.inr (Or.inl (Nat.pos_of_ne_zero hpending))
        · rw [List.any_eq_true] at hfresh
          exact Or.inr (Or.inr hfresh)

/-- What every application of a sight keeps of the replica is kept by a run. -/
theorem replica_run {ok : Watch τ δ ρ → WatchEvent τ δ ι → Prop} {es : List (WatchEvent τ δ ι)}
    (I : ρ → Prop) (hshown : Shown W w) (h0 : I w.replica)
    (happly : ∀ r input seen status, I r → W.shows seen status = true → I (W.apply r input seen))
    (hrun : Run (step W) ok w es w') : Shown W w' ∧ I w'.replica := by
  refine hrun.invariant (fun u => Shown W u ∧ I u.replica) ⟨hshown, h0⟩ ?_
  intro u e v hu _ hstep
  refine ⟨hu.1.step hstep, ?_⟩
  cases e with
  | change status more =>
    simp only [step] at hstep
    split at hstep
    · cases hstep
      exact hu.2
    · cases hstep
  | resend =>
    cases hstep
    exact hu.2
  | look seen =>
    simp only [step] at hstep
    split at hstep
    · cases hstep
      exact hu.2
    · cases hstep
  | apply n input =>
    simp only [step] at hstep
    split at hstep
    · cases hstep
    · rename_i seen hseen
      cases hstep
      obtain ⟨status, hstatus⟩ := hu.1 seen (List.mem_of_getElem? hseen)
      exact happly _ _ _ _ hu.2 hstatus

/-- A run in which every last application brings an agreement. -/
theorem covered_run {ok : Watch τ δ ρ → WatchEvent τ δ ι → Prop} {es : List (WatchEvent τ δ ι)}
    (I : ρ → Prop) (hshown : Shown W w) (h0 : I w.replica) (hcovered : Covered W w)
    (happly : ∀ r input seen status, I r → W.shows seen status = true → I (W.apply r input seen))
    (hlast : ∀ u n input seen, I u.replica → Shown W u → ok u (.apply n input) →
      u.reads[n]? = some seen → isLast W u n = true →
      W.agrees (W.apply u.replica input seen) u.source = true)
    (hrun : Run (step W) ok w es w') : Covered W w' := by
  cases hrun with
  | nil => exact hcovered
  | snoc hbefore hok hstep =>
    obtain ⟨hshown', hI⟩ := replica_run I hshown h0 happly hbefore
    refine covered_step hstep fun n input seen he hseen hl => ?_
    subst he
    exact hlast _ n input seen hI hshown' hok hseen hl

end

end Watch

end Shopping
