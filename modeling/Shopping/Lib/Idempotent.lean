import Mathlib.Data.List.Nodup

/-!
# A server that remembers its answers

A request carries a key.  The first request with a key is handled and its
response is kept; a repeated key is answered with the response that is kept,
and nothing is handled.

The log is the list of the responses, oldest first.  `serve_spec` has the two
cases of a request, and `serve_nodup` that no key is in the log twice, so that
what `firstResponse?` finds is the only response to its key.

`foldl_once` is about a receiver without a log.  When what a delivery does
settles its key, and a delivery with a settled key does nothing, the deliveries
can come any number of times.
-/

namespace Shopping

section

variable {κ α β : Type}

/-- What was asked with a key, and the reply. -/
structure Response (κ α β : Type) where
  key : κ
  request : α
  reply : β
  deriving DecidableEq, Repr

/-- A response is the only one to its key. -/
theorem eq_of_key {log : List (Response κ α β)} {x y : Response κ α β}
    (hnodup : (log.map Response.key).Nodup) (hx : x ∈ log) (hy : y ∈ log)
    (hkey : x.key = y.key) : x = y :=
  List.inj_on_of_nodup_map hnodup hx hy hkey

variable [DecidableEq κ]

/-- The response to the first request with the key. -/
def firstResponse? (log : List (Response κ α β)) (k : κ) : Option (Response κ α β) :=
  log.find? fun x => decide (x.key = k)

/-- One request: the response, and the log after it.  `reply` is what a handled
request is answered with. -/
def serve (log : List (Response κ α β)) (k : κ) (request : α) (reply : β) :
    Response κ α β × List (Response κ α β) :=
  match firstResponse? log k with
  | some x => (x, log)
  | none => (⟨k, request, reply⟩, log ++ [⟨k, request, reply⟩])

variable {log : List (Response κ α β)} {k : κ} {x : Response κ α β}

theorem firstResponse?_some (h : firstResponse? log k = some x) : x ∈ log ∧ x.key = k :=
  ⟨List.mem_of_find?_eq_some h, by simpa using List.find?_some h⟩

theorem firstResponse?_none (h : firstResponse? log k = none) : ∀ y ∈ log, y.key ≠ k := by
  intro y hy
  have hnot := List.find?_eq_none.mp h y hy
  simpa using hnot

theorem firstResponse?_of_mem (hnodup : (log.map Response.key).Nodup) (hx : x ∈ log) :
    firstResponse? log x.key = some x := by
  cases h : firstResponse? log x.key with
  | none => exact absurd rfl (firstResponse?_none h x hx)
  | some y =>
    obtain ⟨hy, hkey⟩ := firstResponse?_some h
    rw [eq_of_key hnodup hy hx hkey]

/-- A request replays the response to its key, or is the first with its key. -/
theorem serve_spec (log : List (Response κ α β)) (k : κ) (request : α) (reply : β) :
    (∃ x, firstResponse? log k = some x ∧ serve log k request reply = (x, log)) ∨
      (firstResponse? log k = none ∧ serve log k request reply
        = (⟨k, request, reply⟩, log ++ [⟨k, request, reply⟩])) := by
  unfold serve
  cases firstResponse? log k with
  | none => exact Or.inr ⟨rfl, rfl⟩
  | some x => exact Or.inl ⟨x, rfl, rfl⟩

/-- No key is in the log twice. -/
theorem serve_nodup (hnodup : (log.map Response.key).Nodup) (request : α) (reply : β) :
    ((serve log k request reply).2.map Response.key).Nodup := by
  rcases serve_spec log k request reply with ⟨x, _, h⟩ | ⟨hnew, h⟩
  · rw [h]
    exact hnodup
  · rw [h, List.map_append, List.nodup_append]
    refine ⟨hnodup, List.nodup_singleton k, ?_⟩
    intro a ha b hb hab
    obtain ⟨y, hy, rfl⟩ := List.mem_map.mp ha
    have hk : b = k := List.mem_singleton.mp hb
    exact firstResponse?_none hnew y hy (hab.trans hk)

end

/-! ## Deliveries that come again -/

section

variable {σ δ κ : Type} {handle : σ → δ → σ} {key : δ → κ}

/-- The state after any deliveries is the one after some of them, each with a
key of its own; `I` is an invariant of the receiver. -/
theorem foldl_once {P : δ → Prop} (I : σ → Prop) (Settled : κ → σ → Prop)
    (hinv : ∀ s d, P d → I s → I (handle s d))
    (hnew : ∀ s d, P d → I s → handle s d = s ∨ Settled (key d) (handle s d))
    (hagain : ∀ s d, P d → I s → Settled (key d) s → handle s d = s)
    (hkeeps : ∀ s d k, P d → I s → Settled k s → Settled k (handle s d))
    {ds : List δ} (hP : ∀ d ∈ ds, P d) {s : σ} (hI : I s) :
    ∃ once : List δ, once.Sublist ds ∧ (once.map key).Nodup ∧
      once.foldl handle s = ds.foldl handle s := by
  -- what is taken of the rest has no key that is settled already
  suffices h : ∃ once : List δ, once.Sublist ds ∧ (once.map key).Nodup ∧
      (∀ d ∈ once, ¬ Settled (key d) s) ∧ once.foldl handle s = ds.foldl handle s by
    obtain ⟨once, hsub, hnodup, _, hfold⟩ := h
    exact ⟨once, hsub, hnodup, hfold⟩
  induction ds generalizing s with
  | nil => exact ⟨[], List.Sublist.refl [], List.nodup_nil, nofun, rfl⟩
  | cons d rest ih =>
    have hd := hP d List.mem_cons_self
    have hrest : ∀ d' ∈ rest, P d' := fun d' hd' => hP d' (List.mem_cons_of_mem d hd')
    by_cases hnone : handle s d = s
    · obtain ⟨once, hsub, hnodup, hfresh, hfold⟩ := ih hrest hI
      refine ⟨once, hsub.cons d, hnodup, hfresh, ?_⟩
      rw [hfold, List.foldl_cons, hnone]
    · have hsettled := (hnew s d hd hI).resolve_left hnone
      obtain ⟨once, hsub, hnodup, hfresh, hfold⟩ := ih hrest (hinv s d hd hI)
      refine ⟨d :: once, hsub.cons_cons d, ?_, ?_, ?_⟩
      · rw [List.map_cons, List.nodup_cons]
        refine ⟨fun hmem => ?_, hnodup⟩
        obtain ⟨d', hd', hkey⟩ := List.mem_map.mp hmem
        apply hfresh d' hd'
        rw [hkey]
        exact hsettled
      · intro d' hd' hold
        rcases List.mem_cons.mp hd' with rfl | hd'
        · exact hnone (hagain s d' hd hI hold)
        · exact hfresh d' hd' (hkeeps s d _ hd hI hold)
      · rw [List.foldl_cons, List.foldl_cons, hfold]

end

end Shopping
