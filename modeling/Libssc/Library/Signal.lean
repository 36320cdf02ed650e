import Mathlib.Data.List.Nodup

/-!
# Signals with numbered handlers

One signal of one object: its connected handlers, oldest first, each a closure
under a positive number that is handed out once and never again. Emission
follows the usual rule for such signals: the handlers connected when the
emission starts run in order of connection, a handler that another one
disconnects meanwhile is skipped, and a handler connected meanwhile waits for
the next emission.

Numbering is part of the type: a `Signal` in which two handlers share a number,
or in which the next number is already in use, cannot be built.
-/

namespace Libssc.Library

/-- The handlers of one signal; `next` is the number of the next connection. -/
structure Signal (C : Type*) where
  handlers : List (ℕ × C)
  next : ℕ
  next_pos : 0 < next
  pos : ∀ h ∈ handlers, 0 < h.1
  lt_next : ∀ h ∈ handlers, h.1 < next
  nodup : (handlers.map Prod.fst).Nodup

namespace Signal

variable {C : Type*}

/-- A signal nobody listens to. -/
def empty : Signal C where
  handlers := []
  next := 1
  next_pos := Nat.one_pos
  pos := by simp
  lt_next := by simp
  nodup := by simp

/-- Connect a closure; its number is `s.next`. -/
def connect (s : Signal C) (c : C) : Signal C where
  handlers := s.handlers ++ [(s.next, c)]
  next := s.next + 1
  next_pos := Nat.succ_pos _
  pos := by
    intro h hh
    rcases List.mem_append.mp hh with hh | hh
    · exact s.pos h hh
    · obtain rfl : h = (s.next, c) := by simpa using hh
      exact s.next_pos
  lt_next := by
    intro h hh
    rcases List.mem_append.mp hh with hh | hh
    · exact Nat.lt_succ_of_lt (s.lt_next h hh)
    · obtain rfl : h = (s.next, c) := by simpa using hh
      exact Nat.lt_succ_self _
  nodup := by
    rw [List.map_append, List.nodup_append]
    refine ⟨s.nodup, by simp, ?_⟩
    intro a ha b hb
    obtain ⟨h, hh, rfl⟩ := List.mem_map.mp ha
    obtain rfl : b = s.next := by simpa using hb
    exact Nat.ne_of_lt (s.lt_next h hh)

/-- Disconnect handler `id`; a number that is not connected changes nothing. -/
def disconnect (s : Signal C) (id : ℕ) : Signal C where
  handlers := s.handlers.filter (fun h => decide (h.1 ≠ id))
  next := s.next
  next_pos := s.next_pos
  pos := fun h hh => s.pos h (List.mem_of_mem_filter hh)
  lt_next := fun h hh => s.lt_next h (List.mem_of_mem_filter hh)
  nodup := s.nodup.sublist (List.filter_sublist.map _)

/-- The closure connected under `id`. -/
def closure? (s : Signal C) (id : ℕ) : Option C :=
  (s.handlers.find? (fun h => decide (h.1 = id))).map Prod.snd

@[simp] theorem handlers_empty : (empty : Signal C).handlers = [] := rfl

@[simp] theorem handlers_connect (s : Signal C) (c : C) :
    (s.connect c).handlers = s.handlers ++ [(s.next, c)] := rfl

@[simp] theorem next_connect (s : Signal C) (c : C) :
    (s.connect c).next = s.next + 1 := rfl

@[simp] theorem handlers_disconnect (s : Signal C) (id : ℕ) :
    (s.disconnect id).handlers =
      s.handlers.filter (fun h => decide (h.1 ≠ id)) := rfl

@[simp] theorem next_disconnect (s : Signal C) (id : ℕ) :
    (s.disconnect id).next = s.next := rfl

theorem mem_disconnect {s : Signal C} {id : ℕ} {h : ℕ × C} :
    h ∈ (s.disconnect id).handlers ↔ h ∈ s.handlers ∧ h.1 ≠ id := by
  simp

theorem eq_of_mem {s : Signal C} {id : ℕ} {c c' : C}
    (h : (id, c) ∈ s.handlers) (h' : (id, c') ∈ s.handlers) : c = c' := by
  have := List.inj_on_of_nodup_map s.nodup h h' rfl
  exact congrArg Prod.snd this

theorem closure?_eq_some {s : Signal C} {id : ℕ} {c : C} :
    s.closure? id = some c ↔ (id, c) ∈ s.handlers := by
  unfold closure?
  constructor
  · intro h
    obtain ⟨⟨i, d⟩, hf, rfl⟩ := Option.map_eq_some_iff.mp h
    obtain rfl : i = id := by simpa using List.find?_some hf
    exact List.mem_of_find?_eq_some hf
  · intro h
    cases hf : s.handlers.find? (fun h => decide (h.1 = id)) with
    | none =>
        have := List.find?_eq_none.mp hf _ h
        simp at this
    | some p =>
        obtain ⟨i, d⟩ := p
        obtain rfl : i = id := by simpa using List.find?_some hf
        rw [Option.map_some,
          eq_of_mem (List.mem_of_find?_eq_some hf) h]

/-! ## Emission -/

variable {σ : Type*}

/-- Emit the signal that `get` finds in the state: run the handlers connected
now, each unless it has been disconnected by the time its turn comes. -/
def emit (get : σ → Signal C) (run : C → σ → σ) (s : σ) : σ :=
  (get s).handlers.foldl
    (fun s h => if h.1 ∈ (get s).handlers.map Prod.fst then run h.2 s else s) s

variable {get : σ → Signal C} {run : C → σ → σ}

/-- What every handler preserves, the emission preserves. -/
theorem emit_preserves {P : σ → Prop} {s : σ}
    (hrun : ∀ h ∈ (get s).handlers, ∀ t, P t → P (run h.2 t)) (hs : P s) :
    P (emit get run s) := by
  unfold emit
  generalize hl : (get s).handlers = l at hrun
  clear hl
  induction l generalizing s with
  | nil => exact hs
  | cons h l ih =>
      rw [List.foldl_cons]
      apply ih
      · split
        · exact hrun h List.mem_cons_self s hs
        · exact hs
      · exact fun h' hh' => hrun h' (List.mem_cons_of_mem _ hh')

/-- A view of the state that every handler acts on by itself sees the emission
of its own handlers. -/
theorem emit_map {τ : Type*} {get' : τ → Signal C} {run' : C → τ → τ}
    (view : σ → τ) (hget : ∀ s, get' (view s) = get s)
    (hrun : ∀ c s, view (run c s) = run' c (view s)) (s : σ) :
    view (emit get run s) = emit get' run' (view s) := by
  unfold emit
  rw [hget s]
  generalize (get s).handlers = l
  induction l generalizing s with
  | nil => rfl
  | cons h l ih =>
      rw [List.foldl_cons, List.foldl_cons, ih, hget]
      split
      · rw [hrun]
      · rfl

/-- Handlers that do nothing can be left out of an emission. -/
theorem emit_eq_filter {p : C → Bool} (s : σ)
    (hid : ∀ c t, p c = false → run c t = t) :
    emit get run s =
      ((get s).handlers.filter (fun h => p h.2)).foldl
        (fun s h =>
          if h.1 ∈ (get s).handlers.map Prod.fst then run h.2 s else s) s := by
  unfold emit
  generalize (get s).handlers = l
  induction l generalizing s with
  | nil => rfl
  | cons h l ih =>
      cases hp : p h.2 with
      | false =>
          rw [List.filter_cons_of_neg (by simp [hp]), List.foldl_cons,
            hid h.2 s hp, ite_self]
          exact ih s
      | true =>
          rw [List.filter_cons_of_pos (by simp [hp]), List.foldl_cons,
            List.foldl_cons]
          exact ih _

/-- An emission in which only one handler does anything is that handler. -/
theorem emit_single {p : C → Bool} {s : σ} {id : ℕ} {c : C}
    (hid : ∀ c t, p c = false → run c t = t)
    (h : (get s).handlers.filter (fun h => p h.2) = [(id, c)]) :
    emit get run s = run c s := by
  have hmem : (id, c) ∈ (get s).handlers :=
    List.mem_of_mem_filter (h ▸ List.mem_singleton_self _)
  rw [emit_eq_filter s hid, h]
  simp only [List.foldl_cons, List.foldl_nil]
  rw [if_pos (List.mem_map.mpr ⟨_, hmem, rfl⟩)]

/-- An emission in which no handler does anything changes nothing. -/
theorem emit_none {p : C → Bool} {s : σ}
    (hid : ∀ c t, p c = false → run c t = t)
    (h : (get s).handlers.filter (fun h => p h.2) = []) :
    emit get run s = s := by
  rw [emit_eq_filter s hid, h]
  rfl

/-- The first handler that does anything runs on the state as it is when the
emission starts; what it establishes stays if the other handlers keep it. -/
theorem emit_first {p : C → Bool} {P : σ → Prop} {s : σ} {id : ℕ} {c : C}
    {rest : List (ℕ × C)} (hid : ∀ c t, p c = false → run c t = t)
    (h : (get s).handlers.filter (fun h => p h.2) = (id, c) :: rest)
    (hfirst : P (run c s)) (hrest : ∀ h ∈ rest, ∀ t, P t → P (run h.2 t)) :
    P (emit get run s) := by
  have hmem : (id, c) ∈ (get s).handlers :=
    List.mem_of_mem_filter (h ▸ List.mem_cons_self)
  rw [emit_eq_filter s hid, h, List.foldl_cons,
    if_pos (List.mem_map.mpr ⟨_, hmem, rfl⟩)]
  clear h hmem
  generalize run c s = t at hfirst
  induction rest generalizing t with
  | nil => exact hfirst
  | cons x rest ih =>
      rw [List.foldl_cons]
      apply ih (fun h hh => hrest h (List.mem_cons_of_mem _ hh))
      split
      · exact hrest x List.mem_cons_self t hfirst
      · exact hfirst

/-- The only handler of a kind, still connected when the emission is over, has
run exactly once: the other handlers keep `P` before and `Q` after its turn, at
which it takes `P` to `Q`. -/
theorem emit_once {p : C → Bool} {P Q : σ → Prop} {s : σ} {id : ℕ} {c : C}
    (hone : (get s).handlers.filter (fun h => p h.2) = [(id, c)]) (hs : P s)
    (hother : ∀ h ∈ (get s).handlers, p h.2 = false → ∀ t,
      (P t → P (run h.2 t)) ∧ (Q t → Q (run h.2 t)))
    (hrun : ∀ t, P t → Q (run c t))
    (hgone : ∀ c t, id ∈ (get (run c t)).handlers.map Prod.fst →
      id ∈ (get t).handlers.map Prod.fst)
    (hconn : id ∈ (get (emit get run s)).handlers.map Prod.fst) :
    Q (emit get run s) := by
  unfold emit at hconn ⊢
  have hback : ∀ (l : List (ℕ × C)) (t : σ),
      id ∈ (get (l.foldl (fun s h => if h.1 ∈ (get s).handlers.map Prod.fst
        then run h.2 s else s) t)).handlers.map Prod.fst →
      id ∈ (get t).handlers.map Prod.fst := by
    intro l
    induction l with
    | nil => exact fun _ h => h
    | cons x l ih =>
        intro t h
        rw [List.foldl_cons] at h
        have h' := ih _ h
        split at h'
        · exact hgone x.2 t h'
        · exact h'
  suffices hmain : ∀ l : List (ℕ × C), (∀ h ∈ l, h ∈ (get s).handlers) → ∀ t,
      (l.filter (fun h => p h.2) = [(id, c)] ∧ P t) ∨
        (l.filter (fun h => p h.2) = [] ∧ Q t) →
      id ∈ (get (l.foldl (fun s h => if h.1 ∈ (get s).handlers.map Prod.fst
        then run h.2 s else s) t)).handlers.map Prod.fst →
      Q (l.foldl (fun s h => if h.1 ∈ (get s).handlers.map Prod.fst
        then run h.2 s else s) t) from
    hmain _ (fun _ hh => hh) s (Or.inl ⟨hone, hs⟩) hconn
  intro l
  induction l with
  | nil =>
      rintro - t (⟨hnil, -⟩ | ⟨-, hQ⟩) -
      · exact absurd hnil (by simp)
      · exact hQ
  | cons x l ih =>
      intro hsub t ht hend
      have hx : x ∈ (get s).handlers := hsub x List.mem_cons_self
      rw [List.foldl_cons] at hend ⊢
      refine ih (fun h hh => hsub h (List.mem_cons_of_mem _ hh)) _ ?_ hend
      cases hp : p x.2 with
      | true =>
          rw [List.filter_cons_of_pos (by simp [hp])] at ht
          rcases ht with ⟨hl, hP⟩ | ⟨hl, -⟩
          · obtain ⟨rfl, hrest⟩ := List.cons.inj hl
            rw [if_pos (hback ((id, c) :: l) t (by rw [List.foldl_cons]; exact hend))]
            exact Or.inr ⟨hrest, hrun t hP⟩
          · exact absurd hl (by simp)
      | false =>
          rw [List.filter_cons_of_neg (by simp [hp])] at ht
          have hkeep := hother x hx hp t
          split
          · exact ht.imp (fun h => ⟨h.1, hkeep.1 h.2⟩) (fun h => ⟨h.1, hkeep.2 h.2⟩)
          · exact ht

/-- A connected handler that nothing disconnects before its turn: if the state
satisfies `P` until some handler establishes `Q`, and this one establishes it,
the emission does. -/
theorem emit_reaches {P Q : σ → Prop} {s : σ} {h : ℕ × C}
    (hmem : h ∈ (get s).handlers) (hs : P s)
    (hstep : ∀ h' ∈ (get s).handlers, ∀ t, P t → P (run h'.2 t) ∨ Q (run h'.2 t))
    (hkeep : ∀ h' ∈ (get s).handlers, ∀ t, Q t → Q (run h'.2 t))
    (hconn : ∀ t, P t → h.1 ∈ (get t).handlers.map Prod.fst)
    (hrun : ∀ t, P t → Q (run h.2 t)) : Q (emit get run s) := by
  unfold emit
  suffices hmain : ∀ l : List (ℕ × C), (∀ h' ∈ l, h' ∈ (get s).handlers) →
      ∀ t, (P t ∧ h ∈ l) ∨ Q t → Q (l.foldl (fun s h =>
        if h.1 ∈ (get s).handlers.map Prod.fst then run h.2 s else s) t) from
    hmain _ (fun _ hh => hh) s (Or.inl ⟨hs, hmem⟩)
  intro l
  induction l with
  | nil =>
      rintro - t (⟨-, hnil⟩ | hQ)
      · exact absurd hnil (List.not_mem_nil)
      · exact hQ
  | cons x l ih =>
      intro hsub t ht
      rw [List.foldl_cons]
      have hx : x ∈ (get s).handlers := hsub x List.mem_cons_self
      apply ih (fun h' hh' => hsub h' (List.mem_cons_of_mem _ hh'))
      rcases ht with ⟨hP, hl⟩ | hQ
      · by_cases hxh : h = x
        · subst hxh
          rw [if_pos (hconn t hP)]
          exact Or.inr (hrun t hP)
        · have hl' : h ∈ l := (List.mem_cons.mp hl).resolve_left hxh
          split
          · exact (hstep x hx t hP).imp_left (fun hP' => ⟨hP', hl'⟩)
          · exact Or.inl ⟨hP, hl'⟩
      · right
        split
        · exact hkeep x hx t hQ
        · exact hQ

end Signal

end Libssc.Library
