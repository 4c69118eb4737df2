/-!
# Computations that succeed or fail

What is known of the steps of a computation that ends well, and of those that one fails in.
-/

namespace ApiProxy

variable {ε α β : Type}

theorem bind_eq_ok {x : Except ε α} {f : α → Except ε β} {b : β} :
    (x >>= f) = .ok b ↔ ∃ a, x = .ok a ∧ f a = .ok b := by
  cases x <;> simp [bind, Except.bind]

theorem map_eq_ok {x : Except ε α} {f : α → β} {b : β} :
    x.map f = .ok b ↔ ∃ a, x = .ok a ∧ f a = b := by
  cases x <;> simp [Except.map]

theorem mapError_ok {ε' : Type} (f : ε → ε') (a : α) :
    (Except.ok a).mapError f = .ok a := rfl

theorem mapError_error {ε' : Type} (f : ε → ε') (e : ε) :
    (Except.error e : Except ε α).mapError f = .error (f e) := rfl

theorem mapError_eq_ok {ε' : Type} {x : Except ε α} {f : ε → ε'} {a : α} :
    x.mapError f = .ok a ↔ x = .ok a := by
  cases x <;> simp [mapError_ok, mapError_error]

theorem map_eq_error {x : Except ε α} {f : α → β} {e : ε} :
    x.map f = .error e ↔ x = .error e := by
  cases x <;> simp [Except.map]

theorem mapError_eq_error {ε' : Type} {x : Except ε α} {f : ε → ε'} {e : ε'} :
    x.mapError f = .error e ↔ ∃ e', x = .error e' ∧ f e' = e := by
  cases x <;> simp [mapError_ok, mapError_error]

@[simp] theorem ok_bind (a : α) (f : α → Except ε β) : (Except.ok a >>= f) = f a := rfl

theorem mem_of_mapM_eq_ok {f : α → Except ε β} {as : List α} {bs : List β} {b : β}
    (h : as.mapM f = .ok bs) (hb : b ∈ bs) : ∃ a ∈ as, f a = .ok b := by
  induction as generalizing bs with
  | nil =>
    obtain rfl : [] = bs := Except.ok.inj h
    exact absurd hb List.not_mem_nil
  | cons a as ih =>
    rw [List.mapM_cons, bind_eq_ok] at h
    obtain ⟨b', hb', h⟩ := h
    obtain ⟨bs', hbs', h⟩ := bind_eq_ok.1 h
    obtain rfl : b' :: bs' = bs := Except.ok.inj h
    rcases List.mem_cons.1 hb with rfl | hb
    · exact ⟨a, List.mem_cons_self, hb'⟩
    · obtain ⟨a', ha', hfa⟩ := ih hbs' hb
      exact ⟨a', List.mem_cons_of_mem a ha', hfa⟩

theorem exists_mapM_eq_ok {f : α → Except ε β} {as : List α} (h : ∀ a ∈ as, ∃ b, f a = .ok b) :
    ∃ bs, as.mapM f = .ok bs := by
  induction as with
  | nil => exact ⟨[], rfl⟩
  | cons a as ih =>
    obtain ⟨⟨b, hb⟩, has⟩ := List.forall_mem_cons.1 h
    obtain ⟨bs, hbs⟩ := ih has
    exact ⟨b :: bs, by rw [List.mapM_cons, hb, ok_bind, hbs]; rfl⟩

/-- What can be read off the elements of a list can be read off the results of going through
it. -/
theorem map_eq_of_mapM_eq_ok {γ : Type} {f : α → Except ε β} {g : α → γ} {g' : β → γ}
    {as : List α} {bs : List β} (h : as.mapM f = .ok bs)
    (hg : ∀ a ∈ as, ∀ b, f a = .ok b → g' b = g a) : bs.map g' = as.map g := by
  induction as generalizing bs with
  | nil =>
    obtain rfl : [] = bs := Except.ok.inj h
    rfl
  | cons a as ih =>
    rw [List.mapM_cons, bind_eq_ok] at h
    obtain ⟨b, hb, h⟩ := h
    obtain ⟨bs', hbs', h⟩ := bind_eq_ok.1 h
    obtain rfl : b :: bs' = bs := Except.ok.inj h
    obtain ⟨hga, hg⟩ := List.forall_mem_cons.1 hg
    rw [List.map_cons, List.map_cons, hga b hb, ih hbs' hg]

/-- Going through a list with another step whose results are made from those of the first. -/
theorem mapM_eq_ok_map {γ : Type} {f : α → Except ε β} {f' : α → Except ε γ} {g : β → γ}
    {as : List α} {bs : List β} (h : as.mapM f = .ok bs)
    (hg : ∀ a b, f a = .ok b → f' a = .ok (g b)) : as.mapM f' = .ok (bs.map g) := by
  induction as generalizing bs with
  | nil =>
    obtain rfl : [] = bs := Except.ok.inj h
    rfl
  | cons a as ih =>
    rw [List.mapM_cons, bind_eq_ok] at h
    obtain ⟨b, hb, h⟩ := h
    obtain ⟨bs', hbs', h⟩ := bind_eq_ok.1 h
    obtain rfl : b :: bs' = bs := Except.ok.inj h
    rw [List.mapM_cons, hg a b hb, ok_bind, ih hbs']
    rfl

/-- Going through the elements with a property gives the results that show it. -/
theorem mapM_filter_eq_ok {f : α → Except ε β} {p : α → Bool} {q : β → Bool} {as : List α}
    {bs : List β} (h : as.mapM f = .ok bs) (hpq : ∀ a b, f a = .ok b → q b = p a) :
    (as.filter p).mapM f = .ok (bs.filter q) := by
  induction as generalizing bs with
  | nil =>
    obtain rfl : [] = bs := Except.ok.inj h
    rfl
  | cons a as ih =>
    rw [List.mapM_cons, bind_eq_ok] at h
    obtain ⟨b, hb, h⟩ := h
    obtain ⟨bs', hbs', h⟩ := bind_eq_ok.1 h
    obtain rfl : b :: bs' = bs := Except.ok.inj h
    rw [List.filter_cons, List.filter_cons, hpq a b hb]
    split
    · rw [List.mapM_cons, hb, ok_bind, ih hbs']
      rfl
    · exact ih hbs'

/-- Going through a list with a step and then changing the results is going through it with the
step whose result is changed. -/
theorem mapM_bind_map {γ : Type} {f : α → Except ε β} {g : β → γ} {as : List α} :
    (as.mapM f >>= fun bs => .ok (bs.map g)) = as.mapM fun a => f a >>= fun b => .ok (g b) := by
  induction as with
  | nil => rfl
  | cons a as ih =>
    rw [List.mapM_cons, List.mapM_cons, ← ih]
    cases f a with
    | error e => rfl
    | ok b => cases as.mapM f <;> rfl

/-- Going through a list of lists one by one is going through them joined. -/
theorem mapM_bind_flatten {γ : Type} {f : β → Except ε γ} {g : α → List β} {as : List α} :
    ((as.mapM fun a => (g a).mapM f) >>= fun parts => .ok parts.flatten) =
      (as.flatMap g).mapM f := by
  induction as with
  | nil => rfl
  | cons a as ih =>
    rw [List.mapM_cons, List.flatMap_cons, List.mapM_append, ← ih]
    cases (g a).mapM f with
    | error e => rfl
    | ok part => cases as.mapM fun a => (g a).mapM f <;> rfl

end ApiProxy
