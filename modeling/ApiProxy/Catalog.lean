/-!
# Values by name, in ascending order

A catalog holds at most one value per name and lists its names in ascending order of their
characters. Putting a value under a name that is taken replaces the value. The order is part
of the type, so two catalogs with the same entries are equal whatever order they were filled
in.
-/

namespace ApiProxy

/-- Put a value under a name into entries that ascend by name, replacing an equal name. -/
def putAscending {α : Type} (name : String) (value : α) :
    List (String × α) → List (String × α)
  | [] => [(name, value)]
  | e :: es =>
    if name < e.1 then (name, value) :: e :: es
    else if name = e.1 then (name, value) :: es
    else e :: putAscending name value es

/-- Every entry after putting one is that one or was there before. -/
theorem eq_or_mem_of_mem_putAscending {α : Type} {name : String} {value : α}
    {es : List (String × α)} {e : String × α} (h : e ∈ putAscending name value es) :
    e = (name, value) ∨ e ∈ es := by
  induction es with
  | nil => simpa [putAscending] using h
  | cons d ds ih =>
    simp only [putAscending] at h
    split at h
    · simpa using h
    · split at h
      · rcases List.mem_cons.1 h with h | h
        · exact .inl h
        · exact .inr (List.mem_cons_of_mem _ h)
      · rcases List.mem_cons.1 h with h | h
        · exact .inr (h ▸ List.mem_cons_self)
        · exact (ih h).imp id (List.mem_cons_of_mem _)

/-- Putting an entry keeps the names ascending. -/
theorem pairwise_putAscending {α : Type} (name : String) (value : α) {es : List (String × α)}
    (h : es.Pairwise (·.1 < ·.1)) : (putAscending name value es).Pairwise (·.1 < ·.1) := by
  induction es with
  | nil => simp [putAscending]
  | cons e es ih =>
    obtain ⟨he, hes⟩ := List.pairwise_cons.1 h
    simp only [putAscending]
    split
    · next hlt =>
      refine List.pairwise_cons.2 ⟨fun d hd => ?_, h⟩
      rcases List.mem_cons.1 hd with rfl | hd
      · exact hlt
      · exact String.lt_trans hlt (he d hd)
    · split
      · next heq => exact List.pairwise_cons.2 ⟨fun d hd => by simpa [heq] using he d hd, hes⟩
      · next hnlt hne =>
        refine List.pairwise_cons.2 ⟨fun d hd => ?_, ih hes⟩
        rcases eq_or_mem_of_mem_putAscending hd with rfl | hd
        · rcases String.le_total name e.1 with hle | hle
          · exact absurd (String.le_antisymm hle (String.not_lt.1 hnlt)) hne
          · exact String.not_le.1 fun hle' => hne (String.le_antisymm hle' hle)
        · exact he d hd

/-- After putting a value under a name, that name has this value and every other name the one
it had. -/
theorem find?_putAscending {α : Type} (name : String) (value : α) (es : List (String × α))
    (n : String) :
    (putAscending name value es).find? (·.1 == n) =
      if name = n then some (name, value) else es.find? (·.1 == n) := by
  induction es with
  | nil => by_cases h : name = n <;> simp [putAscending, h]
  | cons e es ih =>
    simp only [putAscending]
    split
    · by_cases h : name = n <;> simp [h]
    · split
      · next heq => by_cases h : name = n <;> simp [h, ← heq]
      · next hne =>
        by_cases he : e.1 = n
        · have : name ≠ n := fun h => hne (h.trans he.symm)
          simp [he, this]
        · simp only [List.find?_cons, beq_eq_false_iff_ne.2 he, ih]

theorem putAscending_putAscending {α : Type} (name : String) (value value' : α)
    (es : List (String × α)) :
    putAscending name value' (putAscending name value es) = putAscending name value' es := by
  induction es with
  | nil => simp [putAscending, String.lt_irrefl]
  | cons e es ih =>
    by_cases hlt : name < e.1
    · simp [putAscending, hlt, String.lt_irrefl]
    · by_cases heq : name = e.1
      · simp [putAscending, ← heq, String.lt_irrefl]
      · simp [putAscending, hlt, heq, ih]

/-- Values by name, each name once, in ascending order. -/
structure Catalog (α : Type) where
  entries : List (String × α)
  ascending : entries.Pairwise (·.1 < ·.1)
deriving DecidableEq

namespace Catalog

variable {α : Type}

/-- The catalog with nothing in it. -/
def empty : Catalog α := ⟨[], .nil⟩

instance : Inhabited (Catalog α) := ⟨empty⟩

/-- Put a value under a name, replacing what was there. -/
def put (c : Catalog α) (name : String) (value : α) : Catalog α :=
  ⟨putAscending name value c.entries, pairwise_putAscending name value c.ascending⟩

/-- Put entries one after the other: of two with one name the later stays. -/
def ofList (es : List (String × α)) : Catalog α :=
  es.foldl (fun c e => c.put e.1 e.2) empty

/-- The value under a name. -/
def get? (c : Catalog α) (name : String) : Option α :=
  (c.entries.find? (·.1 == name)).map (·.2)

/-- The names, ascending. -/
def names (c : Catalog α) : List String := c.entries.map (·.1)

/-- The values in the order of their names. -/
def values (c : Catalog α) : List α := c.entries.map (·.2)

theorem names_ascending (c : Catalog α) : c.names.Pairwise (· < ·) :=
  List.pairwise_map.2 c.ascending

end Catalog

end ApiProxy
