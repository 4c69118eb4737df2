import ApiProxy.Text.Blank

/-!
# Import sets

The namespaces that a generated file has to import. A set holds each namespace once, in
ascending order of characters, and never a blank one, so what is written at the head of a
file depends only on which namespaces were needed, not on who asked for them or when.
-/

namespace ApiProxy

open Text

/-- Add a namespace to ascending namespaces, unless it is there. -/
def addNamespace (name : String) : List String → List String
  | [] => [name]
  | n :: ns =>
    if name < n then name :: n :: ns
    else if name = n then n :: ns
    else n :: addNamespace name ns

theorem mem_addNamespace {name n : String} {ns : List String} :
    n ∈ addNamespace name ns ↔ n = name ∨ n ∈ ns := by
  induction ns with
  | nil => simp [addNamespace]
  | cons m ms ih => grind [addNamespace]

theorem pairwise_addNamespace (name : String) {ns : List String} (h : ns.Pairwise (· < ·)) :
    (addNamespace name ns).Pairwise (· < ·) := by
  induction ns with
  | nil => simp [addNamespace]
  | cons m ms ih =>
    obtain ⟨hm, hms⟩ := List.pairwise_cons.1 h
    simp only [addNamespace]
    split
    · next hlt =>
      refine List.pairwise_cons.2 ⟨fun d hd => ?_, h⟩
      rcases List.mem_cons.1 hd with rfl | hd
      · exact hlt
      · exact String.lt_trans hlt (hm d hd)
    · split
      · exact h
      · next hnlt hne =>
        refine List.pairwise_cons.2 ⟨fun d hd => ?_, ih hms⟩
        rcases mem_addNamespace.1 hd with rfl | hd
        · exact String.not_le.1 fun hle => hne (String.le_antisymm hle (String.not_lt.1 hnlt))
        · exact hm d hd

/-- The namespaces a file imports: ascending, each once, none blank. -/
structure ImportSet where
  namespaces : List String
  ascending : namespaces.Pairwise (· < ·)
  notBlank : ∀ n ∈ namespaces, allBlank n = false
deriving DecidableEq

namespace ImportSet

/-- The set that imports nothing. -/
def empty : ImportSet := ⟨[], .nil, by simp⟩

instance : Inhabited ImportSet := ⟨empty⟩

instance : EmptyCollection ImportSet := ⟨empty⟩

/-- Add a namespace; a blank one is ignored. -/
def insert (s : ImportSet) (name : String) : ImportSet :=
  if h : allBlank name = true then s
  else
    { namespaces := addNamespace name s.namespaces
      ascending := pairwise_addNamespace name s.ascending
      notBlank := fun n hn => by
        rcases mem_addNamespace.1 hn with rfl | hn
        · simpa using h
        · exact s.notBlank n hn }

instance : Insert String ImportSet := ⟨fun name s => s.insert name⟩

instance : Singleton String ImportSet := ⟨fun name => empty.insert name⟩

instance : Membership String ImportSet := ⟨fun s n => n ∈ s.namespaces⟩

instance (s : ImportSet) (n : String) : Decidable (n ∈ s) :=
  inferInstanceAs (Decidable (n ∈ s.namespaces))

/-- Add namespaces one after the other. -/
def insertMany (s : ImportSet) (names : List String) : ImportSet :=
  names.foldl insert s

/-- The set of the given namespaces. -/
def ofList (names : List String) : ImportSet :=
  empty.insertMany names

/-- Add everything that another set imports. -/
def union (s t : ImportSet) : ImportSet :=
  s.insertMany t.namespaces

instance : Union ImportSet := ⟨union⟩

/-- How many namespaces are imported. -/
def size (s : ImportSet) : Nat := s.namespaces.length

/-- Whether nothing is imported. -/
def isEmpty (s : ImportSet) : Bool := s.namespaces.isEmpty

/-- The import directives, one a line, without a line end behind the last. -/
def render (s : ImportSet) : String :=
  "\n".intercalate (s.namespaces.map fun n => "using " ++ n ++ ";")

theorem mem_insert {s : ImportSet} {name n : String} :
    n ∈ s.insert name ↔ n ∈ s ∨ (n = name ∧ allBlank name = false) := by
  change n ∈ (s.insert name).namespaces ↔ n ∈ s.namespaces ∨ _
  rw [insert]
  split
  · next h => simp [h]
  · next h => simp [mem_addNamespace, h, or_comm]

theorem mem_insertMany {s : ImportSet} {names : List String} {n : String} :
    n ∈ s.insertMany names ↔ n ∈ s ∨ (n ∈ names ∧ allBlank n = false) := by
  induction names generalizing s with
  | nil => simp [insertMany]
  | cons name names ih =>
    have h : s.insertMany (name :: names) = (s.insert name).insertMany names := rfl
    rw [h, ih, mem_insert, List.mem_cons]
    grind

theorem mem_ofList {names : List String} {n : String} :
    n ∈ ofList names ↔ n ∈ names ∧ allBlank n = false := by
  have h : ¬n ∈ empty := List.not_mem_nil
  simp [ofList, mem_insertMany, h]

theorem mem_union {s t : ImportSet} {n : String} : n ∈ s ∪ t ↔ n ∈ s ∨ n ∈ t := by
  change n ∈ s.insertMany t.namespaces ↔ _
  rw [mem_insertMany]
  exact or_congr_right ⟨fun h => h.1, fun h => ⟨h, t.notBlank n h⟩⟩

end ImportSet

end ApiProxy
