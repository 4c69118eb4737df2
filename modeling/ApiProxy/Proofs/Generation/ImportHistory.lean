import ApiProxy.Proofs.TypeRef.Composition

/-!
# Histories of import sets

The imports of a file are collected in many steps: namespaces are added one by one or together, sets
that were collected elsewhere are merged, and a set may start anew with given namespaces. What a set
holds in the end are the namespaces that were supplied since it last started anew, without the blank
ones, whichever steps supplied them.

Whether a namespace is blank is looked at when it is added, but not when a set is merged. No blank
one gets in that way, since the merged set has a history of the same kind.

## Main definitions

* `ImportStep`: a step in the history of a set.
* `ImportStep.importsAfter`: the set after a history.
* `ImportStep.fillAll`: the namespaces that are stored after a history.
* `ImportStep.Supplied`: a namespace is supplied since a set last started anew.

## Main results

* `ImportStep.namespaces_applyAll`: what is stored is what the set holds.
* `ImportStep.imports_from_supplied`: what a set holds after any steps, and that it depends on the
  supplied namespaces only.
-/

namespace ApiProxy

open Text

/-- A step in the history of a set of imports. -/
inductive ImportStep where
  /-- A namespace is added. -/
  | insert (name : String)
  /-- Namespaces are added one after the other. -/
  | extend (names : List String)
  /-- The set starts anew with some namespaces. -/
  | restart (names : List String)
  /-- A set is merged that has a history of its own. -/
  | merge (steps : List ImportStep)

/-! ### Supplied namespaces -/

namespace ImportStep

/-- A step after which nothing is left of what was supplied before. -/
def isRestart : ImportStep → Bool
  | restart _ => true
  | insert _ | extend _ | merge _ => false

mutual

/-- A step supplies a namespace. -/
inductive Supplies : ImportStep → String → Prop
  | insert {name : String} : Supplies (.insert name) name
  | extend {names : List String} {name : String} (h : name ∈ names) : Supplies (.extend names) name
  | restart {names : List String} {name : String} (h : name ∈ names) :
      Supplies (.restart names) name
  | merge {steps : List ImportStep} {name : String} (h : Supplied steps name) :
      Supplies (.merge steps) name

/-- One of some steps supplies a namespace, and with no later one the set starts anew. -/
inductive Supplied : List ImportStep → String → Prop
  | here {step : ImportStep} {steps : List ImportStep} {name : String} (h : step.Supplies name)
      (hsteps : ∀ later ∈ steps, later.isRestart = false) : Supplied (step :: steps) name
  | later {step : ImportStep} {steps : List ImportStep} {name : String} (h : Supplied steps name) :
      Supplied (step :: steps) name

end

variable {name n : String} {names : List String} {step : ImportStep} {steps : List ImportStep}

@[simp] theorem supplies_insert : (insert name).Supplies n ↔ n = name :=
  ⟨fun | .insert => rfl, fun h => h ▸ .insert⟩

@[simp] theorem supplies_extend : (extend names).Supplies n ↔ n ∈ names :=
  ⟨fun | .extend h => h, .extend⟩

@[simp] theorem supplies_restart : (restart names).Supplies n ↔ n ∈ names :=
  ⟨fun | .restart h => h, .restart⟩

@[simp] theorem supplies_merge : (merge steps).Supplies n ↔ Supplied steps n :=
  ⟨fun | .merge h => h, .merge⟩

@[simp] theorem not_supplied_nil : ¬Supplied [] n := nofun

@[simp] theorem supplied_cons : Supplied (step :: steps) n ↔
    (step.Supplies n ∧ ∀ later ∈ steps, later.isRestart = false) ∨ Supplied steps n :=
  ⟨fun | .here h hsteps => .inl ⟨h, hsteps⟩ | .later h => .inr h,
    fun | .inl h => .here h.1 h.2 | .inr h => .later h⟩

/-! ### The set after some steps -/

mutual

/-- The set after a step. -/
def apply : ImportStep → ImportSet → ImportSet
  | insert name, s => s.insert name
  | extend names, s => s.insertMany names
  | restart names, _ => .ofList names
  | merge steps, s => s ∪ applyAll steps ∅

/-- The set after some steps. -/
def applyAll : List ImportStep → ImportSet → ImportSet
  | [], s => s
  | step :: steps, s => applyAll steps (step.apply s)

end

/-- The set after a history that starts with no namespace. -/
def importsAfter (steps : List ImportStep) : ImportSet := applyAll steps ∅

mutual

/-- The members after a step: those that it supplies and, unless the set starts anew, the old
ones. -/
theorem mem_apply : (step : ImportStep) → (s : ImportSet) → (n ∈ step.apply s ↔
    (n ∈ s ∧ step.isRestart = false) ∨ (step.Supplies n ∧ allBlank n = false))
  | insert name, s => by
    rw [apply, ImportSet.mem_insert, supplies_insert, isRestart, eq_self, and_true]
    exact or_congr_right (and_congr_right fun h => by rw [h])
  | extend names, s => by
    rw [apply, ImportSet.mem_insertMany, supplies_extend, isRestart, eq_self, and_true]
  | restart names, s => by
    rw [apply, ImportSet.mem_ofList, supplies_restart, isRestart, or_iff_right nofun]
  | merge steps, s => by
    rw [apply, ImportSet.mem_union, ← importsAfter, mem_importsAfter steps, supplies_merge,
      isRestart, eq_self, and_true]

/-- The members after some steps: those supplied since the set last started anew, and the old ones
if it never did. -/
theorem mem_applyAll : (steps : List ImportStep) → (s : ImportSet) → (n ∈ applyAll steps s ↔
    (n ∈ s ∧ ∀ step ∈ steps, step.isRestart = false) ∨ (Supplied steps n ∧ allBlank n = false))
  | [], s => by simp [applyAll]
  | step :: steps, s => by
    rw [applyAll, mem_applyAll steps, mem_apply step, supplied_cons, List.forall_mem_cons]
    tauto

theorem mem_importsAfter (steps : List ImportStep) :
    n ∈ importsAfter steps ↔ Supplied steps n ∧ allBlank n = false := by
  rw [importsAfter, mem_applyAll steps, or_iff_right]
  exact fun h => absurd h.1 List.not_mem_nil

end

/-! ### What is stored -/

/-- Add a namespace to those that are stored, unless it is blank. -/
def addVisible (ns : List String) (name : String) : List String :=
  if allBlank name then ns else addNamespace name ns

mutual

/-- The namespaces that are stored after a step. Those of a merged set are stored as they are, even
if they should be blank. -/
def fill : ImportStep → List String → List String
  | insert name, ns => addVisible ns name
  | extend names, ns => names.foldl addVisible ns
  | restart names, _ => names.foldl addVisible []
  | merge steps, ns => (fillAll steps []).foldl (fun ns name => addNamespace name ns) ns

/-- The namespaces that are stored after some steps. -/
def fillAll : List ImportStep → List String → List String
  | [], ns => ns
  | step :: steps, ns => fillAll steps (step.fill ns)

end

theorem namespaces_insert (s : ImportSet) (name : String) :
    (s.insert name).namespaces = addVisible s.namespaces name := by
  rw [ImportSet.insert, addVisible]
  split <;> rfl

theorem namespaces_insertMany (s : ImportSet) (names : List String) :
    (s.insertMany names).namespaces = names.foldl addVisible s.namespaces := by
  induction names generalizing s with
  | nil => rfl
  | cons name names ih =>
    rw [List.foldl_cons, ← namespaces_insert, ← ih]
    rfl

theorem namespaces_union (s t : ImportSet) : (s ∪ t).namespaces =
    t.namespaces.foldl (fun ns name => addNamespace name ns) s.namespaces := by
  have hunion : s ∪ t = s.insertMany t.namespaces := rfl
  rw [hunion, namespaces_insertMany]
  refine List.foldl_ext _ _ _ fun ns name hname => ?_
  rw [addVisible, t.notBlank name hname, if_neg Bool.false_ne_true]

mutual

theorem namespaces_apply : (step : ImportStep) → (s : ImportSet) →
    (step.apply s).namespaces = step.fill s.namespaces
  | insert name, s => namespaces_insert s name
  | extend names, s => namespaces_insertMany s names
  | restart names, _ => namespaces_insertMany ∅ names
  | merge steps, s => by rw [apply, namespaces_union, namespaces_applyAll steps ∅, fill]; rfl

/-- What is stored after some steps is what the set holds. -/
theorem namespaces_applyAll : (steps : List ImportStep) → (s : ImportSet) →
    (applyAll steps s).namespaces = fillAll steps s.namespaces
  | [], _ => by rw [applyAll, fillAll]
  | step :: steps, s => by
    rw [applyAll, fillAll, namespaces_applyAll steps, namespaces_apply step]

end

/-! ### Histories -/

/-- **Imports depend on what was supplied only.** After every history the stored namespaces are in
strictly ascending order, so each is there once, and they are exactly those that were supplied since
the set last started anew and are not blank. After two histories that supplied the same namespaces,
apart from blank ones, the sets have the same size, the same members and the same directives. -/
theorem imports_from_supplied :
    (∀ steps, (importsAfter steps).namespaces = fillAll steps [] ∧
      (fillAll steps []).Pairwise (· < ·) ∧
      ∀ n, n ∈ fillAll steps [] ↔ Supplied steps n ∧ allBlank n = false) ∧
    ∀ steps steps', (∀ n, allBlank n = false → (Supplied steps n ↔ Supplied steps' n)) →
      (importsAfter steps).size = (importsAfter steps').size ∧
      (∀ n, n ∈ importsAfter steps ↔ n ∈ importsAfter steps') ∧
      (importsAfter steps).render = (importsAfter steps').render := by
  refine ⟨fun steps => ?_, fun steps steps' h => ?_⟩
  · have hstored : (importsAfter steps).namespaces = fillAll steps [] :=
      namespaces_applyAll steps ∅
    rw [← hstored]
    exact ⟨rfl, (importsAfter steps).ascending, fun n => mem_importsAfter steps⟩
  · have hsame : importsAfter steps = importsAfter steps' := ImportSet.eq_of_mem_iff fun n => by
      rw [mem_importsAfter, mem_importsAfter]
      exact and_congr_left (h n)
    rw [hsame]
    exact ⟨rfl, fun _ => Iff.rfl, rfl⟩

/-- A set that starts anew, takes the same namespace in twice, and is offered blank ones. -/
def winding : List ImportStep :=
  [insert "Acme.Legacy", restart ["System", ""],
    merge [insert "Acme.Drafts", restart ["Acme.Books", "System"]], insert " ",
    extend ["System.Linq"]]

/-- A set that takes all namespaces in at once. -/
def direct : List ImportStep := [extend ["System.Linq", "Acme.Books", "System"]]

theorem imports_from_supplied_winding :
    (∀ n, allBlank n = false → (Supplied winding n ↔ Supplied direct n)) ∧
    (importsAfter winding).size = (importsAfter direct).size ∧
    (∀ n, n ∈ importsAfter winding ↔ n ∈ importsAfter direct) ∧
    (importsAfter winding).render = (importsAfter direct).render ∧
    (importsAfter direct).render = "using Acme.Books;\nusing System;\nusing System.Linq;" := by
  have hsame : ∀ n, allBlank n = false → (Supplied winding n ↔ Supplied direct n) := by
    intro n hn
    have hempty : n ≠ "" := fun h => absurd (h ▸ hn) (by decide)
    have hblank : n ≠ " " := fun h => absurd (h ▸ hn) (by decide)
    have hwinding : Supplied winding n ↔
        n = "System" ∨ (n = "Acme.Books" ∨ n = "System") ∨ n = "System.Linq" := by
      simp [winding, isRestart, hempty, hblank]
    have hdirect : Supplied direct n ↔
        n = "System.Linq" ∨ n = "Acme.Books" ∨ n = "System" := by
      simp [direct, isRestart]
    rw [hwinding, hdirect]
    tauto
  obtain ⟨hsize, hmem, hrender⟩ := imports_from_supplied.2 winding direct hsame
  exact ⟨hsame, hsize, hmem, hrender, by decide⟩

end ImportStep

end ApiProxy
