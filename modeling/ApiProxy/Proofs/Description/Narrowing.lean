import ApiProxy.Description.Selection
import ApiProxy.Proofs.Description.RoundTrip

/-!
# Reading back a narrowed description

A description is narrowed to one module before it is saved. What is left has the module under the
name that was found first, so the same selection finds it again and leaves everything. Leaving out
modules takes nothing else away, so the narrowed description is read from its text like the one that
it came from.

## Main results

* `ApiDescription.selectModule_of_selectModule`: narrowing twice is narrowing once.
* `ApiDescription.ofText_text_of_selectModule`: a narrowed description is read from its own text.
-/

namespace ApiProxy

open Json Json.Codec

namespace ApiDescription

variable {m m' : ApiDescription} {name key : String}

/-! ### Narrowing twice -/

theorem names_keepModule (m : ApiDescription) (key : String) :
    (m.keepModule key).modules.names = m.modules.names.filter (· == key) := by
  rw [Catalog.names, Catalog.names, List.filter_map]
  rfl

theorem keepModule_keepModule (m : ApiDescription) (key : String) :
    (m.keepModule key).keepModule key = m.keepModule key := by
  rw [keepModule, keepModule]
  congr 2
  exact List.filter_filter.trans (by simp only [Bool.and_self])

theorem moduleName?_keepModule (h : m.moduleName? name = some key) :
    (m.keepModule key).moduleName? name = some key := by
  have hkey : key ∈ (m.keepModule key).modules.names := by
    rw [names_keepModule]
    exact List.mem_filter.2 ⟨List.mem_of_find?_eq_some h, beq_self_eq_true key⟩
  cases hfind : (m.keepModule key).moduleName? name with
  | none => exact absurd (List.find?_some h) (List.find?_eq_none.1 hfind key hkey)
  | some found =>
    have hfound := List.mem_of_find?_eq_some hfind
    rw [names_keepModule, List.mem_filter, beq_iff_eq] at hfound
    rw [hfound.2]

/-- Narrowing a description to a module leaves one that the same selection leaves as it is. -/
theorem selectModule_of_selectModule (h : m.selectModule name = .ok m') :
    m'.selectModule name = .ok m' := by
  rw [selectModule] at h
  split at h
  · next key hkey =>
    obtain rfl := Except.ok.inj h
    rw [selectModule, moduleName?_keepModule hkey]
    exact congrArg Except.ok (m.keepModule_keepModule key)
  · cases h

/-! ### Reading back -/

theorem restores_keepModule {budget : Nat} (h : codec.Restores (budget + 2) m) (key : String) :
    codec.Restores (budget + 2) (m.keepModule key) := by
  obtain ⟨hmodules, htypes⟩ := codec_restores_iff.1 h
  rw [catalog_restores_iff] at hmodules
  exact codec_restores_iff.2
    ⟨catalog_restores fun e he => hmodules e (List.mem_of_mem_filter he), htypes⟩

/-- A description that was read and then narrowed is read from its own text, if the doubles in it
are read back. -/
theorem ofText_text_of_selectModule {document : String} (h : ofText document = .ok m)
    (hselect : m.selectModule name = .ok m')
    (hdouble : ∀ d, Number.double d ∈ (codec.write m').numbers → (Number.double d).ReadsBack) :
    ofText m'.text = .ok m' := by
  have hrestores : codec.Restores Outline.maxDepth m :=
    (codec_faithful 0).restores_of_ofText (by decide) h
  rw [selectModule] at hselect
  split at hselect
  · next key _ =>
    obtain rfl := Except.ok.inj hselect
    exact (restores_keepModule hrestores key).ofText_indented hdouble
  · cases hselect

end ApiDescription

end ApiProxy
