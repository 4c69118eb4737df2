import ApiProxy.Path
import Mathlib.Data.List.Basic

/-!
# Parts between slashes

A text has one part more than it has slashes. No part has a slash, each has only characters of the
text, and parts without slashes that are joined with slashes between them are found again.

## Main results

* `slashParts_part`: a part of a text is its own only part.
* `exists_slashParts_append`: what is put behind a text ends its last part.
* `slashParts_intercalate`: joined parts are the parts of what they are joined to.
-/

namespace ApiProxy

theorem splitSlash_ne_nil (cs : List Char) : splitSlash cs ≠ [] := by
  cases cs with
  | nil => exact List.cons_ne_nil _ _
  | cons c cs =>
    rw [splitSlash]
    split
    · exact List.cons_ne_nil _ _
    · split <;> exact List.cons_ne_nil _ _

theorem splitSlash_of_not_mem {cs : List Char} (h : '/' ∉ cs) : splitSlash cs = [cs] := by
  induction cs with
  | nil => rfl
  | cons c cs ih =>
    rw [List.mem_cons, not_or] at h
    rw [splitSlash, if_neg (Ne.symm h.1), ih h.2]

theorem not_mem_of_mem_splitSlash {cs part : List Char} (h : part ∈ splitSlash cs) :
    '/' ∉ part := by
  induction cs generalizing part with
  | nil =>
    obtain rfl := List.mem_singleton.1 h
    exact List.not_mem_nil
  | cons c cs ih =>
    rw [splitSlash] at h
    split at h
    · rcases List.mem_cons.1 h with rfl | h
      · exact List.not_mem_nil
      · exact ih h
    next hc =>
    split at h
    · obtain rfl := List.mem_singleton.1 h
      exact fun hmem => hc (List.mem_singleton.1 hmem).symm
    · next first parts hsplit =>
      rcases List.mem_cons.1 h with rfl | h
      · have hfirst : '/' ∉ first := ih (hsplit ▸ List.mem_cons_self)
        exact fun hmem => (List.mem_cons.1 hmem).elim (fun heq => hc heq.symm) hfirst
      · exact ih (hsplit ▸ List.mem_cons_of_mem _ h)

theorem exists_splitSlash_append (cs : List Char) :
    ∃ front last, ∀ tail : List Char, '/' ∉ tail →
      splitSlash (cs ++ tail) = front ++ [last ++ tail] := by
  induction cs with
  | nil => exact ⟨[], [], fun tail h => splitSlash_of_not_mem h⟩
  | cons c cs ih =>
    obtain ⟨front, last, hsplit⟩ := ih
    by_cases hc : c = '/'
    · refine ⟨[] :: front, last, fun tail h => ?_⟩
      rw [List.cons_append, splitSlash, if_pos hc, hsplit tail h]
      rfl
    · cases front with
      | nil =>
        refine ⟨[], c :: last, fun tail h => ?_⟩
        rw [List.cons_append, splitSlash, if_neg hc, hsplit tail h]
        rfl
      | cons first front =>
        refine ⟨(c :: first) :: front, last, fun tail h => ?_⟩
        rw [List.cons_append, splitSlash, if_neg hc, hsplit tail h]
        rfl

theorem exists_slashParts_append (s : String) :
    ∃ front last, ∀ tail : String, '/' ∉ tail.toList →
      slashParts (s ++ tail) = front ++ [last ++ tail] := by
  obtain ⟨front, last, hsplit⟩ := exists_splitSlash_append s.toList
  refine ⟨front.map String.ofList, String.ofList last, fun tail h => ?_⟩
  rw [slashParts, String.toList_append, hsplit tail.toList h, List.map_append, List.map_singleton,
    String.ofList_append, String.ofList_toList]

theorem slashParts_of_not_mem {part : String} (h : '/' ∉ part.toList) :
    slashParts part = [part] := by
  rw [slashParts, splitSlash_of_not_mem h, List.map_singleton, String.ofList_toList]

theorem slashParts_part {text part : String} (h : part ∈ slashParts text) :
    slashParts part = [part] := by
  obtain ⟨cs, hcs, rfl⟩ := List.mem_map.1 h
  refine slashParts_of_not_mem ?_
  rw [String.toList_ofList]
  exact not_mem_of_mem_splitSlash hcs

theorem exists_slashParts_eq (text : String) :
    ∃ front last, slashParts text = front ++ [last] := by
  have hne : slashParts text ≠ [] := fun h => splitSlash_ne_nil _ (List.map_eq_nil_iff.1 h)
  exact ⟨_, _, (List.dropLast_concat_getLast hne).symm⟩

theorem subset_of_mem_splitSlash {cs part : List Char} (h : part ∈ splitSlash cs) :
    part ⊆ cs := by
  induction cs generalizing part with
  | nil =>
    obtain rfl := List.mem_singleton.1 h
    exact List.Subset.refl _
  | cons c cs ih =>
    rw [splitSlash] at h
    split at h
    · rcases List.mem_cons.1 h with rfl | h
      · exact List.nil_subset _
      · exact List.subset_cons_of_subset c (ih h)
    split at h
    · obtain rfl := List.mem_singleton.1 h
      exact List.cons_subset_cons c (List.nil_subset _)
    · next first parts hsplit =>
      rcases List.mem_cons.1 h with rfl | h
      · exact List.cons_subset_cons c (ih (hsplit ▸ List.mem_cons_self))
      · exact List.subset_cons_of_subset c (ih (hsplit ▸ List.mem_cons_of_mem _ h))

theorem subset_of_mem_slashParts {text part : String} (h : part ∈ slashParts text) :
    part.toList ⊆ text.toList := by
  obtain ⟨cs, hcs, rfl⟩ := List.mem_map.1 h
  rw [String.toList_ofList]
  exact subset_of_mem_splitSlash hcs

theorem splitSlash_append_slash (cs ds : List Char) :
    splitSlash (cs ++ '/' :: ds) = splitSlash cs ++ splitSlash ds := by
  induction cs with
  | nil => exact if_pos rfl
  | cons c cs ih =>
    rw [List.cons_append, splitSlash, splitSlash, ih]
    split
    · rfl
    · obtain ⟨first, parts, hsplit⟩ := List.exists_cons_of_ne_nil (splitSlash_ne_nil cs)
      rw [hsplit]
      rfl

theorem slashParts_append_slash (s t : String) :
    slashParts (s ++ "/" ++ t) = slashParts s ++ slashParts t := by
  have hlist : (s ++ "/" ++ t).toList = s.toList ++ '/' :: t.toList := by simp
  rw [slashParts, hlist, splitSlash_append_slash, List.map_append]
  rfl

/-- Parts without slashes are what the text that they are joined to is cut into. -/
theorem slashParts_intercalate {parts : List String} (hne : parts ≠ [])
    (h : ∀ part ∈ parts, slashParts part = [part]) :
    slashParts ("/".intercalate parts) = parts := by
  induction parts with
  | nil => exact absurd rfl hne
  | cons part parts ih =>
    obtain ⟨hpart, h⟩ := List.forall_mem_cons.1 h
    cases parts with
    | nil => rw [String.intercalate_singleton, hpart]
    | cons next parts =>
      rw [String.intercalate_cons_cons, slashParts_append_slash, hpart,
        ih (List.cons_ne_nil _ _) h, List.singleton_append]

theorem intercalate_splitSlash (cs : List Char) : ['/'].intercalate (splitSlash cs) = cs := by
  induction cs with
  | nil => rfl
  | cons c cs ih =>
    obtain ⟨first, parts, hsplit⟩ := List.exists_cons_of_ne_nil (splitSlash_ne_nil cs)
    rw [splitSlash]
    split
    · next hc =>
      rw [List.intercalate_cons_of_ne_nil (splitSlash_ne_nil cs), ih, hc]
      rfl
    · rw [hsplit] at ih ⊢
      cases parts with
      | nil => exact congrArg (List.cons c) ih
      | cons next parts =>
        rw [List.intercalate_cons_cons] at ih ⊢
        exact congrArg (List.cons c) ih

theorem head?_slashParts_of_slash {text : String} (h : text.toList.head? = some '/') :
    (slashParts text).head? = some "" := by
  obtain ⟨cs, hcs⟩ := List.head?_eq_some_iff.1 h
  rw [slashParts, hcs, splitSlash, if_pos rfl]
  rfl

/-- A text is its first part, or goes on with a slash. -/
theorem eq_or_of_head?_slashParts {text part : String} (h : (slashParts text).head? = some part) :
    text = part ∨ ∃ cs, text.toList = part.toList ++ '/' :: cs := by
  obtain ⟨first, parts, hsplit⟩ := List.exists_cons_of_ne_nil (splitSlash_ne_nil text.toList)
  rw [slashParts, hsplit, List.map_cons, List.head?_cons, Option.some.injEq] at h
  have hjoin := intercalate_splitSlash text.toList
  rw [hsplit] at hjoin
  obtain rfl := h
  rw [String.toList_ofList]
  cases parts with
  | nil =>
    refine .inl ?_
    rw [List.intercalate_singleton] at hjoin
    rw [hjoin, String.ofList_toList]
  | cons next parts =>
    refine .inr ⟨['/'].intercalate (next :: parts), ?_⟩
    rw [← hjoin, List.intercalate_cons_cons, List.append_assoc, List.singleton_append]

end ApiProxy
