import ApiProxy.Text.Blank
import Mathlib.Data.List.TakeWhile

/-!
# Blanks in front of and behind a text

Skipping blanks and trimming, in terms of what a text is made of: `Blanks s r` says that `s` is
a run of blanks and then `r`, and `Token c s r` that the character `c` stands between the two.

## Main results

* `Text.token_iff`, `Text.blanks_nil_iff`: what skipping blanks finds.
* `Text.trimBlank_eq_nil_iff`: nothing is left of a blank text, and of no other.
* `Text.trimBlank_trimBlank`: trimming once is enough.
* `Text.getLast?_trimBlank_of_token`: where a trimmed text ends.
-/

namespace ApiProxy.Text

/-- A text is a run of blanks and then another text. -/
def Blanks (s r : List Char) : Prop := ∃ ws, (∀ c ∈ ws, isBlank c) ∧ s = ws ++ r

/-- A text is a run of blanks, then a character, and then another text. -/
def Token (c : Char) (s r : List Char) : Prop := Blanks s (c :: r)

theorem Blanks.refl (s : List Char) : Blanks s s := ⟨[], by simp, rfl⟩

theorem Blanks.trans {s t u : List Char} (h : Blanks s t) (h' : Blanks t u) : Blanks s u := by
  obtain ⟨ws, hws, rfl⟩ := h
  obtain ⟨vs, hvs, rfl⟩ := h'
  exact ⟨ws ++ vs, fun c hc => (List.mem_append.1 hc).elim (hws c) (hvs c), by simp⟩

theorem blanks_skipBlank (s : List Char) : Blanks s (skipBlank s) :=
  ⟨s.takeWhile isBlank, fun _ hc => List.mem_takeWhile_imp hc,
    (List.takeWhile_append_dropWhile).symm⟩

theorem skipBlank_append {ws r : List Char} (h : ∀ c ∈ ws, isBlank c) :
    skipBlank (ws ++ r) = skipBlank r := by
  rw [skipBlank, List.dropWhile_append_of_pos h]
  rfl

theorem Blanks.skipBlank_eq {s r : List Char} (h : Blanks s r) : skipBlank s = skipBlank r := by
  obtain ⟨ws, hws, rfl⟩ := h
  exact skipBlank_append hws

theorem skipBlank_cons {c : Char} {r : List Char} (h : isBlank c = false) :
    skipBlank (c :: r) = c :: r := by
  simp [skipBlank, h]

theorem skipBlank_skipBlank (s : List Char) : skipBlank (skipBlank s) = skipBlank s :=
  (blanks_skipBlank s).skipBlank_eq.symm

theorem trimBlank_skipBlank (s : List Char) : trimBlank (skipBlank s) = trimBlank s := by
  rw [trimBlank, skipBlank_skipBlank]
  rfl

/-- Nothing is left of a text without the blanks at its ends if and only if it is blank. -/
theorem trimBlank_eq_nil_iff {s : List Char} : trimBlank s = [] ↔ ∀ c ∈ s, isBlank c = true := by
  rw [trimBlank, dropTrailingBlank, List.reverse_eq_nil_iff, List.dropWhile_eq_nil_iff]
  constructor
  · intro h c hc
    rw [← List.takeWhile_append_dropWhile (p := isBlank) (l := s), List.mem_append] at hc
    rcases hc with hc | hc
    · exact List.mem_takeWhile_imp hc
    · exact h c (List.mem_reverse.2 hc)
  · intro h c hc
    exact h c ((skipBlank_suffix s).subset (List.mem_reverse.1 hc))

theorem skipBlank_append_of_visible {s r : List Char} (h : ∃ c ∈ s, isBlank c = false) :
    skipBlank (s ++ r) = skipBlank s ++ r := by
  obtain ⟨c, hc, hb⟩ := h
  have hne : (s.dropWhile isBlank).isEmpty = false := by
    rw [List.isEmpty_eq_false_iff, Ne, List.dropWhile_eq_nil_iff]
    intro hall
    simp [hall c hc] at hb
  rw [skipBlank, List.dropWhile_append, hne]
  rfl

/-- A character that is not blank is found behind blanks as it stands. -/
theorem token_iff {c : Char} {s r : List Char} (hc : isBlank c = false) :
    Token c s r ↔ skipBlank s = c :: r := by
  constructor
  · intro h
    rw [h.skipBlank_eq, skipBlank_cons hc]
  · intro h
    have := blanks_skipBlank s
    rwa [h] at this

/-- Nothing is left of a text without its blanks if and only if it is blank. -/
theorem blanks_nil_iff {s : List Char} : Blanks s [] ↔ skipBlank s = [] := by
  constructor
  · intro h
    exact h.skipBlank_eq
  · intro h
    have := blanks_skipBlank s
    rwa [h] at this

theorem dropTrailingBlank_append {s ws : List Char} (h : ∀ c ∈ ws, isBlank c) :
    dropTrailingBlank (s ++ ws) = dropTrailingBlank s := by
  rw [dropTrailingBlank, List.reverse_append, List.dropWhile_append_of_pos (by simpa using h)]
  rfl

theorem exists_dropTrailingBlank_append (s : List Char) :
    ∃ ws, (∀ c ∈ ws, isBlank c) ∧ s = dropTrailingBlank s ++ ws := by
  refine ⟨(s.reverse.takeWhile isBlank).reverse, fun c hc => ?_, ?_⟩
  · exact List.mem_takeWhile_imp (List.mem_reverse.1 hc)
  · rw [dropTrailingBlank, ← List.reverse_append, List.takeWhile_append_dropWhile,
      List.reverse_reverse]

theorem dropTrailingBlank_sublist (s : List Char) : (dropTrailingBlank s).Sublist s := by
  obtain ⟨ws, -, heq⟩ := exists_dropTrailingBlank_append s
  exact List.IsPrefix.sublist ⟨ws, heq.symm⟩

theorem exists_trimBlank_append (s : List Char) :
    ∃ ws, (∀ c ∈ ws, isBlank c) ∧ Blanks s (trimBlank s ++ ws) := by
  obtain ⟨ws, hws, heq⟩ := exists_dropTrailingBlank_append (skipBlank s)
  have := blanks_skipBlank s
  rw [heq] at this
  exact ⟨ws, hws, this⟩

theorem trimBlank_append {s ws : List Char} (h : ∀ c ∈ ws, isBlank c) :
    trimBlank (s ++ ws) = trimBlank s := by
  by_cases hs : ∀ c ∈ s, isBlank c = true
  · rw [trimBlank_eq_nil_iff.2 hs, trimBlank_eq_nil_iff]
    intro c hc
    rcases List.mem_append.1 hc with hc | hc
    · exact hs c hc
    · exact h c hc
  · have hvisible : ∃ c ∈ s, isBlank c = false := by
      by_contra hnone
      exact hs fun c hc => by
        by_contra hb
        exact hnone ⟨c, hc, by simpa using hb⟩
    rw [trimBlank, skipBlank_append_of_visible hvisible, dropTrailingBlank_append h]
    rfl

/-- Trimming once is enough. -/
theorem trimBlank_trimBlank (s : List Char) : trimBlank (trimBlank s) = trimBlank s := by
  obtain ⟨ws, hws, hblanks⟩ := exists_trimBlank_append s
  calc trimBlank (trimBlank s) = trimBlank (trimBlank s ++ ws) := (trimBlank_append hws).symm
    _ = trimBlank (skipBlank (trimBlank s ++ ws)) := (trimBlank_skipBlank _).symm
    _ = trimBlank (skipBlank s) := by rw [hblanks.skipBlank_eq]
    _ = trimBlank s := trimBlank_skipBlank s

theorem trimBlank_eq_self {s : List Char} (hhead : ∀ c ∈ s.head?, isBlank c = false)
    (hlast : ∀ c ∈ s.getLast?, isBlank c = false) : trimBlank s = s := by
  have hdrop {t : List Char} (ht : ∀ c ∈ t.head?, isBlank c = false) : t.dropWhile isBlank = t := by
    cases t with
    | nil => rfl
    | cons c t => exact List.dropWhile_cons_of_neg (by simp [ht c rfl])
  rw [trimBlank, skipBlank, hdrop hhead, dropTrailingBlank,
    hdrop (by rwa [List.head?_reverse]), List.reverse_reverse]

theorem head_trimBlank (s : List Char) : ∀ c ∈ (trimBlank s).head?, isBlank c = false := by
  intro c hc
  obtain ⟨ws, -, hsplit⟩ := exists_dropTrailingBlank_append (skipBlank s)
  have hskip : c ∈ (s.dropWhile isBlank).head? := by
    rw [← skipBlank, hsplit, List.head?_append, ← trimBlank, Option.mem_def.1 hc]
    rfl
  have := List.head?_dropWhile_not isBlank s
  rw [Option.mem_def.1 hskip] at this
  simpa using this

theorem getLast_trimBlank (s : List Char) : ∀ c ∈ (trimBlank s).getLast?, isBlank c = false := by
  intro c hc
  rw [trimBlank, dropTrailingBlank, List.getLast?_reverse] at hc
  have := List.head?_dropWhile_not isBlank (skipBlank s).reverse
  rw [Option.mem_def.1 hc] at this
  simpa using this

theorem trimBlank_sublist (s : List Char) : (trimBlank s).Sublist s :=
  (dropTrailingBlank_sublist _).trans (skipBlank_suffix s).sublist

theorem getLast?_of_suffix {s t : List Char} {c : Char} (h : t <:+ s) (hc : c ∈ t.getLast?) :
    c ∈ s.getLast? := by
  obtain ⟨front, rfl⟩ := h
  rw [List.getLast?_append, Option.mem_def.1 hc]
  rfl

theorem trimBlank_eq_skipBlank {s : List Char} (h : ∀ c ∈ s.getLast?, isBlank c = false) :
    trimBlank s = skipBlank s := by
  rw [← trimBlank_skipBlank]
  refine trimBlank_eq_self (fun c hc => ?_) fun c hc => ?_
  · have := List.head?_dropWhile_not isBlank s
    rw [← skipBlank, Option.mem_def.1 hc] at this
    simpa using this
  · exact h c (getLast?_of_suffix (skipBlank_suffix s) hc)

theorem getLast?_skipBlank {c : Char} {s : List Char} (hc : isBlank c = false)
    (h : c ∈ s.getLast?) : c ∈ (skipBlank s).getLast? := by
  obtain ⟨ws, hws, hsplit⟩ := blanks_skipBlank s
  rw [hsplit, List.getLast?_append] at h
  cases hleft : (skipBlank s).getLast? with
  | some d => rwa [hleft] at h
  | none =>
    rw [hleft, Option.none_or] at h
    exact absurd (hc.symm.trans (hws c (List.mem_of_getLast? h))) Bool.false_ne_true

/-- A character with nothing but blanks behind it is the last one of the trimmed text, unless it is
blank. -/
theorem getLast?_trimBlank_of_token {c : Char} {s t r : List Char} (hc : isBlank c = false)
    (ht : t <:+ s) (htoken : Token c t r) (hr : Blanks r []) : c ∈ (trimBlank s).getLast? := by
  obtain ⟨front, rfl⟩ := ht
  obtain ⟨ws, -, rfl⟩ := htoken
  obtain ⟨vs, hvs, rfl⟩ := hr
  have hsplit : front ++ (ws ++ c :: (vs ++ [])) = (front ++ ws ++ [c]) ++ vs := by simp
  have hlast : c ∈ (front ++ ws ++ [c]).getLast? := List.getLast?_concat
  have hvisible : ∀ d ∈ (front ++ ws ++ [c]).getLast?, isBlank d = false :=
    fun d hd => Option.mem_unique hlast hd ▸ hc
  rw [hsplit, trimBlank_append hvs, trimBlank_eq_skipBlank hvisible]
  exact getLast?_skipBlank hc hlast

end ApiProxy.Text
