import ApiProxy.Proofs.Text.Blank
import ApiProxy.Text.Affix

/-!
# What a text begins with

The tests for the start of a text and for a character in it, as statements on lists of characters,
and the texts that begin with a blank.

## Main definitions

* `Text.BeginsBlank`: a text begins with a blank.

## Main results

* `Text.prefix_of_prefix_append`: a start of two texts that ends within the first one.
* `Text.beginsBlank_iff_of_startsWith`: a blank in front is one in front of every start.
-/

namespace ApiProxy.Text

theorem startsWith_iff {start text : String} :
    startsWith start text = true ↔ start.toList <+: text.toList :=
  List.isPrefixOf_iff_prefix

theorem hasInfix_singleton {c : Char} {cs : List Char} : hasInfix [c] cs = true ↔ c ∈ cs := by
  induction cs with
  | nil => simp [hasInfix]
  | cons d cs ih => simp [hasInfix, List.isPrefixOf, ih]

/-- A start of two texts together that does not have the first character of the second one is a
start of the first one. -/
theorem prefix_of_prefix_append {start front back : List Char} (h : start <+: front ++ back)
    (hback : ∀ c ∈ back.head?, c ∉ start) : start <+: front := by
  rcases List.prefix_or_prefix_of_prefix h (List.prefix_append front back) with hstart | ⟨more, rfl⟩
  · exact hstart
  · rw [List.prefix_append_right_inj] at h
    cases more with
    | nil => simp
    | cons c more =>
      obtain ⟨rest, rfl⟩ := h
      exact absurd (by simp) (hback c rfl)

/-- A text begins with a blank. -/
def BeginsBlank (s : String) : Prop :=
  s.toList.head?.any isBlank = true

instance (s : String) : Decidable (BeginsBlank s) :=
  inferInstanceAs (Decidable (_ = _))

theorem BeginsBlank.append {s : String} (h : BeginsBlank s) (t : String) :
    BeginsBlank (s ++ t) := by
  rw [BeginsBlank, String.toList_append]
  cases hs : s.toList with
  | nil =>
    rw [BeginsBlank, hs] at h
    cases h
  | cons c cs => rwa [BeginsBlank, hs] at h

theorem not_beginsBlank_of_trimBlank {s : String} (h : trimBlank s.toList = s.toList) :
    ¬BeginsBlank s := by
  have hhead := head_trimBlank s.toList
  rw [h] at hhead
  intro hblank
  obtain ⟨c, hc, hb⟩ := (Option.any_eq_true _ _).1 hblank
  rw [hhead c hc] at hb
  cases hb

/-- A text that begins with another one begins with a blank if and only if that one does, unless
it is empty. -/
theorem beginsBlank_iff_of_startsWith {start text : String} (hne : start ≠ "")
    (h : startsWith start text = true) : BeginsBlank text ↔ BeginsBlank start := by
  obtain ⟨rest, hrest⟩ := startsWith_iff.1 h
  cases hstart : start.toList with
  | nil => exact absurd (String.toList_eq_nil_iff.1 hstart) hne
  | cons c cs =>
    rw [BeginsBlank, BeginsBlank, ← hrest, hstart]
    rfl

end ApiProxy.Text
