import ApiProxy.Proofs.Text.Blank
import ApiProxy.Text.Dotted
import Mathlib.Data.List.Chain

/-!
# Last segments

The last segment of a name has no dot, and a name without a dot is its own last segment. Cutting a
trimmed name brings a blank to the front only where one stands directly behind a dot.

## Main definitions

* `Text.TightDots`: no blank stands directly behind a dot.

## Main results

* `Text.qualifierChars?_eq_none_iff`: the names without a qualifier are those without a dot.
* `Text.TightDots.head_lastSegmentChars`: where dots are tight, a last segment begins like a name.
-/

namespace ApiProxy.Text

theorem not_mem_lastSegmentChars (cs : List Char) : '.' ∉ lastSegmentChars cs := by
  rw [lastSegmentChars, List.mem_reverse]
  intro h
  simpa using List.mem_takeWhile_imp h

theorem lastSegmentChars_append {ds : List Char} (cs : List Char) (h : '.' ∉ ds) :
    lastSegmentChars (cs ++ ds) = lastSegmentChars cs ++ ds := by
  rw [lastSegmentChars, List.reverse_append, List.takeWhile_append_of_pos, List.reverse_append,
    List.reverse_reverse]
  · rfl
  · intro c hc
    rw [bne_iff_ne]
    rintro rfl
    exact h (List.mem_reverse.1 hc)

theorem lastSegmentChars_of_not_mem {cs : List Char} (h : '.' ∉ cs) : lastSegmentChars cs = cs :=
  lastSegmentChars_append [] h

/-- A name has no qualifier if and only if it has no dot. -/
theorem qualifierChars?_eq_none_iff {cs : List Char} : qualifierChars? cs = none ↔ '.' ∉ cs := by
  constructor
  · intro h
    rw [← lastSegmentChars_of_qualifierChars?_eq_none h]
    exact not_mem_lastSegmentChars cs
  · intro h
    cases hq : qualifierChars? cs with
    | none => rfl
    | some q =>
      rw [← append_lastSegmentChars_of_qualifierChars?_eq_some hq] at h
      exact absurd (List.mem_append_right q List.mem_cons_self) h

theorem lastSegmentChars_append_of_mem {ds : List Char} (cs : List Char) (h : '.' ∈ ds) :
    lastSegmentChars (cs ++ ds) = lastSegmentChars ds := by
  obtain ⟨q, hq⟩ : ∃ q, qualifierChars? ds = some q :=
    Option.ne_none_iff_exists'.1 fun hnone => qualifierChars?_eq_none_iff.1 hnone h
  have hdot : lastSegmentChars (cs ++ (q ++ ['.'])) = [] := by simp [lastSegmentChars]
  calc lastSegmentChars (cs ++ ds)
      = lastSegmentChars (cs ++ (q ++ ['.']) ++ lastSegmentChars ds) := by
        rw [List.append_assoc, List.append_assoc, List.singleton_append,
          append_lastSegmentChars_of_qualifierChars?_eq_some hq]
    _ = lastSegmentChars (cs ++ (q ++ ['.'])) ++ lastSegmentChars ds :=
        lastSegmentChars_append _ (not_mem_lastSegmentChars ds)
    _ = lastSegmentChars ds := by rw [hdot, List.nil_append]

/-- No dot of a text has a blank directly behind it. -/
def TightDots (cs : List Char) : Prop :=
  cs.IsChain fun c d => c = '.' → isBlank d = false

instance (cs : List Char) : Decidable (TightDots cs) :=
  inferInstanceAs (Decidable (cs.IsChain _))

theorem tightDots_of_not_mem {cs : List Char} (h : '.' ∉ cs) : TightDots cs := by
  refine List.Pairwise.isChain (List.pairwise_of_forall_mem_list fun c hc d _ hdot => ?_)
  rw [hdot] at hc
  exact absurd hc h

theorem TightDots.of_isInfix {cs ds : List Char} (h : TightDots cs) (hds : ds <:+: cs) :
    TightDots ds :=
  List.IsChain.infix h hds

/-- Behind a tight dot a segment does not begin with a blank, and in front of the first dot it
begins like the name. -/
theorem TightDots.head_lastSegmentChars {cs : List Char} (h : TightDots cs)
    (hhead : ∀ c ∈ cs.head?, isBlank c = false) :
    ∀ c ∈ (lastSegmentChars cs).head?, isBlank c = false := by
  cases hq : qualifierChars? cs with
  | none => rwa [lastSegmentChars_of_qualifierChars?_eq_none hq]
  | some q =>
    have hsplit := append_lastSegmentChars_of_qualifierChars?_eq_some hq
    have hchain : TightDots ('.' :: lastSegmentChars cs) := h.of_isInfix ⟨q, [], by simp [hsplit]⟩
    exact fun c hc => (List.isChain_cons.1 hchain).1 c hc rfl

theorem lastSegmentChars_suffix (cs : List Char) : lastSegmentChars cs <:+ cs := by
  cases hq : qualifierChars? cs with
  | none => simp [lastSegmentChars_of_qualifierChars?_eq_none hq]
  | some q =>
    have hsplit := append_lastSegmentChars_of_qualifierChars?_eq_some hq
    exact ⟨q ++ ['.'], by simpa using hsplit⟩

theorem getLast_lastSegmentChars {cs : List Char} {c : Char}
    (h : c ∈ (lastSegmentChars cs).getLast?) : c ∈ cs.getLast? :=
  getLast?_of_suffix (lastSegmentChars_suffix cs) h

end ApiProxy.Text
