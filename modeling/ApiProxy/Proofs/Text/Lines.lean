import ApiProxy.Text.Lines

/-!
# Indented texts

Indenting a text keeps every character that does not end a line, and puts four spaces in front of
a text that is a single line. So a block of members is empty only if there is nothing to see in any
of them.

## Main results

* `Text.exists_intercalate_eq`: joined texts contain each of them.
* `Text.indent_of_not_mem`: what indenting a single line does.
* `Text.memberBlock_ne_empty`: a visible member makes a block visible.
-/

namespace ApiProxy.Text

/-- Every part of joined texts stands in what they are joined to. -/
theorem exists_intercalate_eq {sep part : String} {parts : List String} (h : part ∈ parts) :
    ∃ front back, sep.intercalate parts = front ++ part ++ back := by
  induction parts with
  | nil => exact absurd h List.not_mem_nil
  | cons first parts ih =>
    cases parts with
    | nil =>
      obtain rfl := List.mem_singleton.1 h
      exact ⟨"", "", by simp [String.intercalate_singleton]⟩
    | cons second parts =>
      rw [String.intercalate_cons_cons]
      rcases List.mem_cons.1 h with rfl | h
      · exact ⟨"", sep ++ sep.intercalate (second :: parts), by simp [String.append_assoc]⟩
      · obtain ⟨front, back, hparts⟩ := ih h
        exact ⟨first ++ sep ++ front, back, by simp only [hparts, String.append_assoc]⟩

theorem intercalate_ne_empty {sep part : String} {parts : List String} (h : part ∈ parts)
    (hne : part ≠ "") : sep.intercalate parts ≠ "" := by
  obtain ⟨front, back, hparts⟩ : ∃ front back, sep.intercalate parts = front ++ part ++ back :=
    exists_intercalate_eq h
  rw [hparts, Ne, String.append_eq_empty_iff, String.append_eq_empty_iff]
  exact fun hempty => hne hempty.1.2

theorem linesFrom_of_not_mem {start cs : List Char} (h : '\n' ∉ cs)
    (hne : start.reverse ++ cs ≠ []) : linesFrom start cs = [start.reverse ++ cs] := by
  induction cs generalizing start with
  | nil =>
    rw [List.append_nil, Ne, List.reverse_eq_nil_iff] at hne
    rw [linesFrom, if_neg (by rwa [List.isEmpty_iff]), List.append_nil]
  | cons c cs ih =>
    rw [List.mem_cons, not_or] at h
    rw [linesFrom, if_neg (Ne.symm h.1), ih h.2 (by simp)]
    simp

/-- A single line is indented by four spaces. -/
theorem indent_of_not_mem {s : String} (h : '\n' ∉ s.toList) (hne : s ≠ "") :
    indent s = "    " ++ s := by
  have hchars : s.toList ≠ [] := fun hnil => hne (String.toList_eq_nil_iff.1 hnil)
  have hlines : lines s.toList = [s.toList] := linesFrom_of_not_mem h hchars
  rw [indent, hlines, List.map_singleton, String.intercalate_singleton, indentLine,
    if_neg (by rwa [List.isEmpty_iff])]
  exact String.toList_inj.1 (by simp)

/-- A character is visible in a line if it does not end lines. -/
theorem exists_mem_linesFrom {c : Char} (hfeed : c ≠ '\n') (hreturn : c ≠ '\r')
    {start cs : List Char} (h : c ∈ start ∨ c ∈ cs) : ∃ line ∈ linesFrom start cs, c ∈ line := by
  induction cs generalizing start with
  | nil =>
    have hc : c ∈ start := h.resolve_right List.not_mem_nil
    refine ⟨start.reverse, ?_, List.mem_reverse.2 hc⟩
    rw [linesFrom, if_neg (by rw [List.isEmpty_iff]; exact List.ne_nil_of_mem hc)]
    exact List.mem_singleton_self _
  | cons d cs ih =>
    rw [linesFrom]
    split
    · next hd =>
      rcases h with hc | hc
      · refine ⟨_, List.mem_cons_self, ?_⟩
        rw [dropReturn]
        split
        · next hlast =>
          -- the character that is dropped is another one
          obtain ⟨front, hfront⟩ := List.getLast?_eq_some_iff.1 hlast
          rw [← List.mem_reverse, hfront, List.mem_append, List.mem_singleton] at hc
          rw [hfront, List.dropLast_concat]
          exact hc.resolve_right hreturn
        · exact List.mem_reverse.2 hc
      · have hc' : c ∈ cs := (List.mem_cons.1 hc).resolve_left fun heq => hfeed (heq.trans hd)
        obtain ⟨line, hline, hmem⟩ := ih (.inr hc')
        exact ⟨line, List.mem_cons_of_mem _ hline, hmem⟩
    · refine ih ?_
      rcases h with hc | hc
      · exact .inl (List.mem_cons_of_mem d hc)
      · exact (List.mem_cons.1 hc).elim (fun heq => .inl (heq ▸ List.mem_cons_self)) .inr

theorem indent_ne_empty {s : String} {c : Char} (hc : c ∈ s.toList) (hfeed : c ≠ '\n')
    (hreturn : c ≠ '\r') : indent s ≠ "" := by
  obtain ⟨line, hline, hmem⟩ : ∃ line ∈ lines s.toList, c ∈ line :=
    exists_mem_linesFrom hfeed hreturn (.inr hc)
  refine intercalate_ne_empty (List.mem_map_of_mem hline) fun hempty => ?_
  rw [indentLine, if_neg (by rw [List.isEmpty_iff]; exact List.ne_nil_of_mem hmem)] at hempty
  exact absurd (String.ofList_eq_empty_iff.1 hempty) (List.cons_ne_nil _ _)

/-- The block of members is not empty if one of them has a character that does not end lines. -/
theorem memberBlock_ne_empty {members : List String} {member : String} {c : Char}
    (h : member ∈ members) (hc : c ∈ member.toList) (hfeed : c ≠ '\n') (hreturn : c ≠ '\r') :
    memberBlock members ≠ "" :=
  intercalate_ne_empty (List.mem_map_of_mem h) (indent_ne_empty hc hfeed hreturn)

end ApiProxy.Text
