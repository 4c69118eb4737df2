import ApiProxy.Proofs.Text.Lines

/-!
# Indentation can be taken away again

The line feeds of a text cut it into its rows, of which there is one more than there are line feeds;
a row may be empty, and so may be the only one. A change of rows, each on its own, goes through to
the texts that a text is joined of, as long as it leaves an empty row empty.

A text that has no carriage return and does not end with a line feed has its rows as its lines,
unless it is empty. So a block of such members is what they are joined to with its rows indented,
and nothing in them is lost: without the indentation of its rows it is what they are joined to.

## Main definitions

* `Text.mapRows`: a text with each row changed on its own.
* `Text.outdent`: a text without the first four characters of each row.

## Main results

* `Text.mapRows_intercalate`: a change of rows goes through to joined texts.
* `Text.splitOn_mapRows`: the rows of a changed text.
* `Text.memberBlock_eq_mapRows`: a block is the joined members with their rows indented.
* `Text.outdent_memberBlock`: a block without its indentation is the joined members.
-/

namespace ApiProxy.Text

/-! ### Rows -/

/-- A text with each row changed on its own. -/
def mapRows (f : List Char → List Char) (cs : List Char) : List Char :=
  ['\n'].intercalate ((cs.splitOn '\n').map f)

variable {f : List Char → List Char} {cs : List Char}

/-- Parts that are joined in two groups are joined as a whole. -/
theorem intercalate_append {sep : List Char} {front back : List (List Char)} (hfront : front ≠ [])
    (hback : back ≠ []) :
    sep.intercalate (front ++ back) = sep.intercalate front ++ sep ++ sep.intercalate back := by
  induction front with
  | nil => exact absurd rfl hfront
  | cons part front ih =>
    cases front with
    | nil =>
      rw [List.singleton_append, List.intercalate_cons_of_ne_nil hback, List.intercalate_singleton]
    | cons part' front =>
      rw [List.cons_append, List.intercalate_cons_of_ne_nil (by simp), ih (by simp),
        List.intercalate_cons_cons]
      simp only [List.append_assoc]

theorem not_mem_of_mem_splitOn {row : List Char} (h : row ∈ cs.splitOn '\n') : '\n' ∉ row := by
  induction cs generalizing row with
  | nil =>
    obtain rfl := List.mem_singleton.1 h
    exact List.not_mem_nil
  | cons c cs ih =>
    rw [List.splitOn_cons_eq_if_modifyHead] at h
    split at h
    · rcases List.mem_cons.1 h with rfl | h
      · exact List.not_mem_nil
      · exact ih h
    · next hc =>
      obtain ⟨first, rows, hrows⟩ := List.exists_cons_of_ne_nil (List.splitOn_ne_nil '\n' cs)
      rw [hrows] at h ih
      rcases List.mem_cons.1 h with rfl | h
      · rw [List.mem_cons, not_or]
        exact ⟨fun heq => hc (beq_iff_eq.2 heq.symm), ih List.mem_cons_self⟩
      · exact ih (List.mem_cons_of_mem _ h)

theorem mapRows_nil (hf : f [] = []) : mapRows f [] = [] := by
  rw [mapRows, List.splitOn_nil, List.map_singleton, hf, List.intercalate_singleton]

theorem mapRows_append_cons (front back : List Char) :
    mapRows f (front ++ '\n' :: back) = mapRows f front ++ '\n' :: mapRows f back := by
  have hne (part : List Char) : (part.splitOn '\n').map f ≠ [] := by simp
  rw [mapRows, List.splitOn_append_cons_self, List.map_append,
    intercalate_append (hne front) (hne back), List.append_assoc]
  rfl

/-- A change of rows goes through to the texts that are joined with an empty row between any two. -/
theorem mapRows_intercalate (hf : f [] = []) (parts : List (List Char)) :
    mapRows f (['\n', '\n'].intercalate parts) =
      ['\n', '\n'].intercalate (parts.map (mapRows f)) := by
  induction parts with
  | nil => exact mapRows_nil hf
  | cons part parts ih =>
    cases parts with
    | nil => rw [List.intercalate_singleton, List.map_singleton, List.intercalate_singleton]
    | cons next parts =>
      have hsep (front back : List Char) :
          front ++ ['\n', '\n'] ++ back = front ++ '\n' :: ([] ++ '\n' :: back) := by simp
      rw [List.intercalate_cons_cons, hsep, mapRows_append_cons, mapRows_append_cons, ih,
        mapRows_nil hf, ← hsep]
      exact List.intercalate_cons_cons.symm

/-- The rows of a changed text are the changed rows, if no line feed comes in. -/
theorem splitOn_mapRows (hf : ∀ row, '\n' ∉ row → '\n' ∉ f row) (cs : List Char) :
    (mapRows f cs).splitOn '\n' = (cs.splitOn '\n').map f := by
  refine List.splitOn_intercalate '\n' (fun changed h => ?_) (by simp)
  obtain ⟨row, hrow, rfl⟩ := List.mem_map.1 h
  exact hf row (not_mem_of_mem_splitOn hrow)

/-- Two changes of which the second one undoes the first give the text back. -/
theorem mapRows_mapRows {g : List Char → List Char} (hf : ∀ row, '\n' ∉ row → '\n' ∉ f row)
    (hg : ∀ row, g (f row) = row) (cs : List Char) : mapRows g (mapRows f cs) = cs := by
  have hid : g ∘ f = id := funext hg
  rw [mapRows, splitOn_mapRows hf, List.map_map, hid, List.map_id, List.intercalate_splitOn]

/-! ### Lines are rows -/

theorem dropReturn_of_not_mem {line : List Char} (h : '\r' ∉ line) : dropReturn line = line :=
  if_neg fun hlast => h (List.mem_of_getLast? hlast)

/-- Without carriage returns and a line feed at the end, the lines of a text are cut at its line
feeds. -/
theorem linesFrom_eq_splitOnPPrepend {start : List Char} (hstart : '\r' ∉ start)
    (hreturn : '\r' ∉ cs) (hfeed : cs.getLast? ≠ some '\n') (hne : start ≠ [] ∨ cs ≠ []) :
    linesFrom start cs = List.splitOnPPrepend (· == '\n') cs start := by
  induction cs generalizing start with
  | nil =>
    have hstart' : ¬start.isEmpty = true := by simpa using hne
    rw [linesFrom, if_neg hstart', List.splitOnPPrepend_nil]
  | cons c cs ih =>
    rw [List.mem_cons, not_or] at hreturn
    have hfeed' : cs.getLast? ≠ some '\n' := by
      intro hlast
      rw [List.getLast?_cons, hlast] at hfeed
      exact hfeed rfl
    rw [linesFrom]
    split
    · next hc =>
      subst hc
      -- the line feed is not the last character, so there is a line behind it
      have hcs : cs ≠ [] := by
        rintro rfl
        exact hfeed rfl
      have hreverse : '\r' ∉ start.reverse := by rwa [List.mem_reverse]
      rw [dropReturn_of_not_mem hreverse, ih List.not_mem_nil hreturn.2 hfeed' (.inr hcs),
        List.splitOnPPrepend, if_pos (beq_self_eq_true _)]
    · next hc =>
      have hstart' : '\r' ∉ c :: start := by
        rw [List.mem_cons, not_or]
        exact ⟨hreturn.1, hstart⟩
      rw [ih hstart' hreturn.2 hfeed' (.inl (List.cons_ne_nil _ _)), List.splitOnPPrepend,
        if_neg (by rwa [beq_iff_eq])]

/-- Such a text is indented row by row. -/
theorem toList_indent {s : String} (hreturn : '\r' ∉ s.toList)
    (hfeed : s.toList.getLast? ≠ some '\n') : (indent s).toList = mapRows indentLine s.toList := by
  have hparts (rows : List (List Char)) :
      (rows.map fun row => String.ofList (indentLine row)).map String.toList =
        rows.map indentLine := by
    simp [Function.comp_def]
  rw [indent, String.toList_intercalate, hparts]
  by_cases hs : s.toList = []
  · rw [hs, mapRows_nil rfl]
    rfl
  · rw [lines, linesFrom_eq_splitOnPPrepend List.not_mem_nil hreturn hfeed (.inr hs)]
    rfl

/-! ### Blocks -/

theorem not_mem_indentLine (row : List Char) (h : '\n' ∉ row) : '\n' ∉ indentLine row := by
  rw [indentLine]
  split
  · exact List.not_mem_nil
  · simpa using h

theorem prefix_indentLine {row : List Char} (h : indentLine row ≠ []) :
    [' ', ' ', ' ', ' '] <+: indentLine row := by
  rw [indentLine] at h ⊢
  split
  · next hempty => exact absurd (if_pos hempty) h
  · exact List.prefix_append [' ', ' ', ' ', ' '] row

theorem drop_indentLine (row : List Char) : (indentLine row).drop 4 = row := by
  rw [indentLine]
  split
  · next hempty => rw [List.isEmpty_iff.1 hempty, List.drop_nil]
  · rfl

/-- A block of members is what they are joined to, with its rows indented. -/
theorem memberBlock_eq_mapRows {members : List String}
    (hreturn : ∀ member ∈ members, '\r' ∉ member.toList)
    (hfeed : ∀ member ∈ members, member.toList.getLast? ≠ some '\n') :
    (memberBlock members).toList = mapRows indentLine ("\n\n".intercalate members).toList := by
  have hmembers : (members.map indent).map String.toList =
      (members.map String.toList).map (mapRows indentLine) := by
    rw [List.map_map, List.map_map]
    exact List.map_congr_left fun member h => toList_indent (hreturn member h) (hfeed member h)
  rw [memberBlock, String.toList_intercalate, String.toList_intercalate, hmembers]
  exact (mapRows_intercalate rfl _).symm

/-- A text without the first four characters of each row. -/
def outdent (text : String) : String :=
  String.ofList (mapRows (·.drop 4) text.toList)

/-- **A block of members loses nothing of them.** Every row of the block that is not empty begins
with four spaces, and without these the block is what the members are joined to with an empty row
between any two, if none of them has a carriage return or ends with a line feed. -/
theorem outdent_memberBlock {members : List String}
    (hreturn : ∀ member ∈ members, '\r' ∉ member.toList)
    (hfeed : ∀ member ∈ members, member.toList.getLast? ≠ some '\n') :
    (∀ row ∈ (memberBlock members).toList.splitOn '\n', row ≠ [] →
      [' ', ' ', ' ', ' '] <+: row) ∧
      outdent (memberBlock members) = "\n\n".intercalate members := by
  have hblock := memberBlock_eq_mapRows hreturn hfeed
  constructor
  · intro row hrow hne
    rw [hblock, splitOn_mapRows not_mem_indentLine] at hrow
    obtain ⟨row, -, rfl⟩ := List.mem_map.1 hrow
    exact prefix_indentLine hne
  · rw [outdent, hblock, mapRows_mapRows not_mem_indentLine drop_indentLine, String.ofList_toList]

/-- A member with an empty row in it, an empty one, and one that begins with an empty row and has
spaces of its own. -/
def gappedMembers : List String := ["public void Get()\n\x7b\n\n\x7d", "", "\n  int Count;"]

theorem outdent_memberBlock_gapped :
    (∀ member ∈ gappedMembers, '\r' ∉ member.toList) ∧
      (∀ member ∈ gappedMembers, member.toList.getLast? ≠ some '\n') ∧
      (∀ row ∈ (memberBlock gappedMembers).toList.splitOn '\n', row ≠ [] →
        [' ', ' ', ' ', ' '] <+: row) ∧
      outdent (memberBlock gappedMembers) =
        "public void Get()\n\x7b\n\n\x7d\n\n\n\n\n  int Count;" := by
  have hreturn : ∀ member ∈ gappedMembers, '\r' ∉ member.toList := by decide
  have hfeed : ∀ member ∈ gappedMembers, member.toList.getLast? ≠ some '\n' := by decide
  exact ⟨hreturn, hfeed, outdent_memberBlock hreturn hfeed⟩

end ApiProxy.Text
