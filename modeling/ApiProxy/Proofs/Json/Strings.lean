import ApiProxy.Json.Basic
import ApiProxy.Json.Outline

/-!
# Reading back a string in quotes

Writing a string escapes its characters one by one. Reading undoes each escape on its own, so
both ways of looking at a string, finding its end and taking its text, go over the escaped
characters one at a time and stop at the closing quote.

## Main results

* `Json.Quoted.skim_escaped`: the end of a written string is found.
* `Json.Quoted.decode_escaped`: the text of a written string is the string.
-/

namespace ApiProxy.Json.Quoted

theorem hexUnit?_control {n : Nat} (h : n < 0x20) :
    hexUnit? '0' '0' (hexDigit (n / 16)) (hexDigit n) = some n := by
  revert n
  decide

theorem surrogate_control {n : Nat} (h : n < 0x20) :
    isLowSurrogate n = false ∧ isHighSurrogate n = false := by
  simp only [isLowSurrogate, isHighSurrogate, Bool.and_eq_false_iff, decide_eq_false_iff_not]
  omega

/-- The ways in which a character is written: behind a backslash with a letter of its own, by
the code of a control character, or as itself. -/
theorem escaped_cases (c : Char) :
    (∃ e, e ≠ 'u' ∧ escape? e = some c ∧ escaped c = ['\\', e]) ∨
    (c.toNat < 0x20 ∧ escaped c =
      ['\\', 'u', '0', '0', hexDigit (c.toNat / 16), hexDigit c.toNat]) ∨
    (c ≠ '"' ∧ c ≠ '\\' ∧ ¬c.toNat < 0x20 ∧ escaped c = [c]) := by
  unfold escaped
  split
  · exact .inl ⟨'"', by decide, rfl, rfl⟩
  · exact .inl ⟨'\\', by decide, rfl, rfl⟩
  · exact .inl ⟨'b', by decide, rfl, rfl⟩
  · exact .inl ⟨'f', by decide, rfl, rfl⟩
  · exact .inl ⟨'n', by decide, rfl, rfl⟩
  · exact .inl ⟨'r', by decide, rfl, rfl⟩
  · exact .inl ⟨'t', by decide, rfl, rfl⟩
  · next hquote hslash _ _ _ _ _ =>
    split
    · next hlow => exact .inr (.inl ⟨hlow, rfl⟩)
    · next hlow => exact .inr (.inr ⟨hquote, hslash, hlow, rfl⟩)

theorem skim_escaped_append (c : Char) {cs r : List Char}
    (h : ∃ hr, skim cs = .ok ⟨r, hr⟩) : ∃ hr, skim (escaped c ++ cs) = .ok ⟨r, hr⟩ := by
  obtain ⟨hr, h⟩ := h
  rcases escaped_cases c with ⟨e, hu, hc, he⟩ | ⟨hlow, he⟩ | ⟨hquote, hslash, hlow, he⟩
  · rw [he, List.cons_append, List.cons_append, List.nil_append]
    rw [skim.eq_6 _ _ (fun _ _ _ _ _ h => absurd h hu) hu, if_pos (by rw [hc]; rfl), h]
    exact ⟨_, rfl⟩
  · rw [he]
    simp only [List.cons_append, List.nil_append]
    rw [skim, if_pos (by rw [hexUnit?_control hlow]; rfl), h]
    exact ⟨by simp only [List.length_cons]; omega, rfl⟩
  · rw [he, List.cons_append, List.nil_append]
    rw [skim, if_neg hlow, h]
    · exact ⟨_, rfl⟩
    all_goals simp [hquote, hslash]

/-- The end of a written string is found. -/
theorem skim_escaped (cs r : List Char) :
    ∃ hr, skim (cs.flatMap escaped ++ '"' :: r) = .ok ⟨r, hr⟩ := by
  induction cs with
  | nil =>
    change ∃ hr, skim ('"' :: r) = .ok ⟨r, hr⟩
    exact ⟨Nat.lt_succ_self _, by rw [skim]⟩
  | cons c cs ih =>
    rw [List.flatMap_cons, List.append_assoc]
    exact skim_escaped_append c ih

theorem decode_escaped_append (c : Char) {cs ds : List Char} (h : decode cs = .ok ds) :
    decode (escaped c ++ cs) = .ok (c :: ds) := by
  rcases escaped_cases c with ⟨e, hu, hc, he⟩ | ⟨hlow, he⟩ | ⟨hquote, hslash, hlow, he⟩
  · rw [he, List.cons_append, List.cons_append, List.nil_append]
    rw [decode.eq_6 _ _ (fun _ _ _ _ _ h => absurd h hu) hu, hc]
    simp only [h, Except.map]
  · obtain ⟨hl, hh⟩ := surrogate_control hlow
    rw [he]
    simp only [List.cons_append, List.nil_append]
    rw [decode, hexUnit?_control hlow]
    simp only [hl, hh, h, Except.map, Char.ofNat_toNat]
    rfl
  · rw [he, List.cons_append, List.nil_append]
    rw [decode, if_neg hlow, h]
    · rfl
    all_goals simp [hquote, hslash]

/-- The text of a written string is the string. -/
theorem decode_escaped (cs r : List Char) :
    decode (cs.flatMap escaped ++ '"' :: r) = .ok cs := by
  induction cs with
  | nil => rw [List.flatMap_nil, List.nil_append, decode]
  | cons c cs ih =>
    rw [List.flatMap_cons, List.append_assoc]
    exact decode_escaped_append c ih

end ApiProxy.Json.Quoted
