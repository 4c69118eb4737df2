import ApiProxy.Description.Document
import ApiProxy.Proofs.Json.Codecs

/-!
# Reading back an API description

Every part of a description is a record whose fields are faithful, so a description that was
read from some document is read again from the document that is written for it. The parts nest
eleven levels deep at most, far below the limit of a reader.

The text of a double is not always read as that double, so this is asked of the doubles in the
description. It is nothing to ask of integers, since none of more than 64 bits is ever read.

## Main results

* `ApiDescription.codec_faithful`: a description is restored from its document.
* `ApiDescription.ofText_text_roundTrip`: a description that was read is read again from its
  text.
-/

namespace ApiProxy

open Json Json.Codec

variable (n : Nat)

theorem MethodParameter.codec_faithful : codec.Faithful (n + 1) := by
  refine Complete.record_faithful ⟨by decide, by simp [Field.Apart, field], ?_, ?_⟩
  · simp only [List.forall_mem_cons]
    exact ⟨text_field fun _ _ => rfl, nullable_field (text_faithful n) (fun _ _ => rfl) rfl,
      text_field fun _ _ => rfl, nullable_field (text_faithful n) (fun _ _ => rfl) rfl,
      flag_field fun _ _ => rfl, nullable_field (any_faithful n) (fun _ _ => rfl) rfl, nofun⟩
  · rintro ⟨⟩ ⟨⟩ h
    simpa [field] using h

theorem BoundParameter.codec_faithful : codec.Faithful (n + 2) := by
  refine Complete.record_faithful ⟨by decide, by simp [Field.Apart, field], ?_, ?_⟩
  · simp only [List.forall_mem_cons]
    exact ⟨text_field fun _ _ => rfl, text_field fun _ _ => rfl,
      nullable_field (text_faithful _) (fun _ _ => rfl) rfl, text_field fun _ _ => rfl,
      nullable_field (text_faithful _) (fun _ _ => rfl) rfl, flag_field fun _ _ => rfl,
      nullable_field (any_faithful _) (fun _ _ => rfl) rfl,
      nullable_field (list_faithful (text_faithful n)) (fun _ _ => rfl) rfl,
      nullable_field (text_faithful _) (fun _ _ => rfl) rfl,
      nullable_field (text_faithful _) (fun _ _ => rfl) rfl, nofun⟩
  · rintro ⟨⟩ ⟨⟩ h
    simpa [field] using h

theorem ReturnValue.codec_faithful : codec.Faithful (n + 1) := by
  refine Complete.record_faithful ⟨by decide, by simp [Field.Apart, field], ?_, ?_⟩
  · simp only [List.forall_mem_cons]
    exact ⟨text_field fun _ _ => rfl, nullable_field (text_faithful n) (fun _ _ => rfl) rfl,
      nofun⟩
  · rintro ⟨⟩ ⟨⟩ h
    simpa [field] using h

theorem InterfaceMethod.codec_faithful : codec.Faithful (n + 3) := by
  refine Complete.record_faithful ⟨by decide, by simp [Field.Apart, field], ?_, ?_⟩
  · simp only [List.forall_mem_cons]
    exact ⟨text_field fun _ _ => rfl,
      list_field (MethodParameter.codec_faithful n) (fun _ _ => rfl) rfl,
      record_field (ReturnValue.codec_faithful (n + 1)) (fun _ _ => rfl) rfl, nofun⟩
  · rintro ⟨⟩ ⟨⟩ h
    simpa [field] using h

theorem ServiceInterface.codec_faithful : codec.Faithful (n + 5) := by
  refine Complete.record_faithful ⟨by decide, by simp [Field.Apart, field], ?_, ?_⟩
  · simp only [List.forall_mem_cons]
    exact ⟨text_field fun _ _ => rfl, nullable_field (text_faithful _) (fun _ _ => rfl) rfl,
      list_field (InterfaceMethod.codec_faithful n) (fun _ _ => rfl) rfl, nofun⟩
  · rintro ⟨⟩ ⟨⟩ h
    simpa [field] using h

theorem Action.codec_faithful : codec.Faithful (n + 4) := by
  refine Complete.record_faithful ⟨by decide, by simp [Field.Apart, field], ?_, ?_⟩
  · simp only [List.forall_mem_cons]
    exact ⟨text_field fun _ _ => rfl, text_field fun _ _ => rfl,
      nullable_field (text_faithful _) (fun _ _ => rfl) rfl,
      nullable_field (text_faithful _) (fun _ _ => rfl) rfl,
      list_field (text_faithful (n + 2)) (fun _ _ => rfl) rfl,
      list_field (MethodParameter.codec_faithful (n + 1)) (fun _ _ => rfl) rfl,
      list_field (BoundParameter.codec_faithful n) (fun _ _ => rfl) rfl,
      record_field (ReturnValue.codec_faithful (n + 2)) (fun _ _ => rfl) rfl,
      nullable_field (flag_faithful _) (fun _ _ => rfl) rfl, text_field fun _ _ => rfl, nofun⟩
  · rintro ⟨⟩ ⟨⟩ h
    simpa [field] using h

theorem Controller.codec_faithful : codec.Faithful (n + 7) := by
  refine Complete.record_faithful ⟨by decide, by simp [Field.Apart, field], ?_, ?_⟩
  · simp only [List.forall_mem_cons]
    exact ⟨text_field fun _ _ => rfl, nullable_field (text_faithful _) (fun _ _ => rfl) rfl,
      flag_field fun _ _ => rfl, flag_field fun _ _ => rfl,
      nullable_field (text_faithful _) (fun _ _ => rfl) rfl, text_field fun _ _ => rfl,
      list_field (ServiceInterface.codec_faithful n) (fun _ _ => rfl) rfl,
      catalog_field (Action.codec_faithful (n + 1)) (fun _ _ => rfl) rfl, nofun⟩
  · rintro ⟨⟩ ⟨⟩ h
    simpa [field] using h

theorem ServiceModule.codec_faithful : codec.Faithful (n + 9) := by
  refine Complete.record_faithful ⟨by decide, by simp [Field.Apart, field], ?_, ?_⟩
  · simp only [List.forall_mem_cons]
    exact ⟨text_field fun _ _ => rfl, text_field fun _ _ => rfl,
      catalog_field (Controller.codec_faithful n) (fun _ _ => rfl) rfl, nofun⟩
  · rintro ⟨⟩ ⟨⟩ h
    simpa [field] using h

theorem Property.codec_faithful : codec.Faithful (n + 1) := by
  refine Complete.record_faithful ⟨by decide, by simp [Field.Apart, field], ?_, ?_⟩
  · simp only [List.forall_mem_cons]
    exact ⟨text_field fun _ _ => rfl, nullable_field (text_faithful n) (fun _ _ => rfl) rfl,
      text_field fun _ _ => rfl, nullable_field (text_faithful n) (fun _ _ => rfl) rfl,
      flag_field fun _ _ => rfl, nullable_field (word_faithful n) (fun _ _ => rfl) rfl,
      nullable_field (word_faithful n) (fun _ _ => rfl) rfl,
      nullable_field (text_faithful n) (fun _ _ => rfl) rfl,
      nullable_field (text_faithful n) (fun _ _ => rfl) rfl,
      nullable_field (text_faithful n) (fun _ _ => rfl) rfl, nofun⟩
  · rintro ⟨⟩ ⟨⟩ h
    simpa [field] using h

theorem TypeDefinition.codec_faithful : codec.Faithful (n + 3) := by
  refine Complete.record_faithful ⟨by decide, by simp [Field.Apart, field], ?_, ?_⟩
  · simp only [List.forall_mem_cons]
    exact ⟨nullable_field (text_faithful _) (fun _ _ => rfl) rfl, flag_field fun _ _ => rfl,
      nullable_field (list_faithful (text_faithful (n + 1))) (fun _ _ => rfl) rfl,
      nullable_field (list_faithful (any_faithful (n + 1))) (fun _ _ => rfl) rfl,
      nullable_field (list_faithful (text_faithful (n + 1))) (fun _ _ => rfl) rfl,
      nullable_field (list_faithful (Property.codec_faithful n)) (fun _ _ => rfl) rfl, nofun⟩
  · rintro ⟨⟩ ⟨⟩ h
    simpa [field] using h

namespace ApiDescription

theorem fields_complete : Complete
    [ field "modules" (catalog ServiceModule.codec) (·.modules) fun v (x : ApiDescription) =>
        { x with modules := v },
      field "types" (catalog TypeDefinition.codec) (·.types) fun v x => { x with types := v } ]
    blank (n + 10) := by
  refine ⟨by decide, by simp [Field.Apart, field], ?_, ?_⟩
  · simp only [List.forall_mem_cons]
    exact ⟨catalog_field (ServiceModule.codec_faithful n) (fun _ _ => rfl) rfl,
      catalog_field (TypeDefinition.codec_faithful (n + 6)) (fun _ _ => rfl) rfl, nofun⟩
  · rintro ⟨⟩ ⟨⟩ h
    simpa [field] using h

/-- A description is restored from its document. -/
theorem codec_faithful : codec.Faithful (n + 11) := (fields_complete n).record_faithful

/-- A description is restored exactly if its modules and its types are, one level deeper. -/
theorem codec_restores_iff {budget : Nat} {m : ApiDescription} :
    codec.Restores (budget + 1) m ↔ (catalog ServiceModule.codec).Restores budget m.modules ∧
      (catalog TypeDefinition.codec).Restores budget m.types := by
  refine (fields_complete 0).restores_iff.trans ⟨fun h => ?_, fun ⟨hmodules, htypes⟩ => ?_⟩
  · exact ⟨h _ List.mem_cons_self, h _ (List.mem_cons_of_mem _ List.mem_cons_self)⟩
  · exact List.forall_mem_cons.2 ⟨hmodules, List.forall_mem_cons.2 ⟨htypes, nofun⟩⟩

/-- A description that was read from a document is read again from its own text, and writing
it once more gives the same text, if each of its doubles is printed as digits that are read
back as that double. -/
theorem ofText_text_roundTrip {document : String} {m : ApiDescription}
    (h : ofText document = .ok m)
    (hdouble : ∀ d, Number.double d ∈ (codec.write m).numbers → (Number.double d).ReadsBack) :
    ofText m.text = .ok m ∧ (ofText m.text).map text = .ok m.text := by
  have hback : ofText m.text = .ok m :=
    (codec_faithful 0).ofText_indented (by decide) h hdouble
  refine ⟨hback, ?_⟩
  rw [hback]
  rfl

/-- The double `1.5` is printed as `1.5` and read back. -/
theorem readsBack_three_halves :
    (Number.double ⟨false, 6755399441055744, -52⟩).ReadsBack := by
  have hsignificand : Double.ofRatio? false 15 1 = some ⟨false, 8444249301319680, -49⟩ := by
    decide +kernel
  have hscaled : Double.scaleDown? ⟨false, 8444249301319680, -49⟩ 1 =
      some ⟨false, 6755399441055744, -52⟩ := by
    rw [Double.scaleDown?, if_pos (by decide)]
    decide +kernel
  have hdecimal : Double.ofDecimal? false 15 (-1) = some ⟨false, 6755399441055744, -52⟩ := by
    rw [Double.ofDecimal?, hsignificand, Option.bind_eq_bind, Option.bind_some,
      if_neg (by decide), show (-(-1 : Int)).toNat = 1 from rfl]
    exact hscaled
  have hchars : (Number.double ⟨false, 6755399441055744, -52⟩).chars = ['1', '.', '5'] := by
    decide +kernel
  have hdouble : Numeral.double? ⟨false, ['1'], some ['5'], none⟩ =
      some ⟨false, 6755399441055744, -52⟩ := hdecimal
  refine ⟨⟨false, ['1'], some ['5'], none⟩, ?_, .inr ?_⟩
  · rw [Numeral.number, hdouble]
    rfl
  · rw [hchars]
    exact ⟨by decide, rfl⟩

/-- A document with a double, an integer and an object in no order among the values of an
enumeration. -/
theorem ofText_text_enumeration :
    let value : Json := .object [("types", .object [("Level", .object
      [("enumValues", .array [.number (.double ⟨false, 6755399441055744, -52⟩),
        .number (.integer (-7)), .object [("b", .null), ("a", .string "\n")]])])])]
    ∃ m, ofText value.indented = .ok m ∧ m.types.names = ["Level"] ∧
      ofText m.text = .ok m ∧ (ofText m.text).map text = .ok m.text := by
  intro value
  have hvalue : ∀ n ∈ value.numbers, n.ReadsBack := by
    change ∀ n ∈ [Number.double _, Number.integer _], n.ReadsBack
    simp only [List.forall_mem_cons]
    exact ⟨readsBack_three_halves, Number.readsBack_integer ⟨by decide, by decide⟩, nofun⟩
  let level : TypeDefinition := ⟨none, false, none,
    some [.number (.double ⟨false, 6755399441055744, -52⟩), .number (.integer (-7)),
      .object [("a", .string "\n"), ("b", .null)]], none, none⟩
  let m : ApiDescription := ⟨.empty, ⟨[("Level", level)], List.pairwise_singleton _ _⟩⟩
  have hread : ofText value.indented = .ok m := by
    rw [ofText, Codec.ofText, ofText_indented hvalue]
    rfl
  have hdouble : ∀ d, Number.double d ∈ (codec.write m).numbers →
      (Number.double d).ReadsBack := by
    intro d hd
    change Number.double d ∈ [Number.double _, Number.integer _] at hd
    rcases List.mem_cons.1 hd with h | hd
    · exact h ▸ readsBack_three_halves
    · cases List.mem_singleton.1 hd
  exact ⟨m, hread, rfl, ofText_text_roundTrip hread hdouble⟩

end ApiDescription

end ApiProxy
