import ApiProxy.Proofs.Generation.Methods
import ApiProxy.Proofs.TypeRef.Endings

/-!
# What asynchronous members give back

An asynchronous member returns a task. If there is a result, the task is of its type, and in a class
the request to the service is so too. There is none if the return type is blank or displayed as no
result at all, and then neither of the two has a type.

That a blank return type stands for no result is settled before the type is displayed. A return type
that is not blank may still be displayed as nothing, namely if it ends with a dot. It then counts as
a result, whose type is written as nothing between the brackets of the task and of the request.

## Main definitions

* `taskSign`, `requestSign`: how a result is written in a signature and in a call.
* `Action.wrapping`, `InterfaceMethod.wrapping`: the asynchronous members that give a result back.
* `EndsInDot`: a descriptor ends with a dot.
* `Wraps`: the result that a member gives back for a return type.

## Main results

* `Action.wrapping_injective`: a member tells which result it gives back.
* `async_members_wrap`: signatures and calls have the same result, and it has a type exactly if the
  return type does not end with a dot.
-/

namespace ApiProxy

open Text

/-- The task that an asynchronous member returns, of a result if there is one. -/
def taskSign : Option String → String
  | none => "Task"
  | some result => "Task<" ++ result ++ ">"

/-- The request to the remote service up to its arguments, for a result if there is one. -/
def requestSign : Option String → String
  | none => "await RequestAsync"
  | some result => "return await RequestAsync<" ++ result ++ ">"

/-- The asynchronous method of a class that gives a result back, or none. -/
def Action.wrapping (a : Action) (result : Option String) : String :=
  "public virtual async " ++ signatureText (taskSign result) a.name a.formals ++ "\n\x7b\n    " ++
    requestSign result ++ "(nameof(" ++ a.name ++ ")" ++ Parameter.requestValues a.formals ++
    ");\n\x7d"

/-- The asynchronous method of an interface that gives a result back, or none. -/
def InterfaceMethod.wrapping (m : InterfaceMethod) (result : Option String) : String :=
  signatureText (taskSign result) m.name m.formals ++ ";"

/-- A descriptor ends with a dot, apart from blanks. -/
def EndsInDot (descriptor : String) : Prop :=
  (trimBlank descriptor.toList).getLast? = some '.'

instance (descriptor : String) : Decidable (EndsInDot descriptor) :=
  inferInstanceAs (Decidable (_ = _))

/-- A member gives a result back, or none, that belongs to a return type. -/
structure Wraps (wrapping : Option String → String) (text descriptor : String) : Prop where
  exists_eq : ∃ result, text = wrapping result
  /-- It gives none back if the type is blank or displayed as none. -/
  eq_none_iff :
    text = wrapping none ↔ allBlank descriptor = true ∨ displayNameOf descriptor = "void"
  /-- A result goes by its display name. -/
  eq_displayName : ∀ result, text = wrapping (some result) → result = displayNameOf descriptor
  /-- A result has a type unless the return type ends with a dot. -/
  typed_iff : (∃ result, text = wrapping result ∧ ∀ r ∈ result, r ≠ "") ↔ ¬EndsInDot descriptor

/-! ### Members tell which result they give back -/

theorem length_taskSign : (result : Option String) →
    (taskSign result).length = 4 + result.elim 0 fun r => r.length + 2
  | none => rfl
  | some r => by
    have hopening : "Task<".length = 5 := rfl
    have hclosing : ">".length = 1 := rfl
    rw [taskSign, String.length_append, String.length_append, hopening, hclosing, Option.elim_some]
    omega

theorem length_requestSign : (result : Option String) →
    (requestSign result).length = 18 + result.elim 0 fun r => r.length + 9
  | none => by
    have hsign : requestSign none = "await RequestAsync" := rfl
    have hlength : "await RequestAsync".length = 18 := rfl
    rw [hsign, hlength, Option.elim_none]
  | some r => by
    have hsign : requestSign (some r) = "return await RequestAsync<" ++ r ++ ">" := rfl
    have hopening : "return await RequestAsync<".length = 26 := rfl
    have hclosing : ">".length = 1 := rfl
    rw [hsign, String.length_append, String.length_append, hopening, hclosing, Option.elim_some]
    omega

theorem taskSign_injective : Function.Injective taskSign := by
  intro result result' h
  have hlength := congrArg String.length h
  rw [length_taskSign, length_taskSign] at hlength
  cases result with
  | none =>
    cases result' with
    | none => rfl
    | some r =>
      rw [Option.elim_none, Option.elim_some] at hlength
      omega
  | some r =>
    cases result' with
    | none =>
      rw [Option.elim_none, Option.elim_some] at hlength
      omega
    | some r' => rw [(String.append_right_inj _).1 ((String.append_left_inj _).1 h)]

/-- A task grows with its request, so both together tell how long it is. -/
theorem length_taskSign_eq (result result' : Option String)
    (h : (taskSign result).length + (requestSign result).length =
      (taskSign result').length + (requestSign result').length) :
    (taskSign result).length = (taskSign result').length := by
  rw [length_taskSign, length_taskSign, length_requestSign, length_requestSign] at h
  rw [length_taskSign, length_taskSign]
  cases result <;> cases result' <;> simp only [Option.elim] at h ⊢ <;> omega

/-- A text with a task and its request in it tells of which result they are. -/
theorem injective_signs (front middle back : String) : Function.Injective fun result =>
    front ++ (taskSign result ++ (middle ++ (requestSign result ++ back))) := by
  intro result result' h
  -- by the length of the text the place is known at which the task ends
  have hlength := congrArg String.length h
  simp only [String.length_append] at hlength
  have htask := length_taskSign_eq result result' (by omega)
  have hlists := congrArg String.toList ((String.append_right_inj _).1 h)
  simp only [String.toList_append] at hlists
  rw [← String.length_toList, ← String.length_toList] at htask
  exact taskSign_injective (String.toList_inj.1 (List.append_inj hlists htask).1)

theorem signatureText_eq_append (returns name : String) (ps : List Parameter) :
    signatureText returns name ps = returns ++ signatureText "" name ps := by
  simp only [signatureText, String.empty_append, String.append_assoc]

/-- A method of a class tells which result it gives back. -/
theorem Action.wrapping_injective (a : Action) : Function.Injective a.wrapping := by
  have hform : a.wrapping = fun result => "public virtual async " ++ (taskSign result ++
      (signatureText "" a.name a.formals ++ "\n\x7b\n    " ++ (requestSign result ++
        ("(nameof(" ++ a.name ++ ")" ++ Parameter.requestValues a.formals ++ ");\n\x7d")))) := by
    funext result
    unfold wrapping
    simp only [signatureText_eq_append (taskSign result), String.append_assoc]
  rw [hform]
  exact injective_signs _ _ _

/-- A method of an interface does so, too. -/
theorem InterfaceMethod.wrapping_injective (m : InterfaceMethod) :
    Function.Injective m.wrapping := by
  intro result result' h
  rw [wrapping, wrapping, signatureText_eq_append, signatureText_eq_append (taskSign result')] at h
  exact taskSign_injective ((String.append_left_inj _).1 ((String.append_left_inj _).1 h))

/-! ### The result for a return type -/

/-- The result that there is for a return type. -/
def result? (descriptor : String) : Option String :=
  if returnName descriptor = void then none else some (returnName descriptor)

variable {descriptor : String}

theorem result?_of_blank (h : allBlank descriptor = true) : result? descriptor = none :=
  if_pos (if_pos h)

theorem result?_of_not_blank (h : allBlank descriptor = false) : result? descriptor =
    if displayNameOf descriptor = void then none else some (displayNameOf descriptor) := by
  have hname : returnName descriptor = displayNameOf descriptor := if_neg (Bool.eq_false_iff.1 h)
  rw [result?, hname]

theorem displayNameOf_eq_empty_iff_endsInDot (h : allBlank descriptor = false) :
    displayNameOf descriptor = "" ↔ EndsInDot descriptor := by
  have hne : trimBlank descriptor.toList ≠ [] := by
    rw [Ne, trimBlank_eq_nil_iff, ← List.all_eq_true, ← allBlank, h]
    exact Bool.false_ne_true
  obtain ⟨c, hc⟩ := Option.isSome_iff_exists.1 (List.getLast?_isSome.2 hne)
  rw [TypeRef.displayNameOf_eq_empty_iff, EndsInDot, hc]
  simp

theorem not_endsInDot_of_blank (h : allBlank descriptor = true) : ¬EndsInDot descriptor := by
  rw [allBlank, List.all_eq_true] at h
  rw [EndsInDot, trimBlank_eq_nil_iff.2 h]
  exact nofun

theorem result?_eq_none_iff :
    result? descriptor = none ↔ allBlank descriptor = true ∨ displayNameOf descriptor = "void" := by
  cases hblank : allBlank descriptor with
  | true => exact iff_of_true (result?_of_blank hblank) (.inl rfl)
  | false =>
    rw [result?_of_not_blank hblank, or_iff_right Bool.false_ne_true]
    split
    · next hvoid => exact iff_of_true rfl hvoid
    · next hvoid => exact iff_of_false nofun hvoid

theorem eq_displayNameOf_of_mem_result? {r : String} (h : r ∈ result? descriptor) :
    r = displayNameOf descriptor := by
  cases hblank : allBlank descriptor with
  | true =>
    rw [result?_of_blank hblank] at h
    exact nomatch h
  | false =>
    rw [result?_of_not_blank hblank] at h
    split at h
    · exact nomatch h
    · exact (Option.some.inj h).symm

theorem forall_mem_result?_ne_empty_iff :
    (∀ r ∈ result? descriptor, r ≠ "") ↔ ¬EndsInDot descriptor := by
  cases hblank : allBlank descriptor with
  | true =>
    rw [result?_of_blank hblank]
    exact iff_of_true nofun (not_endsInDot_of_blank hblank)
  | false =>
    rw [result?_of_not_blank hblank, ← displayNameOf_eq_empty_iff_endsInDot hblank]
    split
    · next hvoid =>
      rw [hvoid]
      exact iff_of_true nofun (by decide)
    · simp

/-- A member that tells which result it gives back gives back the one for a return type. -/
theorem Wraps.of_injective {wrapping : Option String → String} (h : Function.Injective wrapping)
    (descriptor : String) : Wraps wrapping (wrapping (result? descriptor)) descriptor where
  exists_eq := ⟨_, rfl⟩
  eq_none_iff := h.eq_iff.trans result?_eq_none_iff
  eq_displayName _ heq := eq_displayNameOf_of_mem_result? (h heq)
  typed_iff := by
    rw [← forall_mem_result?_ne_empty_iff]
    constructor
    · rintro ⟨result, heq, htyped⟩
      rwa [h heq]
    · exact fun htyped => ⟨_, rfl, htyped⟩

/-! ### Asynchronous members -/

theorem taskOf_returnName (descriptor : String) :
    taskOf (returnName descriptor) = taskSign (result? descriptor) := by
  rw [taskOf, result?]
  split <;> rfl

theorem callText_returnName (descriptor name values : String) :
    callText (returnName descriptor) name values =
      requestSign (result? descriptor) ++ "(nameof(" ++ name ++ ")" ++ values ++ ");" := by
  rw [callText, result?]
  split <;> rfl

theorem Action.text_member_eq_wrapping {a : Action} (h : isAsync a.name = true) :
    a.member.text = a.wrapping (result? a.returnValue.type) := by
  have hopening : "\n\x7b\n    " = "\n\x7b" ++ "\n    " := by decide
  have hclosing : ");\n\x7d" = ");" ++ "\n\x7d" := by decide
  unfold wrapping
  rw [a.text_member_of_async h, taskOf_returnName, forwardingBody, callText_returnName, hopening,
    hclosing]
  simp only [String.append_assoc]

theorem InterfaceMethod.text_member_eq_wrapping {m : InterfaceMethod} (h : isAsync m.name = true) :
    m.member.text = m.wrapping (result? m.returnValue.type) := by
  rw [m.text_member_of_async h, taskOf_returnName, wrapping]

/-- **Asynchronous members wrap one result.** The signature of an asynchronous member returns the
task of one result or of none, and the body of a class requests the same from the service. There is
none exactly if the return type is blank or displayed as `void`, and any other result goes by the
display name of the return type. So the task and the request are of a type that is not empty, or of
none, exactly if the return type does not end with a dot. -/
theorem async_members_wrap {a : Action} {m : InterfaceMethod} (ha : isAsync a.name = true)
    (hm : isAsync m.name = true) :
    Wraps a.wrapping a.member.text a.returnValue.type ∧
      Wraps m.wrapping m.member.text m.returnValue.type := by
  rw [Action.text_member_eq_wrapping ha, InterfaceMethod.text_member_eq_wrapping hm]
  exact ⟨.of_injective a.wrapping_injective _, .of_injective m.wrapping_injective _⟩

/-- The tasks of a return type that ends with a dot, in a class and in an interface, are of a result
without a name. -/
theorem async_members_wrap_nameless :
    isAsync "FindAsync" = true ∧ EndsInDot "Acme.Books. " ∧
    (¬∃ result, (repeatedAction "FindAsync" "Acme.Books. ").member.text =
      (repeatedAction "FindAsync" "Acme.Books. ").wrapping result ∧ ∀ r ∈ result, r ≠ "") ∧
    ¬∃ result, (repeatedMethod "FindAsync" "Acme.Books. ").member.text =
      (repeatedMethod "FindAsync" "Acme.Books. ").wrapping result ∧ ∀ r ∈ result, r ≠ "" := by
  have hasync : isAsync "FindAsync" = true := by decide
  have hdot : EndsInDot "Acme.Books. " := by decide
  obtain ⟨haction, hmethod⟩ :=
    async_members_wrap (a := repeatedAction "FindAsync" "Acme.Books. ")
      (m := repeatedMethod "FindAsync" "Acme.Books. ") hasync hasync
  exact ⟨hasync, hdot, fun h => haction.typed_iff.1 h hdot, fun h => hmethod.typed_iff.1 h hdot⟩

end ApiProxy
