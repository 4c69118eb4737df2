import ApiProxy.Proofs.Generation.Imports
import Mathlib.Data.List.FinRange

/-!
# The members that actions and methods become

An action becomes a method of a class, and a method of an interface becomes a declaration. Both are
written around a signature, which is made of a return type, a name and parameters. The class puts
its modifiers before the signature and a body behind it, and the interface ends it with a semicolon.
So a class implements its interface as long as both are given the same parameters.

An asynchronous member has all parameters that are declared, in their order, and in a class it sends
each of them. Any other member has the first parameter of each name.

## Main definitions

* `Parameter.KeepsFirsts`: what is kept of a list of parameters are the first ones of each name.
* `signatureText`, `throwingBody`, `forwardingBody`: what members are made of.
* `RequestsEach`: the values of a request are those of some parameters.

## Main results

* `Parameter.keepsFirsts_distinct`: the distinct parameters are the first ones of each name.
* `Action.member_matches`: the method of a class has the signature that its interface declares.
* `members_take_formals`: the parameters of each kind of members.
-/

namespace ApiProxy

open Text

/-! ### The first parameter of each name -/

namespace Parameter

/-- The name at a position of a list occurs there for the first time. -/
def FirstAt (ps : List Parameter) (i : Fin ps.length) : Prop :=
  ∀ j < i, ps[j].name ≠ ps[i].name

instance (ps : List Parameter) (i : Fin ps.length) : Decidable (FirstAt ps i) :=
  inferInstanceAs (Decidable (∀ j < i, ps[j].name ≠ ps[i].name))

/-- The positions at which a name occurs for the first time, in ascending order. -/
def firstPositions (ps : List Parameter) : List (Fin ps.length) :=
  (List.finRange ps.length).filter fun i => decide (FirstAt ps i)

/-- What is kept of a list of parameters are the first ones of each name. -/
structure KeepsFirsts (ps kept : List Parameter) : Prop where
  /-- A parameter is kept for each position at which a name occurs for the first time. -/
  positions : kept = (firstPositions ps).map (ps[·])
  /-- The order stays. -/
  sublist : kept.Sublist ps
  /-- No two parameters have the same name. -/
  names : (kept.map (·.name)).Nodup
  /-- No name is lost. -/
  covers : ∀ p ∈ ps, ∃ q ∈ kept, q.name = p.name

theorem firstAt_zero (p : Parameter) (ps : List Parameter) :
    FirstAt (p :: ps) (0 : Fin (ps.length + 1)) :=
  fun _ h => absurd h (Fin.not_lt_zero _)

/-- Behind another parameter, a name occurs for the first time where it did before, unless it is
that of this parameter. -/
theorem firstAt_succ {p : Parameter} {ps : List Parameter} {i : Fin ps.length} :
    FirstAt (p :: ps) i.succ ↔ ps[i].name ≠ p.name ∧ FirstAt ps i := by
  have hsplit : FirstAt (p :: ps) i.succ ↔
      p.name ≠ ps[i].name ∧ ∀ j : Fin ps.length, j.succ < i.succ → ps[j].name ≠ ps[i].name := by
    refine Fin.forall_fin_succ.trans ?_
    exact and_congr_left fun _ => ⟨fun h => h (Fin.succ_pos i), fun h _ => h⟩
  rw [hsplit, ne_comm]
  simp only [Fin.succ_lt_succ_iff, FirstAt]

theorem firstPositions_cons (p : Parameter) (ps : List Parameter) :
    firstPositions (p :: ps) =
      (0 : Fin (ps.length + 1)) ::
        ((firstPositions ps).filter fun i => ps[i].name != p.name).map Fin.succ := by
  have hrange : List.finRange (p :: ps).length =
      (0 : Fin (ps.length + 1)) :: (List.finRange ps.length).map Fin.succ := List.finRange_succ
  rw [firstPositions, hrange, List.filter_cons, if_pos (decide_eq_true (firstAt_zero p ps)),
    List.filter_map, firstPositions, List.filter_filter]
  congr 2
  refine List.filter_congr fun i _ => ?_
  rw [Function.comp_apply, decide_eq_decide.2 firstAt_succ, Bool.decide_and, decide_not, bne,
    beq_eq_decide]

theorem distinct_eq_map (ps : List Parameter) :
    distinct ps = (firstPositions ps).map (ps[·]) := by
  induction ps with
  | nil => rfl
  | cons p ps ih =>
    rw [distinct, ih, firstPositions_cons, List.map_cons, List.filter_map, List.map_map]
    rfl

theorem sublist_distinct (ps : List Parameter) : (distinct ps).Sublist ps := by
  induction ps with
  | nil => exact .slnil
  | cons p ps ih => exact (List.filter_sublist.trans ih).cons_cons p

theorem nodup_names_distinct (ps : List Parameter) : ((distinct ps).map (·.name)).Nodup := by
  induction ps with
  | nil => exact .nil
  | cons p ps ih =>
    refine List.nodup_cons.2 ⟨fun hmem => ?_, ih.sublist (List.filter_sublist.map _)⟩
    obtain ⟨q, hq, hname⟩ := List.mem_map.1 hmem
    exact bne_iff_ne.1 (List.mem_filter.1 hq).2 hname

theorem exists_mem_distinct {ps : List Parameter} :
    ∀ p ∈ ps, ∃ q ∈ distinct ps, q.name = p.name := by
  induction ps with
  | nil => exact fun _ h => absurd h List.not_mem_nil
  | cons p ps ih =>
    refine List.forall_mem_cons.2 ⟨⟨p, List.mem_cons_self, rfl⟩, fun r hr => ?_⟩
    obtain ⟨q, hq, hname⟩ := ih r hr
    by_cases hfirst : q.name = p.name
    · exact ⟨p, List.mem_cons_self, hfirst.symm.trans hname⟩
    · exact ⟨q, List.mem_cons_of_mem _ (List.mem_filter.2 ⟨hq, bne_iff_ne.2 hfirst⟩), hname⟩

/-- The distinct parameters of a list are the first ones of each name. -/
theorem keepsFirsts_distinct (ps : List Parameter) : KeepsFirsts ps (distinct ps) where
  positions := distinct_eq_map ps
  sublist := sublist_distinct ps
  names := nodup_names_distinct ps
  covers := exists_mem_distinct

end Parameter

/-! ### Signatures -/

/-- The signature of a member: its return type, its name, and each parameter by the display name of
its type and its own name. -/
def signatureText (returns name : String) (ps : List Parameter) : String :=
  returns ++ " " ++ name ++ "(" ++
    ", ".intercalate (ps.map fun p => displayNameOf p.type ++ " " ++ p.name) ++ ")"

theorem signatureText_eq (returns name : String) (ps : List Parameter) :
    signatureText returns name ps =
      returns ++ " " ++ name ++ "(" ++ Parameter.signature ps ++ ")" :=
  rfl

/-- What stands in a method that cannot be called, behind its opening brace. -/
def throwingBody : String :=
  "\n" ++
    "    //Client Proxy does not support the synchronization method, " ++
    "you should always use asynchronous methods as a best practice\n" ++
    "    throw new System.NotImplementedException();\n\x7d"

/-- The call of the remote service for a result of the given type. -/
def callText (returns name values : String) : String :=
  (if returns = void then "await RequestAsync"
    else "return await RequestAsync<" ++ returns ++ ">") ++
    "(nameof(" ++ name ++ ")" ++ values ++ ");"

/-- What stands in a method that forwards its arguments, behind its opening brace. -/
def forwardingBody (returns name values : String) : String :=
  "\n    " ++ callText returns name values ++ "\n\x7d"

theorem remoteCall_eq (name returns : String) (ps : List Parameter) :
    remoteCall name returns ps = callText returns name (Parameter.requestValues ps) := by
  have hresult : ">(nameof(" = ">" ++ "(nameof(" := by simp
  have hvoid : "await RequestAsync(nameof(" = "await RequestAsync" ++ "(nameof(" := by simp
  rw [remoteCall, callText]
  split
  · simp only [hvoid, String.append_assoc]
  · simp only [hresult, String.append_assoc]

theorem forwardingMethod_eq (name returns : String) (ps : List Parameter) :
    forwardingMethod name returns ps = "public virtual async " ++
      signatureText (taskOf returns) name ps ++ "\n\x7b" ++
      forwardingBody returns name (Parameter.requestValues ps) := by
  have hopen : ")\n\x7b\n    " = ")" ++ "\n\x7b" ++ "\n    " := by decide +kernel
  unfold forwardingMethod
  simp only [remoteCall_eq, hopen, signatureText_eq, forwardingBody, String.append_assoc]

theorem throwingMethod_eq (name returns : String) (ps : List Parameter) :
    throwingMethod name returns ps =
      "public virtual " ++ signatureText returns name ps ++ "\n\x7b" ++ throwingBody := by
  have hopen : ")\n\x7b\n" = ")" ++ "\n\x7b" ++ "\n" := by decide +kernel
  unfold throwingMethod
  simp only [hopen, signatureText_eq, throwingBody, String.append_assoc]

namespace Action

variable {a : Action}

theorem formals_of_async (h : isAsync a.name = true) :
    a.formals = a.parametersOnMethod.map (·.parameter) :=
  if_pos h

theorem formals_of_not_async (h : isAsync a.name = false) :
    a.formals = Parameter.distinct (a.parameters.map (·.parameter)) :=
  if_neg (Bool.eq_false_iff.1 h)

/-- The method of a class for an asynchronous action. -/
theorem text_member_of_async (h : isAsync a.name = true) :
    a.member.text = "public virtual async " ++
      signatureText (taskOf (returnName a.returnValue.type)) a.name a.formals ++ "\n\x7b" ++
      forwardingBody (returnName a.returnValue.type) a.name
        (Parameter.requestValues a.formals) := by
  rw [← forwardingMethod_eq]
  exact if_pos h

/-- The method of a class for any other action. -/
theorem text_member_of_not_async (h : isAsync a.name = false) :
    a.member.text = "public virtual " ++
      signatureText (returnName a.returnValue.type) a.name a.formals ++ "\n\x7b" ++
      throwingBody := by
  rw [← throwingMethod_eq]
  exact if_neg (Bool.eq_false_iff.1 h)

end Action

namespace InterfaceMethod

variable {m : InterfaceMethod}

theorem formals_of_async (h : isAsync m.name = true) :
    m.formals = m.parametersOnMethod.map (·.parameter) :=
  if_pos h

theorem formals_of_not_async (h : isAsync m.name = false) :
    m.formals = Parameter.distinct (m.parametersOnMethod.map (·.parameter)) :=
  if_neg (Bool.eq_false_iff.1 h)

theorem text_member_of_async (h : isAsync m.name = true) :
    m.member.text =
      signatureText (taskOf (returnName m.returnValue.type)) m.name m.formals ++ ";" := by
  have hend : ");" = ")" ++ ";" := by simp
  rw [member, if_pos h, hend, signatureText_eq]
  simp only [String.append_assoc]

theorem text_member_of_not_async (h : isAsync m.name = false) :
    m.member.text =
      "public " ++ signatureText (returnName m.returnValue.type) m.name m.formals ++ ";" := by
  have hend : ");" = ")" ++ ";" := by simp
  rw [member, if_neg (Bool.eq_false_iff.1 h), hend, signatureText_eq]
  simp only [String.append_assoc]

end InterfaceMethod

/-! ### Classes and their interfaces -/

namespace Action

variable {a : Action} {m : InterfaceMethod}

/-- An action and a method of an interface that return the same and take the same parameters depend
on the same namespaces. -/
theorem imports_member_eq (hreturn : a.returnValue.type = m.returnValue.type)
    (hformals : a.formals = m.formals) : a.member.imports = m.member.imports := by
  rw [member, InterfaceMethod.member, hreturn, hformals]

/-- **A class has the members that its interface declares.** Let an action and a method of an
interface have the same name and the same return type, and let the parameters that they are given
be the same by name and type: those that are declared if they are asynchronous, and otherwise those
of the action that are bound from the request. Then the signature of the class is that of the
interface, and both depend on the same namespaces. -/
theorem member_matches (hname : a.name = m.name)
    (hreturn : a.returnValue.type = m.returnValue.type) :
    (isAsync a.name = true →
      a.parametersOnMethod.map (·.parameter) = m.parametersOnMethod.map (·.parameter) →
      ∃ signature body, m.member.text = signature ++ ";" ∧
        a.member.text = "public virtual async " ++ signature ++ "\n\x7b" ++ body ∧
        a.member.imports = m.member.imports) ∧
    (isAsync a.name = false →
      a.parameters.map (·.parameter) = m.parametersOnMethod.map (·.parameter) →
      ∃ signature body, m.member.text = "public " ++ signature ++ ";" ∧
        a.member.text = "public virtual " ++ signature ++ "\n\x7b" ++ body ∧
        a.member.imports = m.member.imports) := by
  constructor
  · intro hasync hparameters
    have hasync' : isAsync m.name = true := hname ▸ hasync
    have hformals : a.formals = m.formals := by
      rw [formals_of_async hasync, hparameters, InterfaceMethod.formals_of_async hasync']
    have hmethod := text_member_of_async hasync
    rw [hname, hreturn, hformals] at hmethod
    exact ⟨_, _, InterfaceMethod.text_member_of_async hasync', hmethod,
      imports_member_eq hreturn hformals⟩
  · intro hsync hparameters
    have hsync' : isAsync m.name = false := hname ▸ hsync
    have hformals : a.formals = m.formals := by
      rw [formals_of_not_async hsync, hparameters, InterfaceMethod.formals_of_not_async hsync']
    have hmethod := text_member_of_not_async hsync
    rw [hname, hreturn, hformals] at hmethod
    exact ⟨_, _, InterfaceMethod.text_member_of_not_async hsync', hmethod,
      imports_member_eq hreturn hformals⟩

end Action

/-- Parameters of which two have the same name, the second one with a type that is no descriptor. -/
def repeatedParameters : List Parameter :=
  [⟨"filter", "Acme.Filter"⟩, ⟨"page", "System.Int32"⟩, ⟨"filter", "Acme.Cup<"⟩]

/-- A method of an interface that takes the repeated parameters. -/
def repeatedMethod (name returns : String) : InterfaceMethod where
  name := name
  parametersOnMethod := repeatedParameters.map fun p => ⟨p.name, none, p.type, none, false, none⟩
  returnValue := ⟨returns, none⟩

/-- An action that takes the repeated parameters, whether they are declared or bound. -/
def repeatedAction (name returns : String) : Action where
  uniqueName := name
  name := name
  httpMethod := none
  url := none
  supportedVersions := []
  parametersOnMethod := repeatedParameters.map fun p => ⟨p.name, none, p.type, none, false, none⟩
  parameters := repeatedParameters.map fun p =>
    ⟨"", p.name, none, p.type, none, false, none, none, none, none⟩
  returnValue := ⟨returns, none⟩
  allowAnonymous := none
  implementFrom := ""

/-- A blank return type, and one that is no descriptor. -/
theorem Action.member_matches_repeated :
    isAsync "FindAsync" = true ∧ isAsync "Find" = false ∧
    (∃ signature body, (repeatedMethod "FindAsync" " ").member.text = signature ++ ";" ∧
      (repeatedAction "FindAsync" " ").member.text =
        "public virtual async " ++ signature ++ "\n\x7b" ++ body ∧
      (repeatedAction "FindAsync" " ").member.imports =
        (repeatedMethod "FindAsync" " ").member.imports) ∧
    ∃ signature body, (repeatedMethod "Find" "Acme.Cup<").member.text =
        "public " ++ signature ++ ";" ∧
      (repeatedAction "Find" "Acme.Cup<").member.text =
        "public virtual " ++ signature ++ "\n\x7b" ++ body ∧
      (repeatedAction "Find" "Acme.Cup<").member.imports =
        (repeatedMethod "Find" "Acme.Cup<").member.imports := by
  have hasync : isAsync "FindAsync" = true := by decide
  have hsync : isAsync "Find" = false := by decide
  exact ⟨hasync, hsync, (member_matches rfl rfl).1 hasync rfl, (member_matches rfl rfl).2 hsync rfl⟩

/-! ### Parameters in signatures and in requests -/

/-- The values of a request are those of some parameters: there are none at all if there are no
parameters, and otherwise each parameter has one entry, with the display name of its type and its
own name. -/
def RequestsEach (values : String) (ps : List Parameter) : Prop :=
  (values = "" ↔ ps = []) ∧
    (ps ≠ [] → values = ", new ClientProxyRequestTypeValue\n    \x7b\n" ++
      ",\n".intercalate (ps.map fun p =>
        "        \x7b typeof(" ++ displayNameOf p.type ++ "), " ++ p.name ++ " \x7d") ++
      "\n    \x7d")

theorem requestsEach_requestValues (ps : List Parameter) :
    RequestsEach (Parameter.requestValues ps) ps := by
  cases ps with
  | nil => exact ⟨iff_of_true rfl rfl, fun h => absurd rfl h⟩
  | cons p ps =>
    refine ⟨iff_of_false ?_ (List.cons_ne_nil p ps), fun _ => rfl⟩
    simp [Parameter.requestValues]

/-- **The parameters of members.** A member that is not asynchronous takes the first parameter of
each name, of those bound from the request in a class and of those declared in an interface. An
asynchronous member takes all that are declared, in their order, and in a class the request has one
value for each of them. The types of these parameters, and of no others, are where a member needs
namespaces from, besides its return type. -/
theorem members_take_formals (a : Action) (m : InterfaceMethod) :
    (isAsync a.name = false → ∃ ps,
      Parameter.KeepsFirsts (a.parameters.map (·.parameter)) ps ∧
      a.member.text = "public virtual " ++
        signatureText (returnName a.returnValue.type) a.name ps ++ "\n\x7b" ++ throwingBody ∧
      ∀ n, n ∈ a.member.imports ↔ MethodNeeds a.returnValue.type (· ∈ ps) n) ∧
    (isAsync m.name = false → ∃ ps,
      Parameter.KeepsFirsts (m.parametersOnMethod.map (·.parameter)) ps ∧
      m.member.text =
        "public " ++ signatureText (returnName m.returnValue.type) m.name ps ++ ";" ∧
      ∀ n, n ∈ m.member.imports ↔ MethodNeeds m.returnValue.type (· ∈ ps) n) ∧
    (isAsync a.name = true → ∃ ps values,
      ps = a.parametersOnMethod.map (·.parameter) ∧ RequestsEach values ps ∧
      a.member.text = "public virtual async " ++
        signatureText (taskOf (returnName a.returnValue.type)) a.name ps ++ "\n\x7b" ++
        forwardingBody (returnName a.returnValue.type) a.name values ∧
      ∀ n, n ∈ a.member.imports ↔ MethodNeeds a.returnValue.type (· ∈ ps) n) ∧
    (isAsync m.name = true → ∃ ps,
      ps = m.parametersOnMethod.map (·.parameter) ∧
      m.member.text =
        signatureText (taskOf (returnName m.returnValue.type)) m.name ps ++ ";" ∧
      ∀ n, n ∈ m.member.imports ↔ MethodNeeds m.returnValue.type (· ∈ ps) n) := by
  have hclass : ∀ n, n ∈ a.member.imports ↔ MethodNeeds a.returnValue.type (· ∈ a.formals) n :=
    fun _ => mem_methodImports fun _ => Iff.rfl
  have hinterface : ∀ n,
      n ∈ m.member.imports ↔ MethodNeeds m.returnValue.type (· ∈ m.formals) n :=
    fun _ => mem_methodImports fun _ => Iff.rfl
  refine ⟨fun h => ?throwing, fun h => ?declared, fun h => ?forwarding, fun h => ?task⟩
  case throwing =>
    refine ⟨a.formals, ?_, a.text_member_of_not_async h, hclass⟩
    rw [a.formals_of_not_async h]
    exact Parameter.keepsFirsts_distinct _
  case declared =>
    refine ⟨m.formals, ?_, m.text_member_of_not_async h, hinterface⟩
    rw [m.formals_of_not_async h]
    exact Parameter.keepsFirsts_distinct _
  case forwarding =>
    exact ⟨a.formals, _, a.formals_of_async h, requestsEach_requestValues _,
      a.text_member_of_async h, hclass⟩
  case task => exact ⟨m.formals, m.formals_of_async h, m.text_member_of_async h, hinterface⟩

/-- The second parameter of a name is left out, and its type with it, unless the member is
asynchronous. -/
theorem members_take_formals_repeated :
    isAsync "Find" = false ∧ isAsync "FindAsync" = true ∧
    Parameter.KeepsFirsts repeatedParameters
      [⟨"filter", "Acme.Filter"⟩, ⟨"page", "System.Int32"⟩] ∧
    (repeatedAction "Find" "void").member.text =
      "public virtual " ++ "void Find(Filter filter, int page)" ++ "\n\x7b" ++ throwingBody ∧
    (repeatedMethod "Find" "void").member.text =
      "public " ++ "void Find(Filter filter, int page)" ++ ";" ∧
    (∃ values, RequestsEach values repeatedParameters ∧
      (repeatedAction "FindAsync" "void").member.text = "public virtual async " ++
        "Task FindAsync(Filter filter, int page, Cup< filter)" ++ "\n\x7b" ++
        forwardingBody "void" "FindAsync" values) ∧
    (repeatedMethod "FindAsync" "void").member.text =
      "Task FindAsync(Filter filter, int page, Cup< filter)" ++ ";" := by
  have hsync : isAsync "Find" = false := by decide
  have hasync : isAsync "FindAsync" = true := by decide
  obtain ⟨hthrowing, hdeclared, -, -⟩ :=
    members_take_formals (repeatedAction "Find" "void") (repeatedMethod "Find" "void")
  obtain ⟨-, -, hforwarding, htask⟩ :=
    members_take_formals (repeatedAction "FindAsync" "void") (repeatedMethod "FindAsync" "void")
  obtain ⟨ps, hkept, hmethod, -⟩ := hthrowing hsync
  obtain ⟨ps', hkept', hdeclaration, -⟩ := hdeclared hsync
  obtain ⟨_, values, rfl, hrequests, hmethod', -⟩ := hforwarding hasync
  obtain ⟨_, rfl, hdeclaration', -⟩ := htask hasync
  obtain rfl : ps = [⟨"filter", "Acme.Filter"⟩, ⟨"page", "System.Int32"⟩] :=
    hkept.positions.trans (by decide)
  obtain rfl : ps' = [⟨"filter", "Acme.Filter"⟩, ⟨"page", "System.Int32"⟩] :=
    hkept'.positions.trans (by decide)
  have hsignature : signatureText (returnName "void") "Find"
      [⟨"filter", "Acme.Filter"⟩, ⟨"page", "System.Int32"⟩] =
      "void Find(Filter filter, int page)" := by decide +kernel
  have hsignature' : signatureText (taskOf (returnName "void")) "FindAsync" repeatedParameters =
      "Task FindAsync(Filter filter, int page, Cup< filter)" := by decide +kernel
  have hbody : forwardingBody (returnName "void") "FindAsync" values =
      forwardingBody "void" "FindAsync" values :=
    congrArg (forwardingBody · "FindAsync" values) (by decide +kernel)
  refine ⟨hsync, hasync, hkept, ?_, ?_, ⟨values, hrequests, ?_⟩, ?_⟩
  · rw [← hsignature]
    exact hmethod
  · rw [← hsignature]
    exact hdeclaration
  · rw [← hsignature', ← hbody]
    exact hmethod'
  · rw [← hsignature']
    exact hdeclaration'

end ApiProxy
