import ApiProxy.Proofs.Generation.Arrangements
import ApiProxy.Proofs.TypeRef.Instances

/-!
# The files of data types

The file of a data type declares it below its namespace, with its members in braces. The name in the
declaration is the display name of the type with its placeholders replaced. The properties of a
generic definition are of this type, too, but there its text is read again. This makes no difference
if the arguments are descriptors, since then the text of the type is a descriptor of it.

Where the file stands is decided by the name of the type alone, if that has a namespace. What its
definition says about it, the arguments that replace placeholders included, changes what is written
and not where.

## Main definitions

* `DataTypeFile.text`: the text of the file of a data type.
* `Declares`: a file declares a type with its members.

## Main results

* `DataType.ofDefinition_eq_ok`: what is generated from a definition.
* `DataType.ofDefinition_generic`: the properties of a generic definition.
* `DataType.placement_of_namespace`: the place of a file does not depend on the definition.
-/

namespace ApiProxy

open Text

/-- The text of the file of a data type. -/
def DataTypeFile.text (f : DataTypeFile) : String :=
  CodeTemplate.heading ++ f.imports ++
    "\n\n// ReSharper disable once CheckNamespace\nnamespace " ++ f.namespaceName ++
    ";\n\npublic " ++ f.declaration ++ "\n\x7b\n" ++
    (if f.members = "" then "" else f.members ++ "\n") ++ "\x7d\n"

theorem DataTypeFile.render_eq_text (f : DataTypeFile) : f.render = .ok f.text := by
  have hfilled : Template.filledAll f.context CodeTemplate.dataType.pieces = f.text := by
    simp [CodeTemplate.dataType, CodeTemplate.preamble, CodeTemplate.body, Template.filledAll,
      Template.Piece.filled, context, Json.get?, Template.slotText, Template.holds, text,
      String.append_assoc]
  rw [f.render_eq_ok, hfilled]

/-- The members of a declaration as they stand between its braces: each of them indented, and an
empty line between any two. Without members nothing stands there. -/
def membersText : List String → String
  | [] => ""
  | members => "\n\n".intercalate (members.map indent) ++ "\n"

/-- A file declares a type below a namespace: behind the imports and the namespace stands the head
of the declaration, and then stand the members in braces. -/
def Declares (content ns head : String) (members : List String) : Prop :=
  ∃ imports, content = CodeTemplate.heading ++ imports ++
    "\n\n// ReSharper disable once CheckNamespace\nnamespace " ++ ns ++ ";\n\npublic " ++ head ++
    "\n\x7b\n" ++ membersText members ++ "\x7d\n"

theorem DataTypeFile.declares {f : DataTypeFile} {members : List String}
    (h : (if f.members = "" then "" else f.members ++ "\n") = membersText members) :
    Declares f.text f.namespaceName f.declaration members :=
  ⟨f.imports, by rw [text, h]⟩

/-- What a class is derived from, as it stands behind its name. -/
def TypeDefinition.baseClause (d : TypeDefinition) : String :=
  match d.base? with
  | none => ""
  | some base => " : " ++ displayNameOf base

namespace DataType

variable {key ns : String} {d : TypeDefinition}

/-! ### What is generated from a definition -/

/-- The data type that a definition gives. -/
theorem ofDefinition_eq_ok (key : String) (d : TypeDefinition) :
    ofDefinition key d = .ok
      { key
        name := ((TypeRef.ofDescriptor key).instantiate d.arguments).text
        namespaceName := ((TypeRef.ofDescriptor key).instantiate d.arguments).namespace?.getD ""
        fileStem := stem ((TypeRef.ofDescriptor key).instantiate d.arguments).displayName
        content := (values key d).text } := by
  have hrender : (values key d).render = .ok (values key d).text := (values key d).render_eq_text
  exact bind_eq_ok.2 ⟨_, hrender, rfl⟩

theorem declaration_of_class (hclass : d.isEnum = false) (shortName : String) :
    declaration d shortName = "class " ++ shortName ++ d.baseClause := by
  rw [declaration, if_neg (by rw [hclass]; decide), TypeDefinition.baseClause]
  cases d.base? with
  | none => rw [String.append_empty]
  | some base => rw [← String.append_assoc]

theorem mem_propertyLine (type name : String) : 'p' ∈ (propertyLine type name).toList := by
  rw [propertyLine, String.append_assoc, String.append_assoc, String.append_assoc,
    String.toList_append]
  exact List.mem_append_left _ (by decide)

/-- What stands between the braces of a declaration of properties. -/
theorem membersText_eq {lines : List String} (h : ∀ line ∈ lines, 'p' ∈ line.toList) :
    (if memberBlock lines = "" then "" else memberBlock lines ++ "\n") = membersText lines := by
  cases lines with
  | nil => rfl
  | cons line lines =>
    have hmem := List.mem_cons_self (a := line) (l := lines)
    exact if_neg (memberBlock_ne_empty hmem (h line hmem) (by decide) (by decide))

/-! ### The properties of generic definitions -/

/-- The properties of a generic class are all declared with the name of its instance. -/
theorem members_of_generic (hclass : d.isEnum = false) (hgeneric : d.arguments ≠ [])
    (name : String) : members d name = d.propertyList.map fun p => propertyLine name p.name := by
  have htype : ∀ p, propertyType d name p = name := fun p =>
    if_neg fun hnil => hgeneric (List.isEmpty_iff.1 hnil)
  rw [members, if_neg (by rw [hclass]; decide)]
  simp only [htype]

/-- **The properties of a generic class have its own type.** If the name of the class and its
arguments are descriptors, the text of the instance is a descriptor of it. So the class is declared
with the display name of the instance, and with one property for each that is listed, in this order,
whose type has the same display name. A property without a line feed in its name or in that of the
type is a single line. -/
theorem ofDefinition_generic (hkey : TypeRef.IsDescriptor key) (hclass : d.isEnum = false)
    (hgeneric : d.arguments ≠ [])
    (harguments : ∀ argument ∈ d.arguments, TypeRef.IsDescriptor argument) :
    let type := (TypeRef.ofDescriptor key).instantiate d.arguments
    ∃ t, ofDefinition key d = .ok t ∧ t.name = type.text ∧ TypeRef.ofDescriptor t.name = type ∧
      displayNameOf t.name = type.displayName ∧
      ∃ lines, lines = d.propertyList.map (fun p =>
          "public " ++ displayNameOf t.name ++ " " ++ p.name ++ " \x7b get; set; \x7d") ∧
        Declares t.content t.namespaceName ("class " ++ type.displayName ++ d.baseClause) lines ∧
        ∀ line ∈ lines, '\n' ∉ line.toList → indent line = "    " ++ line := by
  intro type
  have hread : TypeRef.ofDescriptor type.text = type :=
    TypeRef.ofDescriptor_text_instantiate harguments hkey
  have hvisible : ∀ line ∈ d.propertyList.map fun p => propertyLine type.text p.name,
      'p' ∈ line.toList :=
    List.forall_mem_map.2 fun p _ => mem_propertyLine type.text p.name
  have hdeclares : Declares (values key d).text (values key d).namespaceName
      ("class " ++ type.displayName ++ d.baseClause)
      (d.propertyList.map fun p => propertyLine type.text p.name) := by
    rw [← declaration_of_class hclass]
    refine DataTypeFile.declares ?_
    rw [← membersText_eq hvisible, ← members_of_generic hclass hgeneric]
    rfl
  refine ⟨_, ofDefinition_eq_ok key d, rfl, hread, congrArg TypeRef.displayName hread, _, rfl,
    hdeclares, fun line hline hfeed => ?_⟩
  refine indent_of_not_mem hfeed ?_
  rintro rfl
  exact absurd (hvisible _ hline) List.not_mem_nil

/-- A class with two arguments, of which one is a dictionary, and two properties. -/
def keyedItem : TypeDefinition :=
  ⟨some "Acme.Entity", false, none, none, some ["TKey", "\x7bSystem.String:Acme.Book?\x7d"],
    some [⟨"Id", none, "T0", none, false, none, none, none, none, none⟩,
      ⟨"Label", none, "System.String", none, false, none, none, none, none, none⟩]⟩

/-- The mark of a placeholder and an array around one stay, and the properties follow. -/
theorem ofDefinition_generic_keyed :
    TypeRef.IsDescriptor "Acme.Shared.Keyed<T0?, [T1]>" ∧ keyedItem.isEnum = false ∧
      keyedItem.arguments ≠ [] ∧
      (∀ argument ∈ keyedItem.arguments, TypeRef.IsDescriptor argument) ∧
      ∃ t, ofDefinition "Acme.Shared.Keyed<T0?, [T1]>" keyedItem = .ok t ∧
        t.name = "Acme.Shared.Keyed<TKey?,[\x7bSystem.String:Acme.Book?\x7d]>" ∧
        Declares t.content t.namespaceName "class Keyed<TKey?,Dictionary<String,Book?>[]> : Entity"
          ["public Keyed<TKey?,Dictionary<String,Book?>[]> Id \x7b get; set; \x7d",
            "public Keyed<TKey?,Dictionary<String,Book?>[]> Label \x7b get; set; \x7d"] := by
  have hkey : TypeRef.IsDescriptor "Acme.Shared.Keyed<T0?, [T1]>" := by decide +kernel
  have hgeneric : keyedItem.arguments ≠ [] := List.cons_ne_nil _ _
  have harguments : ∀ argument ∈ keyedItem.arguments, TypeRef.IsDescriptor argument := by
    decide +kernel
  refine ⟨hkey, rfl, hgeneric, harguments, ?_⟩
  obtain ⟨t, ht, hname, -, hshort, lines, rfl, hdeclares, -⟩ :=
    ofDefinition_generic hkey rfl hgeneric harguments
  have hdisplay : ((TypeRef.ofDescriptor "Acme.Shared.Keyed<T0?, [T1]>").instantiate
      keyedItem.arguments).displayName = "Keyed<TKey?,Dictionary<String,Book?>[]>" := by
    decide +kernel
  have hbase : keyedItem.baseClause = " : Entity" := by decide +kernel
  rw [hshort, hdisplay, hbase] at hdeclares
  exact ⟨t, ht, hname.trans (by decide +kernel), hdeclares⟩

/-! ### The place of the file of a data type -/

/-- **The place of a data type does not depend on its definition.** Every definition of a type whose
name has a namespace gives a file for this namespace, and the stem of its name is that of the
display name of the type before its placeholders are replaced. -/
theorem placement_of_namespace (h : namespaceOf? key = some ns) (d : TypeDefinition) :
    ∃ t, ofDefinition key d = .ok t ∧ t.namespaceName = ns ∧
      t.fileStem = stem (displayNameOf key) ∧
      ∀ a, (t.file a).path = a.path ns (stem (displayNameOf key) ++ ".cs") := by
  have hsome : (TypeRef.ofDescriptor key).namespace?.isSome = true := Option.isSome_of_eq_some h
  have hnamespace :
      ((TypeRef.ofDescriptor key).instantiate d.arguments).namespace?.getD "" = ns := by
    rw [TypeRef.namespace?_instantiate d.arguments _ hsome, ← namespaceOf?, h, Option.getD_some]
  have hstem : stem ((TypeRef.ofDescriptor key).instantiate d.arguments).displayName =
      stem (displayNameOf key) :=
    congrArg String.ofList (TypeRef.sameStem_instantiate true d.arguments _ hsome).takeWhile_eq
  refine ⟨_, ofDefinition_eq_ok key d, hnamespace, hstem, fun a => ?_⟩
  change a.path _ (_ ++ ".cs") = _
  rw [hnamespace, hstem]

/-- Arguments change the name of an array of instances, and neither its namespace nor its file. -/
theorem placement_of_namespace_array :
    let key := "[Acme.Shared.Keyed<T0,[T1]>?]"
    namespaceOf? key = some "Acme.Shared" ∧ ∃ t t',
      ofDefinition key keyedItem = .ok t ∧ ofDefinition key hollow = .ok t' ∧
      t.name ≠ t'.name ∧ t.namespaceName = "Acme.Shared" ∧ t'.namespaceName = "Acme.Shared" ∧
      t.fileStem = "Keyed" ∧ t'.fileStem = "Keyed" ∧
      (t.file .namespaced).path = "Acme/Shared/Keyed.cs" ∧
      (t'.file .namespaced).path = "Acme/Shared/Keyed.cs" := by
  intro key
  have hns : namespaceOf? key = some "Acme.Shared" := by decide +kernel
  have hstem : stem (displayNameOf key) = "Keyed" := by decide +kernel
  obtain ⟨t, ht, hspace, hfile, hpath⟩ := placement_of_namespace hns keyedItem
  obtain ⟨t', ht', hspace', hfile', hpath'⟩ := placement_of_namespace hns hollow
  rw [hstem] at hfile hfile' hpath hpath'
  have hname : t.name ≠ t'.name := by
    rw [ofDefinition_eq_ok] at ht ht'
    rw [← Except.ok.inj ht, ← Except.ok.inj ht']
    decide +kernel
  exact ⟨hns, t, t', ht, ht', hname, hspace, hspace', hfile, hfile', hpath .namespaced,
    hpath' .namespaced⟩

end DataType

end ApiProxy
