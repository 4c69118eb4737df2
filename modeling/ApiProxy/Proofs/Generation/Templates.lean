import ApiProxy.Proofs.Generation.DataTypeFiles

/-!
# The sources of templates and the texts of files

A template is written as a source in which slots and the ends of blocks are tags in double braces.
Two rules settle the white space around tags. If a tag of a block is alone on its line, the line
goes with it, and a tag that ends in `~` takes all white space behind it away. Only then the tags
are nested. The language has more kinds of tags than those read here; a source with another one is
not read at all.

The sources of the four kinds of files are read as their templates. Each of these makes one text of
the values of a file, in which every value stands as it is. So no value can be one for which
rendering fails or more than itself appears.

## Main definitions

* `Template.ofSource?`: the template that a source is read as.
* `CodeTemplate.sources`: the sources of the templates of generated files.
* `ProxyClass.text`, `ClassStub.text`, `InterfaceFile.text`: the texts of generated files.

## Main results

* `Template.nest_partsOf`: the tags of a template are nested to its pieces.
* `CodeTemplate.ofSource_sources`: the sources are read as the templates.
* `CodeTemplate.render_verbatim`: the text of every file, from its source and its values.
-/

namespace ApiProxy

open Text

namespace Template

/-! ### Taking a source apart -/

/-- A tag of a source. -/
inductive Tag where
  | slot (name : String)
  | opening (name : String)
  | closing
deriving DecidableEq, Repr

/-- Whether a block begins or ends at a tag. -/
def Tag.isOfBlock : Tag → Bool
  | slot _ => false
  | opening _ | closing => true

/-- A tag and the text that stands behind it, up to the next tag. -/
structure Segment where
  tag : Tag
  /-- Whether the tag takes the white space behind it away. -/
  trims : Bool
  behind : List Char

/-- Whether a word can be the name of a value. -/
def isName (word : List Char) : Bool :=
  !word.isEmpty && word.all fun c => c.isLower || c == '_'

/-- The tag with the given word between its braces. -/
def Tag.ofWord? : List Char → Option Tag
  | '#' :: 'i' :: 'f' :: ' ' :: name =>
    if isName name then some (opening (String.ofList name)) else none
  | ['/', 'i', 'f'] => some closing
  | name => if isName name then some (slot (String.ofList name)) else none

/-- The tag with the given word between its braces, in front of a text. -/
def Segment.ofWord? (word behind : List Char) : Option Segment :=
  if word.getLast? = some '~' then (Tag.ofWord? word.dropLast).map (⟨·, true, behind⟩)
  else (Tag.ofWord? word).map (⟨·, false, behind⟩)

mutual

/-- The text up to the first tag and all that follows, behind the characters `front`, of which the
last one stands first. -/
def readText (front : List Char) : List Char → Option (List Char × List Segment)
  | '{' :: '{' :: cs => (readTag [] cs).map fun segments => (front.reverse, segments)
  | c :: cs => readText (c :: front) cs
  | [] => some (front.reverse, [])

/-- A tag and all that follows, behind the characters `front` of its word, of which the last one
stands first. -/
def readTag (front : List Char) : List Char → Option (List Segment)
  | '}' :: '}' :: cs => do
    let (behind, segments) ← readText [] cs
    let segment ← Segment.ofWord? front.reverse behind
    some (segment :: segments)
  | c :: cs => readTag (c :: front) cs
  | [] => none

end

/-! ### White space around tags -/

/-- A part of a source whose white space is settled. -/
inductive Part where
  | text (s : String)
  | tag (t : Tag)
deriving DecidableEq, Repr

/-- The part that a text is; an empty one is none. -/
def Part.ofText (cs : List Char) : List Part :=
  if cs.isEmpty then [] else [text (String.ofList cs)]

/-- The characters that do not keep a tag from being alone on its line. -/
def isSpacing (c : Char) : Bool := c == ' ' || c == '\t'

/-- Whether a line ends before anything but spacing. This is so, too, where a source ends. -/
def endsLine (last : Bool) (cs : List Char) : Bool :=
  match cs.dropWhile isSpacing with
  | [] => last
  | c :: _ => c == '\n'

/-- A text without its first line. -/
def nextLine (cs : List Char) : List Char := (cs.dropWhile (· != '\n')).drop 1

/-- A text without the spacing at its end. -/
def dropSpacing (cs : List Char) : List Char := (cs.reverse.dropWhile isSpacing).reverse

/-- Whether a tag of a block is alone on its line, behind a text that may be the first one and in
front of another that may be the last one. -/
def Segment.isAlone (s : Segment) (first : Bool) (before : List Char) (last : Bool) : Bool :=
  s.tag.isOfBlock && endsLine first before.reverse && endsLine last s.behind

/-- The parts of a source behind its text `before`, of which `kept` is left by the tag in front
of it. -/
def settle (first : Bool) (before kept : List Char) : List Segment → List Part
  | [] => Part.ofText kept
  | s :: segments =>
    let alone := s.isAlone first before segments.isEmpty
    let left :=
      if s.trims then skipBlank s.behind
      else if alone then nextLine s.behind
      else s.behind
    Part.ofText (if alone then dropSpacing kept else kept) ++
      .tag s.tag :: settle false s.behind left segments

/-- The parts of a source. -/
def partsOfSource? (source : List Char) : Option (List Part) :=
  (readText [] source).map fun r => settle true r.1 r.1 r.2

/-! ### Nesting -/

/-- The pieces that parts make, with the blocks that are open, each with its name and what stands
in front of it, and what was made in the innermost one. All pieces are there in reverse. -/
def nest : List (String × List Piece) → List Piece → List Part → Option (List Piece)
  | [], done, [] => some done.reverse
  | _ :: _, _, [] => none
  | blocks, done, .text s :: ps => nest blocks (.text s :: done) ps
  | blocks, done, .tag (.slot name) :: ps => nest blocks (.slot name :: done) ps
  | blocks, done, .tag (.opening name) :: ps => nest ((name, done) :: blocks) [] ps
  | (name, outer) :: blocks, done, .tag .closing :: ps =>
    nest blocks (.block name done.reverse :: outer) ps
  | [], _, .tag .closing :: _ => none

/-- The template that a source is read as. -/
def ofSource? (name source : String) : Option Template := do
  let parts ← partsOfSource? source.toList
  let pieces ← nest [] [] parts
  some ⟨name, pieces⟩

mutual

/-- The parts of a piece. -/
def Piece.parts : Piece → List Part
  | .text s => [.text s]
  | .slot name => [.tag (.slot name)]
  | .block name body => .tag (.opening name) :: (partsOf body ++ [.tag .closing])

/-- The parts of pieces. -/
def partsOf : List Piece → List Part
  | [] => []
  | q :: qs => q.parts ++ partsOf qs

end

mutual

/-- A piece is what its parts are nested to. -/
theorem nest_parts (blocks : List (String × List Piece)) (ps : List Part) :
    ∀ (q : Piece) (done : List Piece), nest blocks done (q.parts ++ ps) = nest blocks (q :: done) ps
  | .text s, done => by rw [Piece.parts, List.singleton_append, nest]
  | .slot name, done => by rw [Piece.parts, List.singleton_append, nest]
  | .block name body, done => by
    rw [Piece.parts, List.cons_append, nest, List.append_assoc, nest_append_partsOf,
      List.singleton_append, nest, List.append_nil, List.reverse_reverse]

/-- Pieces are what their parts are nested to, within the blocks that are open. -/
theorem nest_append_partsOf (blocks : List (String × List Piece)) (ps : List Part) :
    ∀ (qs done : List Piece),
      nest blocks done (partsOf qs ++ ps) = nest blocks (qs.reverse ++ done) ps
  | [], done => by rw [partsOf, List.nil_append, List.reverse_nil, List.nil_append]
  | q :: qs, done => by
    rw [partsOf, List.append_assoc, nest_parts, nest_append_partsOf, List.reverse_cons,
      List.append_assoc, List.singleton_append]

end

/-- The tags of a template are nested to its pieces. -/
theorem nest_partsOf (qs : List Piece) : nest [] [] (partsOf qs) = some qs := by
  have h := nest_append_partsOf [] [] qs []
  rw [List.append_nil, List.append_nil] at h
  rw [h, nest, List.reverse_reverse]

/-- A source with the parts of a template is read as this template. -/
theorem ofSource_eq_some {t : Template} {source : String}
    (h : partsOfSource? source.toList = some (partsOf t.pieces)) :
    ofSource? t.name source = some t := by
  rw [ofSource?, h, Option.bind_eq_bind, Option.bind_some, nest_partsOf]
  rfl

/-! ### Texts next to each other -/

/-- A text in front of pieces, of which it is made one with the first if that is a text. -/
def consText (s : String) : List Piece → List Piece
  | .text s' :: qs => .text (s ++ s') :: qs
  | qs => .text s :: qs

/-- Pieces with all texts joined that are next to each other. -/
def joinTexts : List Piece → List Piece
  | [] => []
  | .text s :: qs => consText s (joinTexts qs)
  | q :: qs => q :: joinTexts qs

/-- A template with all texts joined that are next to each other. -/
def joined (t : Template) : Template := ⟨t.name, joinTexts t.pieces⟩

theorem fillAll_consText (context : Json) (p : Place) (s : String) (qs : List Piece) :
    fillAll context p (consText s qs) = fillAll context p (.text s :: qs) := by
  cases qs with
  | nil => rfl
  | cons q qs =>
    cases q with
    | slot name => rfl
    | block name body => rfl
    | text s' =>
      have hplace : p.after (s ++ s').toList = (p.after s.toList).after s'.toList := by
        rw [String.toList_append]
        exact List.foldl_append
      simp only [consText, fillAll, Piece.fill, Piece.after, ok_bind, hplace]
      cases fillAll context ((p.after s.toList).after s'.toList) qs with
      | error v => rfl
      | ok back => simp only [ok_bind, String.append_assoc]

/-- It makes no difference if a text is split, not even for the place of a slot that cannot be
filled. -/
theorem fillAll_joinTexts (context : Json) :
    ∀ (qs : List Piece) (p : Place), fillAll context p (joinTexts qs) = fillAll context p qs
  | [], _ => rfl
  | .text s :: qs, p => by
    rw [joinTexts, fillAll_consText, fillAll, fillAll, fillAll_joinTexts]
  | .slot name :: qs, p => by simp only [joinTexts, fillAll, fillAll_joinTexts]
  | .block name body :: qs, p => by simp only [joinTexts, fillAll, fillAll_joinTexts]

theorem render_joined (t : Template) (context : Json) :
    t.joined.render context = t.render context := by
  rw [render, render, fill, fill, joined, fillAll_joinTexts]

/-! ### Filled blocks -/

section Blocks

variable {context : Json} {name : String}

/-- A block of a truth value. -/
theorem filled_block_bool {b : Bool} (h : context.get? name = some (.bool b)) (body : List Piece) :
    (Piece.block name body).filled context = if b then filledAll context body else "" := by
  rw [Piece.filled, h]
  rfl

/-- A block of a text appears unless this is empty. -/
theorem filled_block_string {s : String} (h : context.get? name = some (.string s))
    (body : List Piece) :
    (Piece.block name body).filled context = if s = "" then "" else filledAll context body := by
  have hholds : ¬holds (some (.string s)) = true ↔ s = "" := bne_iff_ne.not_left
  rw [Piece.filled, h]
  exact (ite_not ..).symm.trans (if_congr hholds rfl rfl)

end Blocks

/-- A tag as it is written. -/
def tag (word : String) : String := "\x7b\x7b" ++ word ++ "\x7d\x7d"

end Template

namespace CodeTemplate

open Template

/-! ### The sources of the templates -/

/-- The lines of a source from the imports to the namespace. -/
def preambleSource : String :=
  heading ++ tag "usings" ++ "\n\n// ReSharper disable once CheckNamespace\nnamespace " ++
    tag "namespace" ++ ";\n\n"

/-- The members of a declaration in a source. -/
def bodySource : String :=
  "\n\x7b\n" ++ tag "#if members" ++ tag "members" ++ "\n" ++ tag "/if~" ++ "\n\x7d\n"

/-- The source of the template of a proxy class. -/
def proxyClassSource : String :=
  preambleSource ++ "[Dependency(ReplaceServices = true)]\n[ExposeServices(typeof(" ++
    tag "service_interface" ++ "), typeof(" ++ tag "class_name" ++ "))]\n" ++
    tag "#if integration_service" ++ "[IntegrationService]\n" ++ tag "/if" ++
    "public partial class " ++ tag "class_name" ++ " : ClientProxyBase<" ++
    tag "service_interface" ++ ">, " ++ tag "service_interface" ++ bodySource

/-- The source of the template of a stub. -/
def classStubSource : String :=
  "// This file is part of " ++ tag "class_name" ++
    ", you can customize it here\n// ReSharper disable once CheckNamespace\nnamespace " ++
    tag "namespace" ++ ";\n\npublic partial class " ++ tag "class_name" ++ "\n\x7b\n\x7d\n"

/-- The source of the template of a service interface. -/
def serviceInterfaceSource : String :=
  preambleSource ++ "public interface " ++ tag "service_interface" ++ " : IApplicationService" ++
    bodySource

/-- The source of the template of a data type. -/
def dataTypeSource : String := preambleSource ++ "public " ++ tag "dto_name" ++ bodySource

/-- The names and the sources of all templates of generated files. -/
def sources : List (String × String) :=
  [("class", proxyClassSource), ("class_stub", classStubSource),
    ("interface", serviceInterfaceSource), ("dto", dataTypeSource)]

/-- The sources are read as the templates. -/
theorem ofSource_sources :
    sources.mapM (fun s => ofSource? s.1 s.2) = some (all.map Template.joined) := by
  have hclass : ofSource? "class" proxyClassSource = some proxyClass.joined := by
    refine ofSource_eq_some (t := proxyClass.joined) ?_
    unfold proxyClassSource preambleSource bodySource tag
    simp only [String.toList_append]
    decide +kernel
  have hstub : ofSource? "class_stub" classStubSource = some classStub.joined := by
    refine ofSource_eq_some (t := classStub.joined) ?_
    unfold classStubSource tag
    simp only [String.toList_append]
    decide +kernel
  have hinterface :
      ofSource? "interface" serviceInterfaceSource = some serviceInterface.joined := by
    refine ofSource_eq_some (t := serviceInterface.joined) ?_
    unfold serviceInterfaceSource preambleSource bodySource tag
    simp only [String.toList_append]
    decide +kernel
  have htype : ofSource? "dto" dataTypeSource = some dataType.joined := by
    refine ofSource_eq_some (t := dataType.joined) ?_
    unfold dataTypeSource preambleSource bodySource tag
    simp only [String.toList_append]
    decide +kernel
  simp only [sources, List.mapM_cons, List.mapM_nil, hclass, hstub, hinterface, htype]
  rfl

/-! ### The texts of files -/

/-- The lines of a file from the imports to the namespace. -/
def preambleText (imports namespaceName : String) : String :=
  heading ++ imports ++ "\n\n// ReSharper disable once CheckNamespace\nnamespace " ++ namespaceName

/-- The members of a declaration in a file. Without members the braces stand on lines that follow
each other. -/
def bodyText (members : String) : String :=
  if members = "" then "\n\x7b\n\x7d\n" else "\n\x7b\n" ++ members ++ "\n\x7d\n"

theorem bodyText_eq_iff {members : String} :
    bodyText members = "\n\x7b\n\x7d\n" ↔ members = "" := by
  refine ⟨fun h => ?_, fun h => if_pos h⟩
  by_contra hne
  rw [bodyText, if_neg hne] at h
  have hlength := congrArg String.length h
  simp only [String.length_append] at hlength
  have hopening : "\n\x7b\n".length = 3 := rfl
  have hclosing : "\n\x7d\n".length = 3 := rfl
  have hboth : "\n\x7b\n\x7d\n".length = 5 := rfl
  omega

variable {context : Json} {imports namespaceName members : String}

theorem filledAll_preamble (himports : context.get? "usings" = some (.string imports))
    (hnamespace : context.get? "namespace" = some (.string namespaceName)) :
    filledAll context preamble = preambleText imports namespaceName := by
  simp only [preamble, filledAll, filled_text, filled_slot himports, filled_slot hnamespace,
    preambleText, String.append_assoc, String.append_empty]

theorem filledAll_body (h : context.get? "members" = some (.string members)) :
    filledAll context body = bodyText members := by
  rw [body, filledAll, filledAll, filledAll, filledAll, filled_block_string h, filled_text,
    filled_text, bodyText]
  split
  · rfl
  · simp only [filledAll, filled_slot h, filled_text, String.append_assoc, String.append_empty]
    rfl

end CodeTemplate

open CodeTemplate Template

/-- The text of a proxy class. -/
def ProxyClass.text (c : ProxyClass) : String :=
  preambleText c.imports c.namespaceName ++
    ";\n\n[Dependency(ReplaceServices = true)]\n[ExposeServices(typeof(" ++ c.serviceInterface ++
    "), typeof(" ++ c.className ++ "))]\n" ++
    (if c.isIntegrationService then "[IntegrationService]\n" else "") ++
    "public partial class " ++ c.className ++ " : ClientProxyBase<" ++ c.serviceInterface ++
    ">, " ++ c.serviceInterface ++ bodyText c.members

/-- The text of a stub. -/
def ClassStub.text (c : ClassStub) : String :=
  "// This file is part of " ++ c.className ++
    ", you can customize it here\n// ReSharper disable once CheckNamespace\nnamespace " ++
    c.namespaceName ++ ";\n\npublic partial class " ++ c.className ++ "\n\x7b\n\x7d\n"

/-- The text of a service interface. -/
def InterfaceFile.text (c : InterfaceFile) : String :=
  preambleText c.imports c.namespaceName ++ ";\n\npublic interface " ++ c.serviceInterface ++
    " : IApplicationService" ++ bodyText c.members

theorem ProxyClass.render_eq_text (c : ProxyClass) : c.render = .ok c.text := by
  have hinterface : c.context.get? "service_interface" = some (.string c.serviceInterface) := rfl
  have hname : c.context.get? "class_name" = some (.string c.className) := rfl
  have hattribute : (Piece.block "integration_service" [.text "[IntegrationService]\n"]).filled
      c.context = if c.isIntegrationService then "[IntegrationService]\n" else "" := by
    rw [filled_block_bool rfl, filledAll, filledAll, filled_text, String.append_empty]
  rw [c.render_eq_ok, proxyClass, filledAll_append, filledAll_append, filledAll_preamble rfl rfl,
    filledAll_body rfl, text]
  simp only [filledAll, filled_text, filled_slot hinterface, filled_slot hname, hattribute,
    String.append_assoc, String.append_empty]

theorem ClassStub.render_eq_text (c : ClassStub) : c.render = .ok c.text := by
  have hname : c.context.get? "class_name" = some (.string c.className) := rfl
  have hnamespace : c.context.get? "namespace" = some (.string c.namespaceName) := rfl
  rw [c.render_eq_ok, classStub]
  unfold text
  simp only [filledAll, filled_text, filled_slot hname, filled_slot hnamespace,
    String.append_assoc, String.append_empty]

theorem InterfaceFile.render_eq_text (c : InterfaceFile) : c.render = .ok c.text := by
  have hinterface : c.context.get? "service_interface" = some (.string c.serviceInterface) := rfl
  rw [c.render_eq_ok, CodeTemplate.serviceInterface, filledAll_append, filledAll_append,
    filledAll_preamble rfl rfl, filledAll_body rfl, text]
  simp only [filledAll, filled_text, filled_slot hinterface, String.append_assoc,
    String.append_empty]

/-- The text of the file of a data type, too, has these lines and this body. -/
theorem DataTypeFile.text_eq (f : DataTypeFile) :
    f.text = preambleText f.imports f.namespaceName ++ ";\n\npublic " ++ f.declaration ++
      bodyText f.members := by
  rw [text, preambleText, bodyText]
  split
  · simp only [String.append_assoc]
    rfl
  · simp only [String.append_assoc]
    rfl

/-- **Every file is rendered, and its values stand in it as they are.** The sources of the four
templates are read, and what they are read as fills every context in the way of the templates. For
all values, each kind of file has its fixed text with each value in its places, whatever the value
looks like. The attribute of integration services is there if and only if it is asked for, and only
without members nothing stands between the braces. So the files of every description can be
generated with all options. -/
theorem CodeTemplate.render_verbatim :
    (∃ ts, sources.mapM (fun s => ofSource? s.1 s.2) = some ts ∧
      ∀ context, ts.map (·.render context) = all.map (·.render context)) ∧
    (∀ c : ProxyClass, c.render = .ok c.text) ∧
    (∀ c : ClassStub, c.render = .ok c.text) ∧
    (∀ c : InterfaceFile, c.render = .ok c.text) ∧
    (∀ f : DataTypeFile, f.render = .ok (preambleText f.imports f.namespaceName ++
      ";\n\npublic " ++ f.declaration ++ bodyText f.members)) ∧
    (∀ members, bodyText members = "\n\x7b\n\x7d\n" ↔ members = "") ∧
    ∀ (m : ApiDescription) (o : GeneratorOptions), ∃ files, m.generate o = .ok files := by
  refine ⟨⟨_, ofSource_sources, fun context => ?_⟩, ProxyClass.render_eq_text,
    ClassStub.render_eq_text, InterfaceFile.render_eq_text,
    fun f => f.text_eq ▸ f.render_eq_text, fun _ => bodyText_eq_iff,
    fun m o => m.exists_generate_eq_ok o⟩
  rw [List.map_map]
  exact List.map_congr_left fun t _ => t.render_joined context

/-- A value may look like a tag of the template that it is put into. -/
example :
    (ClassStub.render ⟨"\x7b\x7b#if members\x7d\x7d",
      "A<B>&\x7b\x7bnamespace\x7d\x7d"⟩).toOption = some
        ("// This file is part of A<B>&\x7b\x7bnamespace\x7d\x7d, you can customize it here\n" ++
          "// ReSharper disable once CheckNamespace\nnamespace \x7b\x7b#if members\x7d\x7d;\n\n" ++
          "public partial class A<B>&\x7b\x7bnamespace\x7d\x7d\n\x7b\n\x7d\n") := by
  decide +kernel

end ApiProxy
