import ApiProxy.Json.Codec
import ApiProxy.Proofs.Json.Reading
import Mathlib.Data.List.Forall2
import Mathlib.Data.List.Pairwise

/-!
# Reading back what a codec wrote

A codec is faithful when every value that it reads from a document is also read from the
document that it writes for the value. Codecs are made of parts, and faithfulness goes from the
parts to the whole: to a list, a catalog, an optional value, and to a record whose fields do not
interfere with each other.

Reading a record from an object or from an array only ever sets fields, so what holds of every
value that a field can read, and of the field of the blank record, holds of every field of the
result.

## Main definitions

* `Json.Codec.Restores`: a value is read from the document that is written for it.
* `Json.Codec.Faithful`: a codec restores every value that it reads.
* `Json.Field.Faithful`, `Json.Field.Apart`: the same for a field, and two fields that are set
  independently.

## Main results

* `Json.Codec.any_faithful`, `list_faithful`, `catalog_faithful`, `nullable_faithful`: the
  codecs of parts.
* `Json.Codec.record_faithful`: the codec of a record.
-/

namespace ApiProxy

/-- Putting a name behind all names that are there appends it. -/
theorem putAscending_of_forall_lt {α : Type} {name : String} {value : α}
    {es : List (String × α)} (h : ∀ e ∈ es, e.1 < name) :
    putAscending name value es = es ++ [(name, value)] := by
  induction es with
  | nil => rfl
  | cons e es ih =>
    have he : e.1 < name := h e List.mem_cons_self
    rw [putAscending, if_neg (String.lt_asymm he), if_neg (String.ne_of_lt he).symm,
      ih fun d hd => h d (List.mem_cons_of_mem _ hd), List.cons_append]

namespace Json

open Outline

theorem outline_eq_null_iff {v : Json} : v.outline = .null ↔ v = null := by
  cases v <;> simp [outline]

namespace Codec

variable {α σ : Type}

/-- A value is read again from the document that is written for it, and that document has no
integer of more than 64 bits. -/
structure Restores (c : Codec α) (budget : Nat) (v : α) : Prop where
  read_outline : c.read budget (c.write v).outline = .ok v
  inRange : ∀ n ∈ (c.write v).numbers, n.InRange

/-- Every value that a codec reads is restored, and a value that is not written as `null` is
not read from `null` alone. -/
structure Faithful (c : Codec α) (depth : Nat) : Prop where
  restores {budget : Nat} {o : Outline} {v : α} (hdepth : depth ≤ budget)
    (ho : ∀ n ∈ o.numbers, n.InRange) (h : c.read budget o = .ok v) : c.Restores budget v
  write_ne_null {budget : Nat} {o : Outline} {v : α} (h : c.read budget o = .ok v)
    (ho : o ≠ .null) : c.write v ≠ .null

/-! ### Values that are kept -/

theorem any_restores_array {budget b : Nat} {vs : List Json} (hb : deeper budget = .ok b)
    (h : ∀ v ∈ vs, any.Restores b v) : any.Restores budget (.array vs) := by
  have hitems : ∀ ws ⊆ vs, keepItems b (outlineOfItems ws) = .ok ws := by
    intro ws hws
    induction ws with
    | nil => rfl
    | cons w ws ih =>
      obtain ⟨hw, hws⟩ := List.cons_subset.1 hws
      have hkeep : keep b w.outline = .ok w := (h w hw).read_outline
      rw [outlineOfItems, keepItems, hkeep, ok_bind, ih hws]
      rfl
  constructor
  · change keep budget (Json.array vs).outline = _
    rw [outline, keep, hb, ok_bind, hitems vs (List.Subset.refl vs)]
    rfl
  · intro n hn
    obtain ⟨v, hv, hn⟩ := mem_numbers_array.1 hn
    exact (h v hv).inRange n hn

/-- Members that ascend are put back in their order. -/
theorem keepMembers_outlineOfMembers {budget : Nat} {acc ms : List (String × Json)}
    (hasc : (acc ++ ms).Pairwise (·.1 < ·.1)) (h : ∀ m ∈ ms, any.Restores budget m.2) :
    keepMembers budget acc (outlineOfMembers ms) = .ok (acc ++ ms) := by
  induction ms generalizing acc with
  | nil => rw [outlineOfMembers, keepMembers, List.append_nil]
  | cons m ms ih =>
    obtain ⟨name, v⟩ := m
    have hv : keep budget v.outline = .ok v := (h (name, v) List.mem_cons_self).read_outline
    have hlt : ∀ e ∈ acc, e.1 < name := fun e he =>
      (List.pairwise_append.1 hasc).2.2 e he (name, v) List.mem_cons_self
    rw [List.append_cons] at hasc ⊢
    rw [outlineOfMembers, keepMembers, keepName, ok_bind, hv, ok_bind,
      putAscending_of_forall_lt hlt]
    exact ih hasc fun m hm => h m (List.mem_cons_of_mem _ hm)

theorem any_restores_object {budget b : Nat} {ms : List (String × Json)}
    (hb : deeper budget = .ok b) (hasc : ms.Pairwise (·.1 < ·.1))
    (h : ∀ m ∈ ms, any.Restores b m.2) : any.Restores budget (.object ms) := by
  have hmembers : keepMembers b [] (outlineOfMembers ms) = .ok ms :=
    keepMembers_outlineOfMembers hasc h
  constructor
  · change keep budget (Json.object ms).outline = _
    rw [outline, keep, hb, ok_bind, hmembers]
    rfl
  · intro n hn
    obtain ⟨m, hm, hn⟩ := mem_numbers_object.1 hn
    exact (h m hm).inRange n hn

mutual

/-- A value that was kept is kept again from its own text. -/
theorem any_restores_of_keep {budget : Nat} (o : Outline) {v : Json}
    (ho : ∀ n ∈ o.numbers, n.InRange) (h : keep budget o = .ok v) :
    any.Restores budget v := by
  match o with
  | .null => exact Except.ok.inj h ▸ ⟨rfl, nofun⟩
  | .bool b => exact Except.ok.inj h ▸ ⟨rfl, nofun⟩
  | .number n =>
    obtain ⟨m, hm, rfl⟩ := map_eq_ok.1 h
    refine ⟨rfl, fun k hk => ho k ?_⟩
    rw [Outline.numbers, hm]
    exact hk
  | .string s =>
    obtain ⟨m, -, rfl⟩ := map_eq_ok.1 h
    exact ⟨rfl, nofun⟩
  | .array items close =>
    obtain ⟨b, hb, h⟩ := bind_eq_ok.1 h
    obtain ⟨vs, hvs, h⟩ := bind_eq_ok.1 h
    obtain ⟨-, -, h⟩ := bind_eq_ok.1 h
    obtain rfl := Except.ok.inj h
    exact any_restores_array hb (any_restores_of_keepItems items ho hvs)
  | .object members close =>
    obtain ⟨b, hb, h⟩ := bind_eq_ok.1 h
    obtain ⟨ms, hms, h⟩ := bind_eq_ok.1 h
    obtain ⟨-, -, h⟩ := bind_eq_ok.1 h
    obtain rfl := Except.ok.inj h
    obtain ⟨hasc, hrestores⟩ := any_restores_of_keepMembers members ho hms .nil nofun
    exact any_restores_object hb hasc hrestores

theorem any_restores_of_keepItems {budget : Nat} (os : List Outline) {vs : List Json}
    (hos : ∀ n ∈ Outline.numbersOfItems os, n.InRange) (h : keepItems budget os = .ok vs) :
    ∀ v ∈ vs, any.Restores budget v := by
  match os with
  | [] => exact Except.ok.inj h ▸ nofun
  | o :: os =>
    obtain ⟨ho, hos⟩ := List.forall_mem_append.1 hos
    obtain ⟨v, hv, h⟩ := bind_eq_ok.1 h
    obtain ⟨vs, hvs, h⟩ := bind_eq_ok.1 h
    obtain rfl := Except.ok.inj h
    exact List.forall_mem_cons.2
      ⟨any_restores_of_keep o ho hv, any_restores_of_keepItems os hos hvs⟩

/-- Keeping members leaves them ascending, each with a value that is kept again. -/
theorem any_restores_of_keepMembers {budget : Nat} (os : List (Outline × Outline))
    {acc ms : List (String × Json)} (hos : ∀ n ∈ Outline.numbersOfMembers os, n.InRange)
    (h : keepMembers budget acc os = .ok ms) (hasc : acc.Pairwise (·.1 < ·.1))
    (hacc : ∀ m ∈ acc, any.Restores budget m.2) :
    ms.Pairwise (·.1 < ·.1) ∧ ∀ m ∈ ms, any.Restores budget m.2 := by
  match os with
  | [] =>
    obtain rfl := Except.ok.inj h
    exact ⟨hasc, hacc⟩
  | (name, o) :: os =>
    obtain ⟨ho, hos⟩ := List.forall_mem_append.1 hos
    obtain ⟨name, -, h⟩ := bind_eq_ok.1 h
    obtain ⟨v, hv, h⟩ := bind_eq_ok.1 h
    refine any_restores_of_keepMembers os hos h (pairwise_putAscending name v hasc) ?_
    intro m hm
    rcases eq_or_mem_of_mem_putAscending hm with rfl | hm
    · exact any_restores_of_keep o ho hv
    · exact hacc m hm

end

theorem ne_null_of_keep {budget : Nat} {o : Outline} {v : Json} (h : keep budget o = .ok v)
    (ho : o ≠ .null) : v ≠ .null := by
  rintro rfl
  match o with
  | .null => exact ho rfl
  | .bool b => exact nomatch h
  | .number n =>
    obtain ⟨m, -, hm⟩ := map_eq_ok.1 h
    exact nomatch hm
  | .string s =>
    obtain ⟨m, -, hm⟩ := map_eq_ok.1 h
    exact nomatch hm
  | .array items close =>
    obtain ⟨b, -, h⟩ := bind_eq_ok.1 h
    obtain ⟨vs, -, h⟩ := bind_eq_ok.1 h
    obtain ⟨-, -, h⟩ := bind_eq_ok.1 h
    exact nomatch h
  | .object members close =>
    obtain ⟨b, -, h⟩ := bind_eq_ok.1 h
    obtain ⟨vs, -, h⟩ := bind_eq_ok.1 h
    obtain ⟨-, -, h⟩ := bind_eq_ok.1 h
    exact nomatch h

theorem any_faithful (depth : Nat) : any.Faithful depth where
  restores _ ho h := any_restores_of_keep _ ho h
  write_ne_null := ne_null_of_keep

/-! ### Scalars -/

theorem text_restores (budget : Nat) (s : String) : text.Restores budget s :=
  ⟨rfl, nofun⟩

theorem text_faithful (depth : Nat) : text.Faithful depth where
  restores _ _ _ := text_restores _ _
  write_ne_null _ _ := nofun

theorem flag_restores (budget : Nat) (b : Bool) : flag.Restores budget b :=
  ⟨rfl, nofun⟩

theorem flag_faithful (depth : Nat) : flag.Faithful depth where
  restores _ _ _ := flag_restores _ _
  write_ne_null _ _ := nofun

theorem word_restores (budget : Nat) (i : Int64) : word.Restores budget i where
  read_outline := by
    change wordOf (.integer i.toInt) = .ok i
    rw [wordOf, if_pos ⟨Int64.minValue_le_toInt i, Int64.toInt_le i⟩, Int64.ofInt_toInt]
  inRange n hn := by
    obtain rfl := List.mem_singleton.1 hn
    have hlow := Int64.le_toInt i
    have hhigh := Int64.toInt_lt i
    constructor <;> omega

theorem word_faithful (depth : Nat) : word.Faithful depth where
  restores _ _ _ := word_restores _ _
  write_ne_null _ _ := nofun

/-! ### Optional values, lists and catalogs -/

theorem nullable_restores_none (c : Codec α) (budget : Nat) :
    (nullable c).Restores budget none :=
  ⟨rfl, nofun⟩

theorem nullable_read_of_ne_null {c : Codec α} {budget : Nat} {o : Outline} (ho : o ≠ .null) :
    (nullable c).read budget o = (c.read budget o).map some := by
  cases o <;> first | exact absurd rfl ho | rfl

theorem nullable_faithful {c : Codec α} {depth : Nat} (hc : c.Faithful depth) :
    (nullable c).Faithful depth where
  restores {budget o v} hdepth ho h := by
    by_cases hnull : o = .null
    · subst hnull
      obtain rfl := Except.ok.inj h
      exact nullable_restores_none c budget
    · rw [nullable_read_of_ne_null hnull] at h
      obtain ⟨w, hw, rfl⟩ := map_eq_ok.1 h
      have hrestores := hc.restores hdepth ho hw
      refine ⟨?_, hrestores.inRange⟩
      have hwrite : ((nullable c).write (some w)).outline ≠ .null := fun hwrite =>
        hc.write_ne_null hw hnull (outline_eq_null_iff.1 hwrite)
      rw [nullable_read_of_ne_null hwrite]
      exact map_eq_ok.2 ⟨w, hrestores.read_outline, rfl⟩
  write_ne_null {budget o v} h ho := by
    rw [nullable_read_of_ne_null ho] at h
    obtain ⟨w, hw, rfl⟩ := map_eq_ok.1 h
    exact hc.write_ne_null hw ho

theorem readList_outlineOfItems {c : Codec α} {budget : Nat} {vs : List α}
    (h : ∀ v ∈ vs, c.Restores budget v) :
    readList (c.read budget) (outlineOfItems (vs.map c.write)) = .ok vs := by
  induction vs with
  | nil => rfl
  | cons v vs ih =>
    rw [List.map_cons, outlineOfItems, readList, (h v List.mem_cons_self).read_outline,
      ok_bind, ih fun w hw => h w (List.mem_cons_of_mem _ hw)]
    rfl

/-- A list is restored if its values are, one level deeper. -/
theorem list_restores {c : Codec α} {budget : Nat} {vs : List α}
    (h : ∀ v ∈ vs, c.Restores budget v) : (list c).Restores (budget + 1) vs where
  read_outline := by
    change (list c).read (budget + 1) (Json.array (vs.map c.write)).outline = .ok vs
    simp only [outline, list, deeper, ok_bind, readList_outlineOfItems h, Close.keepList]
  inRange n hn := by
    obtain ⟨w, hw, hn⟩ := mem_numbers_array.1 hn
    obtain ⟨v, hv, rfl⟩ := List.mem_map.1 hw
    exact (h v hv).inRange n hn

theorem restores_of_readList {c : Codec α} {depth budget : Nat} (hc : c.Faithful depth)
    (hdepth : depth ≤ budget) {os : List Outline} {vs : List α}
    (hos : ∀ n ∈ Outline.numbersOfItems os, n.InRange)
    (h : readList (c.read budget) os = .ok vs) : ∀ v ∈ vs, c.Restores budget v := by
  induction os generalizing vs with
  | nil => exact Except.ok.inj h ▸ nofun
  | cons o os ih =>
    obtain ⟨ho, hos⟩ := List.forall_mem_append.1 hos
    obtain ⟨v, hv, h⟩ := bind_eq_ok.1 h
    obtain ⟨vs, hvs, h⟩ := bind_eq_ok.1 h
    obtain rfl := Except.ok.inj h
    exact List.forall_mem_cons.2 ⟨hc.restores hdepth ho hv, ih hos hvs⟩

theorem eq_succ_of_deeper {budget b : Nat} (h : deeper budget = .ok b) : budget = b + 1 := by
  cases budget with
  | zero => exact nomatch h
  | succ n => exact congrArg Nat.succ (Except.ok.inj h)

theorem list_faithful {c : Codec α} {depth : Nat} (hc : c.Faithful depth) :
    (list c).Faithful (depth + 1) where
  restores {budget o v} hdepth ho h := by
    cases o with
    | array items close =>
      obtain ⟨b, hb, h⟩ := bind_eq_ok.1 h
      obtain ⟨vs, hvs, h⟩ := bind_eq_ok.1 h
      obtain ⟨-, -, h⟩ := bind_eq_ok.1 h
      obtain rfl := Except.ok.inj h
      obtain rfl := eq_succ_of_deeper hb
      exact list_restores (restores_of_readList hc (Nat.le_of_succ_le_succ hdepth) ho hvs)
    | _ => exact nomatch h
  write_ne_null _ _ := nofun

/-- Entries that ascend are put back in their order. -/
theorem readEntries_outlineOfMembers {c : Codec α} {budget : Nat} {acc : Catalog α}
    {es : List (String × α)} (hasc : (acc.entries ++ es).Pairwise (·.1 < ·.1))
    (h : ∀ e ∈ es, c.Restores budget e.2) :
    readEntries (c.read budget) acc (outlineOfMembers (es.map fun e => (e.1, c.write e.2))) =
      .ok ⟨acc.entries ++ es, hasc⟩ := by
  induction es generalizing acc with
  | nil =>
    rw [List.map_nil, outlineOfMembers, readEntries]
    simp only [List.append_nil]
  | cons e es ih =>
    obtain ⟨name, v⟩ := e
    have hv := (h (name, v) List.mem_cons_self).read_outline
    have hlt : ∀ d ∈ acc.entries, d.1 < name := fun d hd =>
      (List.pairwise_append.1 hasc).2.2 d hd (name, v) List.mem_cons_self
    have hput : (acc.put name v).entries = acc.entries ++ [(name, v)] :=
      putAscending_of_forall_lt hlt
    have hasc' : ((acc.put name v).entries ++ es).Pairwise (·.1 < ·.1) := by
      rwa [hput, ← List.append_cons]
    rw [List.map_cons, outlineOfMembers, readEntries, keepName, ok_bind, hv, ok_bind,
      ih hasc' fun d hd => h d (List.mem_cons_of_mem _ hd)]
    simp only [hput, List.append_assoc, List.singleton_append]

/-- A catalog is restored if its values are, one level deeper. -/
theorem catalog_restores {c : Codec α} {budget : Nat} {vs : Catalog α}
    (h : ∀ e ∈ vs.entries, c.Restores budget e.2) :
    (catalog c).Restores (budget + 1) vs where
  read_outline := by
    have hentries : readEntries (c.read budget) .empty
        (outlineOfMembers (vs.entries.map fun e => (e.1, c.write e.2))) = .ok vs :=
      readEntries_outlineOfMembers vs.ascending h
    change (catalog c).read (budget + 1)
      (Json.object (vs.entries.map fun e => (e.1, c.write e.2))).outline = .ok vs
    simp only [outline, catalog, deeper, ok_bind, hentries, Close.keepObject]
  inRange n hn := by
    obtain ⟨m, hm, hn⟩ := mem_numbers_object.1 hn
    obtain ⟨e, he, rfl⟩ := List.mem_map.1 hm
    exact (h e he).inRange n hn

/-- Entries that were put behind others were read one by one. -/
theorem forall₂_of_readEntries {c : Codec α} {budget : Nat} {acc vs : Catalog α}
    {es : List (String × α)} (hasc : ((acc.entries ++ es).map (·.1)).Pairwise (· < ·))
    (h : readEntries (c.read budget) acc (outlineOfMembers (es.map fun e => (e.1, c.write e.2))) =
      .ok vs) :
    ∃ ds, vs.entries = acc.entries ++ ds ∧ List.Forall₂
      (fun e d => d.1 = e.1 ∧ c.read budget (c.write e.2).outline = .ok d.2) es ds := by
  induction es generalizing acc with
  | nil =>
    obtain rfl := Except.ok.inj h
    exact ⟨[], (List.append_nil _).symm, .nil⟩
  | cons e es ih =>
    obtain ⟨name, v⟩ := e
    rw [List.map_cons, outlineOfMembers, readEntries, keepName, ok_bind] at h
    obtain ⟨w, hw, h⟩ := bind_eq_ok.1 h
    have hlt : ∀ d ∈ acc.entries, d.1 < name := fun d hd =>
      (List.pairwise_append.1 (List.pairwise_map.1 hasc)).2.2 d hd (name, v) List.mem_cons_self
    have hput : (acc.put name w).entries = acc.entries ++ [(name, w)] :=
      putAscending_of_forall_lt hlt
    -- the order of the names does not depend on the values
    have hasc' : (((acc.put name w).entries ++ es).map (·.1)).Pairwise (· < ·) := by
      rw [hput, List.append_assoc, List.map_append] at *
      exact hasc
    obtain ⟨ds, hvs, hds⟩ := ih hasc' h
    refine ⟨(name, w) :: ds, ?_, .cons ⟨rfl, hw⟩ hds⟩
    rw [hvs, hput, List.append_assoc, List.singleton_append]

/-- A catalog is restored exactly if its values are, one level deeper. -/
theorem catalog_restores_iff {c : Codec α} {budget : Nat} {vs : Catalog α} :
    (catalog c).Restores (budget + 1) vs ↔ ∀ e ∈ vs.entries, c.Restores budget e.2 := by
  refine ⟨fun h e he => ⟨?_, fun n hn => ?_⟩, catalog_restores⟩
  · obtain ⟨b, hb, hread⟩ := bind_eq_ok.1 h.read_outline
    obtain rfl := Nat.succ.inj (eq_succ_of_deeper hb)
    obtain ⟨vs', hentries, hread⟩ := bind_eq_ok.1 hread
    obtain ⟨-, -, hread⟩ := bind_eq_ok.1 hread
    obtain rfl := Except.ok.inj hread
    have hasc : (((Catalog.empty : Catalog α).entries ++ vs'.entries).map (·.1)).Pairwise (· < ·) :=
      vs'.names_ascending
    obtain ⟨ds, hds, hforall⟩ := forall₂_of_readEntries hasc hentries
    obtain rfl : vs'.entries = ds := hds
    exact (List.forall₂_same.1 hforall e he).2
  · exact h.inRange n (mem_numbers_object.2
      ⟨_, List.mem_map_of_mem (f := fun e => (e.1, c.write e.2)) he, hn⟩)

theorem restores_of_readEntries {c : Codec α} {depth budget : Nat} (hc : c.Faithful depth)
    (hdepth : depth ≤ budget) {os : List (Outline × Outline)} {acc vs : Catalog α}
    (hos : ∀ n ∈ Outline.numbersOfMembers os, n.InRange)
    (hacc : ∀ e ∈ acc.entries, c.Restores budget e.2)
    (h : readEntries (c.read budget) acc os = .ok vs) :
    ∀ e ∈ vs.entries, c.Restores budget e.2 := by
  induction os generalizing acc with
  | nil => exact Except.ok.inj h ▸ hacc
  | cons m os ih =>
    obtain ⟨ho, hos⟩ := List.forall_mem_append.1 hos
    obtain ⟨name, -, h⟩ := bind_eq_ok.1 h
    obtain ⟨v, hv, h⟩ := bind_eq_ok.1 h
    refine ih hos (fun e he => ?_) h
    rcases eq_or_mem_of_mem_putAscending he with rfl | he
    · exact hc.restores hdepth ho hv
    · exact hacc e he

theorem catalog_faithful {c : Codec α} {depth : Nat} (hc : c.Faithful depth) :
    (catalog c).Faithful (depth + 1) where
  restores {budget o v} hdepth ho h := by
    cases o with
    | object members close =>
      obtain ⟨b, hb, h⟩ := bind_eq_ok.1 h
      obtain ⟨vs, hvs, h⟩ := bind_eq_ok.1 h
      obtain ⟨-, -, h⟩ := bind_eq_ok.1 h
      obtain rfl := Except.ok.inj h
      obtain rfl := eq_succ_of_deeper hb
      exact catalog_restores
        (restores_of_readEntries hc (Nat.le_of_succ_le_succ hdepth) ho
          (fun _ he => absurd he List.not_mem_nil) hvs)
    | _ => exact nomatch h
  write_ne_null _ _ := nofun

end Codec

/-! ### Records -/

namespace Field

variable {σ : Type}

/-- Setting one of two fields leaves the other as it was. -/
def Apart (f g : Field σ) : Prop :=
  (∀ v x, f.get (g.set v x) = f.get x) ∧ ∀ v x, g.get (f.set v x) = g.get x

/-- A field holds what it was set to, its codec is faithful, and what it holds in the blank
record is restored. -/
structure Faithful (f : Field σ) (blank : σ) (depth : Nat) : Prop where
  codec : f.codec.Faithful depth
  restores_blank {budget : Nat} (hdepth : depth ≤ budget) :
    f.codec.Restores budget (f.get blank)
  get_set (v : f.α) (x : σ) : f.get (f.set v x) = v

/-- Every field of a record holds a value that is restored. -/
def Settled (fields : List (Field σ)) (budget : Nat) (x : σ) : Prop :=
  ∀ f ∈ fields, f.codec.Restores budget (f.get x)

variable {fields : List (Field σ)} {blank : σ} {depth budget : Nat}

/-- Setting a field to a value that is restored leaves all fields with such values. -/
theorem Settled.set {x : σ} (hx : Settled fields budget x) (hapart : fields.Pairwise Apart)
    {f : Field σ} (hf : f ∈ fields) (hset : ∀ v x, f.get (f.set v x) = v) {v : f.α}
    (hv : f.codec.Restores budget v) : Settled fields budget (f.set v x) := by
  have : Std.Symm (@Apart σ) := ⟨fun _ _ h => ⟨h.2, h.1⟩⟩
  intro g hg
  by_cases heq : g = f
  · subst heq
    rwa [hset]
  · rw [(hapart.forall hg hf heq).1]
    exact hx g hg

theorem Settled.read {x : σ} (hx : Settled fields budget x) (hapart : fields.Pairwise Apart)
    (hfaithful : ∀ f ∈ fields, f.Faithful blank depth) (hdepth : depth ≤ budget)
    {f : Field σ} (hf : f ∈ fields) {o : Outline} (ho : ∀ n ∈ o.numbers, n.InRange)
    {set : σ → σ} (h : f.read budget o = .ok set) : Settled fields budget (set x) := by
  obtain ⟨v, hv, rfl⟩ := map_eq_ok.1 h
  exact hx.set hapart hf (hfaithful f hf).get_set
    ((hfaithful f hf).codec.restores hdepth ho hv)

/-- Reading a record from an object leaves all fields with values that are restored. -/
theorem settled_of_readFields (hapart : fields.Pairwise Apart)
    (hfaithful : ∀ f ∈ fields, f.Faithful blank depth) (hdepth : depth ≤ budget)
    {os : List (Outline × Outline)} (hos : ∀ n ∈ Outline.numbersOfMembers os, n.InRange)
    {given given' : List String} {x y : σ} (hx : Settled fields budget x)
    (h : Codec.readFields fields budget given x os = .ok (given', y)) :
    Settled fields budget y := by
  induction os generalizing given x with
  | nil =>
    obtain ⟨-, rfl⟩ := Prod.mk.inj (Except.ok.inj h)
    exact hx
  | cons m os ih =>
    obtain ⟨ho, hos⟩ := List.forall_mem_append.1 hos
    obtain ⟨name, -, h⟩ := bind_eq_ok.1 h
    split at h
    · obtain ⟨-, -, h⟩ := bind_eq_ok.1 h
      exact ih hos hx h
    · next f hf =>
      split at h
      · exact nomatch h
      · obtain ⟨set, hset, h⟩ := bind_eq_ok.1 h
        exact ih hos
          (hx.read hapart hfaithful hdepth (List.mem_of_find?_eq_some hf) ho hset) h

/-- Reading a record from an array leaves all fields with values that are restored. -/
theorem settled_of_readElements (hapart : fields.Pairwise Apart)
    (hfaithful : ∀ f ∈ fields, f.Faithful blank depth) (hdepth : depth ≤ budget)
    {os left : List Outline} (hos : ∀ n ∈ Outline.numbersOfItems os, n.InRange)
    {todo : List (Field σ)} (htodo : todo ⊆ fields) {count count' : Nat} {x y : σ}
    (hx : Settled fields budget x)
    (h : Codec.readElements budget count x todo os = .ok (count', y, left)) :
    Settled fields budget y := by
  induction os generalizing todo count x with
  | nil =>
    rw [Codec.readElements] at h
    · obtain ⟨-, h⟩ := Prod.mk.inj (Except.ok.inj h)
      obtain ⟨rfl, -⟩ := Prod.mk.inj h
      exact hx
    · nofun
  | cons o os ih =>
    cases todo with
    | nil =>
      obtain ⟨-, h⟩ := Prod.mk.inj (Except.ok.inj h)
      obtain ⟨rfl, -⟩ := Prod.mk.inj h
      exact hx
    | cons f todo =>
      obtain ⟨ho, hos⟩ := List.forall_mem_append.1 hos
      obtain ⟨hf, htodo⟩ := List.cons_subset.1 htodo
      obtain ⟨set, hset, h⟩ := bind_eq_ok.1 h
      exact ih hos htodo (hx.read hapart hfaithful hdepth hf ho hset) h

/-- Setting fields to what they hold in a record makes them hold the same. -/
theorem get_foldl_set (hapart : fields.Pairwise Apart)
    (hset : ∀ f ∈ fields, ∀ v x, f.get (f.set v x) = v) (x : σ) {f : Field σ} (hf : f ∈ fields)
    {todo : List (Field σ)} (htodo : todo ⊆ fields) {y : σ}
    (h : f ∈ todo ∨ f.get y = f.get x) :
    f.get (todo.foldl (fun y g => g.set (g.get x) y) y) = f.get x := by
  have : Std.Symm (@Apart σ) := ⟨fun _ _ h => ⟨h.2, h.1⟩⟩
  induction todo generalizing y with
  | nil => exact h.resolve_left List.not_mem_nil
  | cons g todo ih =>
    obtain ⟨hg, htodo⟩ := List.cons_subset.1 htodo
    refine ih htodo ?_
    by_cases heq : f = g
    · subst heq
      exact .inr (hset f hf _ y)
    · rw [(hapart.forall hf hg heq).1]
      exact h.imp (fun h => (List.mem_cons.1 h).resolve_left heq) id

theorem find?_name (hnames : (fields.map (·.name)).Nodup) {f : Field σ} (hf : f ∈ fields) :
    fields.find? (·.name == f.name) = some f := by
  induction fields with
  | nil => exact absurd hf List.not_mem_nil
  | cons g fs ih =>
    rw [List.map_cons, List.nodup_cons] at hnames
    rcases List.mem_cons.1 hf with rfl | hf
    · simp
    · have hne : g.name ≠ f.name := fun heq =>
        hnames.1 (heq ▸ List.mem_map_of_mem hf)
      rw [List.find?_cons_of_neg (by simpa using hne)]
      exact ih hnames.2 hf

/-- The fields of a record, written as members, set those fields one after the other. -/
theorem readFields_outlineOfMembers (hnames : (fields.map (·.name)).Nodup) {x : σ}
    (hx : Settled fields budget x) {todo : List (Field σ)} (htodo : todo ⊆ fields)
    (hnodup : (todo.map (·.name)).Nodup) {given : List String}
    (hgiven : ∀ f ∈ todo, f.name ∉ given) (y : σ) :
    ∃ given', Codec.readFields fields budget given y
        (outlineOfMembers (todo.map fun f => (f.name, f.write x))) =
      .ok (given', todo.foldl (fun y f => f.set (f.get x) y) y) := by
  induction todo generalizing given y with
  | nil => exact ⟨given, rfl⟩
  | cons f todo ih =>
    obtain ⟨hf, htodo⟩ := List.cons_subset.1 htodo
    rw [List.map_cons, List.nodup_cons] at hnodup
    have hread : f.read budget (f.write x).outline = .ok (f.set (f.get x)) :=
      map_eq_ok.2 ⟨f.get x, (hx f hf).read_outline, rfl⟩
    have hnew : ∀ g ∈ todo, g.name ∉ f.name :: given := by
      intro g hg
      rw [List.mem_cons, not_or]
      refine ⟨fun heq => hnodup.1 (heq ▸ List.mem_map_of_mem hg), ?_⟩
      exact hgiven g (List.mem_cons_of_mem _ hg)
    have hfree : given.contains f.name = false := by
      simpa using hgiven f List.mem_cons_self
    obtain ⟨given', h⟩ := ih htodo hnodup.2 hnew (f.set (f.get x) y)
    refine ⟨given', ?_⟩
    rw [List.map_cons, outlineOfMembers, Codec.readFields, keepName, ok_bind,
      find?_name hnames hf]
    dsimp only
    rw [hfree, if_neg Bool.false_ne_true, hread, ok_bind]
    exact h

/-- Reading the fields of a record that were written as members reads the value of each, and leaves
all other fields as they were. -/
theorem read_of_readFields_outlineOfMembers (hnames : (fields.map (·.name)).Nodup)
    (hapart : fields.Pairwise Apart) (hset : ∀ f ∈ fields, ∀ v x, f.get (f.set v x) = v)
    {todo : List (Field σ)} (htodo : todo ⊆ fields) (hnodup : (todo.map (·.name)).Nodup)
    {given given' : List String} {x y z : σ}
    (h : Codec.readFields fields budget given y
      (outlineOfMembers (todo.map fun f => (f.name, f.write x))) = .ok (given', z)) :
    ∀ f ∈ fields, (f ∈ todo → f.codec.read budget (f.write x).outline = .ok (f.get z)) ∧
      (f ∉ todo → f.get z = f.get y) := by
  have : Std.Symm (@Apart σ) := ⟨fun _ _ h => ⟨h.2, h.1⟩⟩
  induction todo generalizing given y with
  | nil =>
    obtain ⟨-, rfl⟩ := Prod.mk.inj (Except.ok.inj h)
    exact fun f _ => ⟨fun hf => absurd hf List.not_mem_nil, fun _ => rfl⟩
  | cons g todo ih =>
    obtain ⟨hg, htodo⟩ := List.cons_subset.1 htodo
    rw [List.map_cons, List.nodup_cons] at hnodup
    rw [List.map_cons, outlineOfMembers, Codec.readFields, keepName, ok_bind,
      find?_name hnames hg] at h
    dsimp only at h
    split at h
    · cases h
    obtain ⟨set, hread, h⟩ := bind_eq_ok.1 h
    obtain ⟨v, hv, rfl⟩ := map_eq_ok.1 hread
    intro f hf
    obtain ⟨hin, hout⟩ := ih htodo hnodup.2 h f hf
    by_cases heq : f = g
    · subst heq
      have hlater : f ∉ todo := fun hmem => hnodup.1 (List.mem_map_of_mem hmem)
      refine ⟨fun _ => ?_, fun hnot => absurd List.mem_cons_self hnot⟩
      rw [hout hlater, hset f hf]
      exact hv
    · rw [(hapart.forall hf hg heq).1] at hout
      exact ⟨fun hmem => hin ((List.mem_cons.1 hmem).resolve_left heq),
        fun hnot => hout fun hmem => hnot (List.mem_cons_of_mem g hmem)⟩

end Field

namespace Codec

open Json.Field

variable {σ : Type} {fields : List (Field σ)} {blank : σ}

/-- Fields make up a record: they have different names, are set independently, are faithful
one by one, and two records that agree in all of them are the same. -/
structure Complete (fields : List (Field σ)) (blank : σ) (depth : Nat) : Prop where
  names_nodup : (fields.map (·.name)).Nodup
  apart : fields.Pairwise Apart
  faithful : ∀ f ∈ fields, f.Faithful blank depth
  eq_of_get {x y : σ} (h : ∀ f ∈ fields, f.get x = f.get y) : x = y

variable {depth : Nat}

theorem Complete.foldl_set (h : Complete fields blank depth) (x : σ) :
    fields.foldl (fun y f => f.set (f.get x) y) blank = x :=
  h.eq_of_get fun _ hf => get_foldl_set h.apart (fun f hf => (h.faithful f hf).get_set) x hf
    (List.Subset.refl fields) (.inl hf)

/-- A record is restored if the values of its fields are, one level deeper. -/
theorem Complete.restores (h : Complete fields blank depth) {name : String} {budget : Nat}
    {x : σ} (hx : Settled fields budget x) :
    (record name blank fields).Restores (budget + 1) x where
  read_outline := by
    obtain ⟨given, hread⟩ := readFields_outlineOfMembers h.names_nodup hx
      (List.Subset.refl fields) h.names_nodup (fun _ _ => List.not_mem_nil) blank
    rw [h.foldl_set] at hread
    change (record name blank fields).read (budget + 1)
      (Json.object (fields.map fun f => (f.name, f.write x))).outline = .ok x
    simp only [outline, record, deeper, ok_bind, hread, Close.keepObject]
  inRange n hn := by
    obtain ⟨m, hm, hn⟩ := mem_numbers_object.1 hn
    obtain ⟨f, hf, rfl⟩ := List.mem_map.1 hm
    exact (hx f hf).inRange n hn

/-- A record is restored exactly if the values of its fields are, one level deeper. -/
theorem Complete.restores_iff (h : Complete fields blank depth) {name : String} {budget : Nat}
    {x : σ} : (record name blank fields).Restores (budget + 1) x ↔ Settled fields budget x := by
  refine ⟨fun hx f hf => ⟨?_, fun n hn => ?_⟩, h.restores⟩
  · obtain ⟨b, hb, hread⟩ := bind_eq_ok.1 hx.read_outline
    obtain rfl := Nat.succ.inj (eq_succ_of_deeper hb)
    obtain ⟨⟨given, y⟩, hfields, hread⟩ := bind_eq_ok.1 hread
    obtain ⟨-, -, hread⟩ := bind_eq_ok.1 hread
    obtain rfl := Except.ok.inj hread
    exact (read_of_readFields_outlineOfMembers h.names_nodup h.apart
      (fun f hf => (h.faithful f hf).get_set) (List.Subset.refl fields) h.names_nodup hfields f
      hf).1 hf
  · exact hx.inRange n (mem_numbers_object.2
      ⟨_, List.mem_map_of_mem (f := fun f : Field σ => (f.name, f.write x)) hf, hn⟩)

theorem Complete.settled_blank {budget : Nat} (h : Complete fields blank depth)
    (hdepth : depth ≤ budget) : Settled fields budget blank :=
  fun f hf => (h.faithful f hf).restores_blank hdepth

/-- The codec of a record is faithful, one level deeper than its fields. -/
theorem Complete.record_faithful {name : String} (h : Complete fields blank depth) :
    (record name blank fields).Faithful (depth + 1) where
  restores {budget o v} hdepth ho hread := by
    cases o with
    | object members close =>
      obtain ⟨b, hb, hread⟩ := bind_eq_ok.1 hread
      obtain ⟨⟨given, x⟩, hx, hread⟩ := bind_eq_ok.1 hread
      obtain ⟨-, -, hread⟩ := bind_eq_ok.1 hread
      obtain rfl := Except.ok.inj hread
      obtain rfl := eq_succ_of_deeper hb
      have hb := Nat.le_of_succ_le_succ hdepth
      exact h.restores
        (settled_of_readFields h.apart h.faithful hb ho (h.settled_blank hb) hx)
    | array items close =>
      obtain ⟨b, hb, hread⟩ := bind_eq_ok.1 hread
      obtain ⟨⟨count, x, left⟩, hx, hread⟩ := bind_eq_ok.1 hread
      obtain ⟨-, -, hread⟩ := bind_eq_ok.1 hread
      obtain rfl := Except.ok.inj hread
      obtain rfl := eq_succ_of_deeper hb
      have hb := Nat.le_of_succ_le_succ hdepth
      exact h.restores (settled_of_readElements h.apart h.faithful hb ho
        (List.Subset.refl fields) (h.settled_blank hb) hx)
    | _ => exact nomatch hread
  write_ne_null _ _ := nofun

/-- What a codec that is faithful within the limit of nesting has read from a text is restored. -/
theorem Faithful.restores_of_ofText {α : Type} {c : Codec α} (hc : c.Faithful depth)
    (hdepth : depth ≤ maxDepth) {document : String} {v : α} (h : c.ofText document = .ok v) :
    c.Restores maxDepth v := by
  have hkept : ∀ n ∈ (Outline.ofText document).1.numbers, n.InRange := by
    have hread := inRange_numbers_read document.toList
    unfold Outline.ofText
    split
    · next o ho => simpa only [ho] using hread
    · next o r ho => simpa only [ho] using hread
  have hread : c.read maxDepth (Outline.ofText document).1 = .ok v := by
    unfold Codec.ofText at h
    dsimp only at h
    split at h
    · exact nomatch h
    · next w hw =>
      split at h
      · exact Except.ok.inj h ▸ hw
      · exact nomatch h
  exact hc.restores hdepth hkept hread

/-- A value that is restored within the limit of nesting is read from its own text, if the doubles
in it are read back. -/
theorem Restores.ofText_indented {α : Type} {c : Codec α} {v : α} (h : c.Restores maxDepth v)
    (hdouble : ∀ d, Number.double d ∈ (c.write v).numbers → (Number.double d).ReadsBack) :
    c.ofText (c.write v).indented = .ok v := by
  have hback : ∀ n ∈ (c.write v).numbers, n.ReadsBack := by
    rintro (i | d) hn
    · exact Number.readsBack_integer (h.inRange _ hn)
    · exact hdouble d hn
  rw [Codec.ofText, Json.ofText_indented hback]
  dsimp only
  rw [h.read_outline]
  rfl

/-- A codec that is faithful within the limit of nesting reads its own text as the value that
it was written for, if the doubles in it are read back. -/
theorem Faithful.ofText_indented {α : Type} {c : Codec α} (hc : c.Faithful depth)
    (hdepth : depth ≤ maxDepth) {document : String} {v : α} (h : c.ofText document = .ok v)
    (hdouble : ∀ d, Number.double d ∈ (c.write v).numbers → (Number.double d).ReadsBack) :
    c.ofText (c.write v).indented = .ok v :=
  (hc.restores_of_ofText hdepth h).ofText_indented hdouble

/-! ### Fields of the usual kinds -/

variable {α : Type} {c : Codec α} {name : String}

theorem text_field {get : σ → String} {set : String → σ → σ}
    (hset : ∀ v x, get (set v x) = v) : (field name text get set).Faithful blank depth :=
  ⟨text_faithful depth, fun _ => text_restores _ _, hset⟩

theorem flag_field {get : σ → Bool} {set : Bool → σ → σ}
    (hset : ∀ v x, get (set v x) = v) : (field name flag get set).Faithful blank depth :=
  ⟨flag_faithful depth, fun _ => flag_restores _ _, hset⟩

theorem nullable_field {get : σ → Option α} {set : Option α → σ → σ}
    (hc : c.Faithful depth) (hset : ∀ v x, get (set v x) = v) (hblank : get blank = none) :
    (field name (nullable c) get set).Faithful blank depth where
  codec := nullable_faithful hc
  restores_blank {budget} _ := by
    change (nullable c).Restores budget (get blank)
    exact hblank ▸ nullable_restores_none c budget
  get_set := hset

theorem list_field {get : σ → List α} {set : List α → σ → σ}
    (hc : c.Faithful depth) (hset : ∀ v x, get (set v x) = v) (hblank : get blank = []) :
    (field name (list c) get set).Faithful blank (depth + 1) where
  codec := list_faithful hc
  restores_blank {budget} hdepth := by
    obtain ⟨b, rfl⟩ := Nat.exists_eq_add_of_le' (Nat.le_of_add_left_le hdepth)
    change (list c).Restores (b + 1) (get blank)
    exact hblank ▸ list_restores nofun
  get_set := hset

theorem catalog_field {get : σ → Catalog α} {set : Catalog α → σ → σ}
    (hc : c.Faithful depth) (hset : ∀ v x, get (set v x) = v) (hblank : get blank = .empty) :
    (field name (catalog c) get set).Faithful blank (depth + 1) where
  codec := catalog_faithful hc
  restores_blank {budget} hdepth := by
    obtain ⟨b, rfl⟩ := Nat.exists_eq_add_of_le' (Nat.le_of_add_left_le hdepth)
    change (catalog c).Restores (b + 1) (get blank)
    exact hblank ▸ catalog_restores fun _ he => absurd he List.not_mem_nil
  get_set := hset

/-- A record in a record: its blank is what an empty object says. -/
theorem record_field {τ : Type} {inner : String} {blank' : τ} {fields' : List (Field τ)}
    {get : σ → τ} {set : τ → σ → σ}
    (hc : (record inner blank' fields').Faithful (depth + 1))
    (hset : ∀ v x, get (set v x) = v) (hblank : get blank = blank') :
    (field name (record inner blank' fields') get set).Faithful blank (depth + 1) where
  codec := hc
  restores_blank {budget} hdepth := by
    obtain ⟨b, rfl⟩ := Nat.exists_eq_add_of_le' (Nat.le_of_add_left_le hdepth)
    have hnumbers : ∀ n ∈ (Outline.object [] .closed).numbers, n.InRange := nofun
    have hempty : (record inner blank' fields').read (b + 1) (.object [] .closed) =
      .ok blank' := rfl
    change (record inner blank' fields').Restores (b + 1) (get blank)
    exact hblank ▸ hc.restores hdepth hnumbers hempty
  get_set := hset

end Codec

end Json

end ApiProxy
