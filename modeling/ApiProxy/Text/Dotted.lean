/-!
# Dotted names

A dotted name such as `Acme.Books.BookDto` is a qualifier, a dot and a last segment, cut at
the last dot. A name without a dot has no qualifier and is its own last segment. Cutting and
joining again gives the name back.
-/

namespace ApiProxy.Text

/-- The part behind the last dot. -/
def lastSegmentChars (cs : List Char) : List Char :=
  (cs.reverse.takeWhile (· != '.')).reverse

/-- The part before the last dot, if there is a dot. -/
def qualifierChars? (cs : List Char) : Option (List Char) :=
  match cs.reverse.dropWhile (· != '.') with
  | [] => none
  | _ :: front => some front.reverse

/-- The part of a name behind its last dot. -/
def lastSegment (name : String) : String :=
  String.ofList (lastSegmentChars name.toList)

/-- The part of a name before its last dot, if it has a dot. -/
def qualifier? (name : String) : Option String :=
  (qualifierChars? name.toList).map String.ofList

theorem lastSegmentChars_of_qualifierChars?_eq_none {cs : List Char}
    (h : qualifierChars? cs = none) : lastSegmentChars cs = cs := by
  have hd : cs.reverse.dropWhile (· != '.') = [] := by
    unfold qualifierChars? at h
    split at h <;> simp_all
  have := List.takeWhile_append_dropWhile (p := (· != '.')) (l := cs.reverse)
  rw [hd, List.append_nil] at this
  rw [lastSegmentChars, this, List.reverse_reverse]

theorem append_lastSegmentChars_of_qualifierChars?_eq_some {cs q : List Char}
    (h : qualifierChars? cs = some q) : q ++ '.' :: lastSegmentChars cs = cs := by
  unfold qualifierChars? at h
  split at h
  · simp at h
  · next c front hd =>
    obtain rfl := Option.some.inj h
    have hc : c = '.' := by
      have := List.head_dropWhile_not (· != '.')
        (by rw [hd]; simp : cs.reverse.dropWhile (· != '.') ≠ [])
      simpa [hd] using this
    have := congrArg List.reverse
      (List.takeWhile_append_dropWhile (p := (· != '.')) (l := cs.reverse))
    rw [hd, hc] at this
    simpa [lastSegmentChars] using this

end ApiProxy.Text
