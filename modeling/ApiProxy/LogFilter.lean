import ApiProxy.Log
import ApiProxy.Text.Affix
import ApiProxy.Text.Alphanumeric
import ApiProxy.Text.Blank

/-!
# Log filters

A log filter is a list of rules that say which entries of a log are shown. A rule gives the lowest
level that is shown, for all entries or only for those whose origin begins in a given way or that
have a given detail. Of the rules that apply to an entry the most specific one decides, and an
entry to which none applies is not shown.

A rule is written as a level, as the beginning of an origin, or as both with an equals sign
between them. Behind the origin may stand, in brackets, the name of an activity and, in braces, a
detail. The program names no activities, so a rule about one applies to nothing. A rule without a
level shows everything that it applies to.
-/

namespace ApiProxy

/-- A rule of a log filter. -/
structure LogRule where
  /-- How the origins begin that the rule is about, if it is not about all. -/
  origin? : Option String
  /-- The detail that an entry has to have, if it has to have one. -/
  detail? : Option String
  /-- The lowest level that is shown, or nothing if no entry is. -/
  lowest? : Option LogLevel
deriving DecidableEq, Repr

/-- The name of the message among the details of an entry. -/
def messageDetail : String := "message"

/-- Whether an entry has a detail. Its message is one. -/
def LogEntry.hasDetail (e : LogEntry) (name : String) : Bool :=
  name == messageDetail || (e.details.lookup name).isSome

namespace LogLevel

/-- The lowest levels by name; there are no entries of a level below `debug`. -/
def names : List (String × Option LogLevel) :=
  [("off", none), ("error", some error), ("warn", some warn), ("info", some info),
    ("debug", some debug), ("trace", some debug)]

/-- The number that a row of digits spells, with or without a plus sign. -/
def number? (cs : List Char) : Option Nat :=
  let digits := if cs.head? = some '+' then cs.drop 1 else cs
  if digits.isEmpty || !digits.all Char.isDigit then none
  else some (digits.foldl (fun n c => n * 10 + (c.toNat - '0'.toNat)) 0)

/-- The lowest level that a word stands for: a name in any case, or its place among the names. -/
def lowestOf? (word : List Char) : Option (Option LogLevel) :=
  match number? word with
  | some n => (names[n]?).map (·.2)
  | none => names.lookup (String.ofList (word.map Char.toLower))

end LogLevel

namespace LogRule

/-- The rule that shows all entries from a level on. -/
def from_ (lowest : LogLevel) : LogRule := ⟨none, none, some lowest⟩

/-- The lowest level if none is given: everything is shown. -/
def everything : Option LogLevel := some .debug

/-- A rule as it is written, with the blanks around it and without them. The places of its parts
are counted without the blanks, but the parts are cut out with them. -/
structure Draft where
  written : List Char
  trimmed : List Char

namespace Draft

/-- A rule as it is written. -/
def ofChars (cs : List Char) : Draft := ⟨cs, Text.trimBlank cs⟩

/-- The part between two places. -/
def part (d : Draft) (start stop : Nat) : String :=
  String.ofList ((d.written.drop start).take (stop - start))

/-- The first place from `start` on at which one of some characters stands, and that character. -/
def next? (d : Draft) (stops : List Char) (start : Nat) : Option (Nat × Char) :=
  match (d.trimmed.drop start).dropWhile (!stops.contains ·) with
  | [] => none
  | c :: rest => some (d.trimmed.length - rest.length - 1, c)

/-- The level that stands behind an equals sign, if there is one. -/
def level? (d : Draft) (start : Nat) : Option (Option LogLevel) :=
  let word := d.written.drop start
  if word.isEmpty then some everything else LogLevel.lowestOf? word

/-- The level of a rule whose brackets are closed. -/
def levelBehind? (d : Draft) (place : Nat) : Option (Option LogLevel) :=
  match d.trimmed.drop place with
  | [] => some everything
  | '=' :: _ => d.level? (place + 1)
  | _ => none

/-- The rule behind an opening bracket, unless it applies to nothing. -/
def inBrackets? (d : Draft) (origin? : Option String) (start : Nat) : Option (List LogRule) := do
  let (i, c) ← d.next? [']', '\x7b'] start
  if c = ']' then
    let _ ← d.levelBehind? (i + 1)
    some []
  else
    let (j, _) ← d.next? ['\x7d'] (i + 1)
    if j = i + 1 ∨ d.trimmed[j + 1]? ≠ some ']' then none
    else
      let lowest? ← d.levelBehind? (j + 2)
      let detail := d.part (i + 1) j
      if start < i || detail.toList.contains '=' then some []
      else some [⟨origin?, some detail, lowest?⟩]

/-- Whether a rule may begin with a character. -/
def mayStart (c : Char) : Bool := c == '-' || c == ':' || c == '_' || Text.isAlphanumeric c

/-- The rule of a draft, unless it applies to nothing. -/
def rules? (d : Draft) : Option (List LogRule) :=
  match d.trimmed with
  | [] => none
  | '[' :: _ => d.inBrackets? none 1
  | c :: _ =>
    if !mayStart c then none
    else
      match d.next? ['=', '['] 0 with
      | none =>
        match LogLevel.lowestOf? d.written with
        | some lowest? => some [⟨none, none, lowest?⟩]
        | none => some [⟨some (String.ofList d.written), none, everything⟩]
      | some (i, c) =>
        if c = '[' then d.inBrackets? (some (d.part 0 i)) (i + 1)
        else (d.level? (i + 1)).map fun lowest? => [⟨some (d.part 0 i), none, lowest?⟩]

end Draft

/-- Whether a rule applies to an entry. -/
def appliesTo (r : LogRule) (e : LogEntry) : Bool :=
  r.origin?.all (fun start => Text.startsWith start e.origin.name) && r.detail?.all e.hasDetail

/-- How specific the origin of a rule is: the longer, the more. -/
def originWeight (r : LogRule) : Nat :=
  match r.origin? with
  | none => 0
  | some start => start.utf8ByteSize + 1

/-- Whether a rule gives way to another one that applies to the same entry and stands behind it:
to one that is more specific in its origin, or else in its detail, or as specific. -/
def yieldsTo (r s : LogRule) : Bool :=
  r.originWeight < s.originWeight ||
    (r.originWeight == s.originWeight && !decide (s.detail?.getD "" < r.detail?.getD ""))

/-- Whether an entry is shown if a rule decides. -/
def shows (r : LogRule) (e : LogEntry) : Bool :=
  match r.lowest? with
  | none => false
  | some lowest => lowest.rank ≤ e.level.rank

end LogRule

/-- Which entries of a log are shown. -/
structure LogFilter where
  rules : List LogRule
deriving DecidableEq, Repr

namespace LogFilter

/-- The filter that shows all entries from a level on. -/
def from_ (lowest : LogLevel) : LogFilter := ⟨[.from_ lowest]⟩

/-- Read a filter from its rules with commas between them, if they can be understood. Without any
rule only errors are shown. -/
def ofText? (text : String) : Option LogFilter :=
  match (text.toList.splitOn ',').filter (!·.isEmpty) with
  | [] => some (from_ .error)
  | parts => (parts.mapM fun p => (LogRule.Draft.ofChars p).rules?).map fun rs => ⟨rs.flatten⟩

/-- The rule that decides about an entry. -/
def decisive? (f : LogFilter) (e : LogEntry) : Option LogRule :=
  (f.rules.filter (·.appliesTo e)).foldl
    (fun best? r => match best? with
      | none => some r
      | some best => some (if best.yieldsTo r then r else best)) none

/-- Whether an entry is shown. -/
def shows (f : LogFilter) (e : LogEntry) : Bool :=
  match f.decisive? e with
  | none => false
  | some r => r.shows e

/-- The entries of a log that are shown. -/
def apply (f : LogFilter) (log : List LogEntry) : List LogEntry := log.filter f.shows

end LogFilter

end ApiProxy
