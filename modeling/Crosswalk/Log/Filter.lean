import Crosswalk.Event
import Crosswalk.Text.Blank
import Crosswalk.Text.Numeric

/-!
# Log filters

A filter says up to which severity events are logged, for all of them or for those whose origin
starts with a text.  Of the rules that apply to an event, the one with the longest text decides.
Filters are written as rules with commas between them: a level, an origin, or an origin, an equals
sign and a level.
-/

set_option autoImplicit false

namespace Crosswalk.Log

/-- The least severe level that is logged, if any is. -/
abbrev Threshold :=
  Option Level

/-- The threshold for the events whose origin starts with a text. -/
structure Rule where
  /-- Without it, the rule is for all events. -/
  origin : Option String
  threshold : Threshold
  deriving DecidableEq, Repr

abbrev Filter :=
  List Rule

/-! ## Deciding -/

def Rule.appliesTo (event : Event) (rule : Rule) : Bool :=
  match rule.origin with
  | none => true
  | some origin => event.origin.startsWith origin

/-- How much of an origin the rule is about. -/
def Rule.reach (rule : Rule) : Nat :=
  match rule.origin with
  | none => 0
  | some origin => origin.length + 1

/-- Of two rules that apply, the one that decides: the one that reaches further, and otherwise the
one that comes later. -/
def Rule.stronger (first later : Rule) : Rule :=
  if later.reach < first.reach then first else later

namespace Filter

/-- The rule that decides about an event. -/
def ruleFor? (filter : Filter) (event : Event) : Option Rule :=
  (filter.filter (Rule.appliesTo event)).foldl
    (fun best rule => some (match best with | none => rule | some best => best.stronger rule)) none

/-- An event is logged if the rule for it lets events of its level through; without a rule it is
dropped. -/
def admits (filter : Filter) (event : Event) : Bool :=
  match (filter.ruleFor? event).bind Rule.threshold with
  | some level => event.level.rank ≤ level.rank
  | none => false

/-! ## Reading -/

/-- A rule for all events. -/
def ofLevel (level : Level) : Filter :=
  [⟨none, some level⟩]

/-- Levels by their names, in any case. -/
def levelNames : List (String × Threshold) :=
  [("off", none), ("error", some .error), ("warn", some .warn), ("info", some .info),
    ("debug", some .debug), ("trace", some .trace)]

/-- Levels by their numbers. -/
def levelNumbers : List Threshold :=
  [none, some .error, some .warn, some .info, some .debug, some .trace]

/-- The number of decimal digits, perhaps after a plus sign. -/
def number? (cs : List Char) : Option Nat :=
  let digits :=
    match cs with
    | '+' :: rest => rest
    | cs => cs
  if digits.isEmpty || !digits.all Char.isDigit then none
  else some (Nat.ofDigitChars 10 digits 0)

/-- The threshold that a name or a number stands for. -/
def threshold? (cs : List Char) : Option Threshold :=
  match (number? cs).bind fun n => levelNumbers[n]? with
  | some threshold => some threshold
  | none => levelNames.lookup (String.ofList (cs.map Char.toLower))

/-- A rule can start with this character. -/
def startsRule (c : Char) : Bool :=
  c = '-' || c = ':' || c = '_' || Text.isAlphanumeric c

/-- The rule of a text between commas.  Blanks around a name belong to it, so that it is no level;
ahead of an equals sign they make the rule unreadable. -/
def rule? (cs : List Char) : Option Rule :=
  match Text.trim cs with
  | [] => none
  | first :: _ =>
    let origin := cs.takeWhile (· != '=')
    if !startsRule first || origin.contains '[' then
      none
    else
      match cs.dropWhile (· != '=') with
      | [] =>
        match threshold? cs with
        | some threshold => some ⟨none, threshold⟩
        | none => some ⟨some (String.ofList cs), some .trace⟩
      | _ :: level =>
        if Text.isBlank (cs.headD ' ') then none
        else
          let threshold := if level.isEmpty then some (some .trace) else threshold? level
          threshold.map fun threshold => ⟨some (String.ofList origin), threshold⟩

/-- The pieces between commas that are not empty. -/
def pieces (text : String) : List (List Char) :=
  (go text.toList).filter fun piece => !piece.isEmpty
where
  go : List Char → List (List Char)
    | [] => [[]]
    | c :: rest =>
      if c = ',' then [] :: go rest
      else
        match go rest with
        | [] => [[c]]
        | piece :: others => (c :: piece) :: others

/-- The filter that a text spells; without a rule it lets errors through. -/
def ofText? (text : String) : Option Filter :=
  match pieces text with
  | [] => some (ofLevel .error)
  | all => all.mapM rule?

/-- The filter of a text, or up to `info` if the text is unreadable. -/
def ofText (text : String) : Filter :=
  (ofText? text).getD (ofLevel .info)

end Filter

end Crosswalk.Log
