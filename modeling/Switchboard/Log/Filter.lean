import Switchboard.Decimal.Reader
import Switchboard.Log
import Switchboard.Log.Pattern
import Switchboard.Text.Alphanumeric
import Switchboard.Text.Ascii
import Switchboard.Text.Blank
import Switchboard.Text.Cut

/-!
# Filters of events

A filter is a list of rules between commas. A rule names the greatest level of the events it lets
pass, and may be for the events of some part of the program only, or for those with a certain field:

* `info` — a level; `off` lets nothing pass, and the digits from 0 to 5 stand for the levels too;
* `http=warn` — a level for the events of the parts whose names begin so;
* `http` — the same with every level;
* `http[{size}]=debug` — a level for events with a field.

Of the rules that are for an event the most particular one decides (`LogRule.yields`); an event that
no rule is for does not pass. A filter without rules lets errors pass.

A rule may also be confined to a span of time, or to one value of a field within such a span. Events
here lie in no span, so such a rule lets none of them pass.
-/

namespace Switchboard

/-- The part of the program that an event comes from, and the event. -/
structure LogRecord where
  target : String
  event : LogEvent
  deriving DecidableEq, Repr, Inhabited

/-- How much detail a level has. -/
def Level.rank : Level → Nat
  | .error => 1
  | .warn => 2
  | .info => 3
  | .debug => 4
  | .trace => 5

/-- All levels. -/
def Level.all : List Level := [.error, .warn, .info, .debug, .trace]

/-- The name of the field that holds the message of an event. -/
def LogEvent.messageField : String := "message"

/-- Whether an event has a field. -/
def LogEvent.hasField (e : LogEvent) (name : String) : Bool :=
  name = messageField || (e.fields.lookup name).isSome

/-- A rule of a filter. -/
structure LogRule where
  /-- The beginning of the names of the parts of the program that the rule is for; all parts, if
  there is none. -/
  target : Option String := none
  /-- The field that an event needs for the rule to be for it. -/
  field : Option String := none
  /-- Whether the rule is only for what lies in a span. -/
  confined : Bool := false
  /-- The level of most detail that passes; nothing passes if there is none. -/
  limit : Option Level := some .trace
  deriving DecidableEq, Repr, Inhabited

/-- Why a rule cannot be read. -/
inductive LogRuleFault where
  | malformed
  | unknownLevel
  /-- The value of a field is a pattern that cannot be used. -/
  | pattern (fault : Pattern.Fault)
  /-- A part of the rule would begin or end within a character. -/
  | torn
  deriving DecidableEq, Repr

/-- The wording of what is wrong with a rule. -/
def LogRuleFault.message : LogRuleFault → String
  | .malformed => "invalid filter directive"
  | .unknownLevel =>
    "error parsing level filter: expected one of \"off\", \"error\", \"warn\", \"info\", " ++
      "\"debug\", \"trace\", or a number 0-5"
  | .pattern fault => "invalid field filter: " ++ fault.message
  | .torn => "a part of the filter begins or ends within a character"

namespace LogRule

/-! ## Which rule decides -/

/-- Whether a rule is for a record. -/
def covers (rule : LogRule) (r : LogRecord) : Bool :=
  !rule.confined && rule.target.all (fun t => t.toList.isPrefixOf r.target.toList) &&
    rule.field.all r.event.hasField

/-- How particular the target of a rule is: the longer the more, and the least without one. -/
def reach (rule : LogRule) : Nat := rule.target.elim 0 fun t => t.utf8ByteSize + 1

/-- Whether a rule gives way to a later one that is for the same record: to one with a longer
target, or with the same and a field that comes no earlier in the order of names. -/
def yields (rule later : LogRule) : Bool :=
  if rule.reach = later.reach then
    match rule.field, later.field with
    | none, _ => true
    | some _, none => false
    | some f, some g => decide (f ≤ g)
  else decide (rule.reach < later.reach)

/-- The most particular of some rules, the latest of those that are equally so. -/
def decisive? (rules : List LogRule) : Option LogRule :=
  rules.foldl (fun best rule =>
    match best with
    | none => some rule
    | some b => if b.yields rule then some rule else some b) none

/-- Whether a rule lets a level pass. -/
def passes (rule : LogRule) (l : Level) : Bool := rule.limit.any fun most => l.rank ≤ most.rank

/-! ## Reading rules -/

/-- The limit that a word names. -/
def limitOf? (word : List Char) : Option (Option Level) :=
  let name := Ascii.lower (.ofList word)
  match Decimal.natural? 5 word with
  | some n => some (Level.all.find? fun l => l.rank = n)
  | none =>
    if name = "off" then some none
    else (Level.all.find? fun l => l.name = name).map some

/-- What is being read of a rule, and the place where that begins, counted in bytes. -/
inductive Stage where
  | start
  /-- A level or the target. -/
  | word (start : Nat)
  | span (start : Nat)
  | field (start : Nat)
  /-- After a field. -/
  | fieldEnd
  /-- After a span. -/
  | spanEnd
  | limit (start : Nat)
  deriving DecidableEq, Repr

/-- The characters of a text between two places. -/
def part (text : List Char) (start stop : Nat) : Except LogRuleFault (List Char) :=
  match Cut.between? start stop text with
  | some part => .ok part
  | none => .error .torn

/-- The characters of a text after a place. -/
def remainder (text : List Char) (start : Nat) : Except LogRuleFault (List Char) :=
  match Cut.after? start text with
  | some rest => .ok rest
  | none => .error .torn

/-- Whether a field can have the value that is written: a number, or else a pattern. -/
def checkValue (value : List Char) : Except Pattern.Fault Unit :=
  if (Decimal.real? value).isSome then .ok () else Pattern.check value

/-- The rule with what a field between braces says. A value after the name confines the rule; it
ends before a further equals sign. -/
def withField (rule : LogRule) (text : List Char) : Except LogRuleFault LogRule :=
  let name := text.takeWhile (· ≠ '=')
  let field := some (String.ofList name)
  match text.drop name.length with
  | [] => .ok { rule with field }
  | _ :: rest =>
    match checkValue (rest.takeWhile (· ≠ '=')) with
    | .ok () => .ok { rule with field, confined := true }
    | .error fault => .error (.pattern fault)

/-- Whether a character may begin a rule. -/
def begins (c : Char) : Bool := c = '-' || c = ':' || c = '_' || Alphanumeric.contains c

/-- Go on reading a rule with the character at a place: what is read next, and what is known. -/
def step (text : List Char) (place : Nat) (c : Char) :
    Stage → LogRule → Except LogRuleFault (Stage × LogRule)
  | .start, rule =>
    if c = '[' then .ok (.span (place + 1), rule)
    else if begins c then .ok (.word place, rule)
    else .error .malformed
  | .word start, rule =>
    if c = '=' || c = '[' then do
      let named := { rule with target := some (.ofList (← part text start place)) }
      return (if c = '=' then .limit (place + 1) else .span (place + 1), named)
    else .ok (.word start, rule)
  | .span start, rule =>
    if c = ']' then (part text start place).map fun _ => (.spanEnd, { rule with confined := true })
    else if c = '\x7b' then
      (part text start place).map fun span =>
        (.field (place + 1), { rule with confined := rule.confined || !span.isEmpty })
    else .ok (.span start, rule)
  | .field start, rule =>
    if c = '\x7d' then do
      let field ← part text start place
      if field.isEmpty then throw .malformed
      return (.fieldEnd, ← rule.withField field)
    else .ok (.field start, rule)
  | .fieldEnd, rule => if c = ']' then .ok (.spanEnd, rule) else .error .malformed
  | .spanEnd, rule => if c = '=' then .ok (.limit (place + 1), rule) else .error .malformed
  | .limit start, rule => .ok (.limit start, rule)

/-- Finish a rule at the end of its text. -/
def finish (text : List Char) : Stage → LogRule → Except LogRuleFault LogRule
  | .word start, rule => do
    let word ← remainder text start
    match limitOf? word with
    | some limit => return { rule with limit }
    | none => return { rule with target := some (.ofList word) }
  | .limit start, rule => do
    let word ← remainder text start
    if word.isEmpty then return rule
    match limitOf? word with
    | some limit => return { rule with limit }
    | none => throw .unknownLevel
  | .spanEnd, rule => .ok rule
  | _, _ => .error .malformed

/-- Read a rule from the character at a place on. -/
def readFrom (text : List Char) (place : Nat) (s : Stage) (rule : LogRule) :
    List Char → Except LogRuleFault LogRule
  | [] => finish text s rule
  | c :: rest =>
    match step text place c s rule with
    | .ok (s, rule) => readFrom text (place + c.utf8Size) s rule rest
    | .error fault => .error fault

/-- Read a rule. It is scanned without the blanks around it, but its parts are cut at the places
found out of the text that still has them, so a rule with blanks around it is seldom the one that
was meant, and may be `torn`. -/
def parse (text : List Char) : Except LogRuleFault LogRule :=
  readFrom text 0 .start {} (Blank.trimStart (Blank.trimEnd text))

end LogRule

/-- A filter. -/
abbrev LogFilter := List LogRule

namespace LogFilter

/-- The texts of the rules of a filter. -/
def ruleTexts (s : String) : List String := (s.splitOn ",").filter (· ≠ "")

/-- The rule of a filter that has none of its own. -/
def errorsOnly : LogRule := { limit := some .error }

/-- The filter of some rules. -/
def ofRules (rules : List LogRule) : LogFilter := if rules.isEmpty then [errorsOnly] else rules

/-- Read a filter all of whose rules have to be right. -/
def parse (s : String) : Except LogRuleFault LogFilter :=
  ((ruleTexts s).mapM fun t => LogRule.parse t.toList).map ofRules

/-- Read a filter without the rules that cannot be read, and those rules with what is wrong with
them. -/
def read (s : String) : LogFilter × List (String × LogRuleFault) :=
  let results := (ruleTexts s).map fun t => (t, LogRule.parse t.toList)
  (ofRules (results.filterMap fun (_, r) => r.toOption),
    results.filterMap fun (t, r) => match r with
      | .ok _ => none
      | .error fault => some (t, fault))

/-- Whether a filter lets a record pass. -/
def admits (f : LogFilter) (r : LogRecord) : Bool :=
  (LogRule.decisive? (f.filter fun rule => rule.covers r)).any fun rule => rule.passes r.event.level

end LogFilter

end Switchboard
