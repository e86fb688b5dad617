import SchemaSheet.Log
import SchemaSheet.Pattern.Basic
import SchemaSheet.Text.Blank
import SchemaSheet.Text.Utf8

/-! Log filters: which records are shown. A filter is a list of directives, each a level for all
targets or for those that begin with a name, and perhaps a pattern that records must match. -/

namespace SchemaSheet

structure Directive where
  /-- The start of the targets that the directive is for; it is for all if there is none. -/
  target : Option Text
  /-- The most detailed level shown; nothing is shown if there is none. -/
  level : Option Level
  deriving DecidableEq, Repr

structure LogFilter where
  directives : List Directive := []
  /-- What records must match. -/
  pattern : Option Pattern.Expr := none
  /-- What is wrong with the filter's text. -/
  warnings : List Text := []
  deriving DecidableEq, Repr

namespace Directive

def length (d : Directive) : Nat := Text.Utf8.size (d.target.getD [])

def covers (d : Directive) (target : Text) : Bool := (d.target.getD []).isPrefixOf target

def shows (d : Directive) (l : Level) : Bool := d.level.any fun most => l.rank ≤ most.rank

end Directive

namespace LogFilter

open Text

/-- The level with a name; case does not matter. No level is called `off`. -/
def level? (t : Text) : Option (Option Level) :=
  let low := t.map Char.toLower
  if low = "off".toList then some none
  else ([.error, .warn, .info, .debug, .trace].find? fun l =>
    l.name.map Char.toLower = low).map some

def insert (d : Directive) : List Directive → List Directive
  | [] => [d]
  | e :: rest => if e.target = d.target then d :: rest else e :: insert d rest

def warning (spec : Text) (more : Text) : Text :=
  "warning: invalid logging spec '".toList ++ spec ++ ['\''] ++ more ++ ", ignoring it".toList

/-- Adds what one item of a filter's text says. -/
def addItem (f : LogFilter) (item : Text) : LogFilter :=
  let add (target : Option Text) (level : Option Level) : LogFilter :=
    { f with directives := insert ⟨target, level⟩ f.directives }
  let refuse (spec : Text) : LogFilter := { f with warnings := f.warnings ++ [warning spec []] }
  match pieces '=' item with
  | [single] =>
    match level? single with
    | some level => add none level
    | none => add (some single) (some .trace)
  | [target, name] =>
    let name := trim name
    if name.isEmpty then add (some target) (some .trace)
    else match level? name with
      | some level => add (some target) level
      | none => refuse name
  | _ => refuse item

def addPattern (f : LogFilter) (t : Text) : LogFilter :=
  match Pattern.expression t with
  | .ok e => { f with pattern := some e }
  | .error report =>
    { f with warnings := f.warnings ++
        ["warning: invalid regex filter - ".toList ++ report ++ ", ignoring it".toList] }

def addItems (f : LogFilter) (items : Text) : LogFilter :=
  (((pieces ',' items).map trim).filter (!·.isEmpty)).foldl addItem f

def ofText (spec : Text) : LogFilter :=
  match pieces '/' spec with
  | [items] => addItems {} items
  | [items, pattern] => (addItems {} items).addPattern pattern
  | _ => { warnings := [warning spec " (too many '/'s)".toList] }

/-- The directive for a target: of those that are for it, the longest, and the last of these. -/
def directiveFor? (f : LogFilter) (target : Text) : Option Directive :=
  (f.directives.filter (·.covers target)).foldl
    (fun best d => if best.all (·.length ≤ d.length) then some d else best) none

/-- Whether a record is shown. Without directives only errors are. -/
def shows (f : LogFilter) (r : LogRecord) : Bool :=
  let chosen :=
    if f.directives.isEmpty then some ⟨none, some .error⟩ else f.directiveFor? r.origin.target
  chosen.any (·.shows r.level) && f.pattern.all (·.isMatch r.text)

end LogFilter

end SchemaSheet
