import TableScript.Log
import TableScript.Text.Terminal
import TableScript.Text.White

/-!
# Which records are shown

A filter is a list of directives, each with the least important level that it lets through, for all
targets or for those with a certain beginning. Of the directives that fit a target the longest
decides; a record that none fits is not shown. Filters are written as a comma list of `level`,
`target` and `target=level`, perhaps with a slash and a text that messages must contain.

* `Filter.parse` reads a filter and gives back a remark for every part that it passes over.
* `Filter.shows` decides about a record, and `Record.line` is the line of a record that is shown.

Out of scope: patterns. The text behind the slash is looked for as it is.
-/

namespace TableScript.Log

/-- Lets through the records up to a rank, for one beginning of targets or for all. -/
structure Directive where
  target : Option String
  rank : Nat
  deriving DecidableEq

/-- Directives with the most specific last, and the text that messages must contain. -/
structure Filter where
  directives : List Directive
  message : String
  deriving DecidableEq

/-- The rank of a level by its name, in any letter case; `off` is below all of them. -/
def rank? (s : String) : Option Nat :=
  let name := s.toUpper
  if name = "OFF" then some 0 else (Level.all.find? fun l => l.name == name).map Level.rank

/-- The rank that lets everything through. -/
def fullRank : Nat := Level.trace.rank

def trimmed (s : String) : String := String.ofList (Text.trim s.toList)

/-- One item of the list, or the part of it that is no directive. -/
def parseDirective (item : String) : Except String Directive :=
  match item.splitOn "=" with
  | [word] =>
    match rank? word with
    | some rank => .ok ⟨none, rank⟩
    | none => .ok ⟨some word, fullRank⟩
  | [target, level] =>
    let level := trimmed level
    if level = "" then .ok ⟨some target, fullRank⟩
    else
      match rank? level with
      | some rank => .ok ⟨some target, rank⟩
      | none => .error level
  | _ => .error item

/-- The directive in place of the one for the same target, or as a new one. -/
def insertDirective (ds : List Directive) (d : Directive) : List Directive :=
  if ds.any fun e => e.target == d.target then
    ds.map fun e => if e.target = d.target then d else e
  else ds ++ [d]

/-- How specific a directive is. -/
def Directive.size (d : Directive) : Nat :=
  match d.target with
  | some target => target.utf8ByteSize
  | none => 0

/-- The filter of these directives; without any, errors are shown. -/
def Filter.ofDirectives (ds : List Directive) (message : String) : Filter :=
  match ds.foldl insertDirective [] with
  | [] => ⟨[⟨none, Level.error.rank⟩], message⟩
  | ds => ⟨ds.mergeSort fun a b => decide (a.size ≤ b.size), message⟩

/-- A complaint about a part of a filter that is passed over, with what is wrong if it needs to be
said. -/
def ignored (part remark : String) : String :=
  "warning: invalid logging spec '" ++ part ++ "'" ++ remark ++ ", ignoring it"

/-- The filter that a text stands for, and complaints about its parts that stand for nothing. -/
def Filter.parse (spec : String) : Filter × List String :=
  match spec.splitOn "/" with
  | list :: rest =>
    match rest with
    | _ :: _ :: _ => (ofDirectives [] "", [ignored spec " (too many '/'s)"])
    | _ =>
      let items := ((list.splitOn ",").map trimmed).filter (· ≠ "")
      let parsed := items.map parseDirective
      (ofDirectives (parsed.filterMap Except.toOption) (rest.headD ""),
        parsed.filterMap fun p => match p with | .error part => some (ignored part "") | .ok _ => none)
  | [] => (ofDirectives [] "", [])

/-- The directive is for records of the origin. -/
def Directive.fits (d : Directive) (o : Origin) : Bool :=
  match d.target with
  | some target => target.toList.isPrefixOf o.target.toList
  | none => true

/-- The text occurs in the other. -/
def occursIn (text : List Char) : List Char → Bool
  | [] => text.isEmpty
  | c :: cs => text.isPrefixOf (c :: cs) || occursIn text cs

/-- The record is shown. -/
def Filter.shows (f : Filter) (r : Record) : Bool :=
  match f.directives.reverse.find? fun d => d.fits r.origin with
  | some d => decide (r.level.rank ≤ d.rank) && occursIn f.message.toList r.message.toList
  | none => false

/-- A record on the error stream; further lines of its message are indented. -/
def Record.line (r : Record) : String :=
  Text.shown <|
    "[" ++ r.level.name ++ "".pushn ' ' (5 - r.level.name.length) ++ " " ++ r.origin.target ++ "] " ++
      "\n    ".intercalate (r.message.splitOn "\n") ++ "\n"

end TableScript.Log
