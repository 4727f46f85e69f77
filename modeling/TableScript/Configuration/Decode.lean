import TableScript.Configuration
import TableScript.Json.Skip

/-!
# Configuration in JSON

A configuration is read straight from its text, so a fault has a position also where a value is of
the wrong type. An object of the configuration may hold unknown keys, which are passed over, but no
known key twice; an array holds the same parts in order. The dialect is an object with its kind
under `type` anywhere among its settings, or an array that starts with the kind.

* `dialectContent` reads a dialect to its end and keeps its kind and its content; `dialectOf` looks
  the settings up in the content (`Content.settings`), with defaults for those that are not there.
* `configurationMembers` reads an object member by member and keeps what is `Found`;
  `configurationParts` reads an array.
* `parse` reads a configuration and `parseDialect` a dialect on its own. Each wants the whole text.
-/

namespace TableScript.Configuration

open Json

/-! ## Closing brackets after a fault

Where the fault of a value has no place of its own, it is placed where the reader of the enclosing
list or object stopped, and that reader has then already tried to close it. -/

/-- Past the blanks and the bracket that closes an object, if it is there. -/
def closeObject (cs : List Char) : List Char :=
  match skipBlanks cs with
  | '\x7d' :: rest => rest
  | rest => rest

/-- Past the blanks and the bracket that closes a list, if it is there, or else past a comma. -/
def closeList (cs : List Char) : List Char :=
  match skipBlanks cs with
  | ']' :: rest => rest
  | ',' :: rest => skipBlanks rest
  | rest => rest

/-- The end of a list that must not go on. -/
def endList : Reader Unit := fun cs =>
  match skipBlanks cs with
  | [] => faultPast .endInList []
  | ']' :: rest => .ok ((), rest)
  | ',' :: rest =>
    match skipBlanks rest with
    | [] => faultPast .endInList []
    | ']' :: rest => faultPast .trailingComma (']' :: rest)
    | rest => faultPast .trailingCharacters rest
  | rest => faultPast .trailingCharacters rest

/-- A value of the wrong type. A scalar is read to its end first; a list or an object is refused at
its bracket. -/
def wrongType {α : Type} (wanted : String) (cs : List Char) : Except Fault α :=
  match skipBlanks cs with
  | '[' :: rest => faultBefore (.wrongType .sequence wanted) ('[' :: rest)
  | '\x7b' :: rest => faultBefore (.wrongType .map wanted) ('\x7b' :: rest)
  | cs => do
    let (v, rest) ← scalar cs
    faultBefore (.wrongType v.found wanted) rest

/-- A string where `wanted` says what it is for. -/
def wantedString (wanted : String) : Reader String := fun cs =>
  match skipBlanks cs with
  | '"' :: rest => string rest
  | _ => wrongType wanted cs

/-! ## Dialects -/

/-- The settings of a dialect that is known only by its kind so far. -/
inductive Content where
  | members (ms : List (String × Value))
  | parts (vs : List Value)

def settingText : Value → Except Reason String
  | .string s => .ok s
  | v => .error (.wrongType v.found "a string")

/-- The settings among members, by name. A known one must not be there twice. -/
def memberSettings (known : List String) :
    List (String × String) → List (String × Value) → Except Reason (List (String × String))
  | found, [] => .ok found
  | found, (key, v) :: rest =>
    if key ∈ known then
      if (found.lookup key).isSome then .error (.duplicateField key)
      else do memberSettings known (found ++ [(key, ← settingText v)]) rest
    else memberSettings known found rest

/-- How many elements a list was to have. -/
def elementCount (n : Nat) : String :=
  n.repr ++ (if n = 1 then " element in sequence" else " elements in sequence")

/-- The settings in a list, in the order of their names. -/
def partSettings (known : List String) (vs : List Value) :
    Except Reason (List (String × String)) := do
  let texts ← (vs.take known.length).mapM settingText
  if known.length < vs.length then .error (.wrongLength vs.length (elementCount known.length))
  else .ok (known.zip texts)

def Content.settings (known : List String) : Content → Except Reason (List (String × String))
  | .members ms => memberSettings known [] ms
  | .parts vs => partSettings known vs

/-- The dialect of that kind with these settings. Settings that are not given are the defaults. -/
def dialectOf (kind : DialectKind) (content : Content) : Except Reason DialectSettings :=
  match kind with
  | .mysql => do
    let found ← content.settings ["charset", "collation"]
    return .mysql ((found.lookup "charset").getD DialectSettings.defaultCharset)
      ((found.lookup "collation").getD DialectSettings.defaultCollation)
  | .postgres => do
    let found ← content.settings ["encoding"]
    return .postgres ((found.lookup "encoding").getD DialectSettings.defaultEncoding)
  | .sqlite => do
    let _ ← content.settings []
    return .sqlite

/-- The kind of a dialect, by name. -/
def dialectKind : Reader DialectKind := fun cs => do
  let (name, rest) ← wantedString "variant identifier" cs
  match DialectKind.ofName? name with
  | some kind => .ok (kind, rest)
  | none => faultBefore (.unknownVariant name (DialectKind.all.map (·.name))) rest

/-- How deep the values inside a dialect may be nested, inside `depth` open brackets. -/
def depthInside (depth : Nat) : Nat := depthLimit - depth

/-- The members of a dialect: its kind, and the other members in order. -/
def dialectMembers (depth : Nat) :
    Nat → Bool → Option DialectKind → List (String × Value) → Reader (DialectKind × Content)
  | 0, _, _, _, cs => faultPast .endInObject cs
  | fuel + 1, first, kind?, found, cs => do
    match ← nextMember first cs with
    | .finished rest =>
      match kind? with
      | some kind => .ok ((kind, .members found), rest)
      | none => faultBefore (.missingField "type") rest
    | .item rest =>
      let (key, rest) ← string rest
      if key = "type" then
        if kind?.isSome then faultBefore (.duplicateField "type") (closeObject rest)
        else
          let ((), rest) ← colon rest
          let (kind, rest) ← dialectKind rest
          dialectMembers depth fuel false (some kind) found rest
      else
        let ((), rest) ← colon rest
        let (v, rest) ← value (depthInside depth) rest
        dialectMembers depth fuel false kind? (found ++ [(key, v)]) rest

/-- The parts of a dialect: its kind first. -/
def dialectParts (depth : Nat) : Reader (DialectKind × Content) := fun cs => do
  match ← nextElement true cs with
  | .finished rest => faultBefore (.missingField "type") rest
  | .item rest =>
    let (kind, rest) ← dialectKind rest
    let (vs, rest) ← elements (value (depthInside depth)) (rest.length + 1) false rest
    .ok ((kind, .parts vs), rest)

/-- A dialect inside `depth - 1` open brackets, as far as its text tells. -/
def dialectContent (depth : Nat) : Reader (DialectKind × Content) := fun cs =>
  match skipBlanks cs with
  | '[' :: rest => dialectParts depth rest
  | '\x7b' :: rest => dialectMembers depth (rest.length + 1) true none [] rest
  | [] => faultPast .endInValue []
  | cs => wrongType "internally tagged enum DialectConfigFile" cs

/-! ## Configurations -/

/-- A dialect among the parts of a configuration; a fault of its settings is placed where the reader
of the configuration stops. -/
def dialectInside (close : List Char → List Char) : Reader DialectSettings := fun cs => do
  let ((kind, content), rest) ← dialectContent 2 cs
  match dialectOf kind content with
  | .ok d => .ok (d, rest)
  | .error reason => faultBefore reason (close rest)

/-- The name of the database, or null. -/
def databaseName : Reader (Option String) := fun cs =>
  match skipBlanks cs with
  | 'n' :: rest => do
    let ((), rest) ← word ['u', 'l', 'l'] rest
    .ok (none, rest)
  | [] => faultPast .endInValue []
  | cs => do
    let (name, rest) ← wantedString "a string" cs
    .ok (some name, rest)

/-- The parts of a configuration that are read so far. -/
structure Found where
  dialect? : Option DialectSettings
  database? : Option (Option String)

def Found.nothing : Found := ⟨none, none⟩

def Found.configuration (f : Found) : Configuration := ⟨f.dialect?.getD default, f.database?.join⟩

/-- The members of a configuration. -/
def configurationMembers : Nat → Bool → Found → Reader Configuration
  | 0, _, _, cs => faultPast .endInObject cs
  | fuel + 1, first, found, cs => do
    match ← nextMember first cs with
    | .finished rest => .ok (found.configuration, rest)
    | .item rest =>
      let (key, rest) ← string rest
      if key = "dialect" then
        if found.dialect?.isSome then faultBefore (.duplicateField key) (closeObject rest)
        else
          let ((), rest) ← colon rest
          let (d, rest) ← dialectInside closeObject rest
          configurationMembers fuel false { found with dialect? := some d } rest
      else if key = "database" then
        if found.database?.isSome then faultBefore (.duplicateField key) (closeObject rest)
        else
          let ((), rest) ← colon rest
          let (name, rest) ← databaseName rest
          configurationMembers fuel false { found with database? := some name } rest
      else
        let ((), rest) ← colon rest
        configurationMembers fuel false found (← skipValue rest)

/-- The parts of a configuration: the dialect, then the name of the database. -/
def configurationParts : Reader Configuration := fun cs => do
  match ← nextElement true cs with
  | .finished rest => .ok (Found.nothing.configuration, rest)
  | .item rest =>
    let (d, rest) ← dialectInside closeList rest
    match ← nextElement false rest with
    | .finished rest => .ok (⟨d, none⟩, rest)
    | .item rest =>
      let (name, rest) ← databaseName rest
      let ((), rest) ← endList rest
      .ok (⟨d, name⟩, rest)

def configuration : Reader Configuration := fun cs =>
  match skipBlanks cs with
  | '[' :: rest => configurationParts rest
  | '\x7b' :: rest => configurationMembers (rest.length + 1) true Found.nothing rest
  | [] => faultPast .endInValue []
  | cs => wrongType "struct ConfigFile" cs

/-- The configuration that a whole text holds. -/
def parse (text : String) : Except Json.Error Configuration :=
  let outcome : Except Fault Configuration := do
    let (c, rest) ← configuration text.toList
    finish c rest
  outcome.mapError (Fault.locate text.toList)

/-- The dialect that a whole text holds. A fault of its settings has no position, as they are looked
at after the text. -/
def parseDialect (text : String) : Except Json.Error DialectSettings := do
  let ((kind, content), rest) ← (dialectContent 1 text.toList).mapError (Fault.locate text.toList)
  let d ← (dialectOf kind content).mapError fun reason => ⟨reason, none⟩
  (finish d rest).mapError (Fault.locate text.toList)

end TableScript.Configuration
