import TableScript.Dialect
import TableScript.Json.Printer

/-!
# Configuration

What a user may set once and for all: the dialect with its settings, and the name of the database.

* `DialectSettings` is a dialect as a configuration gives it. It has default settings of its own for
  those that are left out; `DialectSettings.toDialect` makes it the dialect that writes statements.
* `Configuration.text` and `DialectSettings.text` are JSON texts with every key written out.
* `Configuration.resolveDialect` picks the dialect between a configuration and what is asked for.

Results:
* `DialectSettings.kind_toDialect`, `DialectSettings.settings_toDialect`: making a dialect keeps the
  kind and all settings.
* `DialectSettings.toDialect_ofKind`: the defaults of a configuration are those of the dialects.
-/

namespace TableScript

/-- A dialect and its settings, as a configuration gives them. -/
inductive DialectSettings where
  | mysql (charset collation : String)
  | postgres (encoding : String)
  | sqlite
  deriving DecidableEq

namespace DialectSettings

def defaultCharset : String := "utf8mb4"

def defaultCollation : String := "utf8mb4_unicode_ci"

def defaultEncoding : String := "UTF8"

instance : Inhabited DialectSettings := ⟨mysql defaultCharset defaultCollation⟩

def kind : DialectSettings → DialectKind
  | mysql _ _ => .mysql
  | postgres _ => .postgres
  | sqlite => .sqlite

/-- Names and values of the settings, in order. -/
def settings : DialectSettings → List (String × String)
  | mysql charset collation => [("charset", charset), ("collation", collation)]
  | postgres encoding => [("encoding", encoding)]
  | sqlite => []

/-- The dialect with these settings. -/
def toDialect : DialectSettings → Dialect
  | mysql charset collation => .mysql charset collation
  | postgres encoding => .postgres encoding
  | sqlite => .sqlite

/-- The settings may stand in statements. -/
def check (d : DialectSettings) : Except Error Unit := d.toDialect.flavor.checkSettings

/-- The dialect of a kind where no setting is given. -/
def ofKind : DialectKind → DialectSettings
  | .mysql => mysql defaultCharset defaultCollation
  | .postgres => postgres defaultEncoding
  | .sqlite => sqlite

@[simp] theorem kind_toDialect (d : DialectSettings) : d.toDialect.kind = d.kind := by
  cases d <;> rfl

@[simp] theorem settings_toDialect (d : DialectSettings) :
    d.toDialect.flavor.settings = d.settings := by
  cases d <;> rfl

@[simp] theorem toDialect_ofKind (kind : DialectKind) :
    (ofKind kind).toDialect = Dialect.ofKind kind := by
  cases kind <;> rfl

/-- The dialect as an object: its kind under `type`, then its settings. -/
def toJson : DialectSettings → Json.Value
  | mysql charset collation =>
    .object [("type", .string "mysql"), ("charset", .string charset),
      ("collation", .string collation)]
  | postgres encoding => .object [("type", .string "postgres"), ("encoding", .string encoding)]
  | sqlite => .object [("type", .string "sqlite")]

def text (d : DialectSettings) : String := String.ofList (Json.compact d.toJson)

end DialectSettings

structure Configuration where
  dialect : DialectSettings := default
  database : Option String := none
  deriving DecidableEq

namespace Configuration

def toJson (c : Configuration) : Json.Value :=
  .object [("dialect", c.dialect.toJson),
    ("database", match c.database with | some name => .string name | none => .null)]

def text (c : Configuration) : String := String.ofList (Json.compact c.toJson)

/-- The dialect to use: the one that is asked for, else the configured one, else the default. A
dialect that is asked for keeps the configured settings if it is of the configured kind. -/
def resolveDialect (c? : Option Configuration) (asked : Option DialectKind) : Dialect :=
  match c?, asked with
  | some c, some kind =>
    if c.dialect.kind = kind then c.dialect.toDialect else Dialect.ofKind kind
  | none, some kind => Dialect.ofKind kind
  | some c, none => c.dialect.toDialect
  | none, none => default

end Configuration

end TableScript
