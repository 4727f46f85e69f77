import TableScript.Error
import TableScript.Identifier

/-!
# SQL dialects

A `Flavor` is what a dialect may decide for itself: its name, its column types, its quote character
and its database statements, with the settings that these are made of. A `Dialect` is one of the
three that the program knows, with its settings; `Dialect.flavor` says what each decides.

* `Flavor.quoteName` and `Flavor.quoteNames` put names in the quotes of the dialect.
* `Flavor.physicalType` is the column type for a logical type, the first that the table gives. A
  type table may have gaps; those of the three dialects have none.
* `Flavor.checkSettings` refuses the first setting that is not plain.
* `Dialect.ofKind` is the dialect of a kind with its default settings.
-/

namespace TableScript

/-- Logical types and the column types for them; the first entry for a type counts. -/
abbrev TypeTable := List (FieldType × String)

structure Flavor where
  name : String
  types : TypeTable
  quote : Char := '\x60'
  /-- Names and values of the settings that stand in statements as they are, in the order in which
  they are checked. -/
  settings : List (String × String) := []
  createDatabase? : String → Option String := fun _ => none
  dropDatabase? : String → Option String := fun _ => none

namespace Flavor

def quoteName (f : Flavor) (name : String) : String := Identifier.quoted f.quote name

def quoteNames (f : Flavor) (names : List String) : String := Identifier.quotedList f.quote names

/-- The column type for a logical type. -/
def physicalType (f : Flavor) (type : FieldType) : Except Error String :=
  match f.types.lookup type with
  | some physical => .ok physical
  | none => .error (.unknownFieldType type.name)

/-- The first setting that is no plain name. -/
def unplainSetting? (f : Flavor) : Option (String × String) :=
  f.settings.find? fun s => !Identifier.isPlain s.2

/-- Every setting is a plain name. -/
def checkSettings (f : Flavor) : Except Error Unit :=
  match f.unplainSetting? with
  | none => .ok ()
  | some s => .error (.invalidSetting s.1 s.2)

end Flavor

inductive Dialect where
  | mysql (charset collation : String)
  | postgres (encoding : String)
  | sqlite
  deriving DecidableEq

/-- The dialects without their settings. -/
inductive DialectKind where
  | mysql
  | postgres
  | sqlite
  deriving DecidableEq

namespace DialectKind

def all : List DialectKind := [.mysql, .postgres, .sqlite]

def name : DialectKind → String
  | .mysql => "mysql"
  | .postgres => "postgres"
  | .sqlite => "sqlite"

def ofName? (s : String) : Option DialectKind := all.find? fun k => k.name == s

end DialectKind

namespace Dialect

def mysqlTypes : TypeTable := [
  (.uuid, "VARCHAR(36)"),
  (.boolean, "TINYINT(1)"),
  (.dateTime, "DATETIME"),
  (.integer, "INTEGER(11)"),
  (.float, "DOUBLE"),
  (.string, "VARCHAR(255)"),
  (.text, "TEXT"),
  (.longText, "LONGTEXT")]

def postgresTypes : TypeTable := [
  (.uuid, "UUID"),
  (.boolean, "BOOLEAN"),
  (.dateTime, "TIMESTAMP"),
  (.integer, "INTEGER"),
  (.float, "DOUBLE PRECISION"),
  (.string, "VARCHAR(255)"),
  (.text, "TEXT"),
  (.longText, "TEXT")]

/-- SQLite goes by affinity, so most types become text or integers. -/
def sqliteTypes : TypeTable := [
  (.uuid, "TEXT"),
  (.boolean, "INTEGER"),
  (.dateTime, "TEXT"),
  (.integer, "INTEGER"),
  (.float, "REAL"),
  (.string, "TEXT"),
  (.text, "TEXT"),
  (.longText, "TEXT")]

def dropStatement (database : String) : String := "DROP DATABASE IF EXISTS " ++ database

/-- What each dialect decides. PostgreSQL cannot create a database only where there is none, and a
SQLite database is a file, which no statement creates or drops. -/
def flavor : Dialect → Flavor
  | mysql charset collation =>
    { name := "mysql"
      types := mysqlTypes
      settings := [("charset", charset), ("collation", collation)]
      createDatabase? := fun database =>
        some ("CREATE DATABASE IF NOT EXISTS " ++ database ++ " CHARACTER SET " ++ charset ++
          " COLLATE " ++ collation)
      dropDatabase? := fun database => some (dropStatement database) }
  | postgres encoding =>
    { name := "postgres"
      types := postgresTypes
      quote := '"'
      settings := [("encoding", encoding)]
      createDatabase? := fun database =>
        some ("CREATE DATABASE " ++ database ++ " ENCODING '" ++ encoding ++ "'")
      dropDatabase? := fun database => some (dropStatement database) }
  | sqlite => { name := "sqlite", types := sqliteTypes, quote := '"' }

def name (d : Dialect) : String := d.flavor.name

def kind : Dialect → DialectKind
  | mysql _ _ => .mysql
  | postgres _ => .postgres
  | sqlite => .sqlite

/-! ## Settings that go without saying -/

def defaultCharset : String := "utf8mb4"

def defaultCollation : String := "utf8mb4_unicode_ci"

def defaultEncoding : String := "UTF8"

/-- The dialect of a kind with default settings. -/
def ofKind : DialectKind → Dialect
  | .mysql => mysql defaultCharset defaultCollation
  | .postgres => postgres defaultEncoding
  | .sqlite => sqlite

instance : Inhabited Dialect := ⟨ofKind .mysql⟩

end Dialect

end TableScript
