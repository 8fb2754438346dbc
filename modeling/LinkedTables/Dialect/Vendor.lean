import LinkedTables.Text.Blank
import LinkedTables.Text.LetterCase

/-!
# Vendor families

The family of a remote database, told from the beginning of its address: `Vendor.ofUrl` ignores
blanks, letter case and a leading `jdbc:`.
-/

namespace LinkedTables.Dialect

/-- The families of remote databases that are treated apart. -/
inductive Vendor where
  | mysql
  | postgres
  | oracle
  | sqlServer
  | sqlite
  | generic
deriving DecidableEq, Repr, Inhabited

namespace Vendor

/-- The name of a family. -/
def name : Vendor → String
  | mysql => "mysql"
  | postgres => "postgres"
  | oracle => "oracle"
  | sqlServer => "sqlserver"
  | sqlite => "sqlite"
  | generic => "generic"

/-- All families. -/
def all : List Vendor := [mysql, postgres, oracle, sqlServer, sqlite, generic]

/-- The family with a name. -/
def ofName? (s : String) : Option Vendor := all.find? (·.name == s)

theorem ofName?_name (v : Vendor) : ofName? v.name = some v := by
  cases v <;> rfl

/-- The beginnings of addresses, each with its family; the first that fits decides. -/
def schemes : List (String × Vendor) :=
  [("mysql", mysql), ("mariadb", mysql), ("postgresql", postgres), ("postgres", postgres),
    ("oracle", oracle), ("mssql", sqlServer), ("sqlserver", sqlServer), ("sqlite", sqlite)]

/-- The family of an address. -/
def ofUrl (url : String) : Vendor :=
  let scheme := (Text.lower (Text.strip url)).toList
  let scheme := (Text.afterPrefix? "jdbc:".toList scheme).getD scheme
  ((schemes.find? fun s => (Text.afterPrefix? s.1.toList scheme).isSome).map (·.2)).getD generic

end Vendor

end LinkedTables.Dialect
