import SpatialSql.Call.Render

/-!
# Database back ends

A back end is a database that calls are sent to. It fixes the platform that
calls are written for. A call becomes part of a statement as a literal piece of
SQL: what is written for the call is the whole of it.
-/

namespace SpatialSql

/-- A database that understands spatial SQL, by the platform that calls are
written for. Three are known by name, and any other may be added. -/
structure Backend where
  platform : String
  deriving DecidableEq

/-- A piece of SQL that stands in a statement as it is, wherever an expression
may stand. -/
structure SqlLiteral where
  sql : String
  deriving DecidableEq

namespace Backend

def postgresql : Backend :=
  ⟨"postgresql"⟩

def mysql : Backend :=
  ⟨"mysql"⟩

def sqlite : Backend :=
  ⟨"sqlite"⟩

variable {ρ E : Type}

/-- Writes a call for the database. -/
def renderFor (backend : Backend) (call : Call E)
    (argument : E → Action ρ String) : Action ρ String :=
  call.render backend.platform argument

/-- Writes a call for the database, as a literal for its statements. -/
def sqlLiteral (backend : Backend) (call : Call E)
    (argument : E → Action ρ String) : Action ρ SqlLiteral :=
  SqlLiteral.mk <$> backend.renderFor call argument

/-- The SQL of the literal is what is written for the database. -/
theorem sql_sqlLiteral (backend : Backend) (call : Call E)
    (argument : E → Action ρ String) :
    SqlLiteral.sql <$> backend.sqlLiteral call argument =
      backend.renderFor call argument := by
  rw [sqlLiteral, Functor.map_map]
  exact id_map (backend.renderFor call argument)

end Backend

end SpatialSql
