import StateRelay.CommandLine.Words

/-!
The options of a migration.
-/

namespace StateRelay.CommandLine

structure MigrateOptions where
  databaseUrl : String
  explorerStatistics : Bool := false
  logQueries : Bool := false
  /-- How many changesets are reverted; `none` to apply. -/
  down : Option Nat := none
  deriving DecidableEq, Repr

namespace MigrateOptions

def opts : List Opt :=
  [⟨"database-url", .text, some "DATABASE_URL", true, "Postgres connection URL", none⟩,
    ⟨"explorer-statistics", .flag, some "CALCULATE_EXPLORER_STATISTICS", false,
      "Enable the explorer statistics changesets", none⟩,
    ⟨"log-queries", .flag, some "LOG_QUERIES", false, "Log every SQL statement at info", none⟩,
    ⟨"down", .number (UInt64.size - 1), none, false,
      "Revert this many changesets instead of applying", none⟩]

def ofSettings (s : Settings) : MigrateOptions where
  databaseUrl := (s.text? "database-url").getD ""
  explorerStatistics := s.flag "explorer-statistics"
  logQueries := s.flag "log-queries"
  down := s.number? "down"

/-- The options that words and environment give. -/
def parse (env : Environment) (words : List String) : Except Refusal MigrateOptions :=
  (CommandLine.parse env (opts ++ [help]) words).map ofSettings

end MigrateOptions

end StateRelay.CommandLine
