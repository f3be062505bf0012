import StateRelay.Command.Run
import StateRelay.CommandLine.MigrateOptions
import StateRelay.Database.PasswordFile
import StateRelay.Migration.PostSync

/-!
The command that brings the schema of a database forward or back. It gets as far as the connection.
-/

namespace StateRelay.Command.Migrate

open CommandLine (MigrateOptions)

def starting (o : MigrateOptions) (changesets : Nat) : Log.Event where
  level := .info
  target := "chainsink::cmd_migrate"
  message := "running migrations"
  fields :=
    [("changesets", .number changesets), ("explorer_statistics", .flag o.explorerStatistics),
      ("log_queries", .flag o.logQueries)]

def fail (what : String) (e : Migration.Error) : Failure :=
  .context what e.message e.causes

def run (o : MigrateOptions) (env : Environment := []) : Action System Failure String := do
  let set ← (Action.ofExcept Migration.PostSync.set).mapError (fail "registering changesets")
  Action.report (starting o set.length)
  let options ← (Database.connectOptions o.databaseUrl env).mapError (fail "parsing DATABASE_URL")
  System.onFiles (Database.PasswordFile.search env options)
  let connection ←
    (System.onFiles (Database.connect options)).mapError (fail "connecting to Postgres")
  nomatch connection

end StateRelay.Command.Migrate
