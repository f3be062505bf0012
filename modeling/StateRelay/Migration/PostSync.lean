import StateRelay.Migration.Changeset

/-!
The changesets for a schema whose first synchronisation is complete: tables of statistics, behind a
gate of their own.
-/

namespace StateRelay.Migration.PostSync

/-- The gate of the statistics. -/
def explorerStatistics : String := "explorer_statistics"

/-- A statement of several lines, all but the first indented. -/
def lines (first : String) (rest : List (Nat × String)) : String :=
  rest.foldl (fun text (indent, line) => text ++ "\n" ++ "".pushn ' ' indent ++ line) first

def firstTransactions : Changeset where
  version := 20230713000002
  name := "create_public_key_first_transaction"
  gate := some explorerStatistics
  up :=
    [lines "CREATE TABLE IF NOT EXISTS public_key_first_transaction ("
        [(20, "public_key VARCHAR PRIMARY KEY,"), (20, "timestamp  TIMESTAMP,"),
          (20, "height     BIGINT"), (16, ")")],
      lines "CREATE INDEX IF NOT EXISTS idx_public_key_first_transaction_timestamp"
        [(17, "ON public_key_first_transaction (timestamp DESC)")],
      lines "CREATE INDEX IF NOT EXISTS idx_public_key_first_transaction_height"
        [(17, "ON public_key_first_transaction (height DESC)")]]
  down := ["DROP TABLE IF EXISTS public_key_first_transaction"]

def currentHeight : Changeset where
  version := 20230713000003
  name := "create_statistic_block_height_current"
  gate := some explorerStatistics
  up :=
    [lines "CREATE TABLE IF NOT EXISTS statistic_block_height_current ("
      [(20, "id         INTEGER PRIMARY KEY DEFAULT 1,"), (20, "height     BIGINT NOT NULL,"),
        (20, "updated_at TIMESTAMPTZ NOT NULL DEFAULT now()"), (16, ")")]]
  down := ["DROP TABLE IF EXISTS statistic_block_height_current"]

/-- The set of them. -/
def set : Except Error MigrationSet :=
  [firstTransactions, currentHeight].foldlM MigrationSet.register {}

end StateRelay.Migration.PostSync
