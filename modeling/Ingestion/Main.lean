import Ingestion.Config

/-!
# The command line

Reads the settings off the command line and the environment, checks them, and tells with which
ones the service is started.
-/

namespace Ingestion

/-- The text of a fault of a command line. -/
def CommandLineFault.message : CommandLineFault → String
  | unknownArgument => "unexpected argument"
  | valueValidation => "invalid value for an option"
  | invalidValue => "a value is required for an option"
  | tooManyValues => "unexpected value for an option"
  | argumentConflict => "an option cannot be used multiple times"
  | displayHelp => "Usage: [--database-url <URL>] [--bind-addr <ADDRESS>] "
      ++ "[--in-memory] [--max-connections <NUMBER>]"

/-- Where a service with the given settings keeps its records. -/
def Settings.storeText (s : Settings) : String :=
  if s.inMemory then "in memory"
  else s.databaseUrl ++ " (at most " ++ toString s.maxConnections ++ " connections)"

/-- The variables of the environment that settings fall back on. -/
def readEnvironment : IO (List (String × String)) :=
  ValueOption.all.filterMapM fun o => do
    return (← IO.getEnv o.fallback).map (o.fallback, ·)

end Ingestion

open Ingestion in
/-- Reads the settings and tells what is wrong with them, or what they are. -/
def main (args : List String) : IO UInt32 := do
  let environment ← readEnvironment
  match Settings.read args (List.lookup · environment) with
  | .error .displayHelp =>
    IO.println CommandLineFault.displayHelp.message
    return 0
  | .error fault =>
    IO.eprintln ("error: " ++ fault.message)
    return 2
  | .ok s =>
    match s.fault? with
    | some complaint =>
      IO.eprintln ("Error: Invalid configuration: " ++ complaint)
      return 1
    | none =>
      IO.println ("address: " ++ s.bindAddress)
      IO.println ("records: " ++ s.storeText)
      return 0
