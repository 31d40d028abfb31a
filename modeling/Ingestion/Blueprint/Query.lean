import Ingestion.Blueprint.Basic

/-!
# Queries

A query picks blueprints by whether they are enabled, by a label, and by the way they are
scheduled, and may ask for one page of them. `Query.selects` is the predicate; `limit?` and
`offset` are the page.
-/

namespace Ingestion

/-- The ways of scheduling that a query can ask for. -/
inductive Category where
  | all
  /-- Run by hand. -/
  | manual
  /-- At midnight of every day. -/
  | daily
  /-- At midnight of every Monday. -/
  | weekly
  /-- At midnight of the first day of every month. -/
  | monthly
  /-- At any other times. -/
  | custom
deriving DecidableEq, Repr, Inhabited

namespace Category

/-- The name of a category. -/
def name : Category → String
  | all => "ALL"
  | manual => "MANUAL"
  | daily => "DAILY"
  | weekly => "WEEKLY"
  | monthly => "MONTHLY"
  | custom => "CUSTOM"

/-- The category of a name, as it is written. -/
def ofName? : String → Option Category
  | "ALL" => some all
  | "MANUAL" => some manual
  | "DAILY" => some daily
  | "WEEKLY" => some weekly
  | "MONTHLY" => some monthly
  | "CUSTOM" => some custom
  | _ => none

/-- The cron expression of the category of daily blueprints. -/
def dailyCron : String := "0 0 * * *"

/-- The cron expression of the category of weekly blueprints. -/
def weeklyCron : String := "0 0 * * 1"

/-- The cron expression of the category of monthly blueprints. -/
def monthlyCron : String := "0 0 1 * *"

/-- The cron expression of a category that has one. -/
def cron? : Category → Option String
  | daily => some dailyCron
  | weekly => some weeklyCron
  | monthly => some monthlyCron
  | _ => none

/-- Whether a blueprint belongs to a category. -/
def includes (c : Category) (b : Blueprint) : Bool :=
  match c with
  | all => true
  | manual => b.isManual
  | daily | weekly | monthly => !b.isManual && some b.cronConfig == c.cron?
  | custom =>
    !b.isManual && !([dailyCron, weeklyCron, monthlyCron].contains b.cronConfig)

end Category

/-- Which blueprints to list. -/
structure Query where
  enable : Option Bool := none
  isManual : Option Bool := none
  label : Option String := none
  /-- Counts only if `isManual` is absent. -/
  category : Category := .all
  page : Option UInt32 := none
  pageSize : Option UInt32 := none
deriving DecidableEq, Inhabited

namespace Query

/-- The page size of a query that gives only the page. -/
def defaultPageSize : Nat := 50

/-- The largest page size. -/
def maxPageSize : Nat := 500

/-- The query for every blueprint that is to run by its cron expression. -/
def schedulable : Query :=
  { enable := some true, isManual := some false }

/-- The size of a page. There are no pages if the query gives neither page nor size. -/
def limit? (q : Query) : Option Nat :=
  match q.page, q.pageSize with
  | none, none => none
  | _, size => some (min (max ((size.map UInt32.toNat).getD defaultPageSize) 1) maxPageSize)

/-- The number of blueprints before the page. Pages are counted from 1, and 0 is taken as 1. -/
def offset (q : Query) : Nat :=
  match q.limit? with
  | some limit => (max ((q.page.map UInt32.toNat).getD 1) 1 - 1) * limit
  | none => 0

/-- Whether a blueprint passes every filter of the query. -/
def selects (q : Query) (b : Blueprint) : Bool :=
  q.enable.all (b.enable == ·)
    && q.label.all b.labels.contains
    && match q.isManual with
      | some isManual => b.isManual == isManual
      | none => q.category.includes b

end Query

/-- A page of blueprints, with the number of those on all pages. -/
structure Listing where
  blueprints : List Blueprint
  count : Int64
deriving Inhabited

end Ingestion
