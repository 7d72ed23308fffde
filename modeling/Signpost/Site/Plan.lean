import Signpost.Body.Layout
import Signpost.Conversion

/-!
# Plans

The named choices of the site: how often a subscription is billed, whom it is for, and how long a gift
lasts. Each has one name, in paths, in queries and in bodies.
-/

namespace Signpost.Site

/-- How often a subscription is billed. -/
inductive Billing where
  | monthly
  | yearly
deriving DecidableEq

namespace Billing

def all : List Billing := [monthly, yearly]

def name : Billing → String
  | monthly => "monthly"
  | yearly => "yearly"

/-- The name of a billing interval, as text. -/
def conversion : Conversion String Billing := .enumeration (all.map fun b => (b.name, b))

def layout : Layout Billing := .choice name conversion.apply

end Billing

/-- Whom a subscription is for. -/
inductive Lane where
  | personal
  | team
deriving DecidableEq

namespace Lane

def all : List Lane := [personal, team]

def name : Lane → String
  | personal => "personal"
  | team => "team"

/-- The name of a lane, as text. -/
def conversion : Conversion String Lane := .enumeration (all.map fun l => (l.name, l))

end Lane

/-- How long a gift lasts. -/
inductive GiftPlan where
  | threeMonths
  | sixMonths
  | year
deriving DecidableEq

namespace GiftPlan

def all : List GiftPlan := [threeMonths, sixMonths, year]

def name : GiftPlan → String
  | threeMonths => "threeMonths"
  | sixMonths => "sixMonths"
  | year => "year"

def months : GiftPlan → Nat
  | threeMonths => 3
  | sixMonths => 6
  | year => 12

/-- The name of a plan, as text. -/
def conversion : Conversion String GiftPlan := .enumeration (all.map fun p => (p.name, p))

def layout : Layout GiftPlan := .choice name conversion.apply

end GiftPlan

end Signpost.Site
