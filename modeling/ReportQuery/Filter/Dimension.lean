/-
# Dimensions of a report

The dimensions by which a report can be filtered, and where a restriction of
each of them takes hold in a query: at a column, or through the table that links
administrative entities to locations.  The other dimensions have no place in a
query.

The order of the dimensions is that of `Dimension.all`.  Filters list their
restrictions, and queries their predicates, in this order.
-/

namespace ReportQuery

/-- What a report can be filtered by. -/
inductive Dimension where
  | activity
  | activityCategory
  | adminLevel
  | attribute
  | attributeGroup
  | database
  | date
  | indicator
  | indicatorCategory
  | location
  | orgUnit
  | partner
  | project
  | site
  | target
deriving DecidableEq, Repr

/-- Where a restriction takes hold. -/
inductive Target where
  /-- The identifiers are matched with a column. -/
  | column (name : String)
  /-- The identifiers are administrative entities, linked to the site's location. -/
  | adminEntity
deriving DecidableEq, Repr

namespace Dimension

/-- Every dimension, in order. -/
def all : List Dimension :=
  [.activity, .activityCategory, .adminLevel, .attribute, .attributeGroup, .database, .date,
    .indicator, .indicatorCategory, .location, .orgUnit, .partner, .project, .site, .target]

@[simp] theorem mem_all (d : Dimension) : d ∈ all := by cases d <;> decide

theorem nodup_all : all.Nodup := by decide

/-- The name of a dimension. -/
def name : Dimension → String
  | .activity => "Activity"
  | .activityCategory => "ActivityCategory"
  | .adminLevel => "AdminLevel"
  | .attribute => "Attribute"
  | .attributeGroup => "AttributeGroup"
  | .database => "Database"
  | .date => "Date"
  | .indicator => "Indicator"
  | .indicatorCategory => "IndicatorCategory"
  | .location => "Location"
  | .orgUnit => "OrgUnit"
  | .partner => "Partner"
  | .project => "Project"
  | .site => "Site"
  | .target => "Target"

/-- The dimension of this name. -/
def ofName? (s : String) : Option Dimension := all.find? fun d => d.name == s

/-- Where a restriction of a dimension takes hold, if it does. -/
def target? : Dimension → Option Target
  | .activity => some (.column "Site.ActivityId")
  | .database => some (.column "Site.DatabaseId")
  | .partner => some (.column "Site.PartnerId")
  | .site => some (.column "Site.SiteId")
  | .indicator => some (.column "Indicator.IndicatorId")
  | .adminLevel => some .adminEntity
  | _ => none

end Dimension

end ReportQuery
