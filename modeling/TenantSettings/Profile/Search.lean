import TenantSettings.Reader.Basic

/-!
# Profiles of those who look for users

The helpdesk, and the search for people, which can also be open to the public.
-/

namespace TenantSettings

/-- What the helpdesk may do. -/
structure Helpdesk where
  id : String
  appliesTo : List Permission
  searchForm : List FormField
  actions : List Action
deriving DecidableEq, Repr

/-- The helpdesk profile of a reader. -/
def Helpdesk.read (r : Reader) : Read Helpdesk := do
  return {
    id := r.profileId
    appliesTo := ← r.permissions Schema.helpdeskQueryMatch
    searchForm := ← r.form Schema.helpdeskSearchForm
    actions := ← r.actions Schema.helpdeskActions }

/-- How people are searched for. -/
structure PeopleSearch where
  id : String
  isPublic : Bool
  appliesTo : List Permission
  searchForm : List FormField
  resultForm : List FormField
  limit : Nat
deriving DecidableEq, Repr

/-- The people search profile of a reader. A public search is not tied to a user, so it applies to
nobody in particular. -/
def PeopleSearch.read (isPublic : Bool) (r : Reader) : Read PeopleSearch := do
  let limit ← r.number Schema.peopleSearchLimit
  return {
    id := r.profileId
    isPublic
    appliesTo := ← if isPublic then pure [] else r.permissions Schema.peopleSearchQueryMatch
    searchForm := ← r.form Schema.peopleSearchForm
    resultForm := ← r.form Schema.peopleSearchResultForm
    limit := limit.toNat }

end TenantSettings
