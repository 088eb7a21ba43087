import Admission.Schema.Basic

/-!
# Offices

The commands of the resource office. A create and an update command have the same fields, but for the company's status,
which is a text when an office is created and a date when it is updated.
-/

namespace Admission

namespace Schema

/-- The longest text of an office. -/
def officeMaxLength : Int := 100

/-- The rules of a text that an office has to have. -/
def textRules : List Rule := [.notBlank, .maxLength officeMaxLength]

/-- The rules of an integer that an office has to have. -/
def positiveRules : List Rule := [.notNull, .positive]

/-- The members that a command of an office may have. -/
def officeMembers : List Text :=
  ["name", "parentId", "openingDate", "externalId", "locale", "dateFormat", "cin", "companyName", "companyStatus", "roc",
    "funds", "incorporatedDate", "registrationAddress", "registrationNumber"]

/-- The fields of an office when it is created. -/
def officeCreateFields : List Field :=
  [{ name := "name", kind := .string, requiredOnCreate := true, rules := textRules },
    { name := "openingDate", kind := .date, requiredOnCreate := true, rules := [.notNull] },
    { name := "externalId", kind := .string, requiredOnCreate := false, rules := [.maxLength officeMaxLength] },
    { name := "parentId", kind := .integer, requiredOnCreate := false, rules := positiveRules },
    { name := "cin", kind := .string, requiredOnCreate := true, rules := textRules },
    { name := "roc", kind := .string, requiredOnCreate := true, rules := textRules },
    { name := "incorporatedDate", kind := .date, requiredOnCreate := true, rules := [.notNull] },
    { name := "companyName", kind := .string, requiredOnCreate := true, rules := textRules },
    { name := "companyStatus", kind := .string, requiredOnCreate := true, rules := textRules },
    { name := "registrationAddress", kind := .string, requiredOnCreate := true, rules := textRules },
    { name := "funds", kind := .integer, requiredOnCreate := true, rules := positiveRules },
    { name := "registrationNumber", kind := .integer, requiredOnCreate := true, rules := positiveRules }]

/-- The fields of an office when it is updated: the company's status is the day on which it changed. -/
def officeUpdateFields : List Field :=
  officeCreateFields.map fun f =>
    if f.name = Text.ofString "companyStatus" then { f with kind := .date, rules := [.notNull] } else f

/-- The commands of an office. -/
def office : Schema :=
  { resource := "office"
    supported := officeMembers
    createFields := officeCreateFields
    updateFields := officeUpdateFields
    name_mem := by decide }

end Schema

end Admission
