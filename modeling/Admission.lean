import Admission.Service.Respond
import Admission.Service.InProcess
import Admission.Settings
import Admission.Log.Setup
import Admission.Log.Record
import Admission.Tally
import Admission.Proofs.Pass
import Admission.Proofs.RuleChains
import Admission.Proofs.Reporting
import Admission.Proofs.Precedence
import Admission.Proofs.Leaks
import Admission.Proofs.ShortestDigits
import Admission.Proofs.Acceptance
import Admission.Proofs.NumberText
import Admission.Proofs.OfficeLanguage
import Admission.Proofs.CreateAndUpdate
import Admission.Proofs.Independence
import Admission.Proofs.Json.Grammar
import Admission.Proofs.Json.Strings
import Admission.Proofs.Json.Numbers
import Admission.Proofs.Json.Nesting
import Admission.Proofs.Json.Objects
import Admission.Proofs.Json.Reading
import Admission.Proofs.PayloadLanguage
import Admission.Proofs.WellFormed
import Admission.Proofs.Json.Writing
import Admission.Proofs.Json.Refusal
import Admission.Proofs.Envelope
import Admission.Proofs.Answers
import Admission.Proofs.TextOrder
import Admission.Proofs.AllowList
import Admission.Proofs.MemberOrder
import Admission.Proofs.Decomposition
import Admission.Proofs.CompanyStatus
import Admission.Proofs.Json.RoundTrip
import Admission.Proofs.Encoding
import Admission.Proofs.ErrorBodies
import Admission.Proofs.ResponseRows
import Admission.Proofs.UpdatePrecedence
import Admission.Proofs.Normalisation
import Admission.Proofs.PatternSegments
import Admission.Proofs.FirstFit
import Admission.Proofs.PartSpellings
import Admission.Proofs.MonthNames
import Admission.Proofs.WrittenDates
import Admission.Proofs.DateOutcomes
import Admission.Proofs.DefaultDates
import Admission.Proofs.IntegerOutcomes
import Admission.Proofs.Respelling
import Admission.Proofs.PatternLexemes
import Admission.Proofs.FinalConstants
import Admission.Proofs.AppendOnly
import Admission.Proofs.SetUps
import Admission.Proofs.TextParts
import Admission.Proofs.OriginLists
import Admission.Proofs.LogLines
