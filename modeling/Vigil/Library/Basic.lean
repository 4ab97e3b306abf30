import Vigil.Library.ServiceControlStart
import Vigil.ProcessRecord.Basic

/-! # The library

The analytics that come with the library, and what they find in records of processes. -/

namespace Vigil.Library

/-- All analytics. -/
def analytics : List Analytic := serviceControlStart?.toList

/-- Whether a record of a process is the start of a service. -/
def detectsServiceStart (p : ProcessRecord) : Bool :=
  serviceControlStart?.any fun a => a.detects p.toEvent

end Vigil.Library
