import CoreCheck.Capability.Manifest
import CoreCheck.Taint

/-!
# Check/Options — what a check is asked to report

Options choose which findings become diagnostics. They do not touch what is found.
-/

namespace CoreCheck.Check

/-- **What a check is asked to report.** -/
structure Options where
  /-- The capabilities the module may use; without a manifest none. -/
  manifest : Option Manifest := none
  /-- The lowest level at which sensitive data that leaves the module is reported. -/
  threshold : Level := .l2
  /-- Whether functions that declare more than they need are reported. -/
  warnUnused : Bool := true
  /-- Whether every removal of taint is reported. -/
  audit : Bool := false
deriving Inhabited

/-- The level that counts: without one it is the second. -/
def Options.leakLevel (o : Options) : Level := if o.threshold = .none then .l2 else o.threshold

end CoreCheck.Check
