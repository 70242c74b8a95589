import TestRig.Port.Range

/-!
Where a sandbox is asked for its health.
-/

namespace TestRig.Sandbox.Probe

def standardHost : String := "localhost"

def path : String := "/network/config"

def address (host : String) (port : Port.Number) : String :=
  "http://" ++ host ++ ":" ++ Text.Decimal.text port.toNat ++ path

end TestRig.Sandbox.Probe
