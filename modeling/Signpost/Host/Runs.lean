/-!
# Runs of characters

A property of characters is given as a table of runs. `Runs.has` looks a character up.
-/

namespace Signpost.Host

/-- Runs of code points, each given by its first and its last one. -/
abbrev Runs := List (Nat × Nat)

/-- The character lies in one of the runs. -/
def Runs.has (runs : Runs) (c : Char) : Bool :=
  runs.any fun (first, last) => first ≤ c.toNat && c.toNat ≤ last

end Signpost.Host
