import ModemWatch.Named

/-!
# Radio interface versions

The remote side of the radio speaks one of six interface versions.  Two things changed on the
way: version 1.2 and version 1.5 each brought a new form of the filter request with more
indications to filter.  `Interface.revision` is that division, and everything that depends on the
version goes through it.
-/

namespace ModemWatch

/-- Interface version of the remote side. -/
inductive Interface where
  | v10
  | v11
  | v12
  | v13
  | v14
  | v15
  deriving DecidableEq, Repr

instance : Named Interface where
  all := [.v10, .v11, .v12, .v13, .v14, .v15]
  name
    | .v10 => "1.0"
    | .v11 => "1.1"
    | .v12 => "1.2"
    | .v13 => "1.3"
    | .v14 => "1.4"
    | .v15 => "1.5"

namespace Interface

/-- The second number of the version; versions are ordered by it. -/
def minor : Interface → Nat
  | .v10 => 0
  | .v11 => 1
  | .v12 => 2
  | .v13 => 3
  | .v14 => 4
  | .v15 => 5

/-- The three forms of the filter request. -/
inductive Revision where
  | base
  | since12
  | since15
  deriving DecidableEq, Repr

/-- The form of the filter request that a version understands: the newest one not after it. -/
def revision (i : Interface) : Revision :=
  if i.minor < 2 then .base else if i.minor < 5 then .since12 else .since15

end Interface

end ModemWatch
