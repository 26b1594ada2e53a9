/-!
# Powers

In this library `^` on numbers is the power of core, also where an algebra library offers its own.
-/

namespace WorkItems

attribute [scoped
instance 2000] instPowNat

/-- Numbers of this many bits are less than this. -/
def bitBound (bits : Nat) : Nat := 2 ^ bits

end WorkItems
