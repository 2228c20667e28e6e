/-!
# Powers

A power of a number is the one of the core library, also where a library of algebra has another
for the same numbers.
-/

attribute [instance (2000), default_instance (20000)] instPowNat
