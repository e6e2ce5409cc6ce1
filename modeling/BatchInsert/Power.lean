/-!
# Powers

A power of numbers with a natural exponent is the one of the core library in every module, also
beside a library that brings powers of its own, so that a definition reads alike everywhere.
-/

attribute [instance (1100)] instPowNat

attribute [default_instance 10001] instPowNat
