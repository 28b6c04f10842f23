/-! Instances of the core library that are meant in every module, also in one that imports more algebra: powers
with a natural exponent, so that the limits of words and doubles are spelled alike in definitions and in proofs,
and the test whether a list stands inside another. -/

attribute [instance (1100)] instPowNat

attribute [default_instance 20000] instPowNat

attribute [instance (1100)] List.instDecidableIsInfixOfDecidableEq
